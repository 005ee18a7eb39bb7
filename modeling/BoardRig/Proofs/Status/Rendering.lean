/-
# `BoardRig.Proofs.Status.Rendering` — reading a status that was written

The line for a field can be spelled in many ways (`Writes`), and other lines may
stand anywhere between them as long as none of them names a field (`Foreign`).
Whatever the spelling, every line reports the value that it was written for, so
the whole text reports the status (`report_of_value`, `foldl_report`).  A text
is refused exactly when every line of it is foreign (`parse_of_rendering`).
-/
import BoardRig.Proofs.Text.Cuts
import BoardRig.Status

namespace BoardRig.BootloaderStatus

/-! ## Names -/

/-- The spellings of a name: its letters in either case, with blanks,
underscores and hyphens between them. -/
inductive Spelling : (name key : List Char) → Prop where
  | nil : Spelling [] []
  | filler {c : Char} {name key : List Char} (h : isFiller c = true) (later : Spelling name key) :
      Spelling name (c :: key)
  | letter {c d : Char} {name key : List Char} (h : Text.lowerAscii c = d)
      (later : Spelling name key) : Spelling (d :: name) (c :: key)

theorem isLower_of_mem_name {f : Field} {d : Char} (h : d ∈ f.name) : d.isLower = true := by
  have all : f.name.all Char.isLower = true := by
    cases f <;> decide
  exact List.all_eq_true.mp all d h

theorem letter_of_lowerAscii {c : Char} (h : (Text.lowerAscii c).isLower = true) :
    (65 ≤ c.toNat ∧ c.toNat ≤ 90) ∨ (97 ≤ c.toNat ∧ c.toNat ≤ 122) := by
  rw [Text.lowerAscii] at h
  split at h
  · next capital => exact .inl capital
  · obtain ⟨low, high⟩ := Bool.and_eq_true_iff.mp h
    exact .inr ⟨of_decide_eq_true low, of_decide_eq_true high⟩

theorem of_lowerAscii {c : Char} (h : (Text.lowerAscii c).isLower = true) :
    isFiller c = false ∧ lower c = Text.lowerAscii c ∧ c ≠ ':' := by
  have letter := letter_of_lowerAscii h
  have other : ∀ d : Char, (d.toNat < 65 ∨ (90 < d.toNat ∧ d.toNat < 97) ∨ 122 < d.toNat) →
      c ≠ d := by
    rintro d hd rfl
    omega
  refine ⟨?_, if_neg (other _ (by decide)), other _ (by decide)⟩
  have blank : Text.isBlank c = false := Text.isBlank_of_graphic (by omega) (by omega)
  rw [isFiller, blank, Bool.false_or, Bool.or_eq_false_iff, beq_eq_false_iff_ne,
    beq_eq_false_iff_ne]
  exact ⟨other _ (by decide), other _ (by decide)⟩

theorem normalize_spelling {name key : List Char} (h : Spelling name key)
    (small : ∀ d ∈ name, d.isLower = true) : normalize key = name ∧ ':' ∉ key := by
  induction h with
  | nil => exact ⟨rfl, List.not_mem_nil⟩
  | @filler c name key filler _ ih =>
      obtain ⟨same, colon⟩ := ih small
      refine ⟨?_, List.not_mem_cons_of_ne_of_not_mem ?_ colon⟩
      · rw [normalize, List.filter_cons_of_neg (by rw [filler]; decide)]
        exact same
      · rintro rfl
        exact absurd filler (by decide)
  | @letter c d name key h _ ih =>
      subst h
      obtain ⟨hsmall, small⟩ := List.forall_mem_cons.mp small
      obtain ⟨same, colon⟩ := ih small
      obtain ⟨filler, lowered, other⟩ := of_lowerAscii hsmall
      refine ⟨?_, List.not_mem_cons_of_ne_of_not_mem other.symm colon⟩
      rw [normalize, List.filter_cons_of_pos (by rw [filler]; rfl), List.map_cons, lowered]
      exact congrArg (Text.lowerAscii c :: ·) same

/-- Every text spells what its letters are, fillers aside. -/
theorem spelling_of_letters {name key : List Char}
    (h : (key.filter fun c => !isFiller c).map Text.lowerAscii = name) : Spelling name key := by
  subst h
  induction key with
  | nil => exact .nil
  | cons c key ih =>
      cases hc : isFiller c with
      | true =>
          rw [List.filter_cons_of_neg (by rw [hc]; decide)]
          exact .filler hc ih
      | false =>
          rw [List.filter_cons_of_pos (by rw [hc]; rfl), List.map_cons]
          exact .letter rfl ih

theorem ofName?_eq_some_iff {key : List Char} {f : Field} :
    Field.ofName? key = some f ↔ normalize key = f.name := by
  constructor
  · intro h
    have found := List.find?_some h
    exact (beq_iff_eq.mp found).symm
  · intro h
    rw [Field.ofName?, h]
    cases f <;> rfl

/-! ## Lines

Where a line is divided, and when it names a field at all. -/

/-- The two sides of a line: what stands before its first colon and after it,
or, without a colon, around its first equals sign. -/
inductive Sides : (line key value : List Char) → Prop where
  | colon {key value : List Char} (first : ':' ∉ key) : Sides (key ++ ':' :: value) key value
  | equals {key value : List Char} (none : ':' ∉ key ++ '=' :: value) (first : '=' ∉ key) :
      Sides (key ++ '=' :: value) key value

def Foreign (line : List Char) : Prop :=
  ∀ key value, Sides line key value → ∀ f : Field, normalize key ≠ f.name

theorem sides?_of_sides {line key value : List Char} (h : Sides line key value) :
    sides? line = some (key, value) := by
  cases h with
  | colon first => rw [sides?, Text.cutAt?_append first, Option.some_or]
  | equals none first =>
      rw [sides?, Text.cutAt?_of_not_mem none, Text.cutAt?_append first, Option.none_or]

theorem sides?_of_not_mem {line : List Char} (colon : ':' ∉ line) (equals : '=' ∉ line) :
    sides? line = none := by
  rw [sides?, Text.cutAt?_of_not_mem colon, Text.cutAt?_of_not_mem equals, Option.none_or]

theorem sides_or_not_mem (line : List Char) :
    (∃ key value, Sides line key value) ∨ (':' ∉ line ∧ '=' ∉ line) := by
  by_cases colon : ':' ∈ line
  · obtain ⟨before, after, rfl, first⟩ := List.eq_append_cons_of_mem colon
    exact .inl ⟨before, after, .colon first⟩
  · by_cases equals : '=' ∈ line
    · obtain ⟨before, after, rfl, first⟩ := List.eq_append_cons_of_mem equals
      exact .inl ⟨before, after, .equals colon first⟩
    · exact .inr ⟨colon, equals⟩

theorem sides_of_sides? {line key value : List Char} (h : sides? line = some (key, value)) :
    Sides line key value := by
  obtain ⟨key', value', sides⟩ | ⟨colon, equals⟩ := sides_or_not_mem line
  · rw [sides?_of_sides sides] at h
    cases h
    exact sides
  · rw [sides?_of_not_mem colon equals] at h
    cases h

theorem entry?_eq (line : List Char) :
    entry? line = (sides? line).bind fun sides =>
      (Field.ofName? sides.1).map fun f => (f, Text.trim sides.2) := by
  rw [ entry?]
  rcases sides? line with _ | ⟨key, value⟩
  · rfl
  · cases h : Field.ofName? key <;> simp [h]

theorem entry?_of_sides {line key value : List Char} {f : Field} (h : Sides line key value)
    (named : normalize key = f.name) : entry? line = some (f, Text.trim value) := by
  rw [entry?_eq, sides?_of_sides h, Option.bind_some, ofName?_eq_some_iff.mpr named,
    Option.map_some]

theorem entry?_eq_none_iff {line : List Char} : entry? line = none ↔ Foreign line := by
  constructor
  · intro h key value sides f named
    rw [entry?_of_sides sides named] at h
    cases h
  · intro foreign
    rw [entry?_eq, Option.bind_eq_none_iff]
    rintro ⟨key, value⟩ hsides
    rw [Option.map_eq_none_iff, Option.eq_none_iff_forall_ne_some]
    exact fun f hname =>
      foreign key value (sides_of_sides? hsides) f (ofName?_eq_some_iff.mp hname)

theorem entry?_append_of_blank {after : List Char} (blank : ∀ c ∈ after, Text.isBlank c = true)
    (line : List Char) : entry? (line ++ after) = entry? line := by
  have other : ∀ {c : Char}, Text.isBlank c = false → c ∉ line → c ∉ line ++ after := by
    intro c hc hline
    refine List.not_mem_append hline fun h => ?_
    rw [blank c h] at hc
    cases hc
  rw [entry?_eq, entry?_eq]
  obtain ⟨key, value, sides⟩ | ⟨colon, equals⟩ := sides_or_not_mem line
  · have longer : Sides (line ++ after) key (value ++ after) := by
      cases sides with
      | colon first =>
          rw [List.append_assoc]
          exact .colon first
      | equals none first =>
          have none := other (by decide) none
          rw [List.append_assoc] at none ⊢
          exact .equals none first
    have trimmed := Text.trim_padded (List.forall_mem_nil _) blank value
    rw [List.nil_append] at trimmed
    rw [sides?_of_sides sides, sides?_of_sides longer, Option.bind_some, Option.bind_some,
      trimmed]
  · rw [sides?_of_not_mem colon equals,
      sides?_of_not_mem (other (by decide) colon) (other (by decide) equals)]

theorem entry?_dropReturn (line : List Char) : entry? (Text.dropReturn line) = entry? line := by
  rw [Text.dropReturn]
  split
  · next h =>
    obtain ⟨front, rfl⟩ := List.getLast?_eq_some_iff.mp h
    have blank : ∀ c ∈ ['\r'], Text.isBlank c = true := List.forall_mem_singleton.mpr (by decide)
    rw [List.dropLast_concat, entry?_append_of_blank blank]
  · rfl

theorem filterMap_linesOfPieces (pieces : List (List Char)) :
    (Text.linesOfPieces pieces).filterMap entry? = pieces.filterMap entry? := by
  induction pieces with
  | nil => rfl
  | cons piece rest ih =>
      cases rest with
      | nil =>
          rw [Text.linesOfPieces]
          split
          · next h =>
            rw [List.isEmpty_iff.mp h]
            rfl
          · rfl
      | cons next rest =>
          rw [Text.linesOfPieces_cons _ (List.cons_ne_nil next rest), List.filterMap_cons,
            entry?_dropReturn, ih]
          exact List.filterMap_cons.symm

/-- A text is made of lines, with a line feed between one and the next. -/
structure Typeset (text : String) (lines : List (List Char)) : Prop where
  toList_eq : text.toList = ['\n'].intercalate lines
  single : ∀ line ∈ lines, '\n' ∉ line

theorem exists_typeset (text : String) : ∃ lines, Typeset text lines := by
  refine ⟨Text.split '\n' text.toList, ?_,
    fun line => Text.not_mem_of_mem_splitFrom List.not_mem_nil⟩
  rw [Text.split_eq_splitOn, List.intercalate_splitOn]

theorem entries_of_typeset {text : String} {lines : List (List Char)} (h : Typeset text lines) :
    entries text.toList = lines.filterMap entry? := by
  rw [entries, Text.lines, filterMap_linesOfPieces, h.toList_eq,
    Text.split_eq_splitOn]
  by_cases some : lines = []
  · rw [some]
    rfl
  · rw [List.splitOn_intercalate '\n' h.single some]

/-! ## Values

How a value may be written, depending on the field: numbers with zeros before them
and with some text behind them, and texts as they are. -/

/-- A number in base ten, with zeros before it or not, and with some text behind
it that no digit begins. -/
inductive Numeral (n : Nat) : List Char → Prop where
  | followed {zeros : Nat} {rest : List Char} (ends : ∀ c ∈ rest.head?, c.isDigit = false) :
      Numeral n (List.replicate zeros '0' ++ Nat.toDigits 10 n ++ rest)

/-- The texts for the value of a field. -/
inductive Value (s : BootloaderStatus) : Field → List Char → Prop where
  | version {version : String} (h : s.version = some version) : Value s .version version.toList
  | activeBank {bank : UInt8} {text : List Char} (h : s.activeBank = some bank)
      (numeral : Numeral bank.toNat text) : Value s .activeBank text
  | versionA {version : UInt32} {text : List Char} (h : s.versionA = some version)
      (numeral : Numeral version.toNat text) : Value s .versionA text
  | versionB {version : UInt32} {text : List Char} (h : s.versionB = some version)
      (numeral : Numeral version.toNat text) : Value s .versionB text
  | state {state : String} (h : s.state = some state) : Value s .state state.toList

/-- What the texts of a status have to be like to be told from the blanks around
them, and from a version that is not known. -/
structure Printable (s : BootloaderStatus) : Prop where
  version : ∀ version, s.version = some version →
    Text.trim version.toList = version.toList ∧ isUnknown version.toList = false
  state : ∀ state, s.state = some state → Text.trim state.toList = state.toList

theorem isBlank_of_isDigit {c : Char} (h : c.isDigit = true) : Text.isBlank c = false := by
  rw [Char.isDigit, Bool.and_eq_true, decide_eq_true_eq, decide_eq_true_eq] at h
  have digit : 48 ≤ c.toNat ∧ c.toNat ≤ 57 := h
  exact Text.isBlank_of_graphic (by omega) (by omega)

theorem head?_trimEnd {cs : List Char} {c : Char} (h : c ∈ (Text.trimEnd cs).head?) :
    c ∈ cs.head? := by
  obtain ⟨rest, hrest⟩ : Text.trimEnd cs <+: cs := List.rdropWhile_prefix _ cs
  rw [← hrest, List.head?_append, Option.mem_def.mp h]
  rfl

theorem foldl_digits (digits : List Char) :
    digits.foldl (fun n c => n * 10 + (c.toNat - '0'.toNat)) 0 = Nat.ofDigitChars 10 digits 0 := by
  have read : (fun (n : Nat) (c : Char) => n * 10 + (c.toNat - '0'.toNat))
      = fun n c => 10 * n + (c.toNat - '0'.toNat) :=
    funext fun n => funext fun c => by rw [Nat.mul_comm]
  rw [read, ← Nat.ofDigitChars_eq_foldl]

theorem Numeral.exists_digits {n : Nat} {text : List Char} (h : Numeral n text) :
    ∃ digits rest, text = digits ++ rest ∧ digits ≠ [] ∧ (∀ c ∈ digits, c.isDigit = true) ∧
      Nat.ofDigitChars 10 digits 0 = n ∧ ∀ c ∈ rest.head?, c.isDigit = false := by
  cases h with
  | @followed zeros rest ends =>
      refine ⟨_, rest, rfl, List.append_ne_nil_of_right_ne_nil _ Nat.toDigits_ne_nil, ?_, ?_, ends⟩
      · refine List.forall_mem_append.mpr ⟨fun c hc => ?_, fun c hc => ?_⟩
        · rw [List.eq_of_mem_replicate hc]
          rfl
        · exact Nat.isDigit_of_mem_toDigits (by decide) (by decide) hc
      · rw [Nat.ofDigitChars_append, Nat.ofDigitChars_replicate_zero, Nat.mul_zero,
          Nat.ofDigitChars_ten_toDigits]

theorem leadingNumber?_numeral {n limit : Nat} {text : List Char} (h : Numeral n text)
    (small : n < limit) : leadingNumber? limit (Text.trim text) = some n := by
  obtain ⟨number, rest, rfl, some, digits, value, ends⟩ := h.exists_digits
  have word : ∀ c ∈ number, Text.isBlank c = false := fun c hc => isBlank_of_isDigit (digits c hc)
  rw [leadingNumber?, Text.trim_append word some, Text.trim_append word some,
    Text.takeWhile_append_of_head? digits fun c hc => ends c (head?_trimEnd (head?_trimEnd hc))]
  simp only [foldl_digits, value, if_pos small, if_neg (mt List.isEmpty_iff.mp some)]

/-! ## Renderings

The lines of a rendering report the status one field at a time; what was reported
before stays, so an induction over the lines carries the fields written so far. -/

/-- The lines for the value of a field: a spelling of its name, a colon, and a
text for the value with blanks around it. -/
inductive Writes (s : BootloaderStatus) (f : Field) : List Char → Prop where
  | line {key before value after : List Char} (spelled : Spelling f.name key)
      (blankBefore : ∀ c ∈ before, Text.isBlank c = true) (content : Value s f value)
      (blankAfter : ∀ c ∈ after, Text.isBlank c = true) :
      Writes s f (key ++ ':' :: (before ++ value ++ after))

/-- The fields that a status reports. -/
def Has (s : BootloaderStatus) : Field → Prop
  | .version => s.version ≠ none
  | .activeBank => s.activeBank ≠ none
  | .versionA => s.versionA ≠ none
  | .versionB => s.versionB ≠ none
  | .state => s.state ≠ none

/-- The texts with a line for every field that a status reports, in any order,
and with foreign lines anywhere. -/
structure Rendering (s : BootloaderStatus) (text : String) (lines : List (List Char)) : Prop
    extends Typeset text lines where
  each : ∀ line ∈ lines, Foreign line ∨ ∃ f, Writes s f line
  every : ∀ f, s.Has f → ∃ line ∈ lines, Writes s f line

/-- A status without the values of other fields. -/
def only (s : BootloaderStatus) (fields : List Field) : BootloaderStatus :=
  ⟨if .version ∈ fields then s.version else none,
    if .activeBank ∈ fields then s.activeBank else none,
    if .versionA ∈ fields then s.versionA else none,
    if .versionB ∈ fields then s.versionB else none,
    if .state ∈ fields then s.state else none⟩

section Rendering

variable {s : BootloaderStatus}

theorem only_eq_self {fields : List Field} (h : ∀ f, s.Has f → f ∈ fields) : s.only fields = s := by
  have kept : ∀ {α : Type} {value : Option α} {f : Field}, (value ≠ none → f ∈ fields) →
      (if f ∈ fields then value else none) = value := by
    intro α value f hf
    by_cases missing : value = none
    · rw [missing, ite_self]
    · rw [if_pos (hf missing)]
  rw [only, kept (h .version), kept (h .activeBank), kept (h .versionA), kept (h .versionB),
    kept (h .state)]

theorem leadingByte?_numeral {bank : UInt8} {text : List Char} (h : Numeral bank.toNat text) :
    leadingByte? (Text.trim text) = some bank := by
  rw [leadingByte?, leadingNumber?_numeral h bank.toNat_lt, Option.map_some, UInt8.ofNat_toNat]

theorem leadingWord?_numeral {version : UInt32} {text : List Char}
    (h : Numeral version.toNat text) : leadingWord? (Text.trim text) = some version := by
  rw [leadingWord?, leadingNumber?_numeral h version.toNat_lt, Option.map_some,
    UInt32.ofNat_toNat]

theorem report_of_value (printable : s.Printable) {f : Field} {value : List Char}
    (h : Value s f value) (fields : List Field) :
    (s.only fields).report f (Text.trim value) = s.only (f :: fields) := by
  cases h with
  | version h =>
      obtain ⟨trimmed, known⟩ := printable.version _ h
      rw [trimmed, report, known, String.ofList_toList]
      simp [only, h]
  | activeBank h numeral =>
      rw [report, leadingByte?_numeral numeral]
      simp [only, h]
  | versionA h numeral =>
      rw [report, leadingWord?_numeral numeral]
      simp [only, h]
  | versionB h numeral =>
      rw [report, leadingWord?_numeral numeral]
      simp [only, h]
  | state h =>
      rw [printable.state _ h, report, String.ofList_toList]
      simp [only, h]

theorem entry?_of_writes {f : Field} {line : List Char} (h : Writes s f line) :
    ∃ value, Value s f value ∧ entry? line = some (f, Text.trim value) := by
  cases h with
  | @line key before value after spelled blankBefore content blankAfter =>
      obtain ⟨named, colon⟩ := normalize_spelling spelled fun d => isLower_of_mem_name
      refine ⟨value, content, ?_⟩
      rw [entry?_of_sides (.colon colon) named, Text.trim_padded blankBefore blankAfter]

/-- Whatever was reported before, the lines report the values of their fields. -/
theorem foldl_report (printable : s.Printable) {lines : List (List Char)}
    (each : ∀ line ∈ lines, Foreign line ∨ ∃ f, Writes s f line) (fields : List Field) :
    (lines.filterMap entry?).foldl (fun s (field, value) => s.report field value) (s.only fields)
      = s.only (((lines.filterMap entry?).map Prod.fst).reverse ++ fields) := by
  induction lines generalizing fields with
  | nil => rfl
  | cons line lines ih =>
      obtain ⟨foreign | ⟨f, writes⟩, each⟩ := List.forall_mem_cons.mp each
      · rw [List.filterMap_cons_none (entry?_eq_none_iff.mpr foreign)]
        exact ih each fields
      · obtain ⟨value, content, hentry⟩ := entry?_of_writes writes
        rw [List.filterMap_cons_some hentry, List.foldl_cons, List.map_cons, List.reverse_cons,
          List.append_assoc]
        dsimp only
        rw [report_of_value printable content]
        exact ih each (f :: fields)

end Rendering

/-- The error for a text without any field. -/
def noFields : Error :=
  .parse "no bootloader status fields in output"

theorem parse_eq (text : String) :
    parse text =
      if entries text.toList = [] then .error noFields
      else
        .ok ((entries text.toList).foldl (fun s (field, value) => s.report field value) empty) := by
  rw [parse, ofText?]
  cases entries text.toList <;> rfl

theorem entries_eq_nil_iff {text : String} {lines : List (List Char)}
    (h : Typeset text lines) : entries text.toList = [] ↔ ∀ line ∈ lines, Foreign line := by
  rw [entries_of_typeset h, List.filterMap_eq_nil_iff]
  exact forall₂_congr fun line _ => entry?_eq_none_iff

/-- Every rendering of a status is read back as that status, and a text is
refused exactly when no line of it names a field. -/
theorem parse_of_rendering :
    (∀ s text lines, Printable s → s ≠ empty → Rendering s text lines → parse text = .ok s) ∧
      ∀ text, (∃ lines, Typeset text lines) ∧ ∀ lines, Typeset text lines →
        (parse text = .error noFields ↔ ∀ line ∈ lines, Foreign line) ∧
          ((∃ s, parse text = .ok s) ↔ ∃ line ∈ lines, ¬ Foreign line) := by
  refine ⟨fun s text lines printable some rendering => ?_, fun text => ⟨exists_typeset text,
    fun lines typeset => ?_⟩⟩
  · have written : ∀ f, s.Has f → f ∈ ((lines.filterMap entry?).map Prod.fst).reverse ++ [] := by
      intro f hf
      obtain ⟨line, hline, writes⟩ := rendering.every f hf
      obtain ⟨value, -, hentry⟩ := entry?_of_writes writes
      rw [List.append_nil, List.mem_reverse, List.mem_map]
      exact ⟨_, List.mem_filterMap.mpr ⟨line, hline, hentry⟩, rfl⟩
    have read := foldl_report printable rendering.each []
    rw [only_eq_self written] at read
    rw [parse_eq, entries_of_typeset rendering.toTypeset, if_neg]
    · exact congrArg Except.ok read
    · intro nothing
      rw [nothing] at read
      exact some read.symm
  · have foreign := entries_eq_nil_iff typeset
    rw [parse_eq]
    split
    · next nothing =>
      have none := foreign.mp nothing
      exact ⟨⟨fun _ => none, fun _ => rfl⟩, fun ⟨_, h⟩ => (nomatch h),
        fun ⟨line, hline, h⟩ => absurd (none line hline) h⟩
    · next some =>
      have named := mt foreign.mpr some
      refine ⟨⟨fun h => (nomatch h), fun none => absurd none named⟩, fun _ => ?_,
        fun _ => ⟨_, rfl⟩⟩
      obtain ⟨line, hline, h⟩ := not_forall₂.mp named
      exact ⟨line, hline, h⟩

/-- A status whose texts look like lines and numbers themselves. -/
def confusing : BootloaderStatus :=
  ⟨some "Bank: 7 = old", some 1, none, some 4294967295, some "update: mode"⟩

/-- The lines of a text for it, in free spellings and between other lines. -/
def confusingLines : List (List Char) :=
  ["Bootloader Status:\r".toList,
    "  BOOT_lo-ader\u3000".toList ++ ':' :: ("\t".toList ++ "Bank: 7 = old".toList ++ " \r".toList),
    "no separator".toList,
    "s t a t e".toList ++ ':' :: ([] ++ "update: mode".toList ++ "  ".toList),
    "colour = State:".toList,
    "Version-B".toList ++ ':' :: (" ".toList ++ "4294967295;x".toList ++ []),
    "Active Bank".toList ++ ':' :: (" ".toList ++ "0001 (B)".toList ++ []),
    []]

theorem parse_of_rendering_confusing :
    Printable confusing ∧ confusing ≠ empty ∧
      Rendering confusing (String.ofList (['\n'].intercalate confusingLines)) confusingLines ∧
      parse (String.ofList (['\n'].intercalate confusingLines)) = .ok confusing := by
  have printable : Printable confusing :=
    ⟨fun _ h => Option.some.inj h ▸ by decide, fun _ h => Option.some.inj h ▸ by decide⟩
  have some : confusing ≠ empty := by decide
  have blanks : ∀ {cs : List Char}, cs.all Text.isBlank = true → ∀ c ∈ cs, Text.isBlank c = true :=
    List.all_eq_true.mp
  have version : Writes confusing .version confusingLines[1] :=
    .line (spelling_of_letters (by decide)) (blanks (by decide)) (.version rfl) (blanks (by decide))
  have state : Writes confusing .state confusingLines[3] :=
    .line (spelling_of_letters (by decide)) (blanks (by decide)) (.state rfl) (blanks (by decide))
  have versionB : Writes confusing .versionB confusingLines[5] :=
    .line (spelling_of_letters (by decide)) (blanks (by decide))
      (.versionB rfl (@Numeral.followed _ 0 ";x".toList fun _ h => Option.some.inj h ▸ rfl))
      (blanks (by decide))
  have activeBank : Writes confusing .activeBank confusingLines[6] :=
    .line (spelling_of_letters (by decide)) (blanks (by decide))
      (.activeBank rfl (@Numeral.followed _ 3 " (B)".toList fun _ h => Option.some.inj h ▸ rfl))
      (blanks (by decide))
  have foreign : ∀ {line}, entry? line = none → Foreign line := entry?_eq_none_iff.mp
  have rendering : Rendering confusing (String.ofList (['\n'].intercalate confusingLines))
      confusingLines := by
    refine ⟨⟨String.toList_ofList, by decide⟩, ?_, ?_⟩
    · simp only [confusingLines, List.forall_mem_cons]
      exact ⟨.inl (foreign rfl), .inr ⟨_, version⟩, .inl (foreign rfl), .inr ⟨_, state⟩,
        .inl (foreign rfl), .inr ⟨_, versionB⟩, .inr ⟨_, activeBank⟩, .inl (foreign rfl),
        List.forall_mem_nil _⟩
    · intro f hf
      cases f with
      | version => exact ⟨_, List.getElem_mem _, version⟩
      | activeBank => exact ⟨_, List.getElem_mem _, activeBank⟩
      | versionA => exact absurd rfl hf
      | versionB => exact ⟨_, List.getElem_mem _, versionB⟩
      | state => exact ⟨_, List.getElem_mem _, state⟩
  exact ⟨printable, some, rendering, parse_of_rendering.1 _ _ _ printable some rendering⟩

end BoardRig.BootloaderStatus
