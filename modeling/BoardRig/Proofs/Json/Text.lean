/-
# `BoardRig.Proofs.Json.Text` — the texts of a JSON value

A value has many texts: there may be space between tokens, a character of a string
may stand for itself or be escaped, and a number is kept as it is written.  `Writes`
says which texts a value has, by the grammar alone; a string whose escapes leave half
of a surrogate pair over is written as well, and has no text (`Spells`).

The reader takes each part from the front of a text and hands on the rest.  So every
lemma has a rest behind the text, and the induction over the grammar carries how much
fuel a text needs: no more than it is long (`reads_of_writes`).  Every text of a value
is read as that value (`parse?_of_writes`).
-/
import BoardRig.Json.Reader
import BoardRig.Proofs.Text.Cuts

namespace BoardRig.Json

open Reader

variable {u : Unit16} {us units : List Unit16} {cs rest rest' ws ws' : List Char} {c : Char}
  {j : Json}

/-! ## Space -/

def IsBlank (ws : List Char) : Prop := ∀ c ∈ ws, isSpace c = true

instance : Decidable (IsBlank ws) :=
  List.decidableBAll (fun c : Char => isSpace c = true) ws

theorem isBlank_nil : IsBlank [] := List.forall_mem_nil _

theorem skipSpace_append (blank : IsBlank ws) (token : isSpace c = false) :
    skipSpace (ws ++ c :: cs) = c :: cs := by
  refine Text.dropWhile_append_of_head? blank ?_
  rintro _ ⟨⟩
  exact token

/-! ## Strings

A string is a list of units of 16 bits, each of them written plainly or escaped.
Units are put together to characters afterwards, and a lone surrogate fails there. -/

/-- How a unit of a string is written. -/
inductive Stroke : Unit16 → List Char → Prop where
  | plain {c : Char} (visible : 0x20 ≤ c.toNat) (noQuote : c ≠ '"') (noEscape : c ≠ '\\') :
      Stroke (.plain c) [c]
  | letter {c e : Char} (stands : escape? c = some e) : Stroke (.plain e) ['\\', c]
  | digits {a b c d : Char} {n : Nat} (denote : hexFour? a b c d = some n) :
      Stroke (.escaped n) ['\\', 'u', a, b, c, d]

/-- How units are written, one behind the other. -/
inductive Strokes : List Unit16 → List Char → Prop where
  | nil : Strokes [] []
  | cons {u : Unit16} {us : List Unit16} {cs rest : List Char} (stroke : Stroke u cs)
      (strokes : Strokes us rest) : Strokes (u :: us) (cs ++ rest)

/-- The characters that units stand for: an escape is one, or two are a surrogate pair. -/
inductive Denotes : List Unit16 → List Char → Prop where
  | nil : Denotes [] []
  | plain {us : List Unit16} {cs : List Char} (c : Char) (behind : Denotes us cs) :
      Denotes (.plain c :: us) (c :: cs)
  | unit {us : List Unit16} {cs : List Char} {n : Nat} (whole : ¬ (0xD800 ≤ n ∧ n < 0xE000))
      (behind : Denotes us cs) : Denotes (.escaped n :: us) (Char.ofNat n :: cs)
  | pair {us : List Unit16} {cs : List Char} {high low : Nat}
      (first : 0xD800 ≤ high ∧ high < 0xDC00) (second : 0xDC00 ≤ low ∧ low < 0xE000)
      (behind : Denotes us cs) :
      Denotes (.escaped high :: .escaped low :: us)
        (Char.ofNat (0x10000 + (high - 0xD800) * 0x400 + (low - 0xDC00)) :: cs)

/-- The characters between the quotes spell a text, or none. -/
inductive Spells : Option String → List Char → Prop where
  | text {us : List Unit16} {cs text : List Char} (written : Strokes us cs)
      (denoted : Denotes us text) : Spells (some (String.ofList text)) cs
  | broken {us : List Unit16} {cs : List Char} (written : Strokes us cs)
      (undenoted : ∀ text, ¬ Denotes us text) : Spells none cs

def ArePlain (cs : List Char) : Prop := ∀ c ∈ cs, 0x20 ≤ c.toNat ∧ c ≠ '"' ∧ c ≠ '\\'

instance : Decidable (ArePlain cs) :=
  List.decidableBAll (fun c : Char => 0x20 ≤ c.toNat ∧ c ≠ '"' ∧ c ≠ '\\') cs

theorem spells_plain {text : String}
    (plain : ArePlain text.toList) : Spells (some text) text.toList := by
  have spells : ∀ cs : List Char, ArePlain cs →
      Strokes (cs.map .plain) cs ∧ Denotes (cs.map .plain) cs := by
    intro cs plain
    induction cs with
    | nil => exact ⟨.nil, .nil⟩
    | cons c cs ih =>
        obtain ⟨⟨visible, noQuote, noEscape⟩, plain⟩ := List.forall_mem_cons.mp plain
        obtain ⟨written, denoted⟩ := ih plain
        exact ⟨.cons (.plain visible noQuote noEscape) written, .plain c denoted⟩
  obtain ⟨written, denoted⟩ := spells text.toList plain
  have spelled := Spells.text written denoted
  rwa [String.ofList_toList] at spelled

theorem stringUnits?_of_stroke (h : Stroke u cs) :
    stringUnits? units (cs ++ rest) = stringUnits? (u :: units) rest := by
  cases h with
  | @plain c visible noQuote noEscape =>
      have accepted : ¬ (c.toNat < 0x20 ∨ c = '\\') := by
        rintro (control | rfl)
        · exact absurd control (Nat.not_lt.mpr visible)
        · exact noEscape rfl
      rw [List.singleton_append, stringUnits?, if_neg accepted]
      · exact noQuote
      · intro _ _ _ _ _ h
        exact absurd h noEscape
      · intro _ _ h
        exact absurd h noEscape
  | @letter c e stands =>
      have noDigits : c ≠ 'u' := by
        rintro rfl
        cases stands
      change stringUnits? units ('\\' :: c :: rest) = _
      rw [stringUnits?, stands]
      intro _ _ _ _ _ h
      exact absurd h noDigits
  | digits denote =>
      change stringUnits? units ('\\' :: 'u' :: _ :: _ :: _ :: _ :: rest) = _
      rw [stringUnits?, denote]

theorem stringUnits?_of_strokes (h : Strokes us cs) :
    stringUnits? units (cs ++ '"' :: rest) = some (units.reverse ++ us, rest) := by
  induction h generalizing units with
  | nil => rw [List.nil_append, stringUnits?, List.append_nil]
  | cons stroke _ ih =>
      rw [List.append_assoc, stringUnits?_of_stroke stroke, ih, List.reverse_cons,
        List.append_assoc, List.singleton_append]

/-- An escape that is no half of a surrogate pair is a character of its own. -/
theorem textOfUnits?_escaped {n : Nat} {text : List Char} (whole : ¬ (0xD800 ≤ n ∧ n < 0xE000)) :
    textOfUnits? text (.escaped n :: us) = textOfUnits? (Char.ofNat n :: text) us := by
  by_cases next : ∃ low rest, us = .escaped low :: rest
  · obtain ⟨low, rest, rfl⟩ := next
    have noHigh : ¬ (0xD800 ≤ n ∧ n < 0xDC00) := by omega
    have noLow : ¬ (0xDC00 ≤ n ∧ n < 0xE000) := by omega
    rw [textOfUnits?, if_neg noHigh, if_neg noLow]
  · rw [textOfUnits?, if_neg whole]
    exact fun low rest h => next ⟨low, rest, h⟩

theorem textOfUnits?_of_denotes {text : List Char} (h : Denotes us cs) :
    textOfUnits? text us = some (String.ofList (text.reverse ++ cs)) := by
  induction h generalizing text with
  | nil => rw [textOfUnits?, List.append_nil]
  | plain c _ ih =>
      rw [textOfUnits?, ih, List.reverse_cons, List.append_assoc, List.singleton_append]
  | unit whole _ ih =>
      rw [textOfUnits?_escaped whole, ih, List.reverse_cons, List.append_assoc,
        List.singleton_append]
  | pair first second _ ih =>
      rw [textOfUnits?, if_pos first, if_pos second, ih, List.reverse_cons, List.append_assoc,
        List.singleton_append]

theorem exists_denotes_of_textOfUnits? {text : List Char} {s : String}
    (h : textOfUnits? text us = some s) : ∃ cs, Denotes us cs := by
  fun_induction textOfUnits? text us with
  | case1 => exact ⟨[], .nil⟩
  | case2 text c rest ih =>
      obtain ⟨cs, behind⟩ := ih h
      exact ⟨_, .plain c behind⟩
  | case3 text high low rest first second ih =>
      obtain ⟨cs, behind⟩ := ih h
      exact ⟨_, .pair first second behind⟩
  | case4 => cases h
  | case5 => cases h
  | case6 text high low rest noFirst noSecond ih =>
      obtain ⟨cs, behind⟩ := ih h
      exact ⟨_, .unit (by omega) behind⟩
  | case7 => cases h
  | case8 text n rest single whole ih =>
      obtain ⟨cs, behind⟩ := ih h
      exact ⟨_, .unit whole behind⟩

theorem string?_of_spells {key : Option String} (h : Spells key cs) :
    Reader.string? (cs ++ '"' :: rest) = some (key, rest) := by
  have read : ∀ {us}, Strokes us cs →
      Reader.string? (cs ++ '"' :: rest) = some (textOfUnits? [] us, rest) := by
    intro us written
    rw [Reader.string?, stringUnits?_of_strokes written]
    rfl
  cases h with
  | text written denoted =>
      rw [read written, textOfUnits?_of_denotes denoted]
      rfl
  | @broken us _ written undenoted =>
      have noText : textOfUnits? [] us = none := by
        refine Option.eq_none_iff_forall_not_mem.mpr fun s h => ?_
        obtain ⟨text, denoted⟩ := exists_denotes_of_textOfUnits? h
        exact undenoted text denoted
      rw [read written, noText]

/-! ## Numbers

A number has three parts, and each one has to end where the next one begins, or
where the number ends. -/

def IsDigits (ds : List Char) : Prop := ds ≠ [] ∧ ∀ c ∈ ds, c.isDigit = true

/-- The digits in front of the point: there is no zero before them. -/
def IsWhole (whole : List Char) : Prop :=
  whole = ['0'] ∨ IsDigits whole ∧ whole.head? ≠ some '0'

/-- What stands behind the point, with it, or nothing. -/
def IsFraction (fraction : List Char) : Prop :=
  fraction = [] ∨ ∃ ds, IsDigits ds ∧ fraction = '.' :: ds

/-- A power of ten, or nothing. -/
def IsPower (power : List Char) : Prop :=
  power = [] ∨ ∃ e sign ds, (e = 'e' ∨ e = 'E') ∧ (sign = [] ∨ sign = ['+'] ∨ sign = ['-']) ∧
    IsDigits ds ∧ power = e :: (sign ++ ds)

/-- How a number is written. -/
inductive Numeral : List Char → Prop where
  | mk {sign whole fraction power : List Char} (signed : sign = [] ∨ sign = ['-'])
      (hwhole : IsWhole whole) (hfraction : IsFraction fraction) (hpower : IsPower power) :
      Numeral (sign ++ (whole ++ (fraction ++ power)))

/-- What may stand behind a value. -/
def Stops (rest : List Char) : Prop :=
  ∀ c ∈ rest.head?, isSpace c = true ∨ c = ',' ∨ c = ']' ∨ c = '\x7d'

theorem Stops.ends (h : Stops rest) :
    ∀ c ∈ rest.head?, c.isDigit = false ∧ c ≠ '.' ∧ c ≠ 'e' ∧ c ≠ 'E' := by
  intro c hc
  obtain space | rfl | rfl | rfl := h c hc
  · simp only [isSpace, Bool.or_eq_true, beq_iff_eq] at space
    obtain ((rfl | rfl) | rfl) | rfl := space <;> decide
  · decide
  · decide
  · decide

theorem someDigits?_append (digits : IsDigits cs) (ends : ∀ c ∈ rest.head?, c.isDigit = false) :
    someDigits? (cs ++ rest) = some (cs, rest) := by
  rw [someDigits?, Text.takeWhile_append_of_head? digits.2 ends,
    Text.dropWhile_append_of_head? digits.2 ends]
  exact if_neg (mt List.isEmpty_iff.mp digits.1)

theorem wholeDigits?_append (whole : IsWhole cs) (ends : ∀ c ∈ rest.head?, c.isDigit = false) :
    wholeDigits? (cs ++ rest) = some (cs, rest) := by
  obtain rfl | ⟨digits, noZero⟩ := whole
  · rfl
  · obtain ⟨c, ds, rfl⟩ := List.exists_cons_of_ne_nil digits.1
    rw [← someDigits?_append digits ends, List.cons_append, wholeDigits?, someDigits?]
    rintro _ h
    exact noZero (congrArg (some ·) (List.cons.inj h).1)

theorem fraction?_append (fraction : IsFraction cs)
    (ends : ∀ c ∈ rest.head?, c.isDigit = false ∧ c ≠ '.') :
    fraction? (cs ++ rest) = some (cs, rest) := by
  obtain rfl | ⟨ds, digits, rfl⟩ := fraction
  · rw [List.nil_append, fraction?]
    rintro cs rfl
    exact (ends '.' rfl).2 rfl
  · rw [List.cons_append, fraction?, someDigits?_append digits fun c hc => (ends c hc).1]
    rfl

theorem IsDigits.head (digits : IsDigits cs) (rest : List Char) :
    ∀ c ∈ (cs ++ rest).head?, c.isDigit = true := by
  obtain ⟨d, ds, rfl⟩ := List.exists_cons_of_ne_nil digits.1
  rintro c hc
  obtain rfl : d = c := Option.some.inj hc
  exact digits.2 d List.mem_cons_self

theorem power?_append (power : IsPower cs)
    (ends : ∀ c ∈ rest.head?, c.isDigit = false ∧ c ≠ 'e' ∧ c ≠ 'E') :
    power? (cs ++ rest) = some (cs, rest) := by
  obtain rfl | ⟨e, sign, ds, letter, signed, digits, rfl⟩ := power
  · cases rest with
    | nil => rfl
    | cons c rest =>
        obtain ⟨-, lower, upper⟩ := ends c rfl
        rw [List.nil_append, power?.eq_def]
        exact if_neg (not_or_intro lower upper)
  · have read := someDigits?_append digits fun c hc => (ends c hc).1
    obtain rfl | rfl | rfl := signed
    · have unsigned : ∀ sign, sign.isDigit = false → ∀ cs, ds ++ rest ≠ sign :: cs := by
        rintro sign noDigit cs h
        rw [digits.head rest sign (by rw [h]; rfl)] at noDigit
        cases noDigit
      change power? (e :: (ds ++ rest)) = _
      rw [power?.eq_3 _ _ (unsigned '+' (by decide)) (unsigned '-' (by decide)),
        if_pos letter, read]
      rfl
    · change power? (e :: '+' :: (ds ++ rest)) = _
      rw [power?, if_pos letter, read]
      rfl
    · change power? (e :: '-' :: (ds ++ rest)) = _
      rw [power?, if_pos letter, read]
      rfl

theorem IsWhole.head (whole : IsWhole cs) (rest : List Char) :
    ∀ c ∈ (cs ++ rest).head?, c.isDigit = true := by
  obtain rfl | ⟨digits, -⟩ := whole
  · rintro c ⟨⟩
    rfl
  · exact digits.head rest

theorem IsPower.head (power : IsPower cs) (stops : Stops rest) :
    ∀ c ∈ (cs ++ rest).head?, c.isDigit = false ∧ c ≠ '.' := by
  obtain rfl | ⟨e, sign, ds, rfl | rfl, -, -, rfl⟩ := power
  · exact fun c hc => ⟨(stops.ends c hc).1, (stops.ends c hc).2.1⟩
  · rintro c ⟨⟩
    decide
  · rintro c ⟨⟩
    decide

theorem IsFraction.head (fraction : IsFraction cs) (ends : ∀ c ∈ rest.head?, c.isDigit = false) :
    ∀ c ∈ (cs ++ rest).head?, c.isDigit = false := by
  obtain rfl | ⟨ds, -, rfl⟩ := fraction
  · exact ends
  · rintro c ⟨⟩
    rfl

theorem number?_append (h : Numeral cs) (stops : Stops rest) :
    number? (cs ++ rest) = some (.number (String.ofList cs), rest) := by
  obtain @⟨sign, whole, fraction, power, signed, hwhole, hfraction, hpower⟩ := h
  have readPower := power?_append hpower fun c hc => ⟨(stops.ends c hc).1, (stops.ends c hc).2.2⟩
  have readFraction := fraction?_append hfraction (hpower.head stops)
  have readWhole := wholeDigits?_append hwhole
    (hfraction.head fun c hc => (hpower.head stops c hc).1)
  obtain rfl | rfl := signed
  · have unsigned : ∀ cs, [] ++ (whole ++ (fraction ++ power)) ++ rest ≠ '-' :: cs := by
      intro cs h
      rw [List.nil_append, List.append_assoc] at h
      have noDigit := hwhole.head _ '-' (by rw [h]; rfl)
      cases noDigit
    rw [number?.eq_2 _ unsigned]
    simp [readWhole, readFraction, readPower]
  · change number? ('-' :: (whole ++ (fraction ++ power) ++ rest)) = _
    rw [number?]
    simp [readWhole, readFraction, readPower]

/-! ## Values

`Writes` is the grammar, and `Reads` is what the reader makes of each part of it.
There is one lemma for every rule, and `reads_of_writes` is the induction. -/

/-- What a text may be for: a value, or the elements or the members of one, of which there
is at least one. -/
inductive Part where
  | value (j : Json)
  | elements (js : List Json)
  | member (m : Option String × Json)
  | members (ms : List (Option String × Json))

/-- The texts of a part, from its first token to its last one. -/
inductive Writes : Part → List Char → Prop where
  | null : Writes (.value .null) ['n', 'u', 'l', 'l']
  | true : Writes (.value (.bool true)) ['t', 'r', 'u', 'e']
  | false : Writes (.value (.bool false)) ['f', 'a', 'l', 's', 'e']
  | number {cs : List Char} (numeral : Numeral cs) : Writes (.value (.number (String.ofList cs))) cs
  | string {cs : List Char} {text : String} (spelled : Spells (some text) cs) :
      Writes (.value (.string text)) ('"' :: (cs ++ ['"']))
  | broken {cs : List Char} (spelled : Spells none cs) :
      Writes (.value .illFormed) ('"' :: (cs ++ ['"']))
  | noElements {ws : List Char} (blank : IsBlank ws) :
      Writes (.value (.array [])) ('[' :: (ws ++ [']']))
  | array {ws ws' cs : List Char} {js : List Json} (before : IsBlank ws) (after : IsBlank ws')
      (elements : Writes (.elements js) cs) :
      Writes (.value (.array js)) ('[' :: (ws ++ (cs ++ (ws' ++ [']']))))
  | noMembers {ws : List Char} (blank : IsBlank ws) :
      Writes (.value (.object [])) ('\x7b' :: (ws ++ ['\x7d']))
  | object {ws ws' cs : List Char} {ms : List (Option String × Json)} (before : IsBlank ws)
      (after : IsBlank ws') (members : Writes (.members ms) cs) :
      Writes (.value (ofMembers ms)) ('\x7b' :: (ws ++ (cs ++ (ws' ++ ['\x7d']))))
  | lastElement {cs : List Char} {j : Json} (element : Writes (.value j) cs) :
      Writes (.elements [j]) cs
  | element {ws ws' cs rest : List Char} {j : Json} {js : List Json}
      (element : Writes (.value j) cs) (before : IsBlank ws) (after : IsBlank ws')
      (elements : Writes (.elements js) rest) :
      Writes (.elements (j :: js)) (cs ++ (ws ++ ',' :: (ws' ++ rest)))
  | pair {ws ws' key cs : List Char} {name : Option String} {j : Json}
      (spelled : Spells name key) (before : IsBlank ws) (after : IsBlank ws')
      (value : Writes (.value j) cs) :
      Writes (.member (name, j)) ('"' :: (key ++ '"' :: (ws ++ ':' :: (ws' ++ cs))))
  | lastMember {cs : List Char} {m : Option String × Json} (member : Writes (.member m) cs) :
      Writes (.members [m]) cs
  | member {ws ws' cs rest : List Char} {m : Option String × Json}
      {ms : List (Option String × Json)} (member : Writes (.member m) cs)
      (before : IsBlank ws) (after : IsBlank ws') (members : Writes (.members ms) rest) :
      Writes (.members (m :: ms)) (cs ++ (ws ++ ',' :: (ws' ++ rest)))

/-- The first character of a part: it is no space, and it closes nothing. -/
def Opens (c : Char) : Prop := isSpace c = false ∧ c ≠ ']' ∧ c ≠ '\x7d'

instance : Decidable (Opens c) := inferInstanceAs (Decidable (_ ∧ _ ∧ _))

theorem Numeral.head (h : Numeral cs) :
    ∃ c tail, cs = c :: tail ∧ (c = '-' ∨ c.isDigit = true) := by
  obtain @⟨sign, whole, fraction, power, signed, hwhole, -, -⟩ := h
  obtain rfl | rfl := signed
  · cases hcs : whole ++ (fraction ++ power) with
    | nil =>
        obtain rfl := (List.append_eq_nil_iff.mp hcs).1
        obtain zero | ⟨digits, -⟩ := hwhole
        · cases zero
        · exact absurd rfl digits.1
    | cons c tail => exact ⟨c, tail, rfl, .inr (hwhole.head _ c (by rw [hcs]; rfl))⟩
  · exact ⟨'-', _, rfl, .inl rfl⟩

theorem Numeral.ne_nil (h : Numeral cs) : cs ≠ [] := by
  obtain ⟨c, tail, rfl, -⟩ := h.head
  exact List.cons_ne_nil c tail

theorem opens_of_isDigit (h : c.isDigit = true) : Opens c := by
  refine ⟨Bool.eq_false_iff.mpr fun space => ?_, ?_, ?_⟩
  · simp only [isSpace, Bool.or_eq_true, beq_iff_eq] at space
    obtain ((rfl | rfl) | rfl) | rfl := space <;> cases h
  · rintro rfl
    cases h
  · rintro rfl
    cases h

theorem opens_of_writes {part : Part} (h : Writes part cs) :
    ∃ c tail, cs = c :: tail ∧ Opens c := by
  induction h with
  | null => exact ⟨_, _, rfl, by decide⟩
  | true => exact ⟨_, _, rfl, by decide⟩
  | false => exact ⟨_, _, rfl, by decide⟩
  | number numeral =>
      obtain ⟨c, tail, rfl, rfl | digit⟩ := numeral.head
      · exact ⟨_, _, rfl, by decide⟩
      · exact ⟨_, _, rfl, opens_of_isDigit digit⟩
  | string => exact ⟨_, _, rfl, by decide⟩
  | broken => exact ⟨_, _, rfl, by decide⟩
  | noElements => exact ⟨_, _, rfl, by decide⟩
  | array => exact ⟨_, _, rfl, by decide⟩
  | noMembers => exact ⟨_, _, rfl, by decide⟩
  | object => exact ⟨_, _, rfl, by decide⟩
  | lastElement _ ih => exact ih
  | element _ _ _ _ ih =>
      obtain ⟨c, tail, rfl, opens⟩ := ih
      exact ⟨c, _, rfl, opens⟩
  | pair => exact ⟨_, _, rfl, by decide⟩
  | lastMember _ ih => exact ih
  | member _ _ _ _ ih =>
      obtain ⟨c, tail, rfl, opens⟩ := ih
      exact ⟨c, _, rfl, opens⟩

/-- What is read of a text that is for a part, with space before it and something else
behind it. The fuel that is needed is no more than the text is long, and one more where a
list of parts is read. -/
def Reads : Part → List Char → Prop
  | .value j, cs => ∀ fuel ws rest, cs.length ≤ fuel → IsBlank ws → Stops rest →
      value? fuel (ws ++ (cs ++ rest)) = some (j, rest)
  | .elements js, cs => ∀ fuel before ws ws' rest, cs.length + 1 ≤ fuel → IsBlank ws →
      IsBlank ws' → elements? fuel before (ws ++ (cs ++ (ws' ++ ']' :: rest)))
        = some (before.reverse ++ js, rest)
  | .member m, cs => ∀ fuel before ws rest, cs.length ≤ fuel → IsBlank ws → Stops rest →
      (∀ rest', skipSpace rest = ',' :: rest' →
        members? (fuel + 1) before (ws ++ (cs ++ rest)) = members? fuel (m :: before) rest') ∧
      ∀ rest', skipSpace rest = '\x7d' :: rest' →
        members? (fuel + 1) before (ws ++ (cs ++ rest)) = some ((m :: before).reverse, rest')
  | .members ms, cs => ∀ fuel before ws ws' rest, cs.length + 1 ≤ fuel → IsBlank ws →
      IsBlank ws' → members? fuel before (ws ++ (cs ++ (ws' ++ '\x7d' :: rest)))
        = some (before.reverse ++ ms, rest)

theorem stops_of_closes (blank : IsBlank ws) (closes : c = ',' ∨ c = ']' ∨ c = '\x7d') :
    Stops (ws ++ c :: rest) := by
  cases ws with
  | nil =>
      rintro _ ⟨⟩
      exact .inr closes
  | cons w ws =>
      rintro _ ⟨⟩
      exact .inl (blank w List.mem_cons_self)

theorem value?_of_numeral {fuel : Nat} (numeral : Numeral cs) (blank : IsBlank ws)
    (stops : Stops rest) :
    value? (fuel + 1) (ws ++ (cs ++ rest)) = some (.number (String.ofList cs), rest) := by
  rw [← number?_append numeral stops]
  obtain ⟨c, tail, rfl, first⟩ := numeral.head
  have opens : Opens c := first.elim (fun h => h ▸ by decide) opens_of_isDigit
  have distinct : c ∉ ['"', '[', '\x7b', 't', 'f', 'n'] := by
    intro h
    simp only [List.mem_cons, List.not_mem_nil, or_false] at h
    obtain rfl | rfl | rfl | rfl | rfl | rfl := h <;> revert first <;> decide
  rw [List.cons_append, value?, skipSpace_append blank opens.1]
  split
  case h_1 h => cases h
  case h_8 => rfl
  all_goals
    next h =>
      obtain ⟨rfl, -⟩ := List.cons.inj h
      exact absurd (by decide) distinct

theorem value?_of_spells {fuel : Nat} {key : Option String} (spelled : Spells key cs)
    (blank : IsBlank ws) :
    value? (fuel + 1) (ws ++ ('"' :: (cs ++ ['"']) ++ rest))
      = some (key.elim .illFormed .string, rest) := by
  have text : '"' :: (cs ++ ['"']) ++ rest = '"' :: (cs ++ '"' :: rest) := by simp
  rw [text, value?, skipSpace_append blank (by decide)]
  simp only [string?_of_spells spelled]
  cases key <;> rfl

/-- A value is read if some fuel is left, as a text of it is not empty. -/
theorem reads_value (text : cs ≠ [])
    (h : ∀ fuel ws rest, cs.length ≤ fuel + 1 → IsBlank ws → Stops rest →
      value? (fuel + 1) (ws ++ (cs ++ rest)) = some (j, rest)) : Reads (.value j) cs := by
  intro fuel ws rest enough blank stops
  cases fuel with
  | zero => exact absurd (List.eq_nil_of_length_eq_zero (Nat.le_zero.mp enough)) text
  | succ fuel => exact h fuel ws rest enough blank stops

theorem value?_of_elements {fuel : Nat} {js : List Json} (before : IsBlank ws) (blank : IsBlank ws')
    (opens : Opens c) (read : elements? fuel [] (c :: rest) = some (js, rest')) :
    value? (fuel + 1) (ws ++ '[' :: (ws' ++ c :: rest)) = some (.array js, rest') := by
  rw [value?, skipSpace_append before (by decide)]
  simp only [skipSpace_append blank opens.1]
  split
  · next h => exact absurd (List.cons.inj h).1 opens.2.1
  · rw [read]
    rfl

theorem value?_of_members {fuel : Nat} {ms : List (Option String × Json)} (before : IsBlank ws)
    (blank : IsBlank ws') (opens : Opens c)
    (read : members? fuel [] (c :: rest) = some (ms, rest')) :
    value? (fuel + 1) (ws ++ '\x7b' :: (ws' ++ c :: rest)) = some (ofMembers ms, rest') := by
  rw [value?, skipSpace_append before (by decide)]
  simp only [skipSpace_append blank opens.1]
  split
  · next h => exact absurd (List.cons.inj h).1 opens.2.2
  · rw [read]
    rfl

section Element

variable {fuel : Nat} {before : List Json} (read : value? fuel cs = some (j, rest))

include read

theorem elements?_of_comma (behind : skipSpace rest = ',' :: rest') :
    elements? (fuel + 1) before cs = elements? fuel (j :: before) rest' := by
  simp only [elements?, read, behind]

theorem elements?_of_closing (behind : skipSpace rest = ']' :: rest') :
    elements? (fuel + 1) before cs = some ((j :: before).reverse, rest') := by
  simp only [elements?, read, behind]

end Element

namespace Reads

variable {js : List Json} {m : Option String × Json} {ms : List (Option String × Json)}
  {key : List Char} {name : Option String}

theorem noElements (blank : IsBlank ws) : Reads (.value (.array [])) ('[' :: (ws ++ [']'])) := by
  refine reads_value nofun fun fuel before rest _ hbefore _ => ?_
  have closes : skipSpace (ws ++ ']' :: rest) = ']' :: rest := skipSpace_append blank (by decide)
  rw [List.cons_append, List.append_assoc, value?, skipSpace_append hbefore (by decide)]
  simp only [List.cons_append, List.nil_append, closes]

theorem noMembers (blank : IsBlank ws) :
    Reads (.value (.object [])) ('\x7b' :: (ws ++ ['\x7d'])) := by
  refine reads_value nofun fun fuel before rest _ hbefore _ => ?_
  have closes : skipSpace (ws ++ '\x7d' :: rest) = '\x7d' :: rest :=
    skipSpace_append blank (by decide)
  rw [List.cons_append, List.append_assoc, value?, skipSpace_append hbefore (by decide)]
  simp only [List.cons_append, List.nil_append, closes]

theorem array (before : IsBlank ws) (after : IsBlank ws') (written : Writes (.elements js) cs)
    (h : Reads (.elements js) cs) :
    Reads (.value (.array js)) ('[' :: (ws ++ (cs ++ (ws' ++ [']'])))) := by
  obtain ⟨c, tail, rfl, opens⟩ := opens_of_writes written
  refine reads_value nofun fun fuel space rest enough blank _ => ?_
  simp only [List.length_append, List.length_cons] at enough
  simp only [List.cons_append, List.append_assoc, List.nil_append]
  refine value?_of_elements blank before opens ?_
  exact h fuel [] [] ws' rest (by rw [List.length_cons]; omega) isBlank_nil after

theorem object (before : IsBlank ws) (after : IsBlank ws') (written : Writes (.members ms) cs)
    (h : Reads (.members ms) cs) :
    Reads (.value (ofMembers ms)) ('\x7b' :: (ws ++ (cs ++ (ws' ++ ['\x7d'])))) := by
  obtain ⟨c, tail, rfl, opens⟩ := opens_of_writes written
  refine reads_value nofun fun fuel space rest enough blank _ => ?_
  simp only [List.length_append, List.length_cons] at enough
  simp only [List.cons_append, List.append_assoc, List.nil_append]
  refine value?_of_members blank before opens ?_
  exact h fuel [] [] ws' rest (by rw [List.length_cons]; omega) isBlank_nil after

theorem lastElement (h : Reads (.value j) cs) : Reads (.elements [j]) cs := by
  intro fuel earlier ws ws' rest enough blank blank'
  cases fuel with
  | zero => cases enough
  | succ fuel =>
      have read := h fuel ws (ws' ++ ']' :: rest) (Nat.le_of_succ_le_succ enough) blank
        (stops_of_closes blank' (by decide))
      rw [elements?_of_closing read (skipSpace_append blank' (by decide)), List.reverse_cons]

theorem element (h : Reads (.value j) cs) (before : IsBlank ws) (after : IsBlank ws')
    (hs : Reads (.elements js) rest) :
    Reads (.elements (j :: js)) (cs ++ (ws ++ ',' :: (ws' ++ rest))) := by
  intro fuel earlier space space' behind enough blank blank'
  simp only [List.length_append, List.length_cons] at enough
  cases fuel with
  | zero => cases enough
  | succ fuel =>
      have read := h fuel space (ws ++ ',' :: (ws' ++ (rest ++ (space' ++ ']' :: behind))))
        (by omega) blank (stops_of_closes before (by decide))
      simp only [List.append_assoc, List.cons_append]
      rw [elements?_of_comma read (skipSpace_append before (by decide)),
        hs fuel (j :: earlier) ws' space' behind (by omega) after blank', List.reverse_cons,
        List.append_assoc, List.singleton_append]

theorem pair (spelled : Spells name key) (before : IsBlank ws) (after : IsBlank ws')
    (h : Reads (.value j) cs) :
    Reads (.member (name, j)) ('"' :: (key ++ '"' :: (ws ++ ':' :: (ws' ++ cs)))) := by
  intro fuel earlier space rest enough blank stops
  simp only [List.length_append, List.length_cons] at enough
  have read := h fuel ws' rest (by omega) after stops
  have start : skipSpace (space ++ '"' :: (key ++ '"' :: (ws ++ ':' :: (ws' ++ (cs ++ rest)))))
      = _ := skipSpace_append blank (by decide)
  have colon : skipSpace (ws ++ ':' :: (ws' ++ (cs ++ rest))) = _ :=
    skipSpace_append before (by decide)
  simp only [List.append_assoc, List.cons_append, members?, start, string?_of_spells spelled, colon,
    read]
  exact ⟨fun rest' behind => by simp only [behind], fun rest' behind => by simp only [behind]⟩

theorem lastMember (h : Reads (.member m) cs) : Reads (.members [m]) cs := by
  intro fuel earlier ws ws' rest enough blank blank'
  cases fuel with
  | zero => cases enough
  | succ fuel =>
      obtain ⟨-, closing⟩ := h fuel earlier ws (ws' ++ '\x7d' :: rest)
        (Nat.le_of_succ_le_succ enough) blank (stops_of_closes blank' (by decide))
      rw [closing _ (skipSpace_append blank' (by decide)), List.reverse_cons]

theorem member (h : Reads (.member m) cs) (before : IsBlank ws) (after : IsBlank ws')
    (hs : Reads (.members ms) rest) :
    Reads (.members (m :: ms)) (cs ++ (ws ++ ',' :: (ws' ++ rest))) := by
  intro fuel earlier space space' behind enough blank blank'
  simp only [List.length_append, List.length_cons] at enough
  cases fuel with
  | zero => cases enough
  | succ fuel =>
      obtain ⟨comma, -⟩ := h fuel earlier space
        (ws ++ ',' :: (ws' ++ (rest ++ (space' ++ '\x7d' :: behind)))) (by omega) blank
        (stops_of_closes before (by decide))
      simp only [List.append_assoc, List.cons_append]
      rw [comma _ (skipSpace_append before (by decide)),
        hs fuel (m :: earlier) ws' space' behind (by omega) after blank', List.reverse_cons,
        List.append_assoc, List.singleton_append]

end Reads

theorem reads_of_writes {part : Part} (h : Writes part cs) : Reads part cs := by
  induction h with
  | null =>
      refine reads_value nofun fun fuel ws rest _ blank _ => ?_
      rw [List.cons_append, value?, skipSpace_append blank (by decide)]
      rfl
  | true =>
      refine reads_value nofun fun fuel ws rest _ blank _ => ?_
      rw [List.cons_append, value?, skipSpace_append blank (by decide)]
      rfl
  | false =>
      refine reads_value nofun fun fuel ws rest _ blank _ => ?_
      rw [List.cons_append, value?, skipSpace_append blank (by decide)]
      rfl
  | number numeral =>
      exact reads_value numeral.ne_nil fun _ _ _ _ blank => value?_of_numeral numeral blank
  | string spelled => exact reads_value nofun fun _ _ _ _ blank _ => value?_of_spells spelled blank
  | broken spelled => exact reads_value nofun fun _ _ _ _ blank _ => value?_of_spells spelled blank
  | noElements blank => exact .noElements blank
  | array before after elements ih => exact .array before after elements ih
  | noMembers blank => exact .noMembers blank
  | object before after members ih => exact .object before after members ih
  | lastElement _ ih => exact .lastElement ih
  | element _ before after _ ih ihs => exact .element ih before after ihs
  | pair spelled before after _ ih => exact .pair spelled before after ih
  | lastMember _ ih => exact .lastMember ih
  | member _ before after _ ih ihs => exact .member ih before after ihs

theorem parse?_of_writes (h : Writes (.value j) cs) (before : IsBlank ws) (after : IsBlank ws') :
    parse? (ws ++ (cs ++ ws')) = some j := by
  have stops : Stops ws' := fun c hc => .inl (after c (List.mem_of_mem_head? hc))
  have enough : cs.length ≤ 2 * (ws ++ (cs ++ ws')).length + 2 := by
    simp only [List.length_append]
    omega
  have read : value? _ (ws ++ (cs ++ ws')) = some (j, ws') :=
    reads_of_writes h _ ws ws' enough before stops
  have nothing : skipSpace ws' = [] := List.dropWhile_eq_nil_iff.mpr after
  rw [parse?, read]
  simp only [nothing]
  rfl

end BoardRig.Json
