/-
# `BoardRig.Proofs.CommandLine.Numbers` — numbers in base sixteen on the command line

A number is given with blanks around it, marks in front of its digits and
underscores anywhere among these (`Spells`).  The reader takes exactly such
texts (`hexWord_exact`, `hexHalf_exact`): those that have one mark at most and
no sign (`Proper`), and also those with a plus sign or with several marks.
Which of the two a text is can be told from its characters, as there is only
one way to take it apart (`Spells.counts`).
-/
import BoardRig.CommandLine.Values
import BoardRig.Proofs.Text.Numerals

namespace BoardRig.CommandLine

open Text (isBlank)

/-! ## Marks

All marks of one letter are dropped, and then all of the other.  What is left does
not begin with a mark, so their number can be read off the text. -/

/-- So many marks with a letter, one behind the other. -/
def marks (letter : Char) : Nat → List Char
  | 0 => []
  | n + 1 => '0' :: letter :: marks letter n

/-- A function that takes away all marks in front. -/
structure DropsMarks (letter : Char) (drop : List Char → List Char) : Prop where
  mark : ∀ rest, drop ('0' :: letter :: rest) = drop rest
  other : ∀ cs, ¬ ['0', letter] <+: cs → drop cs = cs

theorem dropLowerMarks_dropsMarks : DropsMarks 'x' dropLowerMarks where
  mark _ := by rw [dropLowerMarks]
  other cs h := by
    rw [dropLowerMarks]
    rintro rest rfl
    exact h ⟨rest, rfl⟩

theorem dropUpperMarks_dropsMarks : DropsMarks 'X' dropUpperMarks where
  mark _ := by rw [dropUpperMarks]
  other cs h := by
    rw [dropUpperMarks]
    rintro rest rfl
    exact h ⟨rest, rfl⟩

section Marks

variable {letter c : Char} {drop : List Char → List Char} {rest : List Char}

theorem DropsMarks.marks_append (h : DropsMarks letter drop) (last : ¬ ['0', letter] <+: rest)
    (n : Nat) : drop (marks letter n ++ rest) = rest := by
  induction n with
  | zero => exact h.other rest last
  | succ n ih => exact (h.mark _).trans ih

theorem DropsMarks.exists_marks (h : DropsMarks letter drop) (cs : List Char) :
    ∃ n, cs = marks letter n ++ drop cs := by
  by_cases first : ['0', letter] <+: cs
  · obtain ⟨rest, same⟩ := first
    have shorter : rest.length < cs.length := by
      rw [← same, List.length_append]
      exact Nat.lt_add_of_pos_left Nat.two_pos
    obtain ⟨n, hn⟩ := h.exists_marks rest
    refine ⟨n + 1, ?_⟩
    rw [← same, List.cons_append, List.cons_append, List.nil_append, h.mark, marks,
      List.cons_append, List.cons_append, ← hn]
  · exact ⟨0, (h.other cs first).symm⟩
termination_by cs.length

theorem eq_of_mem_marks {n : Nat} (h : c ∈ marks letter n) : c = '0' ∨ c = letter := by
  induction n with
  | zero => exact absurd h List.not_mem_nil
  | succ n ih =>
      rw [marks, List.mem_cons, List.mem_cons] at h
      obtain h | h | h := h
      · exact .inl h
      · exact .inr h
      · exact ih h

theorem count_marks (zero : letter ≠ '0') (n : Nat) : (marks letter n).count letter = n := by
  induction n with
  | zero => rfl
  | succ n ih =>
      rw [marks, List.count_cons_of_ne zero.symm, List.count_cons_self, ih]

theorem count_marks_of_ne (zero : c ≠ '0') (other : c ≠ letter) (n : Nat) :
    (marks letter n).count c = 0 :=
  List.count_eq_zero.mpr fun mem => (eq_of_mem_marks mem).elim zero other

end Marks

/-! ## Digits

Underscores are left out first, and one plus sign may stand in front of what is left. -/

/-- A text denotes a number by its digits, with a plus sign in front or without,
once the underscores are left out. -/
def Digits (sign : Bool) (n : Nat) (body : List Char) : Prop :=
  ∃ ds, ds ≠ [] ∧ body.filter (· != '_') = (if sign then '+' :: ds else ds) ∧
    Radix.Denotes 16 ds n

section Digits

variable {sign : Bool} {n limit : Nat} {body : List Char} {c : Char}

theorem read_eq_ok_iff_digits (positive : 0 < limit) :
    Radix.read 16 limit (body.filter (· != '_')) = .ok n ↔
      ∃ sign, Digits sign n body ∧ n < limit := by
  rw [Radix.read_eq_ok_iff positive]
  constructor
  · rintro ⟨ds, some, plain | signed, denotes, below⟩
    · exact ⟨false, ⟨ds, some, plain, denotes⟩, below⟩
    · exact ⟨true, ⟨ds, some, signed, denotes⟩, below⟩
  · rintro ⟨sign, ⟨ds, some, written, denotes⟩, below⟩
    cases sign with
    | false => exact ⟨ds, some, .inl written, denotes, below⟩
    | true => exact ⟨ds, some, .inr written, denotes, below⟩

theorem Digits.cases (h : Digits sign n body) (hc : c ∈ body) :
    c = '_' ∨ (c = '+' ∧ sign = true) ∨ ∃ d, Radix.digit? 16 c = some d := by
  obtain ⟨ds, -, written, denotes⟩ := h
  by_cases line : c = '_'
  · exact .inl line
  · have kept : c ∈ body.filter (· != '_') := List.mem_filter.mpr ⟨hc, bne_iff_ne.mpr line⟩
    rw [written] at kept
    cases sign with
    | false => exact .inr (.inr (denotes.exists_digit c kept))
    | true =>
        obtain rfl | kept := List.mem_cons.mp kept
        · exact .inr (.inl ⟨rfl, rfl⟩)
        · exact .inr (.inr (denotes.exists_digit c kept))

theorem Digits.plus_mem_iff (h : Digits sign n body) : '+' ∈ body ↔ sign = true := by
  constructor
  · intro plus
    obtain line | ⟨-, signed⟩ | ⟨d, digit⟩ := h.cases plus
    · exact absurd line (by decide)
    · exact signed
    · rw [Radix.digit?_plus] at digit
      cases digit
  · rintro rfl
    obtain ⟨ds, -, written, -⟩ := h
    have plus : '+' ∈ body.filter (· != '_') := written ▸ List.mem_cons_self
    exact List.mem_of_mem_filter plus

theorem Digits.isBlank (h : Digits sign n body) (hc : c ∈ body) : isBlank c = false := by
  obtain rfl | ⟨rfl, -⟩ | ⟨d, digit⟩ := h.cases hc
  · decide
  · decide
  · exact Radix.isBlank_of_digit? digit

theorem Digits.not_mem (h : Digits sign n body) {letter : Char}
    (mark : letter = 'x' ∨ letter = 'X') : letter ∉ body := by
  intro mem
  obtain rfl | ⟨rfl, -⟩ | ⟨d, digit⟩ := h.cases mem
  · exact absurd mark (by decide)
  · exact absurd mark (by decide)
  · obtain ⟨value, below⟩ := Radix.digit?_eq_some digit
    have place := Radix.alphanumeric?_eq_some value
    obtain rfl | rfl := mark
    · have code : 'x'.toNat = 120 := rfl
      omega
    · have code : 'X'.toNat = 88 := rfl
      omega

end Digits

/-! ## Texts

A text is taken apart in one way only: the letters of the marks are no digits, so
counting them gives the marks. -/

/-- A text gives a number in base sixteen: blanks around it, so many small marks
and then so many large ones in front, and its digits. -/
inductive Spells (small large : Nat) (sign : Bool) (n : Nat) : List Char → Prop where
  | padded {before body after : List Char} (blank_before : ∀ c ∈ before, isBlank c = true)
      (blank_after : ∀ c ∈ after, isBlank c = true) (digits : Digits sign n body) :
      Spells small large sign n
        (before ++ (marks 'x' small ++ (marks 'X' large ++ body)) ++ after)

/-- A number as it is meant to be given, with one mark at most and without a sign. -/
def Proper (text : String) (n : Nat) : Prop :=
  ∃ small large, small + large ≤ 1 ∧ Spells small large false n text.toList

section Texts

variable {small large n : Nat} {sign : Bool} {text : String}

theorem hexDigits_of_digits {before body after : List Char}
    (blank_before : ∀ c ∈ before, isBlank c = true) (blank_after : ∀ c ∈ after, isBlank c = true)
    (digits : Digits sign n body)
    (whole : text.toList = before ++ (marks 'x' small ++ (marks 'X' large ++ body)) ++ after) :
    hexDigits text = body.filter (· != '_') := by
  have plain : ∀ c ∈ marks 'x' small ++ (marks 'X' large ++ body), isBlank c = false := by
    intro c hc
    obtain hc | hc := List.mem_append.mp hc
    · obtain rfl | rfl := eq_of_mem_marks hc
      · decide
      · decide
    obtain hc | hc := List.mem_append.mp hc
    · obtain rfl | rfl := eq_of_mem_marks hc
      · decide
      · decide
    · exact digits.isBlank hc
  -- The letter of a mark would have to be a digit, or the letter of the other marks.
  have body_last : ¬ ['0', 'X'] <+: body := fun h =>
    digits.not_mem (.inr rfl) (h.subset (by decide))
  have large_last : ¬ ['0', 'x'] <+: marks 'X' large ++ body := by
    cases large with
    | zero => exact fun h => digits.not_mem (.inl rfl) (h.subset (by decide))
    | succ large =>
        rintro ⟨rest, same⟩
        rw [marks] at same
        cases same
  rw [hexDigits, whole, Text.trim_padded blank_before blank_after, Text.trim_of_forall plain,
    dropLowerMarks_dropsMarks.marks_append large_last,
    dropUpperMarks_dropsMarks.marks_append body_last]

/-- How a text is taken apart is seen from its characters. -/
theorem Spells.counts {cs : List Char} (h : Spells small large sign n cs) :
    cs.count 'x' = small ∧ cs.count 'X' = large ∧ ('+' ∈ cs ↔ sign = true) := by
  obtain ⟨blank_before, blank_after, digits⟩ := h
  have absent : ∀ {c : Char} {blanks : List Char}, (∀ b ∈ blanks, isBlank b = true) →
      isBlank c = false → c ∉ blanks := by
    intro c blanks blank graphic mem
    rw [blank c mem] at graphic
    cases graphic
  have none : ∀ {c : Char} {cs : List Char}, c ∉ cs → cs.count c = 0 := List.count_eq_zero.mpr
  refine ⟨?_, ?_, ?_⟩
  · rw [List.count_append, List.count_append, List.count_append, List.count_append,
      none (absent blank_before (by decide)), none (absent blank_after (by decide)),
      count_marks (by decide), count_marks_of_ne (by decide) (by decide),
      none (digits.not_mem (.inl rfl)), Nat.zero_add, Nat.add_zero]
  · rw [List.count_append, List.count_append, List.count_append, List.count_append,
      none (absent blank_before (by decide)), none (absent blank_after (by decide)),
      count_marks (by decide), count_marks_of_ne (by decide) (by decide),
      none (digits.not_mem (.inr rfl)), Nat.zero_add, Nat.zero_add, Nat.add_zero]
  · have unmarked : ∀ letter k, letter ≠ '+' → '+' ∉ marks letter k := fun letter k other mem =>
      (eq_of_mem_marks mem).elim (by decide) other.symm
    rw [List.mem_append, List.mem_append, List.mem_append, List.mem_append, digits.plus_mem_iff]
    simp only [absent blank_before (by decide : isBlank '+' = false),
      absent blank_after (by decide : isBlank '+' = false), unmarked 'x' small (by decide),
      unmarked 'X' large (by decide), false_or, or_false]

theorem read_hexDigits_eq_ok_iff {limit : Nat} (positive : 0 < limit) :
    Radix.read 16 limit (hexDigits text) = .ok n ↔
      (∃ small large sign, Spells small large sign n text.toList) ∧ n < limit := by
  constructor
  · intro h
    obtain ⟨before, after, blank_before, blank_after, whole⟩ := Text.exists_padding text.toList
    obtain ⟨small, hsmall⟩ :=
      dropLowerMarks_dropsMarks.exists_marks (Text.trim text.toList)
    obtain ⟨large, hlarge⟩ :=
      dropUpperMarks_dropsMarks.exists_marks (dropLowerMarks (Text.trim text.toList))
    obtain ⟨sign, digits, below⟩ := (read_eq_ok_iff_digits positive).mp h
    refine ⟨⟨small, large, sign, ?_⟩, below⟩
    rw [← whole, hsmall, hlarge]
    exact .padded blank_before blank_after digits
  · rintro ⟨⟨small, large, sign, spells⟩, below⟩
    generalize whole : text.toList = cs at spells
    obtain ⟨blank_before, blank_after, digits⟩ := spells
    rw [hexDigits_of_digits blank_before blank_after digits whole]
    exact (read_eq_ok_iff_digits positive).mpr ⟨sign, digits, below⟩

theorem Spells.unique {small' large' n' : Nat} {sign' : Bool}
    (h : Spells small large sign n text.toList) (h' : Spells small' large' sign' n' text.toList) :
    n = n' := by
  have positive : 0 < n + n' + 1 := Nat.succ_pos _
  have read := (read_hexDigits_eq_ok_iff positive).mpr ⟨⟨_, _, _, h⟩, by omega⟩
  have read' := (read_hexDigits_eq_ok_iff positive).mpr ⟨⟨_, _, _, h'⟩, by omega⟩
  exact Except.ok.inj (read.symm.trans read')

theorem proper_iff :
    Proper text n ↔ (∃ small large sign, Spells small large sign n text.toList) ∧
      text.toList.count 'x' + text.toList.count 'X' ≤ 1 ∧ '+' ∉ text.toList := by
  constructor
  · rintro ⟨small, large, single, spells⟩
    obtain ⟨hsmall, hlarge, plus⟩ := spells.counts
    refine ⟨⟨small, large, false, spells⟩, by rwa [hsmall, hlarge], ?_⟩
    rw [plus]
    exact Bool.false_ne_true
  · rintro ⟨⟨small, large, sign, spells⟩, single, unsigned⟩
    obtain ⟨hsmall, hlarge, plus⟩ := spells.counts
    rw [hsmall, hlarge] at single
    rw [plus, Bool.not_eq_true] at unsigned
    exact ⟨small, large, single, unsigned ▸ spells⟩

end Texts

/-! ## What is read -/

/-- A reader takes exactly the texts that give a number below its limit.  Of
these, the ones that are properly given have one mark at most and no sign. -/
structure Exact {α : Type} (limit : Nat) (toNat : α → Nat)
    (reader : String → Except HexFault α) : Prop where
  reads : ∀ text v, reader text = .ok v ↔
    ∃ small large sign, Spells small large sign (toNat v) text.toList
  proper : ∀ text v, Proper text (toNat v) ↔ reader text = .ok v ∧
    text.toList.count 'x' + text.toList.count 'X' ≤ 1 ∧ '+' ∉ text.toList
  large : ∀ text small large sign n, Spells small large sign n text.toList → limit ≤ n →
    ∃ e, reader text = .error e

section Readers

variable {α : Type} {limit : Nat} {toNat : α → Nat} {reader : String → Except HexFault α}

theorem Exact.of_read (positive : 0 < limit) (bounded : ∀ v, toNat v < limit)
    (read : ∀ text v, reader text = .ok v ↔ Radix.read 16 limit (hexDigits text) = .ok (toNat v)) :
    Exact limit toNat reader := by
  have reads : ∀ text v, reader text = .ok v ↔
      ∃ small large sign, Spells small large sign (toNat v) text.toList := by
    intro text v
    rw [read, read_hexDigits_eq_ok_iff positive]
    exact and_iff_left (bounded v)
  refine ⟨reads, fun text v => ?_, fun text small large sign n spells above => ?_⟩
  · rw [reads]
    exact proper_iff
  · cases h : reader text with
    | error e => exact ⟨e, rfl⟩
    | ok v =>
        obtain ⟨_, _, _, taken⟩ := (reads text v).mp h
        have same := taken.unique spells
        have below := bounded v
        omega

end Readers

theorem hexWord_eq_ok_iff {text : String} {v : UInt32} :
    hexWord text = .ok v ↔ Radix.read 16 (Nat.pow 2 32) (hexDigits text) = .ok v.toNat := by
  rw [hexWord]
  cases h : Radix.read 16 (Nat.pow 2 32) (hexDigits text) with
  | error e => simp
  | ok n =>
      have below : n < 2 ^ 32 := ((read_hexDigits_eq_ok_iff (by decide)).mp h).2
      simp only [Except.ok.injEq]
      constructor
      · rintro rfl
        exact (UInt32.toNat_ofNat_of_lt' below).symm
      · rintro rfl
        exact UInt32.ofNat_toNat

theorem hexHalf_eq_ok_iff {text : String} {v : UInt16} :
    hexHalf text = .ok v ↔ Radix.read 16 (Nat.pow 2 16) (hexDigits text) = .ok v.toNat := by
  have word : ∀ w, hexWord text = .ok w ↔
      ∃ small large sign, Spells small large sign w.toNat text.toList := by
    intro w
    rw [hexWord_eq_ok_iff, read_hexDigits_eq_ok_iff (by decide)]
    exact and_iff_left w.toNat_lt
  rw [read_hexDigits_eq_ok_iff (by decide), and_iff_left v.toNat_lt, hexHalf]
  have widen : v.toUInt32.toNat = v.toNat := UInt16.toNat_toUInt32 v
  constructor
  · intro h
    cases hw : hexWord text with
    | error e => rw [hw] at h; cases h
    | ok w =>
        rw [hw] at h
        dsimp only at h
        split at h
        · next below =>
          obtain rfl := Except.ok.inj h
          have narrow : w.toUInt16.toNat = w.toNat := by
            rw [UInt32.toNat_toUInt16]
            exact Nat.mod_eq_of_lt below
          rw [narrow]
          exact (word w).mp hw
        · cases h
  · intro spells
    rw [← widen] at spells
    rw [(word v.toUInt32).mpr spells]
    dsimp only
    rw [widen, if_pos v.toNat_lt, UInt16.toUInt16_toUInt32]

theorem hexWord_exact : Exact (Nat.pow 2 32) UInt32.toNat hexWord :=
  .of_read (by decide) UInt32.toNat_lt fun _ _ => hexWord_eq_ok_iff

theorem hexHalf_exact : Exact (Nat.pow 2 16) UInt16.toNat hexHalf :=
  .of_read (by decide) UInt16.toNat_lt fun _ _ => hexHalf_eq_ok_iff

end BoardRig.CommandLine
