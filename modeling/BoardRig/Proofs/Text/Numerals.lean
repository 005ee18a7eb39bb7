/-
# `BoardRig.Proofs.Text.Numerals` — numerals and their numbers

Digits denote a number, the first one with the most weight (`Denotes`).  A
numeral is read as the number that its digits denote if that is small enough;
a plus sign in front and leading zeros make no difference (`read_eq_ok_iff`).
In base sixteen a number has one spelling of each length in lower case, which
is the one that is written (`map_lowerAscii_of_denotes`), and this is read
again as the number (`read_hexDigits`).
-/
import BoardRig.Proofs.Text.Cuts
import BoardRig.Text.Radix
import Mathlib.Data.List.Induction
import Mathlib.Tactic.IntervalCases

namespace BoardRig.Radix

variable {base limit n d : Nat} {c : Char} {cs : List Char}

/-- The digits denote the number. -/
inductive Denotes (base : Nat) : List Char → Nat → Prop where
  | nil : Denotes base [] 0
  | snoc {cs : List Char} {c : Char} {n d : Nat} (front : Denotes base cs n)
      (last : digit? base c = some d) : Denotes base (cs ++ [c]) (n * base + d)

theorem denotes_nil_iff : Denotes base [] n ↔ n = 0 := by
  constructor
  · generalize whole : [] = ds
    intro h
    cases h with
    | nil => rfl
    | snoc => simp at whole
  · rintro rfl
    exact .nil

theorem denotes_append_iff :
    Denotes base (cs ++ [c]) n ↔
      ∃ m d, Denotes base cs m ∧ digit? base c = some d ∧ n = m * base + d := by
  constructor
  · generalize whole : cs ++ [c] = ds
    intro h
    cases h with
    | nil => simp at whole
    | @snoc front last m d hfront hlast =>
        obtain ⟨rfl, same⟩ := List.append_inj' whole rfl
        obtain rfl : c = last := by simpa using same
        exact ⟨m, d, hfront, hlast, rfl⟩
  · rintro ⟨m, d, front, last, rfl⟩
    exact .snoc front last

/-! ## Digits -/

theorem digit?_eq_some (h : digit? base c = some d) : alphanumeric? c = some d ∧ d < base := by
  obtain ⟨value, below⟩ := Option.filter_eq_some_iff.mp h
  exact ⟨value, of_decide_eq_true below⟩

theorem digit?_plus (base : Nat) : digit? base '+' = none := by
  have none : alphanumeric? '+' = none := by decide
  rw [digit?, none, Option.filter_none]

theorem alphanumeric?_eq_some (h : alphanumeric? c = some d) :
    (c.toNat = 48 + d ∧ d < 10) ∨ (c.toNat = 87 + d ∧ 10 ≤ d ∧ d < 36) ∨
      (c.toNat = 55 + d ∧ 10 ≤ d ∧ d < 36) := by
  have order : ∀ {a b : Char}, a ≤ b ↔ a.toNat ≤ b.toNat := Char.le_def
  simp only [alphanumeric?, order] at h
  have zero : '0'.toNat = 48 := rfl
  have nine : '9'.toNat = 57 := rfl
  have lowerA : 'a'.toNat = 97 := rfl
  have lowerZ : 'z'.toNat = 122 := rfl
  have upperA : 'A'.toNat = 65 := rfl
  have upperZ : 'Z'.toNat = 90 := rfl
  rw [zero, nine, lowerA, lowerZ, upperA, upperZ] at h
  split_ifs at h <;> simp only [Option.some.injEq] at h <;> omega

theorem isBlank_of_digit? (h : digit? base c = some d) : Text.isBlank c = false := by
  obtain ⟨value, -⟩ := digit?_eq_some h
  have place := alphanumeric?_eq_some value
  exact Text.isBlank_of_graphic (by omega) (by omega)

theorem Denotes.exists_digit (h : Denotes base cs n) :
    ∀ c ∈ cs, ∃ d, digit? base c = some d := by
  induction h with
  | nil => exact fun c hc => absurd hc List.not_mem_nil
  | @snoc _ _ _ d _ last ih =>
      exact List.forall_mem_append.mpr ⟨ih, List.forall_mem_singleton.mpr ⟨d, last⟩⟩

theorem Denotes.trim (h : Denotes base cs n) : Text.trim cs = cs :=
  Text.trim_of_forall fun c hc => by
    obtain ⟨d, hd⟩ := h.exists_digit c hc
    exact isBlank_of_digit? hd

/-- In lower case there is one digit for each value. -/
theorem lowerAscii_of_digit? (h : digit? 16 c = some d) :
    Text.lowerAscii c = Nat.digitChar d ∧ d < 16 := by
  obtain ⟨value, below⟩ := digit?_eq_some h
  have named : ∀ k, c.toNat = k → c = Char.ofNat k := by
    rintro _ rfl
    exact (Char.ofNat_toNat c).symm
  refine ⟨?_, below⟩
  rcases alphanumeric?_eq_some value with ⟨place, low⟩ | ⟨place, high, -⟩ | ⟨place, high, -⟩
  all_goals
    rw [named _ place]
    interval_cases d <;> decide

theorem digit?_digitChar : ∀ d < 16, digit? 16 (Nat.digitChar d) = some d := by
  decide

/-! ## Reading

The reader stops at the limit, which is reached only by numbers that do not fit. -/

theorem readFrom_append (base limit n : Nat) (cs : List Char) (c : Char) :
    readFrom base limit n (cs ++ [c]) = match readFrom base limit n cs with
      | .error e => .error e
      | .ok m => readFrom base limit m [c] := by
  induction cs generalizing n with
  | nil => rfl
  | cons first cs ih =>
      rw [List.cons_append, readFrom, readFrom]
      cases digit? base first with
      | none => rfl
      | some d =>
          dsimp only
          split
          · exact ih _
          · rfl

theorem readFrom_singleton_eq_ok_iff {m : Nat} :
    readFrom base limit m [c] = .ok n ↔
      ∃ d, digit? base c = some d ∧ n = m * base + d ∧ n < limit := by
  rw [readFrom]
  cases digit? base c with
  | none => simp
  | some d =>
      dsimp only
      split
      · next below =>
        simp only [readFrom, Except.ok.injEq, Option.some.injEq, exists_eq_left']
        exact ⟨fun h => ⟨h.symm, h ▸ below⟩, fun h => h.1.symm⟩
      · next above =>
        refine ⟨fun h => (nomatch h), ?_⟩
        rintro ⟨d', same, rfl, below⟩
        cases same
        exact absurd below above

theorem readFrom_eq_ok_iff (positive : 0 < limit) :
    readFrom base limit 0 cs = .ok n ↔ Denotes base cs n ∧ n < limit := by
  induction cs using List.reverseRecOn generalizing n with
  | nil =>
      rw [readFrom, Except.ok.injEq, denotes_nil_iff]
      constructor
      · rintro rfl
        exact ⟨rfl, positive⟩
      · rintro ⟨rfl, -⟩
        rfl
  | append_singleton cs c ih =>
      rw [readFrom_append, denotes_append_iff]
      constructor
      · intro h
        cases front : readFrom base limit 0 cs with
        | error e => rw [front] at h; cases h
        | ok m =>
            rw [front] at h
            obtain ⟨d, last, rfl, below⟩ := readFrom_singleton_eq_ok_iff.mp h
            exact ⟨⟨m, d, (ih.mp front).1, last, rfl⟩, below⟩
      · rintro ⟨⟨m, d, front, last, rfl⟩, below⟩
        -- What is denoted by the front is not more than what is denoted by all digits.
        have some : 0 < base := Nat.zero_lt_of_lt (digit?_eq_some last).2
        have less : m ≤ m * base := Nat.le_mul_of_pos_right m some
        rw [ih.mpr ⟨front, by omega⟩]
        exact readFrom_singleton_eq_ok_iff.mpr ⟨d, last, rfl, below⟩

/-- A numeral is read as the number that its digits denote, with a plus sign in
front of them or without. -/
theorem read_eq_ok_iff (positive : 0 < limit) :
    read base limit cs = .ok n ↔
      ∃ ds, ds ≠ [] ∧ (cs = ds ∨ cs = '+' :: ds) ∧ Denotes base ds n ∧ n < limit := by
  have noSign : ∀ ds, ¬ Denotes base ('+' :: ds) n := by
    intro ds h
    have read := (readFrom_eq_ok_iff (Nat.zero_lt_of_lt (Nat.lt_succ_self n))).mpr
      ⟨h, Nat.lt_succ_self n⟩
    rw [readFrom, digit?_plus] at read
    cases read
  cases cs with
  | nil => simp [read]
  | cons c rest =>
      rw [read, readFrom_eq_ok_iff positive]
      by_cases sign : c = '+' ∧ rest ≠ []
      · obtain ⟨rfl, some⟩ := sign
        obtain ⟨d, ds, rfl⟩ := List.exists_cons_of_ne_nil some
        rw [unsigned]
        constructor
        · rintro ⟨denotes, below⟩
          exact ⟨d :: ds, some, .inr rfl, denotes, below⟩
        · rintro ⟨_, -, rfl | same, denotes, below⟩
          · exact absurd denotes (noSign _)
          · cases same
            exact ⟨denotes, below⟩
      · have plain : unsigned (c :: rest) = c :: rest := by
          rw [unsigned]
          rintro d ds same
          cases same
          exact sign ⟨rfl, List.cons_ne_nil _ _⟩
        rw [plain]
        constructor
        · rintro ⟨denotes, below⟩
          exact ⟨c :: rest, List.cons_ne_nil _ _, .inl rfl, denotes, below⟩
        · rintro ⟨ds, some, rfl | same, denotes, below⟩
          · exact ⟨denotes, below⟩
          · cases same
            exact absurd ⟨rfl, some⟩ sign

/-! ## Writing in base sixteen

Digits of one number and of one width are unique up to the case of letters. -/

theorem length_hexDigits (width n : Nat) : (hexDigits width n).length = width := by
  induction width generalizing n with
  | zero => rfl
  | succ width ih => rw [hexDigits, List.length_append, ih, List.length_singleton]

theorem mem_hexDigits {width : Nat} (h : c ∈ hexDigits width n) :
    ∃ d < 16, c = Nat.digitChar d := by
  induction width generalizing n with
  | zero => exact absurd h List.not_mem_nil
  | succ width ih =>
      rw [hexDigits, List.mem_append, List.mem_singleton] at h
      obtain h | rfl := h
      · exact ih h
      · exact ⟨n % 16, Nat.mod_lt _ (by decide), rfl⟩

theorem denotes_hexDigits {width : Nat} (h : n < 16 ^ width) :
    Denotes 16 (hexDigits width n) n := by
  induction width generalizing n with
  | zero =>
      obtain rfl : n = 0 := by simpa using h
      exact .nil
  | succ width ih =>
      have front : n / 16 < 16 ^ width := by
        rw [Nat.pow_succ] at h
        exact Nat.div_lt_of_lt_mul (Nat.mul_comm .. ▸ h)
      have denotes := (ih front).snoc (digit?_digitChar (n % 16) (Nat.mod_lt _ (by decide)))
      rw [Nat.div_add_mod'] at denotes
      exact denotes

/-- Whatever the case of its letters, a numeral of some length is in lower case the
one that is written for its number. -/
theorem map_lowerAscii_of_denotes (h : Denotes 16 cs n) :
    cs.map Text.lowerAscii = hexDigits cs.length n := by
  induction h with
  | nil => rfl
  | @snoc cs c n d _ last ih =>
      obtain ⟨lower, below⟩ := lowerAscii_of_digit? last
      have front : (n * 16 + d) / 16 = n := by omega
      have digit : (n * 16 + d) % 16 = d := by omega
      rw [List.map_append, List.map_singleton, ih, lower, List.length_append,
        List.length_singleton, hexDigits, front, digit]

theorem read_hexDigits {width : Nat} (some : width ≠ 0) (fits : n < 16 ^ width)
    (below : n < limit) : read 16 limit (hexDigits width n) = .ok n := by
  refine (read_eq_ok_iff (Nat.zero_lt_of_lt below)).mpr
    ⟨hexDigits width n, fun none => some ?_, .inl rfl, denotes_hexDigits fits, below⟩
  rw [← length_hexDigits width n, none, List.length_nil]

end BoardRig.Radix
