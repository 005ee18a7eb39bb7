/-
# `BoardRig.Proofs.Status.Bank` — the bank that firmware reports

A number is settled once a character that is no digit stands behind it
(`leadingNumber?_append`).  So a text that names a bank and does not end in a
digit names this bank whatever comes behind it (`firmwareBank?_append`): the
first number behind `Bank:` counts, and what comes later is not looked at.
-/
import BoardRig.Proofs.Status.Rendering

namespace BoardRig

namespace Text

theorem stripStart?_eq_some_iff {start cs rest : List Char} :
    stripStart? start cs = some rest ↔ cs = start ++ rest := by
  induction start generalizing cs with
  | nil => exact ⟨fun h => Option.some.inj h, fun h => congrArg some h⟩
  | cons s start ih =>
      cases cs with
      | nil => exact ⟨fun h => (nomatch h), fun h => (nomatch h)⟩
      | cons c cs =>
          rw [stripStart?, List.cons_append, List.cons_eq_cons, ← ih, Option.ite_none_right_eq_some]
          exact and_congr_left fun _ => eq_comm

theorem suffix_of_mem_afterEach {part cs u : List Char} (h : u ∈ afterEach part cs) :
    u <:+ cs := by
  induction cs with
  | nil => exact absurd h List.not_mem_nil
  | cons c cs ih =>
      rw [afterEach] at h
      cases hstrip : stripStart? part (c :: cs) with
      | none =>
          rw [hstrip] at h
          exact (ih h).trans (List.suffix_cons c cs)
      | some rest =>
          rw [hstrip] at h
          obtain rfl | later := List.mem_cons.mp h
          · exact ⟨part, (stripStart?_eq_some_iff.mp hstrip).symm⟩
          · exact (ih later).trans (List.suffix_cons c cs)

theorem takeWhile_isDigit_trimEnd (cs : List Char) :
    (trimEnd cs).takeWhile Char.isDigit = cs.takeWhile Char.isDigit := by
  induction cs using List.reverseRecOn with
  | nil => rfl
  | append_singleton cs c ih =>
      rw [trimEnd_eq_rdropWhile] at ih ⊢
      cases blank : isBlank c with
      | false => rw [List.rdropWhile_concat_neg _ _ _ (by rw [blank]; decide)]
      | true =>
          have other : c.isDigit = false := by
            by_contra digit
            rw [BootloaderStatus.isBlank_of_isDigit (Bool.not_eq_false _ ▸ digit)] at blank
            cases blank
          rw [List.rdropWhile_concat_pos _ _ _ blank, ih, List.takeWhile_append,
            List.takeWhile_cons_of_neg (by rw [other]; decide), List.append_nil]
          split
          · next whole => exact (List.takeWhile_prefix _).eq_of_length whole
          · rfl

theorem forall_getLast?_of_suffix {p : Char → Prop} {u cs : List Char} (h : u <:+ cs)
    (ends : ∀ c ∈ cs.getLast?, p c) : ∀ c ∈ u.getLast?, p c := by
  obtain ⟨before, rfl⟩ := h
  intro c hc
  refine ends c ?_
  rw [List.getLast?_append, Option.mem_def.mp hc]
  rfl

end Text

namespace BootloaderStatus

/-- Some character that is no digit ends the number that a text begins with. -/
def Settled (cs : List Char) : Prop :=
  ∃ c ∈ Text.trimStart cs, c.isDigit = false

variable {cs : List Char} {limit n : Nat}

theorem leadingNumber?_eq (limit : Nat) (cs : List Char) :
    leadingNumber? limit cs =
      let digits := (Text.trimStart cs).takeWhile Char.isDigit
      if digits = [] then none
      else if Nat.ofDigitChars 10 digits 0 < limit then some (Nat.ofDigitChars 10 digits 0)
      else none := by
  rw [leadingNumber?, Text.trim, Text.takeWhile_isDigit_trimEnd]
  simp only [foldl_digits, List.isEmpty_iff]

theorem leadingNumber?_append (settled : Settled cs) (limit : Nat) (rest : List Char) :
    leadingNumber? limit (cs ++ rest) = leadingNumber? limit cs := by
  obtain ⟨c, hc, other⟩ := settled
  have started : Text.trimStart (cs ++ rest) = Text.trimStart cs ++ rest := by
    rw [Text.trimStart] at hc
    rw [Text.trimStart, List.dropWhile_append, if_neg, Text.trimStart]
    exact fun empty => List.ne_nil_of_mem hc (List.isEmpty_iff.mp empty)
  have digits : (Text.trimStart cs ++ rest).takeWhile Char.isDigit
      = (Text.trimStart cs).takeWhile Char.isDigit := by
    rw [List.takeWhile_append, if_neg]
    intro whole
    have all := (List.takeWhile_prefix Char.isDigit).eq_of_length whole
    have digit := List.takeWhile_eq_self_iff.mp all c hc
    rw [other] at digit
    cases digit
  rw [leadingNumber?_eq, leadingNumber?_eq, started, digits]

theorem exists_digit_of_leadingNumber? (h : leadingNumber? limit cs = some n) :
    ∃ c ∈ cs, c.isDigit = true := by
  rw [leadingNumber?_eq] at h
  cases digits : (Text.trimStart cs).takeWhile Char.isDigit with
  | nil =>
      rw [digits] at h
      cases h
  | cons c later =>
      have hc : c ∈ (Text.trimStart cs).takeWhile Char.isDigit := digits ▸ List.mem_cons_self
      exact ⟨c, (List.dropWhile_suffix _).mem ((List.takeWhile_prefix _).mem hc),
        List.mem_takeWhile_imp hc⟩

/-- Where there is a digit, a last character that is none settles the number. -/
theorem settled_of_ends (digit : ∃ c ∈ cs, c.isDigit = true)
    (ends : ∀ c ∈ cs.getLast?, c.isDigit = false) : Settled cs := by
  obtain ⟨d, hd, digit⟩ := digit
  have some : Text.trimStart cs ≠ [] := by
    intro blanks
    have blank := List.dropWhile_eq_nil_iff.mp blanks d hd
    rw [isBlank_of_isDigit digit] at blank
    cases blank
  have last := Text.forall_getLast?_of_suffix (List.dropWhile_suffix Text.isBlank) ends
  exact ⟨_, List.getLast_mem some, last _ (List.getLast?_eq_some_getLast some)⟩

theorem leadingByte?_append (settled : Settled cs) (rest : List Char) :
    leadingByte? (cs ++ rest) = leadingByte? cs := by
  rw [leadingByte?, leadingByte?, leadingNumber?_append settled]

theorem exists_digit_of_leadingByte? {byte : UInt8} (h : leadingByte? cs = some byte) :
    ∃ c ∈ cs, c.isDigit = true := by
  obtain ⟨n, hn, -⟩ := Option.map_eq_some_iff.mp h
  exact exists_digit_of_leadingNumber? hn

/-- The first number behind a token without digits is the same with more text behind
it, if the text before that does not end in a digit. -/
theorem findSome?_afterEach_append {part : List Char} {byte : UInt8}
    (plain : ∀ c ∈ part, c.isDigit = false) (rest : List Char)
    (h : (Text.afterEach part cs).findSome? leadingByte? = some byte)
    (ends : ∀ c ∈ cs.getLast?, c.isDigit = false) :
    (Text.afterEach part (cs ++ rest)).findSome? leadingByte? = some byte := by
  induction cs with
  | nil => cases h
  | cons c cs ih =>
      have later := Text.forall_getLast?_of_suffix (List.suffix_cons c cs) ends
      obtain ⟨u, hu, number⟩ := List.exists_of_findSome?_eq_some h
      obtain ⟨d, hd, digit⟩ := exists_digit_of_leadingByte? number
      have inside : d ∈ c :: cs := (Text.suffix_of_mem_afterEach hu).mem hd
      have outside : d ∉ part := by
        intro hpart
        rw [plain d hpart] at digit
        cases digit
      rw [Text.afterEach] at h
      rw [List.cons_append, Text.afterEach]
      cases hstrip : Text.stripStart? part (c :: cs) with
      | some v =>
          have text := Text.stripStart?_eq_some_iff.mp hstrip
          have settled : Settled v := by
            refine settled_of_ends ⟨d, ?_, digit⟩
              (Text.forall_getLast?_of_suffix ⟨part, text.symm⟩ ends)
            exact (List.mem_append.mp (text ▸ inside)).resolve_left outside
          have stripped : Text.stripStart? part (c :: (cs ++ rest)) = some (v ++ rest) := by
            rw [Text.stripStart?_eq_some_iff, ← List.append_assoc, ← text, List.cons_append]
          rw [hstrip] at h
          rw [stripped, List.findSome?_cons, leadingByte?_append settled]
          rw [List.findSome?_cons] at h
          cases hv : leadingByte? v with
          | some m =>
              rw [hv] at h
              exact h
          | none =>
              rw [hv] at h
              exact ih h later
      | none =>
          rw [hstrip] at h
          cases hstrip' : Text.stripStart? part (c :: (cs ++ rest)) with
          | none => exact ih h later
          | some w =>
              -- The token would have to go on behind the text, which then has no digit.
              have text := Text.stripStart?_eq_some_iff.mp hstrip'
              rw [← List.cons_append] at text
              obtain ⟨v, hv, -⟩ | ⟨v, hv, -⟩ := List.append_eq_append_iff.mp text
              · exact absurd (hv ▸ List.mem_append_left v inside) outside
              · rw [Text.stripStart?_eq_some_iff.mpr hv] at hstrip
                cases hstrip

end BootloaderStatus

/-- A text that names a bank and does not end in a digit names it with anything
behind it. -/
theorem firmwareBank?_append {text : String} {bank : UInt8} (h : firmwareBank? text = some bank)
    (ends : ∀ c ∈ text.toList.getLast?, c.isDigit = false) (more : String) :
    firmwareBank? (text ++ more) = some bank := by
  have plain : ∀ c ∈ "Bank:".toList, c.isDigit = false := by
    have all : "Bank:".toList.all (!·.isDigit) = true := by decide
    exact fun c hc => Bool.not_eq_true' _ ▸ List.all_eq_true.mp all c hc
  rw [firmwareBank?, String.toList_append]
  exact BootloaderStatus.findSome?_afterEach_append plain more.toList h ends

end BoardRig
