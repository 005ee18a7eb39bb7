/-
# `BoardRig.Proofs.Occurrence` — where something occurs

Searches go through a list from the front and stop at the first element that
will do.  `IsFirst` says which one that is, without a search: it has the property,
and nothing before it has.  There is at most one first element, and there is one
wherever any element has the property (`IsFirst.unique`, `exists_isFirst`); in a list
that is in order it is the least one (`isFirst_iff_of_pairwise`).  A text
occurs in another one if that has it in one piece (`Text.occursIn_iff`).
-/
import BoardRig.Text.Blank
import Mathlib.Data.List.Infix

namespace BoardRig

variable {α : Type} {p : α → Prop} {xs : List α} {x y : α}

/-- `x` is the first element of a list with a property. -/
def IsFirst {α : Type} (p : α → Prop) (xs : List α) (x : α) : Prop :=
  ∃ before after, xs = before ++ x :: after ∧ p x ∧ ∀ y ∈ before, ¬ p y

theorem find?_eq_some_iff_isFirst {f : α → Bool} (hf : ∀ x, f x = true ↔ p x) :
    xs.find? f = some x ↔ IsFirst p xs x := by
  rw [List.find?_eq_some_iff_append]
  constructor
  · rintro ⟨hx, before, after, rfl, hbefore⟩
    refine ⟨before, after, rfl, (hf x).mp hx, fun y hy hp => ?_⟩
    have hnot := hbefore y hy
    rw [(hf y).mpr hp] at hnot
    exact Bool.noConfusion hnot
  · rintro ⟨before, after, rfl, hx, hbefore⟩
    refine ⟨(hf x).mpr hx, before, after, rfl, fun y hy => ?_⟩
    rw [Bool.not_eq_true', Bool.eq_false_iff]
    exact fun h => hbefore y hy ((hf y).mp h)

theorem IsFirst.unique (hx : IsFirst p xs x) (hy : IsFirst p xs y) : x = y := by
  classical
  have hfind : ∀ z, IsFirst p xs z → xs.find? (fun a => decide (p a)) = some z :=
    fun _ => (find?_eq_some_iff_isFirst fun _ => decide_eq_true_iff).mpr
  exact Option.some.inj ((hfind x hx).symm.trans (hfind y hy))

theorem exists_isFirst (hx : x ∈ xs) (hp : p x) : ∃ y, IsFirst p xs y := by
  classical
  have hsome : (xs.find? fun a => decide (p a)).isSome :=
    List.find?_isSome.mpr ⟨x, hx, decide_eq_true hp⟩
  obtain ⟨y, hy⟩ := Option.isSome_iff_exists.mp hsome
  exact ⟨y, (find?_eq_some_iff_isFirst fun _ => decide_eq_true_iff).mp hy⟩

theorem IsFirst.mem (h : IsFirst p xs x) : x ∈ xs := by
  obtain ⟨before, after, rfl, -⟩ := h
  exact List.mem_append_right _ List.mem_cons_self

theorem IsFirst.holds (h : IsFirst p xs x) : p x := by
  obtain ⟨_, _, -, hx, -⟩ := h
  exact hx

/-- In a list that is in order, the first element with a property is the least one. -/
theorem isFirst_iff_of_pairwise {r : α → α → Prop} (order : xs.Pairwise r)
    (asymm : ∀ y z, r y z → ¬ r z y) :
    IsFirst p xs x ↔ x ∈ xs ∧ p x ∧ ∀ y ∈ xs, p y → y = x ∨ r x y := by
  constructor
  · intro first
    have mem := first.mem
    obtain ⟨before, after, rfl, hx, hbefore⟩ := first
    refine ⟨mem, hx, fun y hy hp => ?_⟩
    obtain hy | hy := List.mem_append.mp hy
    · exact absurd hp (hbefore y hy)
    · obtain rfl | hy := List.mem_cons.mp hy
      · exact .inl rfl
      · exact .inr ((List.pairwise_cons.mp (List.pairwise_append.mp order).2.1).1 y hy)
  · rintro ⟨hx, holds, least⟩
    obtain ⟨before, after, rfl⟩ := List.append_of_mem hx
    refine ⟨before, after, rfl, holds, fun y hy hp => ?_⟩
    have ahead : r y x := (List.pairwise_append.mp order).2.2 y hy x List.mem_cons_self
    obtain rfl | behind := least y (List.mem_append_left _ hy) hp
    · exact asymm y y ahead ahead
    · exact asymm y x ahead behind

namespace Text

theorem occursIn_iff {part cs : List Char} : occursIn part cs = true ↔ part <:+: cs := by
  induction cs with
  | nil => rw [occursIn, List.isEmpty_iff, List.infix_nil]
  | cons c cs ih =>
      rw [occursIn, Bool.or_eq_true, List.isPrefixOf_iff_prefix, ih, List.infix_cons_iff]

end Text

end BoardRig
