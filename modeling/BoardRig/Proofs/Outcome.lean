/-
# `BoardRig.Proofs.Outcome` — how sequences come to an end

What follows a step is reached only if the step succeeded.  So a sequence of
two steps succeeds when both do (`bind_eq_ok_iff`), and checking every
element of a list succeeds when each check does (`mapM_eq_ok_iff`).  For
actions, the second step starts from the world that the first one left
(`Action.bind_apply`), and a sequence leaves as it is what both steps do
(`Action.Keeps`).
-/
import BoardRig.Error
import Mathlib.Data.List.Forall2

namespace BoardRig

variable {ε α β : Type}

theorem bind_eq_ok_iff {x : Except ε α} {f : α → Except ε β} {b : β} :
    x >>= f = .ok b ↔ ∃ a, x = .ok a ∧ f a = .ok b := by
  cases x with
  | error e => exact ⟨fun h => (nomatch h), fun ⟨_, h, _⟩ => (nomatch h)⟩
  | ok a =>
      refine ⟨fun h => ⟨a, rfl, h⟩, ?_⟩
      rintro ⟨a', h, h'⟩
      cases h
      exact h'

theorem mapM_eq_ok_iff {f : α → Except ε β} {xs : List α} {ys : List β} :
    xs.mapM f = .ok ys ↔ List.Forall₂ (fun x y => f x = .ok y) xs ys := by
  induction xs generalizing ys with
  | nil =>
      rw [List.mapM_nil, List.forall₂_nil_left_iff]
      exact ⟨fun h => (Except.ok.inj h).symm, fun h => h ▸ rfl⟩
  | cons x xs ih =>
      simp only [List.mapM_cons, bind_eq_ok_iff, List.forall₂_cons_left_iff, ih]
      constructor
      · rintro ⟨y, hx, rest, hxs, h⟩
        exact ⟨y, rest, hx, hxs, (Except.ok.inj h).symm⟩
      · rintro ⟨y, rest, hx, hxs, rfl⟩
        exact ⟨y, hx, rest, hxs, rfl⟩

/-! ## Actions

An action may change the world before it fails, so what a sequence does is told
from the world that its first part left. -/

namespace Action

variable {σ : Type}

theorem discard_eq_bind (x : Action σ α) : discard x = x >>= fun _ => pure () := by
  rw [Functor.discard, map_const, Function.comp_apply, bind_pure_comp]

theorem bind_apply (x : Action σ α) (f : α → Action σ β) (s : σ) :
    (x >>= f) s = match x s with
      | (.ok a, s') => f a s'
      | (.error e, s') => (.error e, s') := by
  rcases h : x s with ⟨r, s'⟩
  simp only [bind, ExceptT.bind, ExceptT.mk, StateT.bind, h]
  cases r <;> rfl

theorem discard_bind_apply (x : Action σ α) (f : Unit → Action σ β) (s : σ) :
    (discard x >>= f) s = match x s with
      | (.ok _, s') => f () s'
      | (.error e, s') => (.error e, s') := by
  rw [discard_eq_bind, bind_assoc, bind_apply]
  rcases x s with ⟨e | a, s'⟩ <;> rfl

theorem bind_eq_ok_iff {x : Action σ α} {f : α → Action σ β} {b : β} {s s'' : σ} :
    (x >>= f) s = (.ok b, s'') ↔ ∃ a s', x s = (.ok a, s') ∧ f a s' = (.ok b, s'') := by
  rw [bind_apply]
  rcases x s with ⟨r, s'⟩
  cases r with
  | error e => exact ⟨fun h => (nomatch h), fun ⟨_, _, h, _⟩ => (nomatch h)⟩
  | ok a =>
      refine ⟨fun h => ⟨a, s', rfl, h⟩, ?_⟩
      rintro ⟨a', s₁, h, h'⟩
      cases h
      exact h'

theorem total_eq_ok_iff {act : StateM σ α} {a : α} {s s' : σ} :
    total act s = (.ok a, s') ↔ act s = (a, s') := by
  rw [total]
  rcases act s with ⟨b, s₁⟩
  constructor <;> intro h <;> cases h <;> rfl

theorem total_ne_error {act : StateM σ α} {e : Error} {s s' : σ} :
    total act s ≠ (.error e, s') := by
  rw [total]
  rcases act s with ⟨b, s₁⟩
  exact fun h => nomatch h

/-- The action leaves a property of the world as it is, whatever comes of it. -/
def Keeps (I : σ → Prop) (act : Action σ α) : Prop :=
  ∀ s, I s → I (act s).2

namespace Keeps

variable {I : σ → Prop}

theorem pure (a : α) : Keeps I (Pure.pure a : Action σ α) :=
  fun _ h => h

theorem bind {x : Action σ α} {f : α → Action σ β} (h : Keeps I x) (h' : ∀ a, Keeps I (f a)) :
    Keeps I (x >>= f) := by
  intro s start
  have first := h s start
  rw [bind_apply]
  rcases hx : x s with ⟨e | a, s'⟩ <;> rw [hx] at first
  · exact first
  · exact h' a s' first

end Keeps

end Action

end BoardRig
