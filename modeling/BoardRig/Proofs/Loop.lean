/-
# `BoardRig.Proofs.Loop` — what a loop goes through

A loop is where its next step leads (`loop?_of_again`), and at its end when a
step yields a result or fails (`loop?_of_done`, `loop?_of_error`).  So the
end of a loop that ends has every property that the ends of last steps have
and that steps carry back (`loop?_induct`), while a loop has no end just where its
steps go on for ever (`loop?_eq_none`, `forever_of_loop?_eq_none`).  An invariant
of the steps is at hand when the last one is taken (`loop_ok`).
-/
import BoardRig.Loop
import BoardRig.Proofs.Outcome
import Mathlib.Logic.Function.Iterate
import Mathlib.Tactic.Choose

namespace BoardRig

/-! ## Turns without end

What goes on for ever is shown by an invariant that some turn carries on
(`Forever.of_invariant`).
-/

/-- Turn after turn, without end. -/
def Forever {τ : Type} (turn : τ → τ → Prop) (start : τ) : Prop :=
  ∃ course : Nat → τ, course 0 = start ∧ ∀ k, turn (course k) (course (k + 1))

namespace Forever

variable {τ τ' : Type} {turn : τ → τ → Prop} {turn' : τ' → τ' → Prop} {start : τ}

theorem of_invariant (I : τ → Prop) (goesOn : ∀ x, I x → ∃ x', turn x x' ∧ I x') (h : I start) :
    Forever turn start := by
  choose next hturn hnext using fun x : { x // I x } => goesOn x.1 x.2
  let after (x : { x // I x }) : { x // I x } := ⟨next x, hnext x⟩
  refine ⟨fun k => (after^[k] ⟨start, h⟩).1, rfl, fun k => ?_⟩
  dsimp only
  rw [Function.iterate_succ_apply']
  exact hturn _

theorem map (f : τ → τ') (weaker : ∀ x x', turn x x' → turn' (f x) (f x'))
    (h : Forever turn start) : Forever turn' (f start) := by
  obtain ⟨course, hstart, hturn⟩ := h
  exact ⟨fun k => f (course k), congrArg f hstart, fun k => weaker _ _ (hturn k)⟩

end Forever

namespace Action

variable {σ α β : Type} {step : β → Action σ (β ⊕ α)} {b b' : β} {s s' : σ}

/-! ## One step

A loop unfolds to its first step.  These are the only facts that look into its
definition, and everything below is made from them. -/

variable (step b s) in
theorem loop?_eq :
    loop? step b s = match step b s with
      | (.error e, s') => some (.error e, s')
      | (.ok (.inr a), s') => some (.ok a, s')
      | (.ok (.inl b'), s') => loop? step b' s' := by
  rw [loop?, Loop.run?]
  rfl

theorem loop?_of_error {e : Error} (h : step b s = (.error e, s')) :
    loop? step b s = some (.error e, s') := by
  rw [loop?_eq, h]

theorem loop?_of_done {a : α} (h : step b s = (.ok (.inr a), s')) :
    loop? step b s = some (.ok a, s') := by
  rw [loop?_eq, h]

theorem loop?_of_again (h : step b s = (.ok (.inl b'), s')) :
    loop? step b s = loop? step b' s' := by
  rw [loop?_eq, h]

theorem loop_of_loop? {r : Except Error α × σ} (h : loop? step b s = some r) :
    loop step b s = r := by
  rw [loop, h, Option.getD_some]

/-! ## All steps

Induction over the steps that a loop takes, first for ends in general and then for
invariants; and the two ways to tell that there is no end. -/

/-- What holds when a loop ends with a step, and holds before a step if it
holds after it, holds of every loop that ends. -/
theorem loop?_induct (P : β → σ → Except Error α → σ → Prop)
    (error : ∀ b s e s', step b s = (.error e, s') → P b s (.error e) s')
    (done : ∀ b s a s', step b s = (.ok (.inr a), s') → P b s (.ok a) s')
    (again : ∀ b s b' s' r s'', step b s = (.ok (.inl b'), s') → P b' s' r s'' → P b s r s'')
    {r : Except Error α} (h : loop? step b s = some (r, s')) : P b s r s' := by
  refine Loop.run?.partial_correctness ⟨step⟩ (fun b s end' => P b s end'.1 end'.2) ?_ b s (r, s') h
  intro rec ih b s end' heq
  dsimp only at heq
  cases hs : step b s with
  | mk outcome s₁ =>
      cases outcome with
      | error e =>
          rw [hs] at heq
          cases heq
          exact error b s e s₁ hs
      | ok next =>
          cases next with
          | inl b₁ =>
              rw [hs] at heq
              exact again b s b₁ s₁ _ _ hs (ih b₁ s₁ end' heq)
          | inr a =>
              rw [hs] at heq
              cases heq
              exact done b s a s₁ hs

/-- A loop that succeeds leaves what its last step makes of an invariant. -/
theorem loop_ok (I : β → σ → Prop) (Q : α → σ → Prop)
    (again : ∀ b s b' s', I b s → step b s = (.ok (.inl b'), s') → I b' s')
    (done : ∀ b s a s', I b s → step b s = (.ok (.inr a), s') → Q a s')
    (start : I b s) {a : α} (h : loop step b s = (.ok a, s')) : Q a s' := by
  rw [loop] at h
  cases hend : loop? step b s with
  | none =>
      rw [hend] at h
      cases h
  | some r =>
      rw [hend] at h
      obtain rfl : r = (.ok a, s') := h
      refine loop?_induct (fun b s r s' => I b s → ∀ a, r = .ok a → Q a s') ?_ ?_ ?_ hend start a
        rfl
      · rintro b s e s' - - a h
        cases h
      · rintro b s a s' hs hI a' h
        cases h
        exact done b s a s' hI hs
      · rintro b s b' s' r s'' hs ih hI
        exact ih (again b s b' s' hI hs)

/-- What all the steps leave as it is, a loop leaves, with an end or without. -/
theorem Keeps.loop {I : σ → Prop} (h : ∀ b, Keeps I (step b)) (b : β) :
    Keeps I (Action.loop step b) := by
  intro s start
  rw [Action.loop]
  cases hend : loop? step b s with
  | none => exact start
  | some r =>
      have one {b s x s'} (hs : step b s = (x, s')) (hI : I s) : I s' := by
        have hkept := h b s hI
        rw [hs] at hkept
        exact hkept
      refine loop?_induct (fun _ s _ s' => I s → I s') ?_ ?_ ?_ hend start
      · intro b s e s' hs
        exact one hs
      · intro b s a s' hs
        exact one hs
      · intro b s b' s' r s'' hs ih hI
        exact ih (one hs hI)

theorem loop?_of_steps (bs : Nat → β) (ss : Nat → σ) {n : Nat}
    (h : ∀ k < n, step (bs k) (ss k) = (.ok (.inl (bs (k + 1))), ss (k + 1))) :
    loop? step (bs 0) (ss 0) = loop? step (bs n) (ss n) := by
  induction n with
  | zero => rfl
  | succ n ih =>
      rw [ih fun k hk => h k (Nat.lt_succ_of_lt hk)]
      exact loop?_of_again (h n (Nat.lt_succ_self n))

/-- A loop that always takes another step has no end. -/
theorem loop?_eq_none (bs : Nat → β) (ss : Nat → σ)
    (h : ∀ k, step (bs k) (ss k) = (.ok (.inl (bs (k + 1))), ss (k + 1))) :
    loop? step (bs 0) (ss 0) = none := by
  rw [Option.eq_none_iff_forall_not_mem]
  rintro ⟨r, s'⟩ hend
  -- No place of the sequence can be followed by an end.
  refine loop?_induct (fun b s _ _ => ∀ k, b = bs k → s ≠ ss k) ?_ ?_ ?_ hend 0 rfl rfl
  · rintro _ _ e s₁ hs k rfl rfl
    rw [h k] at hs
    cases hs
  · rintro _ _ a s₁ hs k rfl rfl
    rw [h k] at hs
    cases hs
  · rintro _ _ b₁ s₁ r s₂ hs ih k rfl rfl
    rw [h k] at hs
    cases hs
    exact ih (k + 1) rfl rfl

theorem forever_of_loop?_eq_none (h : loop? step b s = none) :
    Forever (fun x x' => step x.1 x.2 = (.ok (.inl x'.1), x'.2)) (b, s) := by
  refine .of_invariant (fun x => loop? step x.1 x.2 = none) ?_ h
  rintro ⟨b, s⟩ endless
  rcases hs : step b s with ⟨e | b' | a, s'⟩
  · exact nomatch endless.symm.trans (loop?_of_error hs)
  · exact ⟨(b', s'), rfl, (loop?_of_again hs).symm.trans endless⟩
  · exact nomatch endless.symm.trans (loop?_of_done hs)

end Action

end BoardRig
