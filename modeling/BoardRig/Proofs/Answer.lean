/-
# `BoardRig.Proofs.Answer` — how a command answers

An answer is an action, with a report of its result or a remark on its error:
it succeeds just where the action does (`ofAction_eq_ok_iff`).  Whichever it is,
the answer tells the outcome of the action (`Answer.Tells`), and two answers one
after the other tell the outcome of two actions in sequence
(`Answer.Tells.thenAnswer`).
-/
import BoardRig.Answer.Recoveries
import BoardRig.Proofs.Conduct.Sequence

namespace BoardRig

variable {σ α β : Type}

theorem Answer.ofAction_eq_ok_iff {remark : String} {act : Action σ α} {report : α → Report}
    {w w' : σ} {r : Report} :
    ofAction remark act report w = (.ok r, w') ↔ ∃ a, act w = (.ok a, w') ∧ report a = r := by
  rw [ofAction]
  rcases act w with ⟨e | a, w₁⟩
  · exact ⟨fun h => (nomatch h), fun ⟨_, h, _⟩ => (nomatch h)⟩
  · constructor
    · intro h
      cases h
      exact ⟨a, rfl, rfl⟩
    · rintro ⟨b, h, rfl⟩
      cases h
      rfl

/-- An answer tells the outcome of an operation, with remarks on its error. -/
inductive Told : Except Error α → Except Failure Report → Prop where
  | ok {a : α} {report : Report} : Told (.ok a) (.ok report)
  | error {e : Error} {contexts : List String} : Told (.error e) (.error ⟨.operation e, contexts⟩)

/-- The calls of an operation, with an answer that tells its outcome. -/
def Conduct.told (P : Conduct σ (Except Error α)) : Conduct σ (Except Failure Report) :=
  fun es r => ∃ outcome, P es outcome ∧ Told outcome r

namespace Answer

/-- The answer tells the outcome of the operation, and is given where that ends. -/
def Tells (answer : Answer σ) (act : Action σ α) : Prop :=
  ∀ s, Told (act s).1 (answer s).1 ∧ (answer s).2 = (act s).2

theorem Tells.of_ofAction (remark : String) (act : Action σ α) (report : α → Report) :
    Tells (ofAction remark act report) act := by
  intro s
  rw [ofAction]
  rcases act s with ⟨e | a, s'⟩
  · exact ⟨.error, rfl⟩
  · exact ⟨.ok, rfl⟩

theorem Tells.thenAnswer {first next : Answer σ} {x : Action σ α} {y : Action σ β}
    (h : Tells first x) (h' : Tells next y) :
    Tells (thenAnswer first next) (x >>= fun _ => y) := by
  intro s
  obtain ⟨told, left⟩ := h s
  rw [Answer.thenAnswer, Action.bind_apply]
  rcases hx : x s with ⟨r, s₁⟩
  rcases hfirst : first s with ⟨r', s₁'⟩
  rw [hx, hfirst] at told left
  obtain rfl : s₁' = s₁ := left
  cases told with
  | error => exact ⟨.error, rfl⟩
  | ok =>
      obtain ⟨told', left'⟩ := h' s₁'
      rcases hy : y s₁' with ⟨outcome, s₂⟩
      rcases hnext : next s₁' with ⟨answered, s₂'⟩
      rw [hy, hnext] at told' left'
      simp only [hy, hnext]
      cases told' with
      | error => exact ⟨.error, left'⟩
      | ok => exact ⟨.ok, left'⟩

end Answer

end BoardRig
