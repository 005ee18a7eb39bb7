/-
# `BoardRig.Proofs.Serial.Opened` — what a session keeps between calls

Bytes that were read and make up no character yet are kept for the next read.
Every call drains what it reads, so between calls this is never more than the
start of one character (`Opened.drained`), whatever calls were made and whatever
came of them.
-/
import BoardRig.Proofs.Poll.Course
import BoardRig.Proofs.Serial.Conversation
import BoardRig.Proofs.Serial.Talk
import BoardRig.Proofs.Text.Chunks

namespace BoardRig

variable {σ α : Type}

/-- No more is kept than the start of a character. -/
def Line.Drained (line : Line σ) : Prop :=
  Utf8.IsStart line.pending

theorem Line.Drained.receive_nothing {line : Line σ} {bytes : Bytes} (h : line.Drained) (s : σ)
    (nothing : bytes.length = 0) : Line.Drained ⟨s, line.pending ++ bytes⟩ := by
  rw [Line.Drained, List.eq_nil_of_length_eq_zero nothing, List.append_nil]
  exact h

namespace Session

/-- The text of bytes, without what is no character yet. -/
def textOf (bs : Bytes) : String :=
  String.ofList (Utf8.drain bs).1

/-- The bytes that a read brings; one that fails brings none. -/
def bytesOf {ε : Type} : Except ε Bytes → Bytes
  | .ok bytes => bytes
  | .error _ => []

/-- The lines of a session that was opened at some time, whatever was asked of it
and whatever has happened to the world since then. -/
inductive Opened (session : Session σ) : Line σ → Prop where
  | new (s : σ) : Opened session ⟨s, []⟩
  | called {line : Line σ} (before : Opened session line) (c : Call) :
      Opened session (session.call c line).2
  | meanwhile {line : Line σ} (before : Opened session line) (s : σ) :
      Opened session { line with world := s }

/-! ## Calls -/

theorem drained_onWorld (act : Action σ α) : Action.Keeps Line.Drained (onWorld act) :=
  fun _ h => h

theorem drained_readStep (session : Session σ) (text : String) :
    Action.Keeps Line.Drained (session.readStep text) := by
  intro line h
  rw [readStep_eq, receive_eq]
  rcases fetch session.port line.world with ⟨e | bytes, s⟩
  · exact h
  dsimp only
  split
  · next nothing => exact h.receive_nothing s nothing
  · exact (Utf8.drain_leaves _).1

theorem drained_readAvailable (session : Session σ) :
    Action.Keeps Line.Drained session.readAvailable :=
  Action.Keeps.loop session.drained_readStep ""

theorem drained_listen (session : Session σ) (expected : String) :
    Action.Keeps (fun l => l.line.Drained) (session.listen expected) := by
  intro l h
  simp only [listen, receive_eq]
  rcases fetch session.port l.line.world with ⟨e | bytes, s⟩
  · exact h
  dsimp only
  split
  · next nothing => exact h.receive_nothing s nothing
  · exact (Utf8.drain_leaves _).1

theorem drained_waitFor (session : Session σ) (expected : String) (timeout : Duration) :
    Action.Keeps Line.Drained (session.waitFor expected timeout) := by
  intro line h
  have pause : ∀ (d : Duration) (l : Listening σ), l.line.Drained →
      ((listeningClock session.clock).sleep d l).line.Drained := fun _ _ h => h
  have hwait := Poll.keeps_wait (session.drained_listen expected) pause readInterval timeout
    s!"'{expected}' on {session.port.name}" ⟨line, ""⟩ h
  rw [waitFor]
  generalize Poll.wait _ _ _ _ _ (⟨line, ""⟩ : Listening σ) = outcome at hwait
  rcases outcome with ⟨e | text, l⟩
  · cases e <;> exact hwait
  · exact hwait

theorem drained_call (session : Session σ) (c : Call) :
    Action.Keeps Line.Drained (session.call c) := by
  cases c with
  | writeLine command => exact .bind (drained_onWorld _) fun _ => .pure ""
  | sendCommand command settle =>
      exact .bind (drained_onWorld _) fun _ =>
        .bind (drained_onWorld _) fun _ => session.drained_readAvailable
  | readAvailable => exact session.drained_readAvailable
  | waitFor expected timeout => exact session.drained_waitFor expected timeout

theorem Opened.drained {session : Session σ} {line : Line σ} (h : session.Opened line) :
    line.Drained := by
  induction h with
  | new s => exact Utf8.isStart_nil
  | called _ c ih => exact session.drained_call c _ ih
  | meanwhile _ s ih => exact ih

end Session

end BoardRig
