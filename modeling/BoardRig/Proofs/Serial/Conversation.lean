/-
# `BoardRig.Proofs.Serial.Conversation` — calls on a session, one after another

A world can be made to hold more than an action looks at, such as a record of
what has happened.  An action of the richer world lifts one of the plain
world when it has the same outcome and does the same to the plain part
(`Lifts`).  Sequences, loops and waits of lifted actions are lifted in turn, so
what is shown of a run with a record is true of the run without it.

A conversation is a list of calls on one session, which ends with the first
call that fails.  If a session lifts another one (`Session.Lifts`), so does
every call on it, and with the calls every conversation
(`Session.Lifts.converse`): the bytes that wait to become characters are the
same, and the worlds agree wherever the port and the clock can look.
-/
import BoardRig.Poll
import BoardRig.Proofs.Loop
import BoardRig.Proofs.Outcome
import BoardRig.Serial.Session

namespace BoardRig

variable {σ τ α β : Type} {π : τ → σ}

/-- Seen through `π`, both actions do the same. -/
def Lifts (π : τ → σ) (rich : Action τ α) (plain : Action σ α) : Prop :=
  ∀ t, plain (π t) = ((rich t).1, π (rich t).2)

namespace Lifts

/-! ## Sequences

Lifting goes through sequences since the second part starts from matching worlds. -/

theorem pure (a : α) : Lifts π (Pure.pure a : Action τ α) (Pure.pure a : Action σ α) :=
  fun _ => rfl

theorem bind {rich : Action τ α} {plain : Action σ α} {rich' : α → Action τ β}
    {plain' : α → Action σ β} (h : Lifts π rich plain) (h' : ∀ a, Lifts π (rich' a) (plain' a)) :
    Lifts π (rich >>= rich') (plain >>= plain') := by
  intro t
  rw [Action.bind_apply, Action.bind_apply, h t]
  rcases rich t with ⟨outcome, t'⟩
  cases outcome with
  | error e => rfl
  | ok a => exact h' a t'

theorem mapM {rich : α → Action τ β} {plain : α → Action σ β} (h : ∀ a, Lifts π (rich a) (plain a))
    (as : List α) : Lifts π (as.mapM rich) (as.mapM plain) := by
  induction as with
  | nil =>
      rw [List.mapM_nil, List.mapM_nil]
      exact pure []
  | cons a as ih =>
      rw [List.mapM_cons, List.mapM_cons]
      exact bind (h a) fun b => bind ih fun bs => pure (b :: bs)

/-- What the plain action does is all there is to see of what the richer one
does. -/
theorem exists_eq {rich : Action τ α} {plain : Action σ α} (h : Lifts π rich plain) {t : τ} {s' : σ}
    {r : Except Error α} (hs : plain (π t) = (r, s')) : ∃ t', rich t = (r, t') ∧ π t' = s' := by
  rw [h t] at hs
  cases hs
  exact ⟨_, rfl, rfl⟩

/-! ## Loops

A loop of lifted steps takes as many steps as the plain one, so one ends if the
other does. -/

variable {rich : β → Action τ (β ⊕ α)} {plain : β → Action σ (β ⊕ α)}

theorem loop?_eq_some (h : ∀ b, Lifts π (rich b) (plain b)) {b : β} {t t' : τ}
    {r : Except Error α} (hend : Action.loop? rich b t = some (r, t')) :
    Action.loop? plain b (π t) = some (r, π t') := by
  refine Action.loop?_induct (fun b t r t' => Action.loop? plain b (π t) = some (r, π t')) ?_ ?_ ?_
    hend
  · intro b t e t' hs
    exact Action.loop?_of_error (by rw [h b t, hs])
  · intro b t a t' hs
    exact Action.loop?_of_done (by rw [h b t, hs])
  · intro b t b' t' r t'' hs ih
    have hplain : plain b (π t) = (.ok (.inl b'), π t') := by rw [h b t, hs]
    rw [Action.loop?_of_again hplain]
    exact ih

theorem exists_loop?_eq_some (h : ∀ b, Lifts π (rich b) (plain b)) {b : β} {t : τ} {s' : σ}
    {r : Except Error α} (hend : Action.loop? plain b (π t) = some (r, s')) :
    ∃ end', Action.loop? rich b t = some end' := by
  refine Action.loop?_induct
    (fun b s _ _ => ∀ t, π t = s → ∃ end', Action.loop? rich b t = some end') ?_ ?_ ?_ hend t rfl
  · rintro b _ e s' hs t rfl
    obtain ⟨t', ht, -⟩ := (h b).exists_eq hs
    exact ⟨_, Action.loop?_of_error ht⟩
  · rintro b _ a s' hs t rfl
    obtain ⟨t', ht, -⟩ := (h b).exists_eq hs
    exact ⟨_, Action.loop?_of_done ht⟩
  · rintro b _ b' s' r s'' hs ih t rfl
    obtain ⟨t', ht, hπ⟩ := (h b).exists_eq hs
    rw [Action.loop?_of_again ht]
    exact ih t' hπ

theorem loop (h : ∀ b, Lifts π (rich b) (plain b)) (b : β) :
    Lifts π (Action.loop rich b) (Action.loop plain b) := by
  intro t
  rw [Action.loop, Action.loop]
  cases hrich : Action.loop? rich b t with
  | some end' => rw [loop?_eq_some h hrich, Option.getD_some, Option.getD_some]
  | none =>
      cases hplain : Action.loop? plain b (π t) with
      | none => rfl
      | some end' =>
          obtain ⟨end', hrich'⟩ := exists_loop?_eq_some h hplain
          rw [hrich] at hrich'
          cases hrich'

end Lifts

/-! ## Waits

Waiting reads the clock and lets time pass, so the clocks must match too. -/

/-- Seen through `π`, both clocks show and let pass the same time. -/
structure Clock.Lifts (π : τ → σ) (rich : Clock τ) (plain : Clock σ) : Prop where
  now : ∀ t, plain.now (π t) = rich.now t
  sleep : ∀ d t, plain.sleep d (π t) = π (rich.sleep d t)

namespace Clock.Lifts

variable {rich : Clock τ} {plain : Clock σ}

theorem pause (h : Clock.Lifts π rich plain) (d : Duration) :
    BoardRig.Lifts π (rich.pause d) (plain.pause d) := by
  intro t
  rw [Clock.pause, Clock.pause, Action.change, Action.change, h.sleep]

theorem round (h : Clock.Lifts π rich plain) {attempt : Action τ (Option α)}
    {attempt' : Action σ (Option α)} (ha : BoardRig.Lifts π attempt attempt') (interval : Duration)
    (deadline : Option Duration) (late : Error) :
    BoardRig.Lifts π (Poll.round rich interval deadline late attempt)
      (Poll.round plain interval deadline late attempt') := by
  intro t
  rw [Poll.round, Poll.round, ha t]
  rcases attempt t with ⟨outcome, t'⟩
  rcases outcome with e | ready
  · rfl
  · cases ready with
    | some a => rfl
    | none =>
        cases deadline with
        | none => simp only [h.sleep]
        | some d =>
            simp only [h.now, h.sleep]
            split <;> rfl

theorem wait (h : Clock.Lifts π rich plain) {attempt : Action τ (Option α)}
    {attempt' : Action σ (Option α)} (ha : BoardRig.Lifts π attempt attempt')
    (interval timeout : Duration) (what : String) :
    BoardRig.Lifts π (Poll.wait rich interval timeout what attempt)
      (Poll.wait plain interval timeout what attempt') := by
  intro t
  rw [Poll.wait, Poll.wait, h.now t]
  exact Lifts.loop (fun _ => h.round ha interval _ _) () t

end Clock.Lifts

end BoardRig

namespace BoardRig.Session

variable {σ τ α β : Type}

/-- A request to a session. -/
inductive Call where
  | writeLine (command : String)
  | sendCommand (command : String) (settle : Duration)
  | readAvailable
  | waitFor (expected : String) (timeout : Duration)
deriving DecidableEq, Repr

/-- Do what a call asks for, and yield the text that it returns. Writing a
line returns none. -/
def call (session : Session σ) : Call → Action (Line σ) String
  | .writeLine command => do
    onWorld (session.writeLine command)
    return ""
  | .sendCommand command settle => session.sendCommand command settle
  | .readAvailable => session.readAvailable
  | .waitFor expected timeout => session.waitFor expected timeout

/-- Make calls in turn, and yield the texts that they return. -/
def converse (session : Session σ) (calls : List Call) : Action (Line σ) (List String) :=
  calls.mapM session.call

end BoardRig.Session

namespace BoardRig

/-! ## Lines and listeners in a richer world -/

variable {σ τ α : Type}

/-- The line with what `π` shows of its world. -/
def Line.map (π : τ → σ) (line : Line τ) : Line σ :=
  ⟨π line.world, line.pending⟩

/-- The listener with what `π` shows of the world. -/
def Session.Listening.map (π : τ → σ) (l : Session.Listening τ) : Session.Listening σ :=
  ⟨l.line.map π, l.heard⟩

/-- Seen through `π`, the ports and the clocks of both sessions do the same. -/
structure Session.Lifts (π : τ → σ) (rich : Session τ) (plain : Session σ) : Prop where
  name : plain.port.name = rich.port.name
  waiting : BoardRig.Lifts π rich.port.waiting plain.port.waiting
  read : ∀ n t, plain.port.read n (π t) = ((rich.port.read n t).1, π (rich.port.read n t).2)
  write : ∀ bytes t,
    plain.port.write bytes (π t) = ((rich.port.write bytes t).1, π (rich.port.write bytes t).2)
  flush : ∀ t, plain.port.flush (π t) = ((rich.port.flush t).1, π (rich.port.flush t).2)
  clock : Clock.Lifts π rich.clock plain.clock

namespace Session.Lifts

variable {π : τ → σ} {rich : Session τ} {plain : Session σ}

theorem onWorld {act : Action τ α} {act' : Action σ α} (h : BoardRig.Lifts π act act') :
    BoardRig.Lifts (Line.map π) (Session.onWorld act) (Session.onWorld act') := by
  intro line
  rw [Session.onWorld, Session.onWorld, Line.map, h line.world]
  rfl

/-! ## Writing -/

section Writing

variable (write : ∀ bytes t,
    plain.port.write bytes (π t) = ((rich.port.write bytes t).1, π (rich.port.write bytes t).2))

include write

theorem writeStep (bytes : Bytes) :
    BoardRig.Lifts π (Session.writeStep rich.port bytes) (Session.writeStep plain.port bytes) := by
  intro t
  cases bytes with
  | nil => rfl
  | cons b bytes =>
      simp only [Session.writeStep, write]
      rcases rich.port.write (b :: bytes) t with ⟨outcome, t'⟩
      rcases outcome with e | n
      · dsimp only
        split <;> rfl
      · cases n <;> rfl

/-- A command is written in the same way if writing and flushing are the same,
whatever is to be read. -/
theorem writeLine
    (flush : ∀ t, plain.port.flush (π t) = ((rich.port.flush t).1, π (rich.port.flush t).2))
    (command : String) : BoardRig.Lifts π (rich.writeLine command) (plain.writeLine command) := by
  refine Lifts.bind (Lifts.loop (writeStep write) _) fun _ => ?_
  refine Lifts.bind (Lifts.loop (writeStep write) _) fun _ => ?_
  intro t
  simp only [onPort, flush]
  rcases rich.port.flush t with ⟨outcome, t'⟩
  cases outcome <;> rfl

end Writing

/-! ## Reading -/

theorem receive (h : Session.Lifts π rich plain) :
    BoardRig.Lifts (Line.map π) rich.receive plain.receive := by
  intro line
  simp only [Session.receive, Line.map, h.waiting line.world]
  rcases rich.port.waiting line.world with ⟨outcome, t⟩
  rcases outcome with e | waiting
  · rfl
  · simp only [h.read]
    rcases rich.port.read (askFor waiting) t with ⟨outcome, t'⟩
    rcases outcome with e | bytes
    · dsimp only
      split <;> rfl
    · rfl

theorem readAvailable (h : Session.Lifts π rich plain) :
    BoardRig.Lifts (Line.map π) rich.readAvailable plain.readAvailable := by
  refine Lifts.loop (fun text => ?_) ""
  refine Lifts.bind h.receive fun n => ?_
  split
  · exact Lifts.pure _
  · exact Lifts.bind (fun _ => rfl) fun more => Lifts.pure _

theorem sendCommand (h : Session.Lifts π rich plain) (command : String) (settle : Duration) :
    BoardRig.Lifts (Line.map π) (rich.sendCommand command settle)
      (plain.sendCommand command settle) := by
  refine Lifts.bind (onWorld (writeLine h.write h.flush command)) fun _ => ?_
  refine Lifts.bind (onWorld (h.clock.pause settle)) fun _ => ?_
  exact h.readAvailable

/-! ## Waiting for a text -/

theorem listeningClock (h : Session.Lifts π rich plain) :
    Clock.Lifts (Listening.map π) (Session.listeningClock rich.clock)
      (Session.listeningClock plain.clock) where
  now l := h.clock.now l.line.world
  sleep d l := by
    simp only [Session.listeningClock, Listening.map, Line.map, h.clock.sleep]

theorem listen (h : Session.Lifts π rich plain) (expected : String) :
    BoardRig.Lifts (Listening.map π) (rich.listen expected) (plain.listen expected) := by
  intro l
  simp only [Session.listen, Listening.map, h.receive l.line]
  rcases rich.receive l.line with ⟨outcome, line⟩
  cases outcome <;> rfl

theorem waitFor (h : Session.Lifts π rich plain) (expected : String) (timeout : Duration) :
    BoardRig.Lifts (Line.map π) (rich.waitFor expected timeout) (plain.waitFor expected timeout) := by
  intro line
  have hwait := h.listeningClock.wait (h.listen expected) readInterval timeout
    s!"'{expected}' on {rich.port.name}" ⟨line, ""⟩
  simp only [Session.waitFor, h.name]
  rw [Listening.map] at hwait
  rw [hwait]
  rcases Poll.wait (Session.listeningClock rich.clock) readInterval timeout _ (rich.listen expected)
    ⟨line, ""⟩ with ⟨outcome, l⟩
  cases outcome with
  | ok text => rfl
  | error e =>
      simp only [notSeen, h.name]
      cases e <;> rfl

/-! ## Conversations -/

theorem call (h : Session.Lifts π rich plain) (c : Call) :
    BoardRig.Lifts (Line.map π) (rich.call c) (plain.call c) := by
  cases c with
  | writeLine command => exact Lifts.bind (onWorld (writeLine h.write h.flush command)) fun _ => Lifts.pure ""
  | sendCommand command settle => exact h.sendCommand command settle
  | readAvailable => exact h.readAvailable
  | waitFor expected timeout => exact h.waitFor expected timeout

/-- Both sessions return the same texts and keep the same bytes, and seen
through `π` they leave the same world. -/
theorem converse (h : Session.Lifts π rich plain) (calls : List Call) :
    BoardRig.Lifts (Line.map π) (rich.converse calls) (plain.converse calls) :=
  Lifts.mapM h.call calls

end Session.Lifts

end BoardRig
