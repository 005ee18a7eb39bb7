/-
# `BoardRig.Proofs.Recovery.Tool` — runs of the probe's tool

Every operation of the probe is one run of its tool, or none if the bytes for
it cannot be handed over (`Probe.Run`, `Probe.Download`).  A run that the
runner fails to make counts as one without success (`Probe.resultOf`).
-/
import BoardRig.Proofs.Conduct.Sequence
import BoardRig.Recovery.Orchestrator

namespace BoardRig

variable {σ : Type}

namespace Probe

/-- The result that an answer of the runner counts as. -/
def resultOf : Except Error CommandResult → CommandResult
  | .ok result => result
  | .error e => .failed e.message

/-- What a command has to say: its output and its diagnostics, or why it could
not be run. -/
def outputOf : Except Error CommandResult → String
  | .ok result => result.stdout ++ result.stderr
  | .error e => e.message

theorem combined_resultOf (answer : Except Error CommandResult) :
    (resultOf answer).combined = outputOf answer := by
  cases answer with
  | ok result => rfl
  | error e => exact String.empty_append

/-- One run of the tool. -/
inductive Run (p : Probe σ) (i : Invocation) : List (Event σ) → CommandResult → Prop where
  | ran {answer : Except Error CommandResult} : Run p i [.probe p i answer] (resultOf answer)

/-- A scratch file with the bytes, a run of the tool that is given this file,
and no file any more. -/
inductive Download (p : Probe σ) (address : UInt32) (data : Bytes) :
    List (Event σ) → CommandResult → Prop where
  | unwritable {e : IoError} :
      Download p address data [.scratch p.files data (.error e)]
        (.failed ("cannot write scratch file: " ++ e.text))
  | ran {path : String} {answer : Except Error CommandResult} :
      Download p address data
        [.scratch p.files data (.ok path), .probe p (p.downloadCommand address path) answer,
          .discard p.files path] (resultOf answer)

theorem Download.channel {p : Probe σ} {address : UInt32} {data : Bytes} {es : List (Event σ)}
    {result : CommandResult} (h : Download p address data es result) :
    ∀ e ∈ es, e.channel = .probe ∨ e.channel = .scratch := by
  cases h <;> simp [Event.channel]

variable (p : Probe σ)

theorem execute_eq (i : Invocation) (s : σ) :
    p.execute i s = (resultOf (p.runner.run i s).1, (p.runner.run i s).2) := by
  rw [execute]
  rcases p.runner.run i s with ⟨e | result, s'⟩ <;> rfl

theorem shows_execute (i : Invocation) : Shows (p.execute i) (Run p i) := by
  intro s
  rw [execute_eq]
  exact ⟨[.probe p i (p.runner.run i s).1], .single rfl, .ran⟩

theorem programBinary_eq (address : UInt32) (data : Bytes) (s : σ) :
    p.programBinary address data s = match p.files.scratch data s with
      | (.error e, s') => (.failed ("cannot write scratch file: " ++ e.text), s')
      | (.ok path, s') => match p.execute (p.downloadCommand address path) s' with
        | (result, s'') => (result, (p.files.discard path s'').2) := by
  rw [programBinary]
  simp only [bind, StateT.bind]
  rcases p.files.scratch data s with ⟨e | path, s'⟩ <;> rfl

theorem shows_programBinary (address : UInt32) (data : Bytes) :
    Shows (p.programBinary address data) (Download p address data) := by
  intro s
  rw [programBinary_eq]
  rcases hscratch : p.files.scratch data s with ⟨e | path, s'⟩
  · exact ⟨[.scratch p.files data (.error e)], .single hscratch, .unwritable⟩
  · rcases hrun : p.execute (p.downloadCommand address path) s' with ⟨result, s''⟩
    obtain ⟨es, hleads, hran⟩ := (p.shows_execute _).of_eq hrun
    cases hran with
    | @ran answer =>
        have scratched : Leads s [.scratch p.files data (.ok path)] s' := .single hscratch
        have discarded : Leads s'' [.discard p.files path] (p.files.discard path s'').2 :=
          .single rfl
        simp only [hrun]
        exact ⟨_, scratched.append (hleads.append discarded), .ran⟩

/-! ### Time

Where neither the tool nor scratch files take time, only pauses and searches do. -/

/-- The clock stands still while the tool is run and is handed files. -/
structure Instant (p : Probe σ) (clock : Clock σ) : Prop where
  run : ∀ i s, clock.now (p.runner.run i s).2 = clock.now s
  scratch : ∀ bytes s, clock.now (p.files.scratch bytes s).2 = clock.now s
  discard : ∀ path s, clock.now (p.files.discard path s).2 = clock.now s

section Instant

variable {p} {clock : Clock σ} (instant : Instant p clock)

include instant

end Instant

end Probe

namespace Orchestrator

/-- A step with the probe's tool that has to succeed. -/
inductive Required (o : Orchestrator σ) (step : String) (P : Conduct σ CommandResult) :
    List (Event σ) → Except Error CommandResult → Prop where
  | succeeded {es : List (Event σ)} {result : CommandResult} (run : P es result)
      (success : result.success = true) : Required o step P es (.ok result)
  | failed {es : List (Event σ)} {result : CommandResult} (run : P es result)
      (failure : result.success = false) :
      Required o step P es
        (.error (.commandFailed (o.probe.program ++ " " ++ step) result.combined))

theorem shows_require (o : Orchestrator σ) (step : String) {act : StateM σ CommandResult}
    {P : Conduct σ CommandResult} (h : Shows act P) :
    Shows (o.require step act) (Required o step P) := by
  intro s
  rcases hact : act s with ⟨result, s'⟩
  obtain ⟨es, hleads, hrun⟩ := h.of_eq hact
  rw [require, hact]
  dsimp only [CommandResult.checked]
  cases hresult : result.success with
  | true => exact ⟨es, hleads, .succeeded hrun hresult⟩
  | false => exact ⟨es, hleads, .failed hrun hresult⟩

end Orchestrator

end BoardRig
