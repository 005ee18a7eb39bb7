/-
# `BoardRig.Proofs.Conduct.Sequence` — calls, and what a program may do step by step

A program acts on its surroundings through a handful of means: tools, ports,
files, the storage of the machine and a clock.  An `Event` is one call on one
of them, together with the answer.  Some calls lead from one world to another
(`Leads`) when each has its answer in the world that the one before it left.

Nothing is said about how the means behave.  In particular they may keep a log
of what is asked of them, and then the calls are what is added to that log
(`Leads.log_eq`).  So a list of calls that leads to the end of a run, in every
world and with every means, is the list of the calls that the run makes.

A program may also go on for ever.  No list has all the calls that it makes then,
and `Event.endless` stands for them.  It leads somewhere only from a world in
which there are such calls (`Leads.of_endless`), so it is no way out for a program
that might have come to an end.

A `Conduct` says which calls a program may make, together with what it yields.
A program shows a conduct when every run of it makes calls of that conduct,
and these lead from the world in which the run begins to the one in which it
ends (`Shows`).  Each way of putting programs together has a rule: in a
sequence the second step follows only where the first one succeeded
(`Conduct.andThen`, `Shows.bind`), and a loop shows what its steps show, one
after another (`Conduct.repeated`, `Shows.loop`).
-/
import BoardRig.Bench
import BoardRig.Proofs.Loop
import BoardRig.Proofs.Outcome

namespace BoardRig

variable {σ ρ α β : Type}

/-! ## Calls

An event holds the function that was called and the answer, so whether it happened
can be asked of the world that it was called in. -/

/-- The ways out of a program. -/
inductive Channel where
  | probe
  | utility
  | clock
  | storage
  | usb
  | serial
  /-- Files that a tool is handed. -/
  | scratch
  | files
deriving DecidableEq

/-- A call on something outside of the program, with the answer, or calls that go
on for ever. -/
inductive Event (σ : Type) where
  /-- The tool of the debug probe is run. -/
  | probe (p : Probe σ) (i : Invocation) (answer : Except Error CommandResult)
  /-- The upload utility is run for a port. -/
  | utility (c : UploadClient σ) (port : String) (args : List String)
      (answer : Except Error CommandResult)
  | sleep (clock : Clock σ) (d : Duration)
  | mountTable (source : StorageSource σ) (answer : Except Error String)
  | blockDevices (source : StorageSource σ) (answer : Except Error (List BlockDevice))
  | mount (source : StorageSource σ) (device : BlockDevice) (answer : Except Error Unit)
  | candidates (source : UsbSource σ) (answer : List String)
  | identity (source : UsbSource σ) (port : String) (answer : Except IoError UsbIdentity)
  | connect (opener : Opener σ) (config : SerialConfig) (answer : Except Error (Port σ))
  | waiting (port : Port σ) (answer : Except Error Nat)
  | read (port : Port σ) (limit : Nat) (answer : Except IoError Bytes)
  | write (port : Port σ) (bytes : Bytes) (answer : Except IoError Nat)
  | flush (port : Port σ) (answer : Except IoError Unit)
  | scratch (files : Files σ) (bytes : Bytes) (answer : Except IoError String)
  | discard (files : Files σ) (path : String)
  | openSource (files : Files σ) (path : String) (answer : Except IoError Nat)
  | create (files : Files σ) (path : String) (answer : Except IoError Nat)
  | contents (files : Files σ) (file : Nat) (answer : Except IoError Bytes)
  | append (files : Files σ) (file : Nat) (bytes : Bytes) (answer : Except IoError Unit)
  | sync (files : Files σ) (file : Nat) (answer : Except IoError Unit)
  /-- Calls without end on one of the ways out. They go on for ever from the
  worlds that `lasts` holds of. -/
  | endless (way : Channel) (lasts : σ → Prop)

namespace Event

/-- The way that a call takes. -/
def channel : Event σ → Channel
  | probe .. => .probe
  | utility .. => .utility
  | sleep .. => .clock
  | mountTable .. | blockDevices .. | mount .. => .storage
  | candidates .. | identity .. => .usb
  | connect .. | waiting .. | read .. | write .. | flush .. => .serial
  | scratch .. | discard .. => .scratch
  | openSource .. | create .. | contents .. | append .. | sync .. => .files
  | endless way _ => way

/-- In world `s` the call has its answer, and it leaves world `s'`. There is no
world behind calls without end, and the one in which they began stands for it. -/
def Happens : Event σ → σ → σ → Prop
  | probe p i answer, s, s' => p.runner.run i s = (answer, s')
  | utility c port args answer, s, s' => c.run port args s = (answer, s')
  | sleep clock d, s, s' => clock.sleep d s = s'
  | mountTable source answer, s, s' => source.mountTable s = (answer, s')
  | blockDevices source answer, s, s' => source.blockDevices s = (answer, s')
  | mount source device answer, s, s' => source.mount device s = (answer, s')
  | candidates source answer, s, s' => source.candidates s = (answer, s')
  | identity source port answer, s, s' => source.identityOf port s = (answer, s')
  | connect opener config answer, s, s' => opener.connect config s = (answer, s')
  | waiting port answer, s, s' => port.waiting s = (answer, s')
  | read port limit answer, s, s' => port.read limit s = (answer, s')
  | write port bytes answer, s, s' => port.write bytes s = (answer, s')
  | flush port answer, s, s' => port.flush s = (answer, s')
  | scratch files bytes answer, s, s' => files.scratch bytes s = (answer, s')
  | discard files path, s, s' => files.discard path s = ((), s')
  | openSource files path answer, s, s' => files.openSource path s = (answer, s')
  | create files path answer, s, s' => files.create path s = (answer, s')
  | contents files file answer, s, s' => files.contents file s = (answer, s')
  | append files file bytes answer, s, s' => files.append file bytes s = (answer, s')
  | sync files file answer, s, s' => files.sync file s = (answer, s')
  | endless _ lasts, s, s' => lasts s ∧ s' = s

/-- Whatever comes of the call, it leaves what is looked at as it is. -/
def Keeps {ν : Type} (look : σ → ν) (e : Event σ) : Prop :=
  ∀ s s', e.Happens s s' → look s' = look s

theorem keeps_of_act {ν ρ : Type} {look : σ → ν} {act : σ → ρ × σ} {answer : ρ} {e : Event σ}
    (happens : ∀ s s', e.Happens s s' → act s = (answer, s'))
    (kept : ∀ s, look (act s).2 = look s) : e.Keeps look := by
  intro s s' h
  rw [← kept s, happens s s' h]

end Event

/-- The calls, one after another from world `s`, end in world `s'`. -/
inductive Leads : σ → List (Event σ) → σ → Prop where
  | nowhere {s : σ} : Leads s [] s
  | call {s s' s'' : σ} {e : Event σ} {es : List (Event σ)} (first : e.Happens s s')
      (rest : Leads s' es s'') : Leads s (e :: es) s''

namespace Leads

variable {s s' s'' : σ} {e : Event σ} {es es' : List (Event σ)}

theorem single (h : e.Happens s s') : Leads s [e] s' :=
  .call h .nowhere

theorem sleep (clock : Clock σ) (d : Duration) (s : σ) :
    Leads s [.sleep clock d] (clock.sleep d s) :=
  single rfl

theorem endless {way : Channel} {lasts : σ → Prop} (h : lasts s) :
    Leads s [.endless way lasts] s :=
  single ⟨h, rfl⟩

theorem append (h : Leads s es s') (h' : Leads s' es' s'') : Leads s (es ++ es') s'' := by
  induction h with
  | nowhere => exact h'
  | call first _ ih => exact .call first (ih h')

theorem of_append (h : Leads s (es ++ es') s'') : ∃ s', Leads s es s' ∧ Leads s' es' s'' := by
  induction es generalizing s with
  | nil => exact ⟨s, .nowhere, h⟩
  | cons e es ih =>
      cases h with
      | call first rest =>
          obtain ⟨s', hes, hes'⟩ := ih rest
          exact ⟨s', .call first hes, hes'⟩

theorem of_endless {way : Channel} {lasts : σ → Prop} (h : Leads s [.endless way lasts] s') :
    lasts s ∧ s' = s := by
  cases h with
  | call here rest =>
      cases rest
      exact here

/-- A log to which each of the calls adds its notes has the notes of all of them
added. -/
theorem log_eq {ν : Type} {log : σ → List ν} {notes : Event σ → List ν}
    (noted : ∀ e ∈ es, ∀ s s', e.Happens s s' → log s' = log s ++ notes e) (h : Leads s es s') :
    log s' = log s ++ es.flatMap notes := by
  induction h with
  | nowhere => exact (List.append_nil _).symm
  | call first _ ih =>
      rw [ih fun e he => noted e (List.mem_cons_of_mem _ he), noted _ List.mem_cons_self _ _ first,
        List.flatMap_cons, List.append_assoc]

theorem keeps {ν : Type} {look : σ → ν} (each : ∀ e ∈ es, e.Keeps look) (h : Leads s es s') :
    look s' = look s := by
  induction h with
  | nowhere => rfl
  | call first _ ih =>
      rw [ih fun e he => each e (List.mem_cons_of_mem _ he), each _ List.mem_cons_self _ _ first]

end Leads

/-! ## Conducts

A conduct is a relation between calls and what is yielded.  Plans are put together
from single calls by the same three means as programs: a value without a call, one
step after another, and a loop. -/

/-- Which calls a program may make, together with what it yields. -/
abbrev Conduct (σ ρ : Type) := List (Event σ) → ρ → Prop

namespace Conduct

/-- One call, whose answer is the result. -/
def one (e : ρ → Event σ) : Conduct σ ρ := fun es r => es = [e r]

/-- No call, and a result that is known already. -/
def yields (r : ρ) : Conduct σ ρ := fun es r' => es = [] ∧ r' = r

def pauses (clock : Clock σ) (d : Duration) : Conduct σ (Except Error Unit) :=
  fun es r => es = [.sleep clock d] ∧ r = .ok ()

/-- A conduct of what cannot fail, as one of an action. -/
def total (P : Conduct σ α) : Conduct σ (Except Error α) := fun es r => ∃ a, P es a ∧ r = .ok a

/-- A conduct of what fails with a failure of input or output, as one of an
action. -/
def io (P : Conduct σ (Except IoError α)) : Conduct σ (Except Error α) :=
  fun es r => ∃ answer, P es answer ∧ r = answer.mapError .io

/-- A step whose result is left aside. -/
def discarded (P : Conduct σ (Except Error α)) : Conduct σ (Except Error Unit) :=
  fun es r => ∃ r', P es r' ∧ r = r'.map fun _ => ()

/-- A first step, and then one that depends on what the first one yielded. A
first step that fails is the last one. -/
inductive andThen (P : Conduct σ (Except Error α)) (Q : α → Conduct σ (Except Error β)) :
    List (Event σ) → Except Error β → Prop where
  | stops {es : List (Event σ)} {e : Error} (first : P es (.error e)) : andThen P Q es (.error e)
  | goesOn {es es' : List (Event σ)} {a : α} {r : Except Error β} (first : P es (.ok a))
      (rest : Q a es' r) : andThen P Q (es ++ es') r

/-- From world `s` the steps of a loop ask for one more again and again. -/
def Unending (P : β → Conduct σ (Except Error (β ⊕ α))) (b : β) (s : σ) : Prop :=
  Forever (fun x x' => ∃ es, Leads x.2 es x'.2 ∧ P x.1 es (.ok (.inl x'.1))) (b, s)

/-- Steps on one of the ways out, until one of them yields a result or fails, or
for ever. -/
inductive repeated (way : Channel) (P : β → Conduct σ (Except Error (β ⊕ α))) :
    β → List (Event σ) → Except Error α → Prop where
  | fails {b : β} {es : List (Event σ)} {e : Error} (last : P b es (.error e)) :
      repeated way P b es (.error e)
  | done {b : β} {es : List (Event σ)} {a : α} (last : P b es (.ok (.inr a))) :
      repeated way P b es (.ok a)
  | again {b b' : β} {es es' : List (Event σ)} {r : Except Error α} (step : P b es (.ok (.inl b')))
      (rest : repeated way P b' es' r) : repeated way P b (es ++ es') r
  | endless {b : β} : repeated way P b [.endless way (Unending P b)] (.error .unending)

section andThen

variable {clock : Clock σ} {d : Duration} {P : Conduct σ α} {Q : α → Conduct σ (Except Error β)}
  {es : List (Event σ)} {r : Except Error β}

theorem andThen.of_total (h : P.total.andThen Q es r) :
    ∃ es₁ a es₂, es = es₁ ++ es₂ ∧ P es₁ a ∧ Q a es₂ r := by
  cases h with
  | stops first => obtain ⟨a, -, h⟩ := first; cases h
  | goesOn first rest =>
      obtain ⟨a, hP, h⟩ := first
      cases h
      exact ⟨_, _, _, rfl, hP, rest⟩

theorem andThen.of_pauses {Q : Unit → Conduct σ (Except Error β)}
    (h : (pauses clock d).andThen Q es r) : ∃ es', es = .sleep clock d :: es' ∧ Q () es' r := by
  cases h with
  | stops first => cases first.2
  | goesOn first rest => exact ⟨_, congrArg (· ++ _) first.1, rest⟩

theorem andThen.of_io {e : Except IoError α → Event σ} (h : (one e).io.andThen Q es r) :
    (∃ cause, es = [e (.error cause)] ∧ r = .error (.io cause)) ∨
      ∃ a es', es = e (.ok a) :: es' ∧ Q a es' r := by
  cases h with
  | stops first =>
      obtain ⟨answer, rfl, h⟩ := first
      cases answer with
      | ok a => cases h
      | error cause =>
          cases h
          exact .inl ⟨cause, rfl, rfl⟩
  | goesOn first rest =>
      obtain ⟨answer, rfl, h⟩ := first
      cases answer with
      | error cause => cases h
      | ok a =>
          cases h
          exact .inr ⟨_, _, rfl, rest⟩

end andThen

end Conduct

/-- Every run makes calls of the conduct, and these lead to where it ends. -/
def Shows (act : σ → ρ × σ) (P : Conduct σ ρ) : Prop :=
  ∀ s, ∃ es, Leads s es (act s).2 ∧ P es (act s).1

namespace Shows

theorem of_eq {act : σ → ρ × σ} {P : Conduct σ ρ} {s s' : σ} {r : ρ} (h : Shows act P)
    (hact : act s = (r, s')) : ∃ es, Leads s es s' ∧ P es r := by
  have hrun := h s
  rw [hact] at hrun
  exact hrun

theorem mono {act : σ → ρ × σ} {P Q : Conduct σ ρ} (h : Shows act P)
    (weaker : ∀ es r, P es r → Q es r) : Shows act Q := by
  intro s
  obtain ⟨es, hleads, hP⟩ := h s
  exact ⟨es, hleads, weaker es _ hP⟩

/-! ## Single calls -/

theorem one (e : ρ → Event σ) {act : σ → ρ × σ}
    (h : ∀ s, (e (act s).1).Happens s (act s).2) : Shows act (Conduct.one e) :=
  fun s => ⟨[e (act s).1], .single (h s), rfl⟩

theorem pause (clock : Clock σ) (d : Duration) :
    Shows (clock.pause d) (Conduct.pauses clock d) :=
  fun s => ⟨[.sleep clock d], .sleep clock d s, rfl, rfl⟩

theorem total {act : StateM σ α} {P : Conduct σ α} (h : Shows act P) :
    Shows (Action.total act) P.total := by
  intro s
  obtain ⟨es, hleads, hP⟩ := h s
  exact ⟨es, hleads, (act s).1, hP, rfl⟩

theorem io {act : StateM σ (Except IoError α)} {P : Conduct σ (Except IoError α)}
    (h : Shows act P) : Shows (Action.ofIo act) P.io := by
  intro s
  rcases hact : act s with ⟨answer, s'⟩
  obtain ⟨es, hleads, hP⟩ := h.of_eq hact
  rw [Action.ofIo, hact]
  cases answer <;> exact ⟨es, hleads, _, hP, rfl⟩

/-! ## Sequences

The rules for a sequence follow the cases of `Conduct.andThen`: a step that fails
ends it, and the world that the first step left is the one the second starts in. -/

theorem pure (a : α) : Shows (Pure.pure a : Action σ α) (Conduct.yields (.ok a)) :=
  fun _ => ⟨[], .nowhere, rfl, rfl⟩

theorem throw (e : Error) : Shows (throw e : Action σ α) (Conduct.yields (.error e)) :=
  fun _ => ⟨[], .nowhere, rfl, rfl⟩

theorem ofExcept (r : Except Error α) :
    Shows (Action.ofExcept r : Action σ α) (Conduct.yields r) := by
  cases r with
  | ok a => exact pure a
  | error e => exact throw e

theorem bind {x : Action σ α} {f : α → Action σ β} {P : Conduct σ (Except Error α)}
    {Q : α → Conduct σ (Except Error β)} (h : Shows x P) (h' : ∀ a, Shows (f a) (Q a)) :
    Shows (x >>= f) (P.andThen Q) := by
  intro s
  rcases hx : x s with ⟨r, s'⟩
  obtain ⟨es, hleads, hP⟩ := h.of_eq hx
  rw [Action.bind_apply, hx]
  cases r with
  | error e => exact ⟨es, hleads, .stops hP⟩
  | ok a =>
      obtain ⟨es', hleads', hQ⟩ := h' a s'
      exact ⟨es ++ es', hleads.append hleads', .goesOn hP hQ⟩

theorem bind_discard {x : Action σ α} {f : Unit → Action σ β} {P : Conduct σ (Except Error α)}
    {Q : Conduct σ (Except Error β)} (h : Shows x P) (h' : Shows (f ()) Q) :
    Shows (discard x >>= f) (P.andThen fun _ => Q) := by
  rw [Action.discard_eq_bind, bind_assoc]
  refine h.bind fun _ => ?_
  rw [pure_bind]
  exact h'

theorem discard {x : Action σ α} {P : Conduct σ (Except Error α)} (h : Shows x P) :
    Shows (discard x) P.discarded := by
  intro s
  rcases hx : x s with ⟨r, s'⟩
  obtain ⟨es, hleads, hP⟩ := h.of_eq hx
  rw [Action.discard_eq_bind, Action.bind_apply, hx]
  cases r <;> exact ⟨es, hleads, _, hP, rfl⟩

/-! ## Loops

A loop that ends is followed by induction over its turns, and one that does not is
the call `Event.endless`, with the turns that go on for ever as its reason. -/

theorem loop (way : Channel) {step : β → Action σ (β ⊕ α)}
    {P : β → Conduct σ (Except Error (β ⊕ α))} (h : ∀ b, Shows (step b) (P b)) (b : β) :
    Shows (Action.loop step b) (Conduct.repeated way P b) := by
  intro s
  rw [Action.loop]
  cases hend : Action.loop? step b s with
  | none =>
      have unending : Conduct.Unending P b s :=
        (Action.forever_of_loop?_eq_none hend).map id fun x x' hstep => (h x.1).of_eq hstep
      exact ⟨_, .endless unending, .endless⟩
  | some r =>
      refine Action.loop?_induct
        (fun b s r s' => ∃ es, Leads s es s' ∧ Conduct.repeated way P b es r) ?_ ?_ ?_ hend
      · intro b s e s' hs
        obtain ⟨es, hleads, hP⟩ := (h b).of_eq hs
        exact ⟨es, hleads, .fails hP⟩
      · intro b s a s' hs
        obtain ⟨es, hleads, hP⟩ := (h b).of_eq hs
        exact ⟨es, hleads, .done hP⟩
      · rintro b s b' s' r s'' hs ⟨es', hleads', hrest⟩
        obtain ⟨es, hleads, hP⟩ := (h b).of_eq hs
        exact ⟨es ++ es', hleads.append hleads', .again hP hrest⟩

end Shows

end BoardRig
