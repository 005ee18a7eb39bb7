/-
# `BoardRig.Proofs.Recovery.Ending` — the calls of a run decide on its error

A recovery ends for one of four reasons, and the calls show which one it is
(`Ends`): the last use of the probe's tool had no success, what was looked for
did not appear, a call on a file failed, or nothing of the kind happened.  What
comes first has to give no reason (`Clear`), and then the rest decides
(`Ends.append`, `Conduct.Accounted.andThen`).

So the kind of the error can be read off the calls, and the other way round
(`Exact`).
-/
import BoardRig.Proofs.Recovery.Awaited
import BoardRig.Proofs.Recovery.Deployment

namespace BoardRig

variable {σ α β : Type}

/-! ## Reasons to fail

Three questions to the calls: how the last use of the tool ended, what a call on a
file failed with, and whether what was looked for has appeared. -/

namespace Event

/-- What a use of the probe's tool came to, if the call is one. Bytes that could
not be handed over are a use without success. -/
def toolResult? : Event σ → Option CommandResult
  | .probe _ _ answer => some (Probe.resultOf answer)
  | .scratch _ _ (.error e) => some (.failed ("cannot write scratch file: " ++ e.text))
  | _ => none

def fileFault? : Event σ → Option IoError
  | .openSource _ _ (.error e) => some e
  | .create _ _ (.error e) => some e
  | .contents _ _ (.error e) => some e
  | .append _ _ _ (.error e) => some e
  | .sync _ _ (.error e) => some e
  | _ => none

variable {e : Event σ}

theorem toolResult?_eq_none (h : e.channel ≠ .probe ∧ e.channel ≠ .scratch) :
    e.toolResult? = none := by
  cases e <;> first | rfl | simp [channel] at h

theorem fileFault?_eq_none (h : e.channel ≠ .files) : e.fileFault? = none := by
  cases e <;> first | rfl | exact absurd rfl h

end Event

/-- What the last use of the probe's tool came to. -/
def lastTool (es : List (Event σ)) : Option CommandResult :=
  (es.filterMap Event.toolResult?).getLast?

theorem lastTool_append (es es' : List (Event σ)) :
    lastTool (es ++ es') = (lastTool es').or (lastTool es) := by
  rw [lastTool, List.filterMap_append, List.getLast?_append]
  rfl

theorem lastTool_eq_none {es : List (Event σ)} (h : ∀ e ∈ es, e.toolResult? = none) :
    lastTool es = none := by
  rw [lastTool, List.filterMap_eq_nil_iff.mpr h]
  rfl

/-- The last use of the tool, if there was one, had success. -/
def ToolWell (es : List (Event σ)) : Prop :=
  ∀ result, lastTool es = some result → result.success = true

def FilesWell (es : List (Event σ)) : Prop :=
  ∀ e ∈ es, e.fileFault? = none

/-- What was looked for, if anything was, has appeared. -/
def Seen (Appears : Event σ → Prop) (es : List (Event σ)) : Prop :=
  (∃ e ∈ es, e.Looks) → ∃ e ∈ es, Appears e

/-- Something was looked for, and never appeared. -/
def Missed (Appears : Event σ → Prop) (es : List (Event σ)) : Prop :=
  (∃ e ∈ es, e.Looks) ∧ ∀ e ∈ es, ¬ Appears e

/-- The calls give no reason to fail. -/
structure Clear (Appears : Event σ → Prop) (es : List (Event σ)) : Prop where
  tool : ToolWell es
  files : FilesWell es
  seen : Seen Appears es

section Well

variable {Appears : Event σ → Prop} {es es' : List (Event σ)}

theorem toolWell_of_untooled (h : ∀ e ∈ es, e.toolResult? = none) : ToolWell es := by
  intro result hlast
  rw [lastTool_eq_none h] at hlast
  cases hlast

theorem ToolWell.append (h : ToolWell es) (h' : ToolWell es') : ToolWell (es ++ es') := by
  intro result hlast
  rw [lastTool_append] at hlast
  cases hlast' : lastTool es' with
  | none =>
      rw [hlast', Option.none_or] at hlast
      exact h result hlast
  | some result' =>
      rw [hlast', Option.some_or] at hlast
      exact h' result (hlast'.trans hlast)

theorem FilesWell.append (h : FilesWell es) (h' : FilesWell es') : FilesWell (es ++ es') :=
  List.forall_mem_append.mpr ⟨h, h'⟩

theorem seen_of_unlooked (h : ∀ e ∈ es, ¬ e.Looks) : Seen Appears es :=
  fun ⟨e, he, looks⟩ => absurd looks (h e he)

theorem Seen.append (h : Seen Appears es) (h' : Seen Appears es') : Seen Appears (es ++ es') := by
  rintro ⟨e, he, looks⟩
  obtain he | he := List.mem_append.mp he
  · obtain ⟨e, he, appears⟩ := h ⟨e, he, looks⟩
    exact ⟨e, List.mem_append_left _ he, appears⟩
  · obtain ⟨e, he, appears⟩ := h' ⟨e, he, looks⟩
    exact ⟨e, List.mem_append_right _ he, appears⟩

theorem Clear.append (h : Clear Appears es) (h' : Clear Appears es') : Clear Appears (es ++ es') :=
  ⟨h.tool.append h'.tool, h.files.append h'.files, h.seen.append h'.seen⟩

end Well

/-! ## Endings

The constructors of `Ends` exclude each other, so the calls decide which one it is.
Calls that give no reason may be put in front of any ending. -/

/-- How the calls of a run, with the tool that has this name, go with its outcome. -/
inductive Ends (program : String) (Appears : Event σ → Prop) :
    List (Event σ) → Except Error α → Prop where
  | well {es : List (Event σ)} {a : α} (clear : Clear Appears es) :
      Ends program Appears es (.ok a)
  | tool {es : List (Event σ)} {step : String} {result : CommandResult}
      (last : lastTool es = some result) (failure : result.success = false)
      (files : FilesWell es) (seen : Seen Appears es) :
      Ends program Appears es
        (.error (.commandFailed (program ++ " " ++ step) result.combined))
  | unseen {es : List (Event σ)} {text : String} (tool : ToolWell es) (files : FilesWell es)
      (missed : Missed Appears es) :
      Ends program Appears es (.error (.deviceNotFound text))
  | fault {es : List (Event σ)} {e : Event σ} {cause : IoError} (tool : ToolWell (es ++ [e]))
      (files : FilesWell es) (fault : e.fileFault? = some cause) (seen : Seen Appears (es ++ [e])) :
      Ends program Appears (es ++ [e]) (.error (.io cause))
  /-- No run lives to see a search without end. -/
  | endless {es : List (Event σ)} (clear : Clear Appears es) :
      Ends program Appears es (.error .unending)

namespace Ends

variable {program : String} {Appears : Event σ → Prop} {es es' : List (Event σ)}

theorem clear {a : α} (h : Ends program Appears es (.ok a)) : Clear Appears es := by
  cases h with
  | well clear => exact clear

theorem of_error {e : Error} (h : Ends program Appears es (.error e : Except Error α)) :
    Ends program Appears es (.error e : Except Error β) := by
  cases h with
  | tool last failure files seen => exact .tool last failure files seen
  | unseen tool files missed => exact .unseen tool files missed
  | fault tool files fault seen => exact .fault tool files fault seen
  | endless clear => exact .endless clear

/-- Calls that give no reason to fail come first, and only one of both parts looks
for anything. -/
theorem append {r : Except Error α} (first : Clear Appears es) (rest : Ends program Appears es' r)
    (once : (∀ e ∈ es, ¬ Appears e) ∨ ∀ e ∈ es', ¬ e.Looks) :
    Ends program Appears (es ++ es') r := by
  cases rest with
  | well clear => exact .well (first.append clear)
  | tool last failure files seen =>
      refine .tool ?_ failure (first.files.append files) (first.seen.append seen)
      rw [lastTool_append, last, Option.some_or]
  | unseen tool files missed =>
      obtain ⟨⟨e, he, looks⟩, vain⟩ := missed
      obtain unrevealed | unlooked := once
      · exact .unseen (first.tool.append tool) (first.files.append files)
          ⟨⟨e, List.mem_append_right _ he, looks⟩, List.forall_mem_append.mpr ⟨unrevealed, vain⟩⟩
      · exact absurd looks (unlooked e he)
  | fault tool files fault seen =>
      rw [← List.append_assoc]
      refine .fault ?_ (first.files.append files) fault ?_
      · rw [List.append_assoc]
        exact first.tool.append tool
      · rw [List.append_assoc]
        exact first.seen.append seen
  | endless clear => exact .endless (first.append clear)

end Ends

namespace Conduct

/-- In all runs the calls go with the outcome. -/
def Accounted (program : String) (Appears : Event σ → Prop) (P : Conduct σ (Except Error α)) :
    Prop :=
  ∀ es r, P es r → Ends program Appears es r

namespace Accounted

variable {program : String} {Appears : Event σ → Prop} {P : Conduct σ (Except Error α)}
  {Q : α → Conduct σ (Except Error β)}

theorem yields (a : α) :
    Accounted program Appears (Conduct.yields (.ok a) : Conduct σ (Except Error α)) := by
  rintro es r ⟨rfl, rfl⟩
  exact .well ⟨toolWell_of_untooled (by simp), fun e he => absurd he List.not_mem_nil,
    seen_of_unlooked (by simp)⟩

theorem andThen (h : Accounted program Appears P) (h' : ∀ a, Accounted program Appears (Q a))
    (once : Within (fun e => ¬ Appears e) P ∨ ∀ a, Within (fun e => ¬ e.Looks) (Q a)) :
    Accounted program Appears (P.andThen Q) := by
  rintro es r (first | ⟨first, rest⟩)
  · exact (h _ _ first).of_error
  · refine .append (h _ _ first).clear (h' _ _ _ rest) ?_
    exact once.imp (fun hP => hP _ _ first) fun hQ => hQ _ _ _ rest

theorem discarded (h : Accounted program Appears P) : Accounted program Appears P.discarded := by
  rintro es r ⟨r', hP, rfl⟩
  cases r' with
  | ok a => exact .well (h _ _ hP).clear
  | error e => exact (h _ _ hP).of_error

end Accounted

end Conduct

/-! ## Searches and tools -/

section Kinds

variable {program : String} {Appears : Event σ → Prop} {es : List (Event σ)}

section Tool

variable (calls : ∀ e ∈ es, e.channel = .probe ∨ e.channel = .scratch ∨ e.channel = .clock)

include calls

theorem not_files_of_tool : ∀ e ∈ es, e.channel ≠ .files := by
  intro e he h
  have hcall := calls e he
  rw [h] at hcall
  simp at hcall

theorem filesWell_of_tool : FilesWell es :=
  fun e he => Event.fileFault?_eq_none (not_files_of_tool calls e he)

theorem seen_of_tool : Seen Appears es := by
  refine seen_of_unlooked fun e he => ?_
  have hcall := calls e he
  rintro (looks | looks) <;> rw [looks] at hcall <;> simp at hcall

/-- Where the calls do nothing but use the tool and pause, its last use decides. -/
theorem clear_of_tool {result : CommandResult} (last : lastTool es = some result)
    (success : result.success = true) : Clear Appears es := by
  refine ⟨fun result' h => ?_, filesWell_of_tool calls, seen_of_tool calls⟩
  cases last.symm.trans h
  exact success

theorem Ends.of_failed_tool {result : CommandResult} (last : lastTool es = some result)
    (failure : result.success = false) (step : String) :
    Ends program Appears es
      (.error (.commandFailed (program ++ " " ++ step) result.combined) : Except Error α) :=
  .tool last failure (filesWell_of_tool calls) (seen_of_tool calls)

end Tool

theorem clear_of_files (calls : ∀ e ∈ es, e.channel = .files ∨ e.channel = .clock)
    (files : FilesWell es) : Clear Appears es := by
  refine ⟨toolWell_of_untooled fun e he => ?_, files, seen_of_unlooked fun e he => ?_⟩
  · obtain h | h := calls e he <;> exact Event.toolResult?_eq_none (by simp [h])
  · rintro (looks | looks) <;> have h := calls e he <;> rw [looks] at h <;> simp at h

theorem clear_of_call {e : Event σ} (call : e.channel = .files ∨ e.channel = .clock)
    (well : e.fileFault? = none) : Clear Appears [e] :=
  clear_of_files (List.forall_mem_singleton.mpr call) (List.forall_mem_singleton.mpr well)

theorem Ends.of_fault {e : Event σ} {cause : IoError} (fault : e.fileFault? = some cause)
    (call : e.channel = .files) :
    Ends program Appears [e] (.error (.io cause) : Except Error α) := by
  have untooled : e.toolResult? = none := Event.toolResult?_eq_none (by simp [call])
  have unlooked : ¬ e.Looks := by
    rintro (looks | looks) <;> rw [call] at looks <;> cases looks
  rw [← List.nil_append [e]]
  exact .fault (toolWell_of_untooled (List.forall_mem_singleton.mpr untooled))
    (fun e he => absurd he List.not_mem_nil) fault
    (seen_of_unlooked (List.forall_mem_singleton.mpr unlooked))

section Search

variable {clock : Clock σ} {interval timeout : Duration} {Pass : Conduct σ (Option α)}
  {missing : Error} {r : Except Error α}

theorem Reveals.passes (reveals : Reveals Appears Pass) (h : Passes clock Pass missing es r) :
    (∃ a, r = .ok a ∧ ∃ e ∈ es, Appears e) ∨ r = .error missing ∧ Missed Appears es := by
  induction h with
  | found last => exact .inl ⟨_, rfl, reveals.found _ _ last⟩
  | missed last =>
      obtain ⟨some, looks⟩ := reveals.looks _ _ last
      obtain ⟨e, he⟩ := List.exists_mem_of_ne_nil _ some
      exact .inr ⟨rfl, ⟨e, he, looks e he⟩, reveals.vain _ last⟩
  | @again es es' d r vain _ ih =>
      obtain ⟨a, rfl, e, he, appears⟩ | ⟨rfl, ⟨e, he, looks⟩, hrest⟩ := ih
      · exact .inl ⟨a, rfl, e, List.mem_append_right _ (List.mem_cons_of_mem _ he), appears⟩
      · have hmem := List.mem_append_right es (List.mem_cons_of_mem (.sleep clock d) he)
        have pause : ¬ Appears (.sleep clock d) := fun appears => by
          simpa [Event.Looks, Event.channel] using reveals.appears _ appears
        exact .inr ⟨rfl, ⟨e, hmem, looks⟩, List.forall_mem_append.mpr
          ⟨reveals.vain _ vain, List.forall_mem_cons.mpr ⟨pause, hrest⟩⟩⟩

theorem Reveals.accounted {text : String} (reveals : Reveals Appears Pass) :
    Conduct.Accounted program Appears
      (Search clock interval timeout Pass (.deviceNotFound text)) := by
  intro es r h
  have calls : ∀ e ∈ es, e.Looks ∨ e.channel = .clock :=
    Conduct.Within.search (fun es found pass e he => .inl ((reveals.looks es found pass).2 e he))
      (fun _ => .inr rfl) (fun _ => .inr rfl) es r h
  have tool : ToolWell es := toolWell_of_untooled fun e he =>
    Event.toolResult?_eq_none (by obtain (h | h) | h := calls e he <;> simp [h])
  have files : FilesWell es := fun e he =>
    Event.fileFault?_eq_none (by obtain (h | h) | h := calls e he <;> simp [h])
  cases h with
  | ended passes =>
      obtain ⟨a, rfl, appears⟩ | ⟨rfl, missed⟩ := reveals.passes passes
      · exact .well ⟨tool, files, fun _ => appears⟩
      · exact .unseen tool files missed
  | endless =>
      refine .endless ⟨tool, files, seen_of_unlooked ?_⟩
      exact List.forall_mem_singleton.mpr (by simp [Event.Looks, Event.channel])

end Search

end Kinds

namespace Awaited

variable (sought : Awaited σ)

theorem accounted {program : String} :
    Conduct.Accounted program sought.Appears sought.Lookup := by
  obtain ⟨text, missing⟩ := sought.missing_eq
  rw [Lookup, missing]
  exact sought.reveals.accounted

theorem lookup_untouched : sought.Lookup.Within fun e => e.channel ≠ .files := by
  refine .search (fun es found pass e he => ?_) (fun _ => by simp [Event.channel])
    fun _ => by simp [Event.channel]
  obtain h | h := (sought.reveals.looks es found pass).2 e he <;> simp [h]

end Awaited

/-! ## Reading the error off the calls

Each kind of error has its ending, and the other way round.  From that it follows
when an operation that awaits something reports that it is missing. -/

namespace Error

/-- The kinds of errors that the calls of a recovery lead to. A search without
end never gets to one. -/
def OfCall : Error → Prop
  | .commandFailed _ _ | .deviceNotFound _ | .io _ | .unending => True
  | _ => False

/-- The kinds of errors that no recovery ends with. -/
def Foreign : Error → Prop
  | .timeout _ | .parse _ | .json | .serial _ | .config _ => True
  | _ => False

theorem not_foreign_of_ofCall {e : Error} (h : e.OfCall) : ¬ e.Foreign := by
  cases e <;> simp [OfCall, Foreign] at h ⊢

end Error

/-- What an operation sets out to do, as far as its errors depend on it. -/
structure Aim (σ : Type) where
  /-- The name of the probe's tool. -/
  program : String
  /-- What is awaited, if anything is. -/
  awaited : Option (Awaited σ) := none
  /-- Why nothing is done at all, if there is a reason. -/
  refusal : Option Error := none
  /-- Whether files are opened and written. -/
  deploys : Bool := false

/-- Where nothing is awaited, whatever is looked for counts as there. -/
def Aim.Shown (aim : Aim σ) : Event σ → Prop :=
  aim.awaited.elim (fun _ => True) Awaited.Appears

/-- The kind of the error can be read off the calls of a run, and the other way
round. -/
structure Exact (aim : Aim σ) (es : List (Event σ)) (r : Except Error α) : Prop where
  /-- What is refused is refused before anything is done. -/
  refused : ∀ e, aim.refusal = some e → es = [] ∧ r = .error e
  /-- A command has failed just if the last one that was run had no success, could
  not be started or did not end in time. -/
  command : (∃ text output, r = .error (.commandFailed text output)) ↔
    ∃ result, lastTool es = some result ∧ result.success = false
  /-- The error shows the step that failed, and what the command had to say. -/
  told : ∀ text output, r = .error (.commandFailed text output) →
    (∃ step, text = aim.program ++ " " ++ step) ∧
      ∃ result, lastTool es = some result ∧ result.combined = output
  /-- A device was not found just if it was awaited, and did not appear. -/
  device : (∃ text, r = .error (.deviceNotFound text)) ↔
    ∃ sought, aim.awaited = some sought ∧ Missed sought.Appears es
  file : ∀ cause, r = .error (.io cause) ↔ ∃ e ∈ es, e.fileFault? = some cause
  untouched : aim.deploys = false → ∀ e ∈ es, e.channel ≠ .files
  other : ∀ e, r = .error e → aim.refusal = some e ∨ e.OfCall
  never : ∀ e, r = .error e → ¬ e.Foreign

section Readings

variable {program : String} {Appears : Event σ → Prop} {es : List (Event σ)} {r : Except Error α}

theorem ToolWell.not_failed {result : CommandResult} (h : ToolWell es)
    (last : lastTool es = some result) : result.success ≠ false :=
  fun failure => absurd (h result last) (Bool.eq_false_iff.mp failure)

theorem Ends.command_iff (h : Ends program Appears es r) :
    (∃ text output, r = .error (.commandFailed text output)) ↔
      ∃ result, lastTool es = some result ∧ result.success = false := by
  have of_well : ToolWell es → (∀ text output, r ≠ .error (.commandFailed text output)) →
      ((∃ text output, r = .error (.commandFailed text output)) ↔
        ∃ result, lastTool es = some result ∧ result.success = false) := by
    intro tool hr
    refine ⟨fun ⟨text, output, h⟩ => absurd h (hr _ _), ?_⟩
    rintro ⟨result, last, failure⟩
    exact absurd failure (tool.not_failed last)
  cases h with
  | well clear => exact of_well clear.tool fun _ _ h => nomatch h
  | tool last failure => exact ⟨fun _ => ⟨_, last, failure⟩, fun _ => ⟨_, _, rfl⟩⟩
  | unseen tool => exact of_well tool fun _ _ h => nomatch h
  | fault tool => exact of_well tool fun _ _ h => nomatch h
  | endless clear => exact of_well clear.tool fun _ _ h => nomatch h

theorem Ends.told (h : Ends program Appears es r) {text output : String}
    (hr : r = .error (.commandFailed text output)) :
    (∃ step, text = program ++ " " ++ step) ∧
      ∃ result, lastTool es = some result ∧ result.combined = output := by
  cases h with
  | well => cases hr
  | @tool _ step result last =>
      obtain ⟨rfl, rfl⟩ := Error.commandFailed.inj (Except.error.inj hr)
      exact ⟨⟨step, rfl⟩, result, last, rfl⟩
  | unseen => cases hr
  | fault => cases hr
  | endless => cases hr

theorem Ends.device_iff (h : Ends program Appears es r) :
    (∃ text, r = .error (.deviceNotFound text)) ↔ Missed Appears es := by
  have of_seen : Seen Appears es → (∀ text, r ≠ .error (.deviceNotFound text)) →
      ((∃ text, r = .error (.deviceNotFound text)) ↔ Missed Appears es) := by
    intro seen hr
    refine ⟨fun ⟨text, h⟩ => absurd h (hr text), fun ⟨looked, vain⟩ => ?_⟩
    obtain ⟨e, he, appears⟩ := seen looked
    exact absurd appears (vain e he)
  cases h with
  | well clear => exact of_seen clear.seen fun _ h => nomatch h
  | tool _ _ _ seen => exact of_seen seen fun _ h => nomatch h
  | unseen _ _ missed => exact ⟨fun _ => missed, fun _ => ⟨_, rfl⟩⟩
  | fault _ _ _ seen => exact of_seen seen fun _ h => nomatch h
  | endless clear => exact of_seen clear.seen fun _ h => nomatch h

theorem Ends.file_iff (h : Ends program Appears es r) (cause : IoError) :
    r = .error (.io cause) ↔ ∃ e ∈ es, e.fileFault? = some cause := by
  have of_well : FilesWell es → r ≠ .error (.io cause) →
      (r = .error (.io cause) ↔ ∃ e ∈ es, e.fileFault? = some cause) := by
    refine fun files hr => ⟨fun h => absurd h hr, ?_⟩
    rintro ⟨e, he, fault⟩
    rw [files e he] at fault
    cases fault
  cases h with
  | well clear => exact of_well clear.files fun h => nomatch h
  | tool _ _ files => exact of_well files fun h => nomatch h
  | unseen _ files => exact of_well files fun h => nomatch h
  | @fault es e cause' _ files fault =>
      constructor
      · intro h
        cases h
        exact ⟨e, List.mem_append_right _ (List.mem_singleton_self e), fault⟩
      · rintro ⟨e', he', fault'⟩
        obtain he' | he' := List.mem_append.mp he'
        · rw [files e' he'] at fault'
          cases fault'
        · obtain rfl := List.mem_singleton.mp he'
          cases fault.symm.trans fault'
          rfl
  | endless clear => exact of_well clear.files fun h => nomatch h

theorem Ends.ofCall {e : Error} (h : Ends program Appears es (.error e : Except Error α)) :
    e.OfCall := by
  cases h <;> exact trivial

theorem Missed.iff_awaited {aim : Aim σ} :
    Missed aim.Shown es ↔ ∃ sought, aim.awaited = some sought ∧ Missed sought.Appears es := by
  rw [Aim.Shown]
  cases aim.awaited with
  | none =>
      refine ⟨fun ⟨⟨e, he, _⟩, vain⟩ => absurd trivial (vain e he), ?_⟩
      rintro ⟨sought, h, -⟩
      cases h
  | some sought =>
      refine ⟨fun h => ⟨sought, rfl, h⟩, ?_⟩
      rintro ⟨sought, ⟨⟩, h⟩
      exact h

theorem Exact.of_ends {aim : Aim σ} (h : Ends aim.program aim.Shown es r)
    (proceeds : aim.refusal = none)
    (untouched : aim.deploys = false → ∀ e ∈ es, e.channel ≠ .files) : Exact aim es r where
  refused e refusal := by
    rw [proceeds] at refusal
    cases refusal
  command := h.command_iff
  told _ _ := h.told
  device := h.device_iff.trans Missed.iff_awaited
  file := h.file_iff
  untouched := untouched
  other e hr := by
    subst hr
    exact .inr h.ofCall
  never e hr := by
    subst hr
    exact Error.not_foreign_of_ofCall h.ofCall

theorem Exact.of_refused {aim : Aim σ} {e : Error} (refusal : aim.refusal = some e)
    (other : ¬ e.OfCall) (never : ¬ e.Foreign) :
    Exact aim ([] : List (Event σ)) (.error e : Except Error α) where
  refused e' refusal' := by
    cases refusal.symm.trans refusal'
    exact ⟨rfl, rfl⟩
  command := by
    refine ⟨fun ⟨_, _, h⟩ => ?_, fun ⟨_, last, _⟩ => nomatch last⟩
    cases h
    exact absurd trivial other
  told _ _ h := by
    cases h
    exact absurd trivial other
  device := by
    refine ⟨fun ⟨_, h⟩ => ?_, fun ⟨_, _, ⟨_, he, _⟩, _⟩ => absurd he List.not_mem_nil⟩
    cases h
    exact absurd trivial other
  file _ := by
    refine ⟨fun h => ?_, fun ⟨_, he, _⟩ => absurd he List.not_mem_nil⟩
    cases h
    exact absurd trivial other
  untouched _ _ he := absurd he List.not_mem_nil
  other _ h := by
    cases h
    exact .inl refusal
  never _ h := by
    cases h
    exact never

end Readings

end BoardRig
