/-
# `BoardRig.Proofs.Serial.Framing` — a command goes out whole, or the session is as before

A port takes what it is handed in pieces, as it likes.  Whatever the pieces
were, what it took so far and what is left make up the command and its end
(`Sending.taken_eq`), and writing goes on from there as if nothing had been
written yet (`written?_of_hands`).  So every run is at its end after the next
call that fails, with the failure of that call (`Unsent`), or after the flush
(`Sent`), and a port that takes at least a byte of what it is handed gets to
that flush (`exists_sending`).
-/
import BoardRig.Proofs.Serial.Stale

namespace BoardRig

variable {σ : Type}

/-! ## Ports with a log

A log of what the port was handed is all that is assumed, not how it chooses pieces. -/

/-- What goes out over a port. -/
inductive Signal where
  | byte (b : UInt8)
  | flush
deriving DecidableEq

/-- A log of what has gone out over a port: the bytes that it took, and where they were
handed on. -/
structure Port.Logs (port : Port σ) (log : σ → List Signal) : Prop where
  took : ∀ bytes s n s', port.write bytes s = (.ok n, s') →
    log s' = log s ++ (bytes.take n).map .byte
  refused : ∀ bytes s e s', port.write bytes s = (.error e, s') → log s' = log s
  flushed : ∀ s s', port.flush s = (.ok (), s') → log s' = log s ++ [.flush]
  stuck : ∀ s e s', port.flush s = (.error e, s') → log s' = log s
  waiting : ∀ s, log (port.waiting s).2 = log s
  read : ∀ limit s, log (port.read limit s).2 = log s

/-- A port that takes at least one byte of what it is handed, or asks to be asked again; that
it does only so often in a row. -/
def Port.Accepts (port : Port σ) (patience : σ → Nat) : Prop :=
  ∀ bytes s, bytes ≠ [] →
    (∃ n s', port.write bytes s = (.ok n, s') ∧ 0 < n ∧ n ≤ bytes.length) ∨
      ∃ e s', port.write bytes s = (.error e, s') ∧ e.kind = .interrupted ∧
        patience s' < patience s

namespace Session

variable {port : Port σ} {bytes left rest : Bytes} {es : List (Event σ)} {s s' : σ}

/-! ## Handing over some bytes

A beginning of the bytes was handed over, in whatever pieces. -/

/-- Calls that hand some bytes to a port, and the bytes that are left after them. -/
inductive Hands (port : Port σ) : (bytes : Bytes) → List (Event σ) → (left : Bytes) → Prop where
  | start {bytes : Bytes} : Hands port bytes [] bytes
  | took {bytes left : Bytes} {n : Nat} {es : List (Event σ)} (some : 0 < n)
      (atMost : n ≤ bytes.length) (later : Hands port (bytes.drop n) es left) :
      Hands port bytes (.write port bytes (.ok n) :: es) left
  | interrupted {bytes left : Bytes} {e : IoError} {es : List (Event σ)} (open' : bytes ≠ [])
      (kind : e.kind = .interrupted) (later : Hands port bytes es left) :
      Hands port bytes (.write port bytes (.error e) :: es) left

theorem Hands.taken_eq (h : Hands port bytes es left) : taken es ++ left = bytes := by
  induction h with
  | start => rfl
  | @took bytes left n es _ _ _ ih =>
      rw [taken, List.flatMap_cons, List.append_assoc]
      change bytes.take n ++ (taken es ++ left) = bytes
      rw [ih, List.take_append_drop]
  | interrupted _ _ _ ih => exact ih

theorem Hands.eq_write (h : Hands port bytes es left) :
    ∀ e ∈ es, ∃ bytes answer, e = .write port bytes answer := by
  induction h with
  | start => exact fun e he => absurd he List.not_mem_nil
  | took _ _ _ ih => exact List.forall_mem_cons.mpr ⟨⟨_, _, rfl⟩, ih⟩
  | interrupted _ _ _ ih => exact List.forall_mem_cons.mpr ⟨⟨_, _, rfl⟩, ih⟩

/-! ## Steps

One write, by its answers: some bytes were taken, none were, or it failed. -/

/-- Where writing some bytes ends, if it does. -/
abbrev written? (port : Port σ) (bytes : Bytes) (s : σ) : Option (Except Error Unit × σ) :=
  Action.loop? (writeStep port) bytes s

theorem written?_nil : written? port [] s = some (.ok (), s) :=
  Action.loop?_of_done rfl

section Step

variable (some : bytes ≠ [])

include some

theorem written?_of_took {n : Nat} (positive : 0 < n) (h : port.write bytes s = (.ok n, s')) :
    written? port bytes s = written? port (bytes.drop n) s' := by
  obtain ⟨b, bytes, rfl⟩ := List.exists_cons_of_ne_nil some
  obtain ⟨n, rfl⟩ := Nat.exists_eq_add_one_of_ne_zero positive.ne'
  exact Action.loop?_of_again (by simp only [writeStep, h])

theorem written?_of_interrupted {e : IoError} (kind : e.kind = .interrupted)
    (h : port.write bytes s = (.error e, s')) : written? port bytes s = written? port bytes s' := by
  obtain ⟨b, bytes, rfl⟩ := List.exists_cons_of_ne_nil some
  exact Action.loop?_of_again (by simp only [writeStep, h, if_pos kind])

theorem written?_of_failed {e : IoError} (kind : e.kind ≠ .interrupted)
    (h : port.write bytes s = (.error e, s')) :
    written? port bytes s = .some (.error (.io e), s') := by
  obtain ⟨b, bytes, rfl⟩ := List.exists_cons_of_ne_nil some
  exact Action.loop?_of_error (by simp only [writeStep, h, if_neg kind])

theorem written?_of_nothing (h : port.write bytes s = (.ok 0, s')) :
    written? port bytes s = .some (.error (.io .writeZero), s') := by
  obtain ⟨b, bytes, rfl⟩ := List.exists_cons_of_ne_nil some
  exact Action.loop?_of_error (by simp only [writeStep, h])

end Step

theorem written?_of_hands (h : Hands port bytes es left) (leads : Leads s es s') :
    written? port bytes s = written? port left s' := by
  induction h generalizing s with
  | start =>
      cases leads
      rfl
  | took some atMost _ ih =>
      cases leads with
      | call first later =>
          have nonempty := List.ne_nil_of_length_pos (Nat.lt_of_lt_of_le some atMost)
          rw [written?_of_took nonempty some first, ih later]
  | interrupted open' kind _ ih =>
      cases leads with
      | call first later => rw [written?_of_interrupted open' kind first, ih later]

/-- A port that takes something of what it is handed has all of it in the end. -/
theorem exists_hands {patience : σ → Nat} (accepts : port.Accepts patience) (bytes : Bytes)
    (s : σ) : ∃ es s', Leads s es s' ∧ Hands port bytes es [] := by
  by_cases none : bytes = []
  · subst none
    exact ⟨[], s, .nowhere, .start⟩
  obtain ⟨n, s₁, hwrite, some, atMost⟩ | ⟨e, s₁, hwrite, kind, sooner⟩ := accepts bytes s none
  · have shorter : (bytes.drop n).length < bytes.length := by
      rw [List.length_drop]
      omega
    obtain ⟨es, s', leads, hands⟩ := exists_hands accepts (bytes.drop n) s₁
    have first : Event.Happens (.write port bytes (.ok n)) s s₁ := hwrite
    exact ⟨_, s', .call first leads, .took some atMost hands⟩
  · obtain ⟨es, s', leads, hands⟩ := exists_hands accepts bytes s₁
    have first : Event.Happens (.write port bytes (.error e)) s s₁ := hwrite
    exact ⟨_, s', .call first leads, .interrupted none kind hands⟩
termination_by (bytes.length, patience s)

/-! ## Sending a command

First the command and then its end, so there are two stages and either may be under
way. -/

/-- Calls that send a part of a command: `left` is left of what is being written, its text or
its end, and `rest` comes behind that. -/
inductive Sending (port : Port σ) (command : String) :
    List (Event σ) → (left rest : Bytes) → Prop where
  | text {left : Bytes} {es : List (Event σ)}
      (hands : Hands port (Utf8.encodeString command) es left) :
      Sending port command es left lineEnd
  | ending {left : Bytes} {es es' : List (Event σ)}
      (whole : Hands port (Utf8.encodeString command) es [])
      (hands : Hands port lineEnd es' left) : Sending port command (es ++ es') left []

variable {session : Session σ} {command : String}

theorem Sending.taken_eq (h : Sending port command es left rest) :
    taken es ++ left ++ rest = Utf8.encodeString command ++ lineEnd := by
  cases h with
  | text hands => rw [hands.taken_eq]
  | ending whole hands =>
      rw [taken_append, List.append_assoc (taken _), hands.taken_eq, List.append_nil,
        ← whole.taken_eq, List.append_nil]

theorem Sending.eq_write (h : Sending port command es left rest) :
    ∀ e ∈ es, ∃ bytes answer, e = .write port bytes answer := by
  cases h with
  | text hands => exact hands.eq_write
  | ending whole hands => exact List.forall_mem_append.mpr ⟨whole.eq_write, hands.eq_write⟩

theorem exists_sending {patience : σ → Nat} (accepts : port.Accepts patience) (command : String)
    (s : σ) : ∃ es s', Leads s es s' ∧ Sending port command es [] [] := by
  obtain ⟨es, s₁, leads, whole⟩ := exists_hands accepts (Utf8.encodeString command) s
  obtain ⟨es', s₂, leads', hands⟩ := exists_hands accepts lineEnd s₁
  exact ⟨es ++ es', s₂, leads.append leads', .ending whole hands⟩

theorem writeAll_of_whole_hands (h : Hands port bytes es []) (leads : Leads s es s') :
    writeAll port bytes s = (.ok (), s') :=
  Action.loop_of_loop? ((written?_of_hands h leads).trans written?_nil)

theorem writeLine_of_error {e : Error} {s'' : σ} (h : Sending session.port command es left rest)
    (leads : Leads s es s') (failed : written? session.port left s' = some (.error e, s'')) :
    session.writeLine command s = (.error e, s'') := by
  rw [writeLine, Action.bind_apply]
  cases h with
  | text hands =>
      rw [writeAll, Action.loop_of_loop? ((written?_of_hands hands leads).trans failed)]
  | ending whole hands =>
      obtain ⟨s₁, leads, leads'⟩ := leads.of_append
      rw [writeAll_of_whole_hands whole leads]
      dsimp only
      rw [Action.bind_apply, writeAll,
        Action.loop_of_loop? ((written?_of_hands hands leads').trans failed)]

theorem writeLine_of_whole (h : Sending session.port command es [] []) (leads : Leads s es s') :
    session.writeLine command s = onPort session.port.flush s' := by
  cases h with
  | ending whole hands =>
      obtain ⟨s₁, leads, leads'⟩ := leads.of_append
      rw [writeLine, Action.bind_apply, writeAll_of_whole_hands whole leads]
      dsimp only
      rw [Action.bind_apply, writeAll_of_whole_hands hands leads']

/-! ## What a command leaves

A run is at one of its stages when a call fails, and what it leaves is told from
the stage. -/

/-- The calls that end the sending of a command before it was handed on, with the failure:
a write that fails or that takes nothing, and a flush that fails. -/
inductive Breaks (port : Port σ) (left rest : Bytes) : Event σ → IoError → Prop where
  | failed {cause : IoError} (open' : left ≠ []) (kind : cause.kind ≠ .interrupted) :
      Breaks port left rest (.write port left (.error cause)) cause
  | nothing (open' : left ≠ []) : Breaks port left rest (.write port left (.ok 0)) .writeZero
  | stuck {cause : IoError} (whole : left = []) (last : rest = []) :
      Breaks port left rest (.flush port (.error cause)) cause

/-- The command failed after the calls `sent`, in the world `s'`, and nothing but its output
has happened. -/
structure Unsent (session : Session σ) (command : String) (settle : Duration) (line : Line σ)
    (sent : List (Event σ)) (cause : IoError) (s' : σ) : Prop where
  written : session.writeLine command line.world = (.error (.io cause), s')
  /-- The bytes that the session keeps are as they were. -/
  replied : session.sendCommand command settle line = (.error (.io cause), ⟨s', line.pending⟩)
  log : ∀ log, session.port.Logs log → log s' = log line.world ++ (taken sent).map .byte
  /-- What is neither written nor flushed is as it was; the clock is, where these take no time. -/
  still : ∀ {ν : Type} (look : σ → ν), (∀ bytes s, look (session.port.write bytes s).2 = look s) →
    (∀ s, look (session.port.flush s).2 = look s) → look s' = look line.world
  /-- Nothing was read, and what waited to be read waits. -/
  input : ∀ b : Inbox σ, b.Serves session →
    b.taken s' = b.taken line.world ∧ b.waiting line.world <+: b.waiting s'
  /-- A later read begins with all that was there to be read before. -/
  heard : ∀ b : Inbox σ, b.Serves session → line.Drained → ∀ text line',
    session.readAvailable ⟨s', line.pending⟩ = (.ok text, line') →
      ∃ after, text = textOf (b.stale line ++ after)

/-- The command was handed on in the world `s'`, whole and once. -/
structure Sent (session : Session σ) (command : String) (settle : Duration) (line : Line σ)
    (s' : σ) : Prop where
  written : session.writeLine command line.world = (.ok (), s')
  replied : session.sendCommand command settle line
    = session.readAvailable ⟨session.clock.sleep settle s', line.pending⟩
  log : ∀ log, session.port.Logs log →
    log s' = log line.world ++ (Utf8.encodeString command ++ lineEnd).map .byte ++ [.flush]
  /-- Nothing goes out while the reply is awaited and read. -/
  once : ∀ log, session.port.Logs log → (∀ d s, log (session.clock.sleep d s) = log s) →
    log (session.sendCommand command settle line).2.world = log s'

theorem Sending.log_eq {log : σ → List Signal} (logs : port.Logs log)
    (h : Sending port command es left rest) (leads : Leads s es s') :
    log s' = log s ++ (taken es).map .byte := by
  have noted : ∀ e ∈ es, ∀ s s', e.Happens s s' → log s' = log s ++ (takenBy e).map .byte := by
    intro e he s s' happens
    obtain ⟨bytes, answer, rfl⟩ := h.eq_write e he
    cases answer with
    | ok n => exact logs.took bytes s n s' happens
    | error cause =>
        rw [logs.refused bytes s cause s' happens]
        exact (List.append_nil _).symm
  rw [leads.log_eq noted, taken, List.map_flatMap]

section Keeps

variable {ν : Type} {look : σ → ν}

theorem keeps_write {answer : Except IoError Nat}
    (write : ∀ bytes s, look (port.write bytes s).2 = look s) :
    Event.Keeps look (.write port bytes answer) :=
  Event.keeps_of_act (fun _ _ h => h) (write bytes)

theorem keeps_flush {answer : Except IoError Unit} (flush : ∀ s, look (port.flush s).2 = look s) :
    Event.Keeps look (.flush port answer) :=
  Event.keeps_of_act (fun _ _ h => h) flush

theorem Sending.keeps (h : Sending port command es left rest) (leads : Leads s es s')
    (write : ∀ bytes s, look (port.write bytes s).2 = look s) : look s' = look s := by
  refine leads.keeps fun e he => ?_
  obtain ⟨bytes, answer, rfl⟩ := h.eq_write e he
  exact keeps_write write

end Keeps

theorem writeLine_of_breaks {e : Event σ} {cause : IoError} {s'' : σ}
    (h : Sending session.port command es left rest) (leads : Leads s es s')
    (breaks : Breaks session.port left rest e cause) (happens : e.Happens s' s'') :
    session.writeLine command s = (.error (.io cause), s'') := by
  cases breaks with
  | failed open' kind => exact writeLine_of_error h leads (written?_of_failed open' kind happens)
  | nothing open' => exact writeLine_of_error h leads (written?_of_nothing open' happens)
  | stuck whole last =>
      subst whole last
      have flushed : session.port.flush s' = (.error cause, s'') := happens
      rw [writeLine_of_whole h leads, onPort, flushed]

theorem sendCommand_of_error {settle : Duration} {line : Line σ} {e : Error}
    (h : session.writeLine command line.world = (.error e, s')) :
    session.sendCommand command settle line = (.error e, ⟨s', line.pending⟩) := by
  rw [sendCommand, Action.bind_apply, onWorld, h]

theorem sendCommand_of_sent {settle : Duration} {line : Line σ}
    (h : session.writeLine command line.world = (.ok (), s')) :
    session.sendCommand command settle line
      = session.readAvailable ⟨session.clock.sleep settle s', line.pending⟩ := by
  rw [sendCommand, Action.bind_apply, onWorld, h]
  rfl

theorem Sending.unsent {settle : Duration} {line : Line σ} {e : Event σ} {cause : IoError}
    (h : Sending session.port command es left rest) (leads : Leads line.world es s)
    (breaks : Breaks session.port left rest e cause) (happens : e.Happens s s') :
    Unsent session command settle line es cause s' := by
  have written := writeLine_of_breaks h leads breaks happens
  refine ⟨written, sendCommand_of_error written, fun log logs => ?_, fun look write flush => ?_,
    fun b serves => ?_, fun b serves drained text line' read => ?_⟩
  · rw [← h.log_eq logs leads]
    cases breaks with
    | failed => exact logs.refused _ _ _ _ happens
    | nothing =>
        have none : log s' = log s ++ [] := logs.took _ _ _ _ happens
        rw [none, List.append_nil]
    | stuck => exact logs.stuck _ _ _ happens
  · rw [← h.keeps leads write]
    cases breaks with
    | failed => exact keeps_write write s s' happens
    | nothing => exact keeps_write write s s' happens
    | stuck => exact keeps_flush flush s s' happens
  · have gives := keeps_writeLine serves line.world command line.world (.refl b line.world)
    rw [written] at gives
    exact ⟨gives.1.trans (List.append_nil _), gives.2⟩
  · have gives := keeps_writeLine serves line.world command line.world (.refl b line.world)
    rw [written] at gives
    have drained : Line.Drained ⟨s', line.pending⟩ := drained
    obtain ⟨bytes, ⟨drains, -⟩, all⟩ := heard_readAvailable serves drained read
    obtain ⟨after, rfl⟩ := gives.2.trans all
    refine ⟨after, ?_⟩
    rw [textOf, Inbox.stale, List.append_assoc, drains, String.ofList_toList]

theorem Receives.eq_read {r : Except Error Bytes} (h : Receives port es r) :
    ∀ e ∈ es, (∃ answer, e = .waiting port answer) ∨
      ∃ limit answer, e = .read port limit answer := by
  cases h <;> simp

theorem Reading.keeps {ν : Type} {look : σ → ν} {pending : Bytes} {text : String}
    {r : Except Error String} (waiting : ∀ answer, (Event.waiting port answer).Keeps look)
    (read : ∀ limit answer, (Event.read port limit answer).Keeps look)
    (h : Reading port pending text es r) : ∀ e ∈ es, e.Keeps look := by
  have receives : ∀ {es r}, Receives port es r → ∀ e ∈ es, e.Keeps look := by
    intro es r h e he
    obtain ⟨answer, rfl⟩ | ⟨limit, answer, rfl⟩ := h.eq_read e he
    · exact waiting answer
    · exact read limit answer
  induction h with
  | failed last => exact receives last
  | done last => exact receives last
  | more received _ _ ih => exact List.forall_mem_append.mpr ⟨receives received, ih⟩
  | endless => exact List.forall_mem_singleton.mpr fun s s' h => congrArg look h.2

theorem Sending.sent {settle : Duration} {line : Line σ}
    (h : Sending session.port command es [] []) (leads : Leads line.world es s)
    (flushed : session.port.flush s = (.ok (), s')) :
    Sent session command settle line s' := by
  have written : session.writeLine command line.world = (.ok (), s') := by
    rw [writeLine_of_whole h leads, onPort, flushed]
  refine ⟨written, sendCommand_of_sent written, fun log logs => ?_, fun log logs sleep => ?_⟩
  · have whole := h.taken_eq
    rw [List.append_nil, List.append_nil] at whole
    rw [logs.flushed s s' flushed, h.log_eq logs leads, whole]
  · rw [sendCommand_of_sent written, ← sleep settle s']
    obtain ⟨es, leads, reading⟩ :=
      session.exists_reading ⟨session.clock.sleep settle s', line.pending⟩
    exact leads.keeps <| reading.keeps (fun _ => Event.keeps_of_act (fun _ _ h => h) logs.waiting)
      fun limit _ => Event.keeps_of_act (fun _ _ h => h) (logs.read limit)

/-- However a port cuts what it is handed, it gets the text of a command and then its end, in
order, and is flushed once. A port that takes something each time gets there. A command that
fails on the way has done nothing else, and leaves all that there is to be read. -/
theorem sendCommand_framed (session : Session σ) (command : String) (settle : Duration)
    (line : Line σ) :
    (∀ patience, session.port.Accepts patience →
      ∃ sent s, Leads line.world sent s ∧ Sending session.port command sent [] []) ∧
    ∀ sent left rest s, Leads line.world sent s → Sending session.port command sent left rest →
      taken sent ++ left ++ rest = Utf8.encodeString command ++ lineEnd ∧
      (∀ e cause s', Breaks session.port left rest e cause → e.Happens s s' →
        Unsent session command settle line sent cause s') ∧
      (left = [] → rest = [] → ∀ s', session.port.flush s = (.ok (), s') →
        Sent session command settle line s') := by
  refine ⟨fun patience accepts => exists_sending accepts command line.world,
    fun sent left rest s leads sending => ⟨sending.taken_eq, ?_, ?_⟩⟩
  · intro e cause s' breaks happens
    exact sending.unsent leads breaks happens
  · rintro rfl rfl s' flushed
    exact sending.sent leads flushed

/-- A device that takes few bytes at a time and asks to be asked again, as planned, and that
has one answer to a flush. -/
structure Reluctant where
  plan : List (Option Nat)
  answer : Except IoError Unit
  out : List Signal

/-- A session with such a device, which sends nothing. -/
def reluctant : Session Reluctant where
  port :=
    { name := "port"
      waiting := fun w => (.ok 0, w)
      read := fun _ w => (.error ⟨.timedOut, "silence"⟩, w)
      write := fun bytes w =>
        match w.plan with
        | none :: plan => (.error ⟨.interrupted, "again"⟩, { w with plan })
        | some n :: plan =>
          (.ok (min (n + 1) bytes.length),
            ⟨plan, w.answer, w.out ++ (bytes.take (min (n + 1) bytes.length)).map .byte⟩)
        | [] => (.ok bytes.length, { w with out := w.out ++ (bytes.take bytes.length).map .byte })
      flush := fun w =>
        match w.answer with
        | .ok () => (.ok (), { w with out := w.out ++ [.flush] })
        | .error e => (.error e, w) }
  clock := ⟨fun _ => 0, fun _ w => w⟩

theorem accepts_reluctant : reluctant.port.Accepts (·.plan.length) := by
  rintro bytes ⟨plan, answer, out⟩ some
  have positive := List.length_pos_iff.mpr some
  match plan with
  | [] => exact .inl ⟨_, _, rfl, positive, Nat.le_refl _⟩
  | .some n :: plan => exact .inl ⟨_, _, rfl, Nat.lt_min.mpr ⟨Nat.succ_pos n, positive⟩,
      Nat.min_le_right ..⟩
  | none :: plan => exact .inr ⟨_, _, rfl, rfl, Nat.lt_succ_self plan.length⟩

theorem logs_reluctant : reluctant.port.Logs Reluctant.out where
  took := by
    rintro bytes ⟨plan, answer, out⟩ n s' h
    match plan with
    | [] => cases h; rfl
    | some n :: plan => cases h; rfl
    | none :: plan => cases h
  refused := by
    rintro bytes ⟨plan, answer, out⟩ e s' h
    match plan with
    | [] => cases h
    | some n :: plan => cases h
    | none :: plan => cases h; rfl
  flushed := by
    rintro ⟨plan, answer, out⟩ s' h
    cases answer with
    | ok => cases h; rfl
    | error => cases h
  stuck := by
    rintro ⟨plan, answer, out⟩ e s' h
    cases answer with
    | ok => cases h
    | error => cases h; rfl
  waiting _ := rfl
  read _ _ := rfl

theorem answer_write_reluctant (bytes : Bytes) (w : Reluctant) :
    (reluctant.port.write bytes w).2.answer = w.answer := by
  obtain ⟨plan, answer, out⟩ := w
  match plan with
  | [] => rfl
  | some n :: plan => rfl
  | none :: plan => rfl

/-- A command that goes out byte by byte, with interruptions, to a port that is flushed, and
to one whose flush fails. -/
theorem sendCommand_framed_byte_by_byte :
    let line (answer : Except IoError Unit) : Line Reluctant :=
      ⟨⟨[some 0, none, some 0, some 0, none, none], answer, []⟩, [0xC3]⟩
    let cause : IoError := ⟨.other, "gone"⟩
    (∃ s', Sent reluctant "ab" 5 (line (.ok ())) s' ∧
      s'.out = [.byte 97, .byte 98, .byte 13, .byte 10, .flush]) ∧
      ∃ sent s', Unsent reluctant "ab" 5 (line (.error cause)) sent cause s' ∧
        s'.out = [.byte 97, .byte 98, .byte 13, .byte 10] := by
  intro line cause
  have whole : Utf8.encodeString "ab" ++ lineEnd = [97, 98, 13, 10] := by decide
  constructor
  · obtain ⟨arrives, frames⟩ := sendCommand_framed reluctant "ab" 5 (line (.ok ()))
    obtain ⟨sent, s, leads, sending⟩ := arrives _ accepts_reluctant
    have answer : s.answer = .ok () := sending.keeps leads answer_write_reluctant
    have flushed : reluctant.port.flush s = (.ok (), { s with out := s.out ++ [.flush] }) := by
      simp only [reluctant, answer]
    have result := (frames sent [] [] s leads sending).2.2 rfl rfl _ flushed
    refine ⟨_, result, ?_⟩
    rw [result.log Reluctant.out logs_reluctant, whole]
    rfl
  · obtain ⟨arrives, frames⟩ := sendCommand_framed reluctant "ab" 5 (line (.error cause))
    obtain ⟨sent, s, leads, sending⟩ := arrives _ accepts_reluctant
    have answer : s.answer = .error cause := sending.keeps leads answer_write_reluctant
    have stuck : Event.Happens (.flush reluctant.port (.error cause)) s s := by
      change reluctant.port.flush s = _
      simp only [reluctant, answer]
    obtain ⟨taken_eq, breaks, -⟩ := frames sent [] [] s leads sending
    have result := breaks _ cause s (.stuck rfl rfl) stuck
    refine ⟨sent, s, result, ?_⟩
    rw [List.append_nil, List.append_nil, whole] at taken_eq
    rw [result.log Reluctant.out logs_reluctant, taken_eq]
    rfl

end Session

end BoardRig
