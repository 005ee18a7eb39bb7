/-
# `BoardRig.Proofs.Serial.Talk` — what a session asks of its port

A line is written by writes of what the port has not taken yet (`Writes`), and
handed on by one flush (`Sends`).  What has arrived is read until a read
brings nothing, and its text is put together piece by piece (`Reading`).
A session in its first command does nothing else (`shows_sendCommand`).

Writes go on with what the port did not take, so a command that was written is
what the port took in all its writes (`Writes.taken_eq`).  Reads go on with the
bytes that are no character yet, so a text that was read is that of all the
bytes that came, however they were cut into reads (`Reading.text_eq`).  A
command that succeeds is both, one after the other (`Exchange.of_commands`).
-/
import BoardRig.Proofs.Conduct.Fault
import BoardRig.Proofs.Text.Draining

namespace BoardRig.Session

variable {σ α : Type}

/-! ## Writing -/

/-- One write of the bytes that are left. -/
inductive WriteStep (port : Port σ) :
    Bytes → List (Event σ) → Except Error (Bytes ⊕ Unit) → Prop where
  | done : WriteStep port [] [] (.ok (.inr ()))
  | took {bytes : Bytes} {n : Nat} (left : bytes ≠ []) (some : n ≠ 0) :
      WriteStep port bytes [.write port bytes (.ok n)] (.ok (.inl (bytes.drop n)))
  | tookNothing {bytes : Bytes} (left : bytes ≠ []) :
      WriteStep port bytes [.write port bytes (.ok 0)] (.error (.io .writeZero))
  | interrupted {bytes : Bytes} {e : IoError} (left : bytes ≠ []) (kind : e.kind = .interrupted) :
      WriteStep port bytes [.write port bytes (.error e)] (.ok (.inl bytes))
  | failed {bytes : Bytes} {e : IoError} (left : bytes ≠ []) (kind : e.kind ≠ .interrupted) :
      WriteStep port bytes [.write port bytes (.error e)] (.error (.io e))

abbrev Writes (port : Port σ) : Bytes → Conduct σ (Except Error Unit) :=
  Conduct.repeated .serial (WriteStep port)

def Sends (port : Port σ) (command : String) : Conduct σ (Except Error Unit) :=
  (Writes port (Utf8.encodeString command)).andThen fun _ =>
    (Writes port lineEnd).andThen fun _ => (Conduct.one (.flush port)).io

theorem shows_writeStep (port : Port σ) (bytes : Bytes) :
    Shows (writeStep port bytes) (WriteStep port bytes) := by
  intro s
  cases bytes with
  | nil => exact ⟨[], .nowhere, .done⟩
  | cons b bytes =>
      have left : b :: bytes ≠ [] := List.cons_ne_nil b bytes
      simp only [writeStep]
      rcases hwrite : port.write (b :: bytes) s with ⟨e | n, s'⟩
      · have called : Leads s [.write port (b :: bytes) (.error e)] s' := .single hwrite
        by_cases kind : e.kind = .interrupted
        · simp only [if_pos kind]
          exact ⟨_, called, .interrupted left kind⟩
        · simp only [if_neg kind]
          exact ⟨_, called, .failed left kind⟩
      · have called : Leads s [.write port (b :: bytes) (.ok n)] s' := .single hwrite
        cases n with
        | zero => exact ⟨_, called, .tookNothing left⟩
        | succ n => exact ⟨_, called, .took left (Nat.succ_ne_zero n)⟩

theorem shows_writeLine (session : Session σ) (command : String) :
    Shows (session.writeLine command) (Sends session.port command) :=
  (Shows.loop .serial (shows_writeStep session.port) _).bind fun _ =>
    (Shows.loop .serial (shows_writeStep session.port) _).bind fun _ =>
      (Shows.one (.flush session.port) fun _ => rfl).io

/-! ## Reading

Reading ends with a read that brings nothing, or goes on for ever. -/

/-- One read, with the bytes that it brings. A read in which nothing came
brings none. -/
inductive Receives (port : Port σ) : List (Event σ) → Except Error Bytes → Prop where
  | unready {e : Error} : Receives port [.waiting port (.error e)] (.error e)
  | arrived {waiting : Nat} {bytes : Bytes} :
      Receives port [.waiting port (.ok waiting), .read port (askFor waiting) (.ok bytes)]
        (.ok bytes)
  | silent {waiting : Nat} {e : IoError} (silence : isSilence e = true) :
      Receives port [.waiting port (.ok waiting), .read port (askFor waiting) (.error e)] (.ok [])
  | failed {waiting : Nat} {e : IoError} (fault : isSilence e = false) :
      Receives port [.waiting port (.ok waiting), .read port (askFor waiting) (.error e)]
        (.error (.io e))

/-- From world `s` every read brings some bytes, for ever. -/
def EndlessReading (port : Port σ) (s : σ) : Prop :=
  Forever (fun s s' => ∃ es bytes, Leads s es s' ∧ Receives port es (.ok bytes) ∧ bytes ≠ []) s

/-- The calls that read what has arrived, where `pending` holds bytes that are
no character yet, and `text` what was read before. -/
inductive Reading (port : Port σ) :
    (pending : Bytes) → (text : String) → List (Event σ) → Except Error String → Prop where
  | failed {pending : Bytes} {text : String} {es : List (Event σ)} {e : Error}
      (last : Receives port es (.error e)) : Reading port pending text es (.error e)
  | done {pending : Bytes} {text : String} {es : List (Event σ)}
      (last : Receives port es (.ok [])) : Reading port pending text es (.ok text)
  | more {pending bytes : Bytes} {text : String} {es es' : List (Event σ)}
      {r : Except Error String} (received : Receives port es (.ok bytes)) (some : bytes ≠ [])
      (rest : Reading port (Utf8.drain (pending ++ bytes)).2
        (text ++ String.ofList (Utf8.drain (pending ++ bytes)).1) es' r) :
      Reading port pending text (es ++ es') r
  | endless {pending : Bytes} {text : String} :
      Reading port pending text [.endless .serial (EndlessReading port)] (.error .unending)

def fetch (port : Port σ) : Action σ Bytes := fun s =>
  match port.waiting s with
  | (.error e, s) => (.error e, s)
  | (.ok waiting, s) =>
    match port.read (askFor waiting) s with
    | (.ok bytes, s) => (.ok bytes, s)
    | (.error e, s) => if isSilence e then (.ok [], s) else (.error (.io e), s)

theorem shows_fetch (port : Port σ) : Shows (fetch port) (Receives port) := by
  intro s
  rw [fetch]
  rcases hwaiting : port.waiting s with ⟨e | waiting, s'⟩
  · exact ⟨[.waiting port (.error e)], .single hwaiting, .unready⟩
  dsimp only
  rcases hread : port.read (askFor waiting) s' with ⟨e | bytes, s''⟩
  · have called : Leads s [.waiting port (.ok waiting), .read port (askFor waiting) (.error e)] s'' :=
      .call hwaiting (.single hread)
    cases silence : isSilence e with
    | true =>
        simp only [silence, if_true]
        exact ⟨_, called, .silent silence⟩
    | false =>
        simp only [silence]
        exact ⟨_, called, .failed silence⟩
  · have called : Leads s [.waiting port (.ok waiting), .read port (askFor waiting) (.ok bytes)]
        s'' := .call hwaiting (.single hread)
    exact ⟨_, called, .arrived⟩

theorem receive_eq (session : Session σ) (line : Line σ) :
    session.receive line = match fetch session.port line.world with
      | (.error e, s) => (.error e, ⟨s, line.pending⟩)
      | (.ok bytes, s) => (.ok bytes.length, ⟨s, line.pending ++ bytes⟩) := by
  rw [receive, fetch]
  rcases session.port.waiting line.world with ⟨e | waiting, s⟩
  · rfl
  dsimp only
  rcases session.port.read (askFor waiting) s with ⟨e | bytes, s'⟩
  · cases silence : isSilence e <;> simp [silence]
  · rfl

theorem exists_receives (session : Session σ) (line : Line σ) :
    ∃ es, (∃ e s, session.receive line = (.error e, { line with world := s }) ∧
        Leads line.world es s ∧ Receives session.port es (.error e)) ∨
      ∃ bytes s, session.receive line = (.ok bytes.length, ⟨s, line.pending ++ bytes⟩) ∧
        Leads line.world es s ∧ Receives session.port es (.ok bytes) := by
  rw [receive_eq]
  rcases hfetch : fetch session.port line.world with ⟨r, s⟩
  obtain ⟨es, leads, receives⟩ := (shows_fetch session.port).of_eq hfetch
  rcases r with e | bytes
  · exact ⟨es, .inl ⟨e, s, rfl, leads, receives⟩⟩
  · exact ⟨es, .inr ⟨bytes, s, rfl, leads, receives⟩⟩

theorem readStep_eq (session : Session σ) (text : String) (line : Line σ) :
    session.readStep text line = match session.receive line with
      | (.error e, line) => (.error e, line)
      | (.ok n, line) =>
        if n = 0 then (.ok (.inr text), line)
        else (.ok (.inl (text ++ String.ofList (Utf8.drain line.pending).1)),
          { line with pending := (Utf8.drain line.pending).2 }) := by
  rw [readStep, Action.bind_apply]
  rcases session.receive line with ⟨e | n, line'⟩
  · rfl
  · dsimp only
    split <;> rfl

/-- One step of reading, with the bytes that are no character behind it. -/
inductive ReadStep (port : Port σ) (pending : Bytes) (text : String) :
    List (Event σ) → Except Error (String ⊕ String) → Bytes → Prop where
  | failed {es : List (Event σ)} {e : Error} {pending' : Bytes}
      (last : Receives port es (.error e)) : ReadStep port pending text es (.error e) pending'
  | done {es : List (Event σ)} {pending' : Bytes} (last : Receives port es (.ok [])) :
      ReadStep port pending text es (.ok (.inr text)) pending'
  | more {es : List (Event σ)} {bytes : Bytes} (received : Receives port es (.ok bytes))
      (some : bytes ≠ []) :
      ReadStep port pending text es
        (.ok (.inl (text ++ String.ofList (Utf8.drain (pending ++ bytes)).1)))
        (Utf8.drain (pending ++ bytes)).2

theorem exists_readStep {session : Session σ} {text : String} {s s' : σ} {pending pending' : Bytes}
    {r : Except Error (String ⊕ String)}
    (h : session.readStep text ⟨s, pending⟩ = (r, ⟨s', pending'⟩)) :
    ∃ es, Leads s es s' ∧ ReadStep session.port pending text es r pending' := by
  rw [readStep_eq] at h
  obtain ⟨es, ⟨e, s₁, hreceive, hleads, hes⟩ | ⟨bytes, s₁, hreceive, hleads, hes⟩⟩ :=
    session.exists_receives ⟨s, pending⟩
  · rw [hreceive] at h
    cases h
    exact ⟨es, hleads, .failed hes⟩
  · rw [hreceive] at h
    dsimp only at h
    split at h
    · next hnone =>
      cases h
      obtain rfl := List.eq_nil_of_length_eq_zero hnone
      exact ⟨es, hleads, .done hes⟩
    · next hsome =>
      cases h
      exact ⟨es, hleads, .more hes fun hnil => hsome (congrArg List.length hnil)⟩

theorem exists_reading (session : Session σ) (line : Line σ) :
    ∃ es, Leads line.world es (session.readAvailable line).2.world ∧
      Reading session.port line.pending "" es (session.readAvailable line).1 := by
  rw [readAvailable, Action.loop]
  cases hend : Action.loop? session.readStep "" line with
  | none =>
      have endless : EndlessReading session.port line.world := by
        refine (Action.forever_of_loop?_eq_none hend).map (·.2.world) ?_
        rintro ⟨text, line⟩ ⟨text', ⟨s', pending'⟩⟩ hstep
        obtain ⟨es, hleads, step⟩ := exists_readStep hstep
        cases step with
        | more received some => exact ⟨es, _, hleads, received, some⟩
      exact ⟨_, .endless endless, .endless⟩
  | some r =>
      refine Action.loop?_induct (fun text line r line' =>
        ∃ es, Leads line.world es line'.world ∧ Reading session.port line.pending text es r)
        ?_ ?_ ?_ hend
      · rintro text line e ⟨s', pending'⟩ hs
        obtain ⟨es, hleads, hstep⟩ := exists_readStep hs
        cases hstep with
        | failed last => exact ⟨es, hleads, .failed last⟩
      · rintro text line text' ⟨s', pending'⟩ hs
        obtain ⟨es, hleads, hstep⟩ := exists_readStep hs
        cases hstep with
        | done last => exact ⟨es, hleads, .done last⟩
      · rintro text line text' ⟨s', pending'⟩ r line'' hs ⟨es', hleads', hrest⟩
        obtain ⟨es, hleads, hstep⟩ := exists_readStep hs
        cases hstep with
        | more received some => exact ⟨es ++ es', hleads.append hleads', .more received some hrest⟩

/-! ## Whole commands

A command on a line that keeps no bytes is an action on the world alone. -/

/-- An action of a session that has kept nothing, as one on the world. -/
def anew (act : Action (Line σ) α) : Action σ α := fun s =>
  match act ⟨s, []⟩ with
  | (outcome, line) => (outcome, line.world)

theorem anew_onWorld (act : Action σ α) : anew (onWorld act) = act := by
  funext s
  rw [anew, onWorld]
  rcases act s with ⟨e | a, s'⟩ <;> rfl

theorem anew_onWorld_bind {β : Type} (act : Action σ α) (f : α → Action (Line σ) β) :
    anew (onWorld act >>= f) = act >>= fun a => anew (f a) := by
  funext s
  rw [anew, Action.bind_apply, Action.bind_apply, onWorld]
  rcases act s with ⟨e | a, s'⟩ <;> rfl

theorem shows_readAvailable (session : Session σ) :
    Shows (anew session.readAvailable) (Reading session.port [] "") := fun s =>
  session.exists_reading ⟨s, []⟩

def Commands (session : Session σ) (command : String) (settle : Duration) :
    Conduct σ (Except Error String) :=
  (Sends session.port command).andThen fun _ =>
    (Conduct.pauses session.clock settle).andThen fun _ => Reading session.port [] ""

theorem shows_sendCommand (session : Session σ) (command : String) (settle : Duration) :
    Shows (anew (session.sendCommand command settle)) (Commands session command settle) := by
  rw [sendCommand, anew_onWorld_bind]
  refine (session.shows_writeLine command).bind fun _ => ?_
  rw [anew_onWorld_bind]
  exact (Shows.pause session.clock settle).bind fun _ => session.shows_readAvailable

theorem shows_onWorld_writeLine (session : Session σ) (command : String) :
    Shows (anew (onWorld (session.writeLine command))) (Sends session.port command) := by
  rw [anew_onWorld]
  exact session.shows_writeLine command

/-! ### Calls -/

theorem within_writes (port : Port σ) (bytes : Bytes) :
    (Writes port bytes).Within fun e => e.channel = .serial := by
  refine .repeated (fun left es r h => ?_) (fun _ => rfl) bytes
  cases h <;> simp [Event.channel]

theorem within_sends (port : Port σ) (command : String) :
    (Sends port command).Within fun e => e.channel = .serial :=
  .andThen (within_writes port _) fun _ =>
    .andThen (within_writes port _) fun _ => .io (.one fun _ => rfl)

theorem Receives.channel {port : Port σ} {es : List (Event σ)} {r : Except Error Bytes}
    (h : Receives port es r) : ∀ e ∈ es, e.channel = .serial := by
  cases h <;> simp [Event.channel]

theorem Reading.channel {port : Port σ} {pending : Bytes} {text : String} {es : List (Event σ)}
    {r : Except Error String} (h : Reading port pending text es r) :
    ∀ e ∈ es, e.channel = .serial := by
  induction h with
  | failed last => exact last.channel
  | done last => exact last.channel
  | more received _ _ ih => exact List.forall_mem_append.mpr ⟨received.channel, ih⟩
  | endless => exact List.forall_mem_singleton.mpr rfl

theorem within_commands (session : Session σ) (command : String) (settle : Duration) :
    (Commands session command settle).Within fun e => e.channel = .serial ∨ e.channel = .clock :=
  .andThen ((within_sends session.port command).mono fun _ => .inl) fun _ =>
    .andThen (.pauses (.inr rfl)) fun _ _ _ h e he => .inl (h.channel e he)

/-! ## Failures

Nothing is asked of the port after a call that failed, interruptions apart. -/

theorem strict_writeStep (port : Port σ) (bytes : Bytes) :
    Conduct.Strict (WriteStep port bytes) := by
  intro es r h
  cases h with
  | done => exact .nil
  | @took _ n left some =>
      cases n with
      | zero => exact absurd rfl some
      | succ n => exact .quiet rfl
  | tookNothing => exact .fault rfl
  | interrupted left kind => exact .quiet (if_pos kind)
  | failed left kind => exact .fault (if_neg kind)

theorem strict_sends (port : Port σ) (command : String) : (Sends port command).Strict := by
  refine .andThen (.repeated (strict_writeStep port) _) fun _ =>
    .andThen (.repeated (strict_writeStep port) _) fun _ => .io fun answer fault hfault => ?_
  cases answer with
  | ok u => cases hfault
  | error e =>
      cases hfault
      rfl

theorem Receives.endsAtFault {port : Port σ} {es : List (Event σ)} {r : Except Error Bytes}
    (h : Receives port es r) : EndsAtFault es r := by
  cases h with
  | unready => exact .fault rfl
  | arrived => exact .cons rfl (.quiet rfl)
  | silent silence => exact .cons rfl (.quiet (if_pos silence))
  | failed fault => exact .cons rfl (.fault (if_neg (Bool.eq_false_iff.mp fault)))

theorem Reading.endsAtFault {port : Port σ} {pending : Bytes} {text : String}
    {es : List (Event σ)} {r : Except Error String} (h : Reading port pending text es r) :
    EndsAtFault es r := by
  induction h with
  | failed last => exact last.endsAtFault.of_error
  | done last => exact .of_forall_none last.endsAtFault.fault?_eq_none
  | more received _ _ ih => exact .append received.endsAtFault.fault?_eq_none ih
  | endless => exact .quiet rfl

theorem strict_commands (session : Session σ) (command : String) (settle : Duration) :
    (Commands session command settle).Strict :=
  .andThen (strict_sends session.port command) fun _ =>
    .andThen (.pauses session.clock settle) fun _ _ _ h => h.endsAtFault

/-! ## Bytes on their way -/

section Exchange

variable {port : Port σ} {es es' : List (Event σ)}

/-! ### Bytes -/

/-- The bytes that a call hands to its port. -/
def takenBy : Event σ → Bytes
  | .write _ bytes (.ok n) => bytes.take n
  | _ => []

/-- The bytes that a call gets from its port. -/
def broughtBy : Event σ → Bytes
  | .read _ _ (.ok bytes) => bytes
  | _ => []

def taken (es : List (Event σ)) : Bytes := es.flatMap takenBy

def brought (es : List (Event σ)) : Bytes := es.flatMap broughtBy

theorem taken_append (es es' : List (Event σ)) : taken (es ++ es') = taken es ++ taken es' :=
  List.flatMap_append

theorem brought_append (es es' : List (Event σ)) :
    brought (es ++ es') = brought es ++ brought es' :=
  List.flatMap_append

/-! ### Bytes that are written -/

theorem WriteStep.taken_eq {bytes : Bytes} {r : Except Error (Bytes ⊕ Unit)}
    (h : WriteStep port bytes es r) :
    (∀ u, r = .ok (.inr u) → taken es = bytes) ∧
      ∀ left, r = .ok (.inl left) → taken es ++ left = bytes := by
  cases h with
  | done => exact ⟨fun _ _ => rfl, fun _ h => nomatch h⟩
  | @took _ n left some =>
      refine ⟨fun _ h => (nomatch h), fun left h => ?_⟩
      cases h
      rw [taken, List.flatMap_singleton]
      exact List.take_append_drop n bytes
  | tookNothing => exact ⟨fun _ h => (nomatch h), fun _ h => (nomatch h)⟩
  | interrupted =>
      refine ⟨fun _ h => (nomatch h), fun left h => ?_⟩
      cases h
      rfl
  | failed => exact ⟨fun _ h => (nomatch h), fun _ h => (nomatch h)⟩

theorem Writes.taken_eq {bytes : Bytes} {r : Except Error Unit} (h : Writes port bytes es r)
    (hr : r = .ok ()) : taken es = bytes := by
  induction h with
  | fails => cases hr
  | done last => exact (WriteStep.taken_eq last).1 _ rfl
  | again step _ ih =>
      rw [taken_append, ih hr]
      exact (WriteStep.taken_eq step).2 _ rfl
  | endless => cases hr

/-- A command that was sent was taken with its end, and whole. -/
theorem Sends.taken_eq {command : String} (h : Sends port command es (.ok ())) :
    taken es = Utf8.encodeString command ++ lineEnd := by
  cases h with
  | goesOn text rest =>
      cases rest with
      | goesOn ending flushing =>
          obtain ⟨answer, rfl, -⟩ := flushing
          have handedOn : taken [Event.flush port answer] = [] := rfl
          rw [taken_append, taken_append, Writes.taken_eq text rfl, Writes.taken_eq ending rfl,
            handedOn, List.append_nil]

theorem writeAll_of_whole {bytes : Bytes} {s s' : σ} (some : bytes ≠ [])
    (h : port.write bytes s = (.ok bytes.length, s')) : writeAll port bytes s = (.ok (), s') := by
  obtain ⟨b, bytes, rfl⟩ := List.exists_cons_of_ne_nil some
  have whole : writeStep port (b :: bytes) s = (.ok (.inl []), s') := by
    simp only [writeStep, h, List.length_cons]
    rw [← List.length_cons, List.drop_length]
  rw [writeAll]
  exact Action.loop_of_loop? ((Action.loop?_of_again whole).trans (Action.loop?_of_done rfl))

/-! ### Bytes that are read -/

theorem Receives.brought_eq {bytes : Bytes} {r : Except Error Bytes} (h : Receives port es r)
    (hr : r = .ok bytes) : brought es = bytes := by
  cases h with
  | unready => cases hr
  | arrived =>
      cases hr
      exact List.append_nil bytes
  | silent =>
      cases hr
      rfl
  | failed => cases hr

/-- Where `before` gave the text so far and the bytes that wait, the text that is
read is that of `before` and of all that comes. -/
theorem Reading.text_eq {pending before : Bytes} {text text' : String} {r : Except Error String}
    (h : Reading port pending text es r) (so_far : Utf8.drain before = (text.toList, pending))
    (hr : r = .ok text') : text'.toList = (Utf8.drain (before ++ brought es)).1 := by
  induction h generalizing before with
  | failed => cases hr
  | done last =>
      cases hr
      rw [last.brought_eq rfl, List.append_nil, so_far]
  | @more pending bytes text es es' r received _ _ ih =>
      rw [brought_append, received.brought_eq rfl, ← List.append_assoc]
      refine ih ?_ hr
      rw [Utf8.drain_append, so_far, String.toList_append, String.toList_ofList]
  | endless => cases hr

/-! ### Command and reply -/

/-- A command is written to the port with its end, and after a pause the bytes that
come are read as the text. -/
def Exchange (port : Port σ) (clock : Clock σ) (command : String) (settle : Duration)
    (es : List (Event σ)) (text : String) : Prop :=
  ∃ sent heard, es = sent ++ .sleep clock settle :: heard ∧
    Sends port command sent (.ok ()) ∧ taken sent = Utf8.encodeString command ++ lineEnd ∧
    Reading port [] "" heard (.ok text) ∧ text.toList = (Utf8.drain (brought heard)).1

theorem Exchange.of_commands {session : Session σ} {command text : String} {settle : Duration}
    (h : Commands session command settle es (.ok text)) :
    Exchange session.port session.clock command settle es text := by
  cases h with
  | goesOn sends rest =>
      obtain ⟨heard, rfl, reading⟩ := rest.of_pauses
      exact ⟨_, heard, rfl, sends, Sends.taken_eq sends, reading,
        reading.text_eq Utf8.drain_nil rfl⟩

end Exchange

end BoardRig.Session
