/-
# `BoardRig.Proofs.Serial.Stale` — a reply begins with what waited before

A port keeps what has arrived in an inbox (`Inbox`): new bytes come behind
those that wait, reads take them from the front, and a read comes back with
empty hands only if nothing waits.  A session never empties it before a
command.  So the reply to a command is the text of the bytes that the session
kept, of those that waited in the inbox, and of those that came back after that
(`exists_cameBack`).
-/
import BoardRig.Proofs.Serial.Talk
import BoardRig.Proofs.Serial.Opened
import BoardRig.Proofs.Status.Bank

namespace BoardRig

variable {σ τ : Type}

/-! ## Inboxes

An inbox is a way to look at the world of a port, and `Serves` says how the calls of a
session move it. -/

/-- What a world knows of the bytes that have arrived at a port. -/
structure Inbox (σ : Type) where
  /-- The bytes that were read. -/
  taken : σ → Bytes
  /-- The bytes that wait behind those. -/
  waiting : σ → Bytes

namespace Inbox

variable {b : Inbox σ} {s s' s'' : σ} {bytes bytes' : Bytes}

/-- Some bytes are taken from the front, and more may arrive at the back. -/
def Gives (b : Inbox σ) (bytes : Bytes) (s s' : σ) : Prop :=
  b.taken s' = b.taken s ++ bytes ∧ b.waiting s <+: bytes ++ b.waiting s'

theorem Gives.refl (b : Inbox σ) (s : σ) : b.Gives [] s s :=
  ⟨(List.append_nil _).symm, List.prefix_refl _⟩

theorem Gives.trans (h : b.Gives bytes s s') (h' : b.Gives bytes' s' s'') :
    b.Gives (bytes ++ bytes') s s'' := by
  refine ⟨by rw [h'.1, h.1, List.append_assoc], h.2.trans ?_⟩
  rw [List.append_assoc, List.prefix_append_right_inj]
  exact h'.2

/-- What a session does with the inbox of its port: only reads take bytes, and they
bring nothing only if nothing waits. -/
structure Serves (b : Inbox σ) (session : Session σ) : Prop where
  count : ∀ s, b.Gives [] s (session.port.waiting s).2
  write : ∀ bytes s, b.Gives [] s (session.port.write bytes s).2
  flush : ∀ s, b.Gives [] s (session.port.flush s).2
  sleep : ∀ d s, b.Gives [] s (session.clock.sleep d s)
  read : ∀ limit s,
    b.Gives (Session.bytesOf (session.port.read limit s).1) s (session.port.read limit s).2
  silent : ∀ limit s, 0 < limit → ((session.port.read limit s).1 = .ok [] ∨
    ∃ e, (session.port.read limit s).1 = .error e ∧ Session.isSilence e = true) → b.waiting s = []

end Inbox

namespace Session

variable {session : Session σ} {b : Inbox σ}

open Inbox

/-! ## Writing -/

theorem keeps_writeStep (serves : b.Serves session) (start : σ) (bytes : Bytes) :
    Action.Keeps (b.Gives [] start) (writeStep session.port bytes) := by
  intro s h
  cases bytes with
  | nil => exact h
  | cons byte bytes =>
      have written : b.Gives [] start _ := h.trans (serves.write (byte :: bytes) s)
      simp only [writeStep]
      rcases hwrite : session.port.write (byte :: bytes) s with ⟨e | n, s'⟩
      all_goals rw [hwrite] at written
      · dsimp only
        split <;> exact written
      · cases n <;> exact written

theorem keeps_writeLine (serves : b.Serves session) (start : σ) (command : String) :
    Action.Keeps (b.Gives [] start) (session.writeLine command) := by
  refine .bind (.loop (keeps_writeStep serves start) _) fun _ => ?_
  refine .bind (.loop (keeps_writeStep serves start) _) fun _ => ?_
  intro s h
  have flushed : b.Gives [] start _ := h.trans (serves.flush s)
  rw [onPort]
  rcases hflush : session.port.flush s with ⟨e | u, s'⟩
  all_goals
    rw [hflush] at flushed
    exact flushed

/-! ## Reading

Reads empty the inbox before one of them comes back with nothing. -/

theorem gives_fetch (serves : b.Serves session) (s : σ) :
    b.Gives (bytesOf (fetch session.port s).1) s (fetch session.port s).2 ∧
      ((fetch session.port s).1 = .ok [] → b.waiting s = []) := by
  have counted := serves.count s
  rw [fetch]
  rcases hcount : session.port.waiting s with ⟨e | waiting, s'⟩
  all_goals rw [hcount] at counted
  · refine ⟨counted, fun h => ?_⟩
    cases h
  have asked : 0 < askFor waiting := by
    unfold askFor chunkSize
    omega
  have given : b.Gives (bytesOf _) s _ := counted.trans (serves.read (askFor waiting) s')
  have nothing := fun silent => List.prefix_nil.mp (serves.silent _ s' asked silent ▸ counted.2)
  dsimp only
  rcases hread : session.port.read (askFor waiting) s' with ⟨e | bytes, s''⟩
  all_goals rw [hread] at given nothing
  · cases silence : isSilence e with
    | true =>
        simp only [silence, if_true]
        exact ⟨given, fun _ => nothing (.inr ⟨e, rfl, silence⟩)⟩
    | false =>
        simp only [silence]
        refine ⟨given, fun h => ?_⟩
        cases h
  · refine ⟨given, fun h => nothing (.inl ?_)⟩
    cases h
    rfl

/-- After the reads so far, the text and the bytes that are kept are what draining
gives of the bytes kept at first and of all that was taken since. -/
def Heard (b : Inbox σ) (start : Line σ) (bytes : Bytes) (text : String) (line : Line σ) : Prop :=
  Utf8.drain (start.pending ++ bytes) = (text.toList, line.pending) ∧
    b.Gives bytes start.world line.world

theorem heard_readAvailable (serves : b.Serves session) {line line' : Line σ} {text : String}
    (drained : line.Drained) (h : session.readAvailable line = (.ok text, line')) :
    ∃ bytes, Heard b line bytes text line' ∧ b.waiting line.world <+: bytes := by
  -- Only the step that ends the loop says that nothing waits any more, so what holds
  -- at the end is more than what holds along the way.
  refine Action.loop_ok (fun text line' => ∃ bytes, Heard b line bytes text line')
    (fun text line' => ∃ bytes, Heard b line bytes text line' ∧ b.waiting line.world <+: bytes)
    ?_ ?_ ?_ h
  · rintro text l text' l' ⟨bytes, drains, gives⟩ hs
    rw [readStep_eq, receive_eq] at hs
    obtain ⟨fetched, -⟩ := gives_fetch serves l.world
    rcases hfetch : fetch session.port l.world with ⟨e | more, s⟩
    all_goals rw [hfetch] at hs fetched
    · cases hs
    · dsimp only at hs
      split at hs
      · cases hs
      · cases hs
        refine ⟨bytes ++ more, ?_, gives.trans fetched⟩
        rw [← List.append_assoc, Utf8.drain_append, drains, String.toList_append,
          String.toList_ofList]
  · rintro text l text' l' ⟨bytes, drains, gives⟩ hs
    rw [readStep_eq, receive_eq] at hs
    obtain ⟨fetched, nothing⟩ := gives_fetch serves l.world
    rcases hfetch : fetch session.port l.world with ⟨e | more, s⟩
    all_goals rw [hfetch] at hs fetched nothing
    · cases hs
    · dsimp only at hs
      split at hs
      · next none =>
        cases hs
        obtain rfl := List.eq_nil_of_length_eq_zero none
        have last := gives.trans fetched
        rw [bytesOf, List.append_nil] at last
        refine ⟨bytes, ⟨?_, last⟩, ?_⟩
        · rw [List.append_nil, drains]
        · have all := gives.2
          rw [nothing rfl, List.append_nil] at all
          exact all
      · cases hs
  · refine ⟨[], ?_, .refl b line.world⟩
    rw [List.append_nil, Utf8.drain_of_isStart drained]
    rfl

/-! ## Commands -/

theorem heard_sendCommand (serves : b.Serves session) {command reply : String} {settle : Duration}
    {line line' : Line σ} (drained : line.Drained)
    (h : session.sendCommand command settle line = (.ok reply, line')) :
    ∃ bytes, Heard b line bytes reply line' ∧ b.waiting line.world <+: bytes := by
  obtain ⟨u, line₁, hwrite, hrest⟩ := Action.bind_eq_ok_iff.mp h
  obtain ⟨u, line₂, hpause, hread⟩ := Action.bind_eq_ok_iff.mp hrest
  have written := keeps_writeLine serves line.world command line.world (.refl b line.world)
  obtain rfl : _ = line₁ := congrArg Prod.snd hwrite
  obtain rfl : _ = line₂ := congrArg Prod.snd hpause
  have slept : b.Gives [] line.world _ := written.trans (serves.sleep settle _)
  have kept : Line.Drained ⟨session.clock.sleep settle (session.writeLine command line.world).2,
      line.pending⟩ := drained
  obtain ⟨bytes, ⟨drains, gives⟩, all⟩ := heard_readAvailable serves kept hread
  exact ⟨bytes, ⟨drains, slept.trans gives⟩, slept.2.trans all⟩

end Session

namespace Inbox

/-- What a session would read before anything new: the bytes that it keeps, and those
that wait in the inbox. -/
def stale (b : Inbox σ) (line : Line σ) : Bytes :=
  line.pending ++ b.waiting line.world

/-- Just these bytes were read behind those that waited at first. -/
def CameBack (b : Inbox σ) (line line' : Line σ) (after : Bytes) : Prop :=
  b.taken line'.world = b.taken line.world ++ b.waiting line.world ++ after

end Inbox

namespace Session

variable {session : Session σ} {b : Inbox σ}

theorem exists_cameBack (serves : b.Serves session) {command reply : String} {settle : Duration}
    {line line' : Line σ} (opened : session.Opened line)
    (h : session.sendCommand command settle line = (.ok reply, line')) :
    ∃ after, b.CameBack line line' after ∧ reply = textOf (b.stale line ++ after) := by
  obtain ⟨bytes, ⟨drains, gives⟩, after, rfl⟩ := heard_sendCommand serves opened.drained h
  refine ⟨after, ?_, ?_⟩
  · rw [Inbox.CameBack, gives.1, List.append_assoc]
  · rw [textOf, Inbox.stale, List.append_assoc, drains, String.ofList_toList]

/-! ### Texts -/

theorem textOf_append (bs after : Bytes) :
    textOf (bs ++ after) = textOf bs ++ textOf ((Utf8.drain bs).2 ++ after) := by
  rw [textOf, Utf8.drain_append, String.ofList_append]
  rfl

/-- Whole characters in front are not to be seen in a text only if there are none. -/
theorem textOf_append_eq_iff {bs : Bytes} (whole : (Utf8.drain bs).2 = []) (after : Bytes) :
    textOf (bs ++ after) = textOf after ↔ bs = [] := by
  rw [textOf_append, whole, List.nil_append, textOf, textOf, ← String.ofList_append,
    String.ofList_inj, List.append_left_eq_self]
  refine ⟨fun none => Utf8.eq_nil_of_drain (Prod.ext none whole), ?_⟩
  rintro rfl
  rw [Utf8.drain_nil]

/-! ### Replies -/

/-- A reply in which the bytes that came back after a command stand behind stale
ones. -/
structure MixedReply (b : Inbox σ) (line line' : Line σ) (reply : String) (after : Bytes) :
    Prop where
  cameBack : b.CameBack line line' after
  text : reply = textOf (b.stale line ++ after)
  /-- A stale text that ends with a character stands in front of the clean reply. -/
  whole : (Utf8.drain (b.stale line)).2 = [] →
    reply = textOf (b.stale line) ++ textOf after ∧ (reply = textOf after ↔ b.stale line = [])
  /-- Where the same comes back, the replies agree if the whole texts do. -/
  agree : ∀ {τ : Type} {other : Session τ} {b' : Inbox τ} {command : String} {settle : Duration}
    {l l' : Line τ} {reply' : String}, b'.Serves other → other.Opened l →
    other.sendCommand command settle l = (.ok reply', l') → b'.CameBack l l' after →
    (reply' = reply ↔ textOf (b'.stale l ++ after) = textOf (b.stale line ++ after))
  /-- A bank that a stale line names is confirmed, and no other one. -/
  bank : ∀ {named : UInt8}, firmwareBank? (textOf (b.stale line)) = some named →
    (∀ c ∈ (textOf (b.stale line)).toList.getLast?, c.isDigit = false) →
    ∀ asked port, Bench.confirmBank asked port reply = .ok port ↔ asked = named

theorem confirmBank_eq_ok_iff {bank : UInt8} {port reply : String} :
    Bench.confirmBank bank port reply = .ok port ↔ firmwareBank? reply = some bank := by
  rw [Bench.confirmBank]
  split
  · next h => exact ⟨fun _ => h, fun _ => rfl⟩
  · next h => exact ⟨fun h' => (nomatch h'), fun h' => absurd h' h⟩

/-- The reply to a command is the text of what the session kept, of what waited in the
inbox, and of what came back. -/
theorem sendCommand_mixes_stale (session : Session σ) (b : Inbox σ) (command : String)
    (settle : Duration) (line line' : Line σ) (reply : String) (serves : b.Serves session)
    (opened : session.Opened line)
    (h : session.sendCommand command settle line = (.ok reply, line')) :
    ∃ after, MixedReply b line line' reply after := by
  obtain ⟨after, cameBack, rfl⟩ := exists_cameBack serves opened h
  refine ⟨after, cameBack, rfl, fun whole => ?_, ?_, ?_⟩
  · refine ⟨?_, textOf_append_eq_iff whole after⟩
    rw [textOf_append, whole, List.nil_append]
  · intro τ other b' command' settle' l l' reply' serves' opened' h' same
    obtain ⟨after', cameBack', rfl⟩ := exists_cameBack serves' opened' h'
    obtain rfl : after' = after := List.append_cancel_left (cameBack'.symm.trans same)
    exact Iff.rfl
  · intro named first ends asked port
    -- The stale text may end within a character: the rest of it is in what follows.
    have reported := firmwareBank?_append first ends
      (textOf ((Utf8.drain (b.stale line)).2 ++ after))
    rw [confirmBank_eq_ok_iff, textOf_append, reported, Option.some.injEq, eq_comm]

/-! ### A device that answers -/

/-- A device at the other end of a port: the bytes that were read, those that wait
behind them, and the answer to the next command. -/
structure Device where
  taken : Bytes
  waiting : Bytes
  answer : Bytes
deriving DecidableEq

/-- A session with a device that answers a command once it was handed on. -/
def answered : Session Device where
  port :=
    { name := "port"
      waiting := fun w => (.ok w.waiting.length, w)
      read := fun limit w =>
        if w.waiting = [] then (.error ⟨.timedOut, "silence"⟩, w)
        else (.ok (w.waiting.take limit),
          ⟨w.taken ++ w.waiting.take limit, w.waiting.drop limit, w.answer⟩)
      write := fun bytes w => (.ok bytes.length, w)
      flush := fun w => (.ok (), ⟨w.taken, w.waiting ++ w.answer, []⟩) }
  clock := ⟨fun _ => 0, fun _ w => w⟩

def deviceInbox : Inbox Device :=
  ⟨Device.taken, Device.waiting⟩

theorem serves_answered : deviceInbox.Serves answered where
  count w := .refl _ w
  write _ w := .refl _ w
  flush w := ⟨(List.append_nil _).symm, List.prefix_append _ _⟩
  sleep _ w := .refl _ w
  read limit w := by
    by_cases none : w.waiting = []
    · simp only [answered, if_pos none]
      exact .refl _ w
    · simp only [answered, if_neg none]
      refine ⟨rfl, ?_⟩
      change w.waiting <+: w.waiting.take limit ++ w.waiting.drop limit
      rw [List.take_append_drop]
  silent limit w asked h := by
    by_contra some
    have given : (answered.port.read limit w).1 = .ok (w.waiting.take limit) :=
      congrArg Prod.fst (if_neg some)
    rw [given] at h
    obtain h | ⟨e, h, -⟩ := h
    · obtain none | none := List.take_eq_nil_iff.mp (Except.ok.inj h)
      · exact absurd none asked.ne'
      · exact some none
    · cases h

theorem readAvailable_answered {w : Device} (pending : Bytes) (some : w.waiting ≠ [])
    (few : w.waiting.length ≤ chunkSize) :
    answered.readAvailable ⟨w, pending⟩
      = (.ok (textOf (pending ++ w.waiting)),
        ⟨⟨w.taken ++ w.waiting, [], w.answer⟩, (Utf8.drain (pending ++ w.waiting)).2⟩) := by
  have asked : askFor w.waiting.length = w.waiting.length := by
    have positive := List.length_pos_iff.mpr some
    unfold askFor
    omega
  have all : fetch answered.port w
      = (.ok w.waiting, ⟨w.taken ++ w.waiting, [], w.answer⟩) := by
    simp [fetch, answered, asked, some]
  have first : answered.readStep "" ⟨w, pending⟩
      = (.ok (.inl (textOf (pending ++ w.waiting))),
        ⟨⟨w.taken ++ w.waiting, [], w.answer⟩, (Utf8.drain (pending ++ w.waiting)).2⟩) := by
    rw [readStep_eq, receive_eq, all]
    simp [some, textOf]
  refine Action.loop_of_loop? ((Action.loop?_of_again first).trans (Action.loop?_of_done ?_))
  rfl

theorem sendCommand_answered {w : Device} (pending : Bytes) (command : String)
    (settle : Duration) (spoken : Utf8.encodeString command ≠ []) (some : w.answer ≠ [])
    (few : (w.waiting ++ w.answer).length ≤ chunkSize) :
    answered.sendCommand command settle ⟨w, pending⟩
      = (.ok (textOf (pending ++ (w.waiting ++ w.answer))),
        ⟨⟨w.taken ++ (w.waiting ++ w.answer), [], []⟩,
          (Utf8.drain (pending ++ (w.waiting ++ w.answer))).2⟩) := by
  have written : answered.writeLine command w
      = (.ok (), ⟨w.taken, w.waiting ++ w.answer, []⟩) := by
    refine Action.bind_eq_ok_iff.mpr ⟨(), w, writeAll_of_whole spoken rfl, ?_⟩
    exact Action.bind_eq_ok_iff.mpr
      ⟨(), w, writeAll_of_whole (List.cons_ne_nil _ _) rfl, rfl⟩
  refine Action.bind_eq_ok_iff.mpr
    ⟨(), ⟨⟨w.taken, w.waiting ++ w.answer, []⟩, pending⟩, ?_, ?_⟩
  · rw [onWorld, written]
  · exact Action.bind_eq_ok_iff.mpr ⟨(), _, rfl,
      readAvailable_answered pending (List.append_ne_nil_of_right_ne_nil _ some) few⟩

theorem textOf_encodeString (text : String) : textOf (Utf8.encodeString text) = text := by
  rw [textOf, Utf8.encodeString, Utf8.drain_encode, String.ofList_toList]

theorem sendCommand_answered_text {text command : String} (settle : Duration)
    (spoken : Utf8.encodeString command ≠ []) (some : Utf8.encodeString text ≠ [])
    (few : (Utf8.encodeString text).length ≤ chunkSize) :
    answered.sendCommand command settle ⟨⟨[], [], Utf8.encodeString text⟩, []⟩
      = (.ok text, ⟨⟨Utf8.encodeString text, [], []⟩, []⟩) := by
  have drained : Utf8.drain (Utf8.encodeString text) = (text.toList, []) :=
    Utf8.drain_encode text.toList
  have sent := @sendCommand_answered ⟨[], [], Utf8.encodeString text⟩ [] command settle spoken some
    few
  dsimp only [List.nil_append] at sent
  rw [textOf_encodeString, drained] at sent
  exact sent

/-- Half a character that was read before and the rest of it that waits with a banner
come first in the reply, and the bank of the banner is confirmed. -/
theorem sendCommand_mixes_stale_across_character :
    let banner := Utf8.encodeString "Bank: 1\r\n"
    let answer := Utf8.encodeString "Bank: 0\r\n"
    let line : Line Device := ⟨⟨[0xC3], 0xA9 :: banner, answer⟩, [0xC3]⟩
    let reply := "éBank: 1\r\nBank: 0\r\n"
    let line' : Line Device := ⟨⟨Utf8.encodeString reply, [], []⟩, []⟩
    (deviceInbox.Serves answered ∧ answered.Opened line ∧
      answered.sendCommand Bench.statusCommand 0 line = (.ok reply, line')) ∧
      MixedReply deviceInbox line line' reply answer ∧
      Bench.confirmBank 1 "port" reply = .ok "port" := by
  intro banner answer line reply line'
  have opened : answered.Opened line := by
    have half : Utf8.IsStart [0xC3] := ⟨'é', [0xA9], by decide, rfl⟩
    have read := readAvailable_answered (w := ⟨[], [0xC3], []⟩) [] (by decide) (by decide)
    have earlier := (Opened.new ⟨[], [0xC3], []⟩ : answered.Opened _).called .readAvailable
    rw [call, read, List.nil_append, Utf8.drain_of_isStart half] at earlier
    exact earlier.meanwhile _
  have sent : answered.sendCommand Bench.statusCommand 0 line = (.ok reply, line') := by
    have spoken : Utf8.encodeString Bench.statusCommand ≠ [] := by decide
    have whole : [0xC3] ++ (0xA9 :: banner ++ answer) = Utf8.encodeString reply := by decide
    have replied := sendCommand_answered (w := line.world) [0xC3] _ 0 spoken (by decide)
      (by decide)
    rw [whole, textOf_encodeString, Utf8.encodeString, Utf8.drain_encode] at replied
    exact replied
  obtain ⟨after, mixed⟩ :=
    sendCommand_mixes_stale answered deviceInbox Bench.statusCommand 0 line line' reply
      serves_answered opened sent
  have cameBack : deviceInbox.CameBack line line' answer := by
    change Utf8.encodeString reply = [0xC3] ++ 0xA9 :: banner ++ answer
    decide
  obtain rfl : after = answer := List.append_cancel_left (mixed.cameBack.symm.trans cameBack)
  have stale : deviceInbox.stale line = Utf8.encodeString "éBank: 1\r\n" := by
    change [0xC3] ++ 0xA9 :: banner = _
    decide
  refine ⟨⟨serves_answered, opened, sent⟩, mixed, (mixed.bank ?_ ?_ 1 "port").mpr rfl⟩
  · rw [stale, textOf_encodeString]
    decide
  · have last : "éBank: 1\r\n".toList.getLast? = some '\n' := by decide
    rw [stale, textOf_encodeString, last]
    rintro c ⟨⟩
    rfl

/-- Where the same comes back, a banner that waited makes the difference between the
banks that are confirmed. -/
theorem stale_bank_confirmed :
    let banner := Utf8.encodeString "Bank: 1\r\n"
    let answer := Utf8.encodeString "Bank: 0\r\n"
    let stale : Line Device := ⟨⟨[], banner, answer⟩, []⟩
    let clean : Line Device := ⟨⟨[], [], answer⟩, []⟩
    let mixed := "Bank: 1\r\nBank: 0\r\n"
    (answered.Opened stale ∧ answered.Opened clean) ∧
      (∃ line', answered.sendCommand Bench.statusCommand 0 stale = (.ok mixed, line') ∧
        deviceInbox.CameBack stale line' answer) ∧
      (∃ line', answered.sendCommand Bench.statusCommand 0 clean = (.ok "Bank: 0\r\n", line') ∧
        deviceInbox.CameBack clean line' answer) ∧
      (Bench.confirmBank 1 "port" mixed = .ok "port" ∧
        Bench.confirmBank 1 "port" "Bank: 0\r\n" ≠ .ok "port") ∧
      Bench.confirmBank 0 "port" mixed ≠ .ok "port" ∧
        Bench.confirmBank 0 "port" "Bank: 0\r\n" = .ok "port" := by
  intro banner answer stale clean mixed
  have spoken : Utf8.encodeString Bench.statusCommand ≠ [] := by decide
  have whole : [] ++ (banner ++ answer) = Utf8.encodeString mixed := by decide
  have behind := sendCommand_answered (w := stale.world) [] _ 0 spoken (by decide) (by decide)
  have alone := sendCommand_answered (w := clean.world) [] _ 0 spoken (by decide) (by decide)
  rw [whole, textOf_encodeString] at behind
  rw [List.nil_append, List.nil_append, textOf_encodeString] at alone
  refine ⟨⟨.new _, .new _⟩, ⟨_, behind, whole.symm⟩, ⟨_, alone, rfl⟩, ?_⟩
  simp only [ne_eq, confirmBank_eq_ok_iff]
  decide

end Session

end BoardRig
