/-
# `BoardRig.Proofs.Serial.Delivery` — a session returns what its port delivered

A session over a tapped port runs as it does without the tap, while the
bytes that the port delivers to reads are put on record (`tapped_lifts`).
What every successful call keeps is that draining the record gives the text
returned so far and leaves the bytes that are kept back (`Kept`).  So the
texts that a conversation returned are the text of all the bytes delivered,
however these were cut into reads and the reads into calls.
-/
import BoardRig.Proofs.Poll.Course
import BoardRig.Proofs.Serial.Conversation
import BoardRig.Proofs.Text.Draining

namespace BoardRig

variable {σ ρ : Type}

/-! ## The tap

The record is written by reads that bring something, and by nothing else. -/

/-- A world with the bytes that a port has delivered to reads. -/
structure Tapped (σ : Type) where
  world : σ
  delivered : Bytes

def Tapped.quietly (act : σ → ρ × σ) : Tapped σ → ρ × Tapped σ := fun t =>
  ((act t.world).1, { t with world := (act t.world).2 })

/-- The port, with what it delivers on record. -/
def Port.tapped (port : Port σ) : Port (Tapped σ) where
  name := port.name
  waiting := Tapped.quietly port.waiting
  read n t :=
    match port.read n t.world with
    | (.ok bytes, world) => (.ok bytes, ⟨world, t.delivered ++ bytes⟩)
    | (.error e, world) => (.error e, { t with world })
  write bytes := Tapped.quietly (port.write bytes)
  flush := Tapped.quietly port.flush

def Clock.tapped (clock : Clock σ) : Clock (Tapped σ) where
  now t := clock.now t.world
  sleep d t := { t with world := clock.sleep d t.world }

namespace Session

/-- The session, with what its port delivers on record. -/
def tapped (session : Session σ) : Session (Tapped σ) :=
  ⟨session.port.tapped, session.clock.tapped⟩

/-- All the bytes that the port delivers to reads during a conversation that
begins in world `s`. -/
def delivered (session : Session σ) (calls : List Call) (s : σ) : Bytes :=
  (session.tapped.converse calls ⟨⟨s, []⟩, []⟩).2.world.delivered

/-- The tap makes no difference to what is seen of the world. -/
theorem tapped_lifts (session : Session σ) : Session.Lifts Tapped.world session.tapped session where
  name := rfl
  waiting _ := rfl
  read n t := by
    simp only [tapped, Port.tapped]
    rcases session.port.read n t.world with ⟨outcome, s⟩
    cases outcome <;> rfl
  write _ _ := rfl
  flush _ := rfl
  clock := ⟨fun _ => rfl, fun _ _ => rfl⟩

/-! ## The invariant

Draining the whole record would give what was returned and what is kept back.  It
is kept by a read because draining in parts is draining at once. -/

/-- Draining all the bytes delivered gives the text and leaves the bytes that
the session keeps. -/
def Kept (text : String) (line : Line (Tapped σ)) : Prop :=
  Utf8.drain line.world.delivered = (text.toList, line.pending)

variable {session : Session σ} {before text : String} {line line' : Line (Tapped σ)}

theorem exists_bytes_of_receive {n : Nat} (h : session.tapped.receive line = (.ok n, line')) :
    ∃ bytes, bytes.length = n ∧ line'.world.delivered = line.world.delivered ++ bytes ∧
      line'.pending = line.pending ++ bytes := by
  simp only [receive, tapped, Port.tapped, Tapped.quietly] at h
  rcases hw : session.port.waiting line.world.world with ⟨waiting, s⟩
  rw [hw] at h
  cases waiting with
  | error e => cases h
  | ok waiting =>
      dsimp only at h
      rcases hr : session.port.read (askFor waiting) s with ⟨outcome, s'⟩
      rw [hr] at h
      cases outcome with
      | ok bytes =>
          cases h
          exact ⟨bytes, rfl, rfl, rfl⟩
      | error e =>
          dsimp only at h
          split at h
          · cases h
            exact ⟨[], rfl, (List.append_nil _).symm, (List.append_nil _).symm⟩
          · cases h

theorem Kept.sleep (h : Kept before line) (d : Duration) :
    Kept before { line with world := session.tapped.clock.sleep d line.world } :=
  h

theorem Kept.receive_nothing (h : Kept before line)
    (hr : session.tapped.receive line = (.ok 0, line')) : Kept before line' := by
  obtain ⟨bytes, hlength, hdelivered, hpending⟩ := exists_bytes_of_receive hr
  obtain rfl := List.eq_nil_of_length_eq_zero hlength
  rw [Kept, hdelivered, hpending, List.append_nil, List.append_nil]
  exact h

theorem Kept.receive_drain {n : Nat} (h : Kept before line)
    (hr : session.tapped.receive line = (.ok n, line')) :
    Kept (before ++ String.ofList (Utf8.drain line'.pending).1)
      { line' with pending := (Utf8.drain line'.pending).2 } := by
  obtain ⟨bytes, -, hdelivered, hpending⟩ := exists_bytes_of_receive hr
  rw [Kept] at h ⊢
  rw [hdelivered, Utf8.drain_append, h, hpending, String.toList_append, String.toList_ofList]

/-! ## What calls keep

Each call is followed to its result; a text is returned only when it was drained. -/

theorem Kept.readAvailable (h : Kept before line)
    (hread : session.tapped.readAvailable line = (.ok text, line')) :
    Kept (before ++ text) line' := by
  refine Action.loop_ok (fun text line => Kept (before ++ text) line)
    (fun text line => Kept (before ++ text) line) ?_ ?_ ?_ hread
  · intro text line text' line' h hs
    obtain ⟨n, line₁, hr, hs⟩ := Action.bind_eq_ok_iff.mp hs
    split at hs
    · cases hs
    · obtain ⟨more, line₂, ht, hs⟩ := Action.bind_eq_ok_iff.mp hs
      cases ht
      cases hs
      rw [← String.append_assoc]
      exact h.receive_drain hr
  · intro text line text' line' h hs
    obtain ⟨n, line₁, hr, hs⟩ := Action.bind_eq_ok_iff.mp hs
    split at hs
    · rename_i hn
      cases hs
      exact h.receive_nothing (hn ▸ hr)
    · obtain ⟨more, line₂, ht, hs⟩ := Action.bind_eq_ok_iff.mp hs
      cases hs
  · rw [String.append_empty]
    exact h

theorem Kept.listen {expected : String} {l l' : Listening (Tapped σ)} {found : Option String}
    (h : Kept (before ++ l.heard) l.line)
    (hl : session.tapped.listen expected l = (.ok found, l')) :
    Kept (before ++ l'.heard) l'.line ∧ ∀ text ∈ found, text = l'.heard := by
  simp only [Session.listen] at hl
  rcases hr : session.tapped.receive l.line with ⟨outcome, line⟩
  rw [hr] at hl
  cases outcome with
  | error e => cases hl
  | ok n =>
      cases hl
      refine ⟨?_, fun text hfound => ?_⟩
      · dsimp only
        rw [← String.append_assoc]
        split
        · rename_i hn
          rw [String.ofList_nil, String.append_empty]
          exact h.receive_nothing (hn ▸ hr)
        · exact h.receive_drain hr
      · rw [Option.mem_def, Option.ite_none_right_eq_some] at hfound
        exact (Option.some.inj hfound.2).symm

theorem Kept.waitFor {expected : String} {timeout : Duration} (h : Kept before line)
    (hwait : session.tapped.waitFor expected timeout line = (.ok text, line')) :
    Kept (before ++ text) line' := by
  rw [Session.waitFor] at hwait
  rcases hw : Poll.wait (listeningClock session.tapped.clock) readInterval timeout
    s!"'{expected}' on {session.tapped.port.name}" (session.tapped.listen expected) ⟨line, ""⟩
    with ⟨outcome, l⟩
  rw [hw] at hwait
  cases outcome with
  | error e => cases e <;> cases hwait
  | ok heard =>
      cases hwait
      refine Poll.wait_ok (fun l => Kept (before ++ l.heard) l.line)
        (fun text l => Kept (before ++ text) l.line) ?_ ?_ ?_ ?_ hw
      · intro l l' h hl
        exact (h.listen hl).1
      · intro d l h
        exact Kept.sleep h d
      · intro l heard l' h hl
        obtain ⟨hkept, hheard⟩ := h.listen hl
        rw [hheard heard rfl]
        exact hkept
      · rw [String.append_empty]
        exact h

theorem Kept.writeLine {command : String} {u : Unit} (h : Kept before line)
    (hwrite : onWorld (session.tapped.writeLine command) line = (.ok u, line')) :
    Kept before line' := by
  have hquiet : BoardRig.Lifts (fun s => ⟨s, line.world.delivered⟩) (session.writeLine command)
      (session.tapped.writeLine command) := by
    refine Lifts.writeLine ?_ ?_ command
    · intro bytes s
      rfl
    · intro s
      rfl
  rw [onWorld, hquiet line.world.world] at hwrite
  obtain rfl : _ = line' := congrArg Prod.snd hwrite
  exact h

theorem Kept.call {c : Call} (h : Kept before line)
    (hcall : session.tapped.call c line = (.ok text, line')) : Kept (before ++ text) line' := by
  cases c with
  | writeLine command =>
      obtain ⟨u, line₁, hwrite, hreturn⟩ := Action.bind_eq_ok_iff.mp hcall
      cases hreturn
      rw [String.append_empty]
      exact h.writeLine hwrite
  | sendCommand command settle =>
      obtain ⟨u, line₁, hwrite, hrest⟩ := Action.bind_eq_ok_iff.mp hcall
      obtain ⟨u, line₂, hpause, hread⟩ := Action.bind_eq_ok_iff.mp hrest
      cases hpause
      exact ((h.writeLine hwrite).sleep settle).readAvailable hread
  | readAvailable => exact h.readAvailable hcall
  | waitFor expected timeout => exact h.waitFor hcall

theorem Kept.converse {calls : List Call} {texts : List String} (h : Kept before line)
    (hconverse : session.tapped.converse calls line = (.ok texts, line')) :
    Kept (before ++ String.join texts) line' := by
  rw [Session.converse] at hconverse
  induction calls generalizing before line texts with
  | nil =>
      rw [List.mapM_nil] at hconverse
      cases hconverse
      rw [String.join_nil, String.append_empty]
      exact h
  | cons c calls ih =>
      rw [List.mapM_cons] at hconverse
      obtain ⟨text, line₁, hcall, hrest⟩ := Action.bind_eq_ok_iff.mp hconverse
      obtain ⟨rest, line₂, hcalls, hreturn⟩ := Action.bind_eq_ok_iff.mp hrest
      cases hreturn
      rw [String.join_cons, ← String.append_assoc]
      exact ih (h.call hcall) hcalls

/-! ## Conversations -/

/-- The texts as one, with one U+FFFD for bytes that are kept back. -/
def transcript (texts : List String) (pending : Bytes) : String :=
  String.join texts ++ if pending = [] then "" else String.singleton Utf8.replacement

/-- Calls that all succeed have kept what was delivered from the start. -/
theorem kept_of_converse {calls : List Call} {s : σ} {texts : List String} {line : Line σ}
    (h : session.converse calls ⟨s, []⟩ = (.ok texts, line)) :
    Utf8.drain (session.delivered calls s) = ((String.join texts).toList, line.pending) := by
  obtain ⟨line', hline, rfl⟩ :=
    (session.tapped_lifts.converse calls).exists_eq (t := ⟨⟨s, []⟩, []⟩) h
  have start : Kept "" (⟨⟨s, []⟩, []⟩ : Line (Tapped σ)) := Utf8.drain_nil
  have hkept := start.converse hline
  rw [String.empty_append] at hkept
  rw [delivered, hline]
  exact hkept

theorem transcript_eq {calls : List Call} {s : σ} {texts : List String} {line : Line σ}
    (h : session.converse calls ⟨s, []⟩ = (.ok texts, line)) :
    transcript texts line.pending = Utf8.lossyString (session.delivered calls s) := by
  rw [transcript, Utf8.lossyString, Utf8.decodeLossy_eq_drain, kept_of_converse h,
    String.ofList_append, String.ofList_toList]
  split <;> rfl

/-- The texts that a conversation returns, and one U+FFFD for the bytes that
the session still keeps, are the text of all the bytes delivered. They are the
same for every other conversation in which the same bytes are delivered. -/
theorem converse_returns_delivered (session : Session σ) (calls : List Call) (s : σ)
    (texts : List String) (line : Line σ)
    (h : session.converse calls ⟨s, []⟩ = (.ok texts, line)) :
    transcript texts line.pending = Utf8.lossyString (session.delivered calls s) ∧
      ∀ {τ : Type} (other : Session τ) (calls' : List Call) (t : τ) (texts' : List String)
        (line' : Line τ), other.converse calls' ⟨t, []⟩ = (.ok texts', line') →
        other.delivered calls' t = session.delivered calls s →
        transcript texts' line'.pending = transcript texts line.pending := by
  refine ⟨transcript_eq h, fun other calls' t texts' line' h' hsame => ?_⟩
  rw [transcript_eq h', transcript_eq h, hsame]

/-- A session whose port delivers pieces in turn, and is silent when none is
left. -/
def scripted : Session (List Bytes) where
  port :=
    { name := "port"
      waiting := fun pieces => (.ok (pieces.headD []).length, pieces)
      read := fun _ pieces =>
        match pieces with
        | [] => (.error ⟨.timedOut, "silence"⟩, [])
        | piece :: pieces => (.ok piece, pieces)
      write := fun bytes pieces => (.ok bytes.length, pieces)
      flush := fun pieces => (.ok (), pieces) }
  clock := ⟨fun _ => 0, fun _ pieces => pieces⟩

/-- A character is cut by the end of a call, and another one by the end of the
conversation. -/
theorem converse_returns_delivered_across_calls :
    let calls : List Call := [.readAvailable, .waitFor "✓" 1000]
    let pieces : List Bytes := [[0x48, 0xE2, 0x9C], [], [0x93, 0xC3]]
    scripted.converse calls ⟨pieces, []⟩ = (.ok ["H", "✓"], ⟨[], [0xC3]⟩) ∧
      "H✓\uFFFD" = Utf8.lossyString (scripted.delivered calls pieces) := by
  intro calls pieces
  have hfirst : scripted.readStep "" ⟨pieces, []⟩
      = (.ok (.inl "H"), ⟨[[], [0x93, 0xC3]], [0xE2, 0x9C]⟩) := by
    have hpiece : Utf8.piece 0x48 [0xE2, 0x9C] = .char 'H' [0xE2, 0x9C] := by decide
    have hdrain : Utf8.drain [0x48, 0xE2, 0x9C] = (['H'], [0xE2, 0x9C]) := by
      rw [Utf8.drain, Utf8.readFrom_char hpiece, Utf8.readFrom_cutOff (by decide)]
      rfl
    have hreceive : scripted.receive ⟨pieces, []⟩
        = (.ok 3, ⟨[[], [0x93, 0xC3]], [0x48, 0xE2, 0x9C]⟩) :=
      rfl
    rw [readStep, Action.bind_apply, hreceive]
    dsimp only
    rw [if_neg (by decide), Action.bind_apply, takeText, hdrain]
    rfl
  have hsecond : scripted.readStep "H" ⟨[[], [0x93, 0xC3]], [0xE2, 0x9C]⟩
      = (.ok (.inr "H"), ⟨[[0x93, 0xC3]], [0xE2, 0x9C]⟩) :=
    rfl
  have hread : scripted.readAvailable ⟨pieces, []⟩
      = (.ok "H", ⟨[[0x93, 0xC3]], [0xE2, 0x9C]⟩) := by
    refine Action.loop_of_loop? ?_
    rw [Action.loop?_of_again hfirst]
    exact Action.loop?_of_done hsecond
  have hpiece : Utf8.piece 0xE2 [0x9C, 0x93, 0xC3] = .char '✓' [0xC3] := by decide
  have hdrain : Utf8.drain [0xE2, 0x9C, 0x93, 0xC3] = (['✓'], [0xC3]) := by
    rw [Utf8.drain, Utf8.readFrom_char hpiece, Utf8.readFrom_cutOff (by decide)]
    rfl
  have hlisten : scripted.listen "✓" ⟨⟨[[0x93, 0xC3]], [0xE2, 0x9C]⟩, ""⟩
      = (.ok (some "✓"), ⟨⟨[], [0xC3]⟩, "✓"⟩) := by
    rw [listen]
    simp [receive, scripted, hdrain, Text.occursIn]
  have hwait : scripted.waitFor "✓" 1000 ⟨[[0x93, 0xC3]], [0xE2, 0x9C]⟩
      = (.ok "✓", ⟨[], [0xC3]⟩) := by
    rw [waitFor, Poll.wait_of_found hlisten]
  have h : scripted.converse calls ⟨pieces, []⟩ = (.ok ["H", "✓"], ⟨[], [0xC3]⟩) := by
    rw [converse, List.mapM_cons, List.mapM_cons, List.mapM_nil, Action.bind_apply, call, hread]
    dsimp only
    rw [Action.bind_apply, Action.bind_apply, call, hwait]
    rfl
  refine ⟨h, ?_⟩
  rw [← (converse_returns_delivered scripted calls pieces _ _ h).1]
  decide

end Session

end BoardRig
