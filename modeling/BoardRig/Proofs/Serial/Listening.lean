/-
# `BoardRig.Proofs.Serial.Listening` — which read a wait for a text ends with

While a session listens, what it has heard and what it keeps are what draining
gives of the bytes kept before and of all that came since (`hearing`,
`listen_hearing`).  So a wait can be told from the reads alone that are made
beat by beat (`readAt`).  It ends with the first read after which the text is
there or which fails, or with the one at the deadline (`waitFor_exact`).
-/
import BoardRig.Proofs.Occurrence
import BoardRig.Proofs.Serial.Opened

namespace BoardRig

variable {σ : Type}

namespace Session

/-! ## Reads -/

/-- The bytes of the first `k` reads. -/
def gathered (reads : Nat → Except Error Bytes) : Nat → Bytes
  | 0 => []
  | k + 1 => gathered reads k ++ bytesOf (reads k)

/-- The worlds in which a wait that goes on begins its reads. -/
def readWorlds (session : Session σ) (timeout : Duration) (s : σ) : Nat → σ :=
  Poll.beats session.clock readInterval timeout (fun s => (fetch session.port s).2) s

/-- What comes of the reads of a wait that goes on. -/
def readAt (session : Session σ) (timeout : Duration) (s : σ) (k : Nat) : Except Error Bytes :=
  (fetch session.port (session.readWorlds timeout s k)).1

/-! ## Listening

A listener that has drained some bytes is determined by them, so its state can be
computed from the reads. -/

/-- A session that has drained some bytes while it listened. -/
def hearing (s : σ) (bs : Bytes) : Listening σ :=
  ⟨⟨s, (Utf8.drain bs).2⟩, textOf bs⟩

theorem hearing_of_drained {line : Line σ} (h : line.Drained) :
    hearing line.world line.pending = ⟨line, ""⟩ := by
  rw [hearing, textOf, Utf8.drain_of_isStart h]

/-- A read puts its bytes behind those that were drained, and looks for the text
in all of them. -/
theorem listen_hearing (session : Session σ) (expected : String) (s : σ) (bs : Bytes) :
    session.listen expected (hearing s bs)
      = ((fetch session.port s).1.map fun bytes =>
          if Text.occursIn expected.toList (textOf (bs ++ bytes)).toList then
            some (textOf (bs ++ bytes)) else none,
        hearing (fetch session.port s).2 (bs ++ bytesOf (fetch session.port s).1)) := by
  simp only [listen, receive_eq, hearing]
  rcases fetch session.port s with ⟨e | bytes, s'⟩
  · simp [bytesOf, Except.map]
  · by_cases hnone : bytes = []
    · simp [hnone, bytesOf, Except.map]
    · have drained := Utf8.drain_append bs bytes
      simp [hnone, bytesOf, Except.map, textOf, drained]

/-- A wait reads where a wait that goes on reads, and has then drained what all
these reads brought. -/
theorem beats_listen (session : Session σ) (expected : String) (timeout : Duration) (s : σ)
    (bs : Bytes) (k : Nat) :
    Poll.beats (listeningClock session.clock) readInterval timeout
        (fun l => (session.listen expected l).2) (hearing s bs) k
      = hearing (session.readWorlds timeout s k)
          (bs ++ gathered (session.readAt timeout s) k) := by
  induction k with
  | zero =>
      rw [gathered, List.append_nil]
      rfl
  | succ k ih =>
      rw [Poll.beats, ih, listen_hearing, List.append_assoc]
      rfl

/-! ## Time -/

/-- The clock stands still while bytes are counted and read. -/
structure Instant (port : Port σ) (clock : Clock σ) : Prop where
  waiting : ∀ s, clock.now (port.waiting s).2 = clock.now s
  read : ∀ n s, clock.now (port.read n s).2 = clock.now s

section Instant

variable {port : Port σ} {clock : Clock σ} (instant : Instant port clock)

include instant

theorem Instant.keeps_receives {es : List (Event σ)} {r : Except Error Bytes}
    (h : Receives port es r) : ∀ e ∈ es, e.Keeps clock.now := by
  have waiting : ∀ answer, (Event.waiting port answer).Keeps clock.now :=
    fun answer => Event.keeps_of_act (fun _ _ h => h) instant.waiting
  have read : ∀ limit answer, (Event.read port limit answer).Keeps clock.now :=
    fun limit answer => Event.keeps_of_act (fun _ _ h => h) (instant.read limit)
  cases h with
  | unready => exact List.forall_mem_singleton.mpr (waiting _)
  | arrived | silent | failed =>
      exact List.forall_mem_cons.mpr ⟨waiting _, List.forall_mem_singleton.mpr (read _ _)⟩

theorem now_fetch (s : σ) : clock.now (fetch port s).2 = clock.now s := by
  obtain ⟨es, hleads, receives⟩ := shows_fetch port s
  exact hleads.keeps (instant.keeps_receives receives)

end Instant

theorem now_listen {session : Session σ} (instant : Instant session.port session.clock)
    (expected : String) (l : Listening σ) :
    (listeningClock session.clock).now (session.listen expected l).2
      = (listeningClock session.clock).now l := by
  have stands := now_fetch instant l.line.world
  simp only [listen, receive_eq, listeningClock]
  rcases hfetch : fetch session.port l.line.world with ⟨e | bytes, s⟩ <;> rw [hfetch] at stands
  · exact stands
  · exact stands

/-! ## Waits

The first read that ends the wait is told by what all the reads up to it brought. -/

section Waits

variable (session : Session σ) (expected : String) (timeout : Duration) (line : Line σ)

/-- The text of the bytes that were kept and of those of the first `k` reads. -/
def textAfter (k : Nat) : String :=
  textOf (line.pending ++ gathered (session.readAt timeout line.world) k)

/-- Read `k` does not fail, and the text is not there after it. -/
def InVain (k : Nat) : Prop :=
  (∃ bytes, session.readAt timeout line.world k = .ok bytes) ∧
    ¬ expected.toList <:+: (session.textAfter timeout line (k + 1)).toList

/-- What a wait comes to that ends with read `last`. -/
inductive WaitEnds (last : Nat) : Except Error String → Prop where
  | seen {bytes : Bytes} (read : session.readAt timeout line.world last = .ok bytes)
      (seen : expected.toList <:+: (session.textAfter timeout line (last + 1)).toList) :
      WaitEnds last (.ok (session.textAfter timeout line (last + 1)))
  | failed {e : Error} (fault : session.readAt timeout line.world last = .error e) :
      WaitEnds last (.error e)
  | expired (vain : InVain session expected timeout line last) :
      WaitEnds last
        (.error (session.notSeen expected timeout (session.textAfter timeout line (last + 1))))

/-- A wait that ends with read `last`, where read `k` consists of the calls
`asked k`. -/
structure Waits (asked : Nat → List (Event σ)) (last : Nat) (r : Except Error String × Line σ) :
    Prop where
  /-- There are at most so many pauses, and one read more than pauses. -/
  few : last ≤ timeout ⌈/⌉ readInterval
  vain : ∀ k < last, InVain session expected timeout line k
  reads : ∀ k ≤ last, Receives session.port (asked k) (session.readAt timeout line.world k)
  /-- The pauses fill the timeout, and the last of them is cut short. -/
  leads : Leads line.world (passCalls session.clock
    (fun k => min readInterval (timeout - k * readInterval)) asked last) r.2.world
  begins : ∀ k ≤ last, session.clock.now (session.readWorlds timeout line.world k)
    = session.clock.now line.world + min (k * readInterval) timeout
  lasts : session.clock.now r.2.world
    = session.clock.now line.world + min (last * readInterval) timeout
  kept : r.2.pending
    = (Utf8.drain (line.pending ++ gathered (session.readAt timeout line.world) (last + 1))).2
  ends : WaitEnds session expected timeout line last r.1
  /-- In vain, all the reads are made and just the timeout passes. -/
  exhausts : InVain session expected timeout line last →
    last = timeout ⌈/⌉ readInterval ∧
      session.clock.now r.2.world = session.clock.now line.world + timeout

/-- What read `k` says about the wait. -/
def verdict (k : Nat) : Except Error (Option String) :=
  (session.readAt timeout line.world k).map fun _ =>
    if Text.occursIn expected.toList (session.textAfter timeout line (k + 1)).toList then
      some (session.textAfter timeout line (k + 1)) else none

variable {session expected timeout line}

theorem listen_readWorlds (k : Nat) :
    session.listen expected (hearing (session.readWorlds timeout line.world k)
        (line.pending ++ gathered (session.readAt timeout line.world) k))
      = (session.verdict expected timeout line k,
        hearing (fetch session.port (session.readWorlds timeout line.world k)).2
          (line.pending ++ gathered (session.readAt timeout line.world) (k + 1))) := by
  rw [listen_hearing, verdict, textAfter, gathered, ← List.append_assoc]
  rcases hread : session.readAt timeout line.world k with e | bytes
  all_goals
    rw [readAt] at hread
    rw [hread]
    rfl

theorem inVain_iff {k : Nat} :
    InVain session expected timeout line k ↔
      session.verdict expected timeout line k = .ok none := by
  rw [InVain, verdict, ← Text.occursIn_iff]
  rcases session.readAt timeout line.world k with e | bytes
  · exact ⟨fun ⟨⟨_, h⟩, _⟩ => (nomatch h), fun h => (nomatch h)⟩
  · simp [Except.map]

theorem fetch_ne_timeout {port : Port σ}
    (untimed : ∀ s text, (port.waiting s).1 ≠ .error (.timeout text)) (s : σ) (text : String) :
    (fetch port s).1 ≠ .error (.timeout text) := by
  obtain ⟨es, leads, receives⟩ := shows_fetch port s
  intro h
  rw [h] at receives
  cases receives with
  | unready =>
      cases leads with
      | call counted rest => exact untimed s text (congrArg Prod.fst counted)

theorem waitEnds_of_wait {last : Nat} {what : String} {s : σ}
    (untimed : ∀ s text, (session.port.waiting s).1 ≠ .error (.timeout text))
    (h : Poll.wait (listeningClock session.clock) readInterval timeout
        s!"'{expected}' on {session.port.name}" (session.listen expected) ⟨line, ""⟩
      = ((Poll.decided (session.verdict expected timeout line last)).getD
          (.error (Poll.expired what timeout)),
        hearing s (line.pending ++ gathered (session.readAt timeout line.world) (last + 1)))) :
    WaitEnds session expected timeout line last (session.waitFor expected timeout line).1 ∧
      (session.waitFor expected timeout line).2 = ⟨s, (Utf8.drain
        (line.pending ++ gathered (session.readAt timeout line.world) (last + 1))).2⟩ := by
  rw [waitFor, h]
  cases hread : session.readAt timeout line.world last with
  | error e =>
      have fails : session.verdict expected timeout line last = .error e := by
        rw [verdict, hread]
        rfl
      rw [fails]
      cases e with
      | timeout text => exact absurd hread (fetch_ne_timeout untimed _ text)
      | _ => exact ⟨.failed hread, rfl⟩
  | ok bytes =>
      by_cases seen : expected.toList <:+: (session.textAfter timeout line (last + 1)).toList
      · have there : session.verdict expected timeout line last
            = .ok (some (session.textAfter timeout line (last + 1))) := by
          rw [verdict, hread, Except.map, if_pos (Text.occursIn_iff.mpr seen)]
        rw [there]
        exact ⟨.seen hread seen, rfl⟩
      · have vain : InVain session expected timeout line last := ⟨⟨bytes, hread⟩, seen⟩
        rw [inVain_iff.mp vain]
        exact ⟨.expired vain, rfl⟩

end Waits

/-- A wait reads at once, after each pause, and at last at the deadline. It ends with
the first read after which the text is there, or with the first one that fails, and
otherwise it is over just when the time is. -/
theorem waitFor_exact (session : Session σ) (expected : String) (timeout : Duration)
    (line : Line σ) (opened : session.Opened line)
    (exact : ∀ d s, session.clock.now (session.clock.sleep d s) = session.clock.now s + d)
    (instant : Instant session.port session.clock)
    (untimed : ∀ s text, (session.port.waiting s).1 ≠ .error (.timeout text))
    (shown : session.clock.now line.world + timeout < Poll.horizon) :
    ∃ asked last,
      Waits session expected timeout line asked last (session.waitFor expected timeout line) := by
  have positive : 0 < readInterval := by decide
  -- A session keeps only what draining leaves, so it starts like one that has drained
  -- these bytes while it listened.
  have start : hearing line.world line.pending = ⟨line, ""⟩ := hearing_of_drained opened.drained
  have begins : ∀ k, session.clock.now (session.readWorlds timeout line.world k)
      = session.clock.now line.world + min (k * readInterval) timeout :=
    Poll.now_beats exact (now_fetch instant)
  have exact' : ∀ d l, (listeningClock session.clock).now ((listeningClock session.clock).sleep d l)
      = (listeningClock session.clock).now l + d := fun d l => exact d l.line.world
  have shown' : (listeningClock session.clock).now ⟨line, ""⟩ + timeout < Poll.horizon := shown
  obtain ⟨last, few, vain, full, hwait⟩ := Poll.exists_last_attempt (session.listen expected)
    s!"'{expected}' on {session.port.name}" positive exact' (now_listen instant expected) shown'
  rw [← start, beats_listen, listen_readWorlds] at full
  rw [← start, beats_listen, listen_readWorlds, start] at hwait
  obtain ⟨ends, hline⟩ := waitEnds_of_wait untimed hwait
  choose asked leads receives using fun k =>
    shows_fetch session.port (session.readWorlds timeout line.world k)
  have lasts : session.clock.now (session.waitFor expected timeout line).2.world
      = session.clock.now line.world + min (last * readInterval) timeout := by
    rw [hline, now_fetch instant, begins]
  refine ⟨asked, last, few, fun k hk => inVain_iff.mpr ?_, fun k _ => receives k, ?_,
    fun k _ => begins k, lasts, congrArg Line.pending hline, ends, fun hvain => ?_⟩
  · have hvain := vain k hk
    rw [← start, beats_listen, listen_readWorlds] at hvain
    exact hvain
  · rw [hline]
    exact leads_passCalls leads fun k _ => rfl
  · obtain rfl := full (inVain_iff.mp hvain)
    exact ⟨rfl, by rw [lasts, Nat.min_eq_right (le_ceilDiv_mul positive)]⟩

/-- A session whose port answers reads in turn, and has nothing more after that, on
a clock that only sleeping moves. -/
def prompted : Session (Duration × List (Except IoError Bytes)) where
  port :=
    { name := "port"
      waiting := fun s => (.ok 0, s)
      read := fun _ s => (s.2.headD (.ok []), s.1, s.2.tail)
      write := fun bytes s => (.ok bytes.length, s)
      flush := fun s => (.ok (), s) }
  clock := ⟨Prod.fst, fun d s => (s.1 + d, s.2)⟩

/-- A character that an earlier call has begun goes on after a silence and an empty
read, and the text behind it is whole with the read at the deadline. -/
theorem waitFor_exact_at_deadline :
    let script : List (Except IoError Bytes) :=
      [.error ⟨.timedOut, "silence"⟩, .ok [0x9C], .ok [], .ok [0x93, 0x21]]
    let line : Line (Duration × List (Except IoError Bytes)) := ⟨(0, script), [0xE2]⟩
    let timeout := Duration.ofMillis 50
    let outcome := prompted.waitFor "✓!" timeout line
    (prompted.Opened line ∧
      (∀ d s, prompted.clock.now (prompted.clock.sleep d s) = prompted.clock.now s + d) ∧
      Instant prompted.port prompted.clock ∧
      (∀ s text, (prompted.port.waiting s).1 ≠ .error (.timeout text)) ∧
      prompted.clock.now line.world + timeout < Poll.horizon) ∧
      (∃ asked, Waits prompted "✓!" timeout line asked 3 outcome) ∧ outcome.1 = .ok "✓!" := by
  intro script line timeout outcome
  have begun : Utf8.IsStart [0xE2] := ⟨'✓', [0x9C, 0x93], by decide, rfl⟩
  have further : Utf8.IsStart [0xE2, 0x9C] := ⟨'✓', [0x93], by decide, rfl⟩
  have opened : prompted.Opened line := by
    have more : prompted.readStep "" ⟨(0, [.ok [0xE2]]), []⟩
        = (.ok (.inl ""), ⟨(0, []), [0xE2]⟩) := by
      have received : prompted.receive ⟨(0, [.ok [0xE2]]), []⟩ = (.ok 1, ⟨(0, []), [0xE2]⟩) := rfl
      rw [readStep_eq, received]
      simp [Utf8.drain_of_isStart begun]
    have done : prompted.readStep "" ⟨(0, []), [0xE2]⟩ = (.ok (.inr ""), ⟨(0, []), [0xE2]⟩) := rfl
    have read : prompted.call .readAvailable ⟨(0, [.ok [0xE2]]), []⟩
        = (.ok "", ⟨(0, []), [0xE2]⟩) :=
      Action.loop_of_loop? ((Action.loop?_of_again more).trans (Action.loop?_of_done done))
    have earlier := (Opened.new (0, [.ok [0xE2]]) : prompted.Opened _).called .readAvailable
    rw [read] at earlier
    exact earlier.meanwhile (0, script)
  have exact : ∀ d s, prompted.clock.now (prompted.clock.sleep d s) = prompted.clock.now s + d :=
    fun _ _ => rfl
  have instant : Instant prompted.port prompted.clock := ⟨fun _ => rfl, fun _ _ => rfl⟩
  have untimed : ∀ s text, (prompted.port.waiting s).1 ≠ .error (.timeout text) := by
    intro s text h
    cases h
  have shown : prompted.clock.now line.world + timeout < Poll.horizon := by decide
  obtain ⟨asked, last, w⟩ :=
    waitFor_exact prompted "✓!" timeout line opened exact instant untimed shown
  have final : timeout ⌈/⌉ readInterval = 3 :=
    (Nat.ceilDiv_eq_add_pred_div timeout readInterval).trans (by decide)
  have vain : ∀ k < 3, InVain prompted "✓!" timeout line k := by
    intro k hk
    obtain ⟨bytes, read, start⟩ : ∃ bytes, prompted.readAt timeout line.world k = .ok bytes ∧
        Utf8.IsStart (line.pending ++ gathered (prompted.readAt timeout line.world) (k + 1)) := by
      interval_cases k
      · exact ⟨[], rfl, begun⟩
      · exact ⟨[0x9C], rfl, further⟩
      · exact ⟨[], rfl, further⟩
    refine ⟨⟨bytes, read⟩, ?_⟩
    have unseen : ¬ "✓!".toList <:+: "".toList := by decide
    rw [textAfter, textOf, Utf8.drain_of_isStart start]
    exact unseen
  obtain rfl : last = 3 := by
    by_contra other
    have earlier : last < 3 := Nat.lt_of_le_of_ne (final ▸ w.few) other
    exact other ((w.exhausts (vain last earlier)).1.trans final)
  have text : prompted.textAfter timeout line 4 = "✓!" := by
    have whole : Utf8.piece 0xE2 [0x9C, 0x93, 0x21] = .char '✓' [0x21] := by decide
    have mark : Utf8.piece 0x21 [] = .char '!' [] := by decide
    have drained : Utf8.drain [0xE2, 0x9C, 0x93, 0x21] = (['✓', '!'], []) := by
      rw [Utf8.drain, Utf8.readFrom_char whole, Utf8.readFrom_char mark, Utf8.readFrom_nil]
      rfl
    exact congrArg (fun d => String.ofList d.1) drained
  have read : prompted.readAt timeout line.world 3 = .ok [0x93, 0x21] := rfl
  refine ⟨⟨opened, exact, instant, untimed, shown⟩, ⟨asked, w⟩, ?_⟩
  have ends := w.ends
  change WaitEnds prompted "✓!" timeout line 3 outcome.1 at ends
  generalize outcome.1 = r at ends ⊢
  cases ends with
  | seen => rw [text]
  | failed fault =>
      rw [read] at fault
      cases fault
  | expired vain =>
      refine absurd ?_ vain.2
      rw [text]

end Session

end BoardRig
