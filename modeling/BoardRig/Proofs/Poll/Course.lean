/-
# `BoardRig.Proofs.Poll.Course` — how a wait goes, attempt by attempt

`Course` tells what happens up to some attempt of a wait: every attempt
before it was in vain and ended before the deadline, and was followed by a
pause of the interval or of the time left, whichever is less.  A wait whose
attempt at the end of a course decides, or comes too late, ends with it
(`Course.loop?_eq_some`).

On a clock that only sleeps and attempts move, and never backwards, no
attempt of a course starts after the deadline, and attempt `k` starts no
earlier than `k` intervals after the start, or at the deadline
(`Course.now_le_deadline`, `Course.le_now`).  So the attempt with number
`⌈timeout / interval⌉` is the last one at the latest, and a wait with a
deadline ends (`exists_course`).

On every clock, what attempts in vain and pauses keep is at hand when an
attempt succeeds (`wait_ok`).
-/
import BoardRig.Poll
import BoardRig.Proofs.Ceiling
import BoardRig.Proofs.Loop

namespace BoardRig.Poll

variable {σ α : Type}

/-! ## Outcomes of attempts

A round is an attempt and, if the wait goes on, a pause.  Whether it goes on is
decided by the answer and by the deadline. -/

/-- What an attempt says about the wait: it fails, it is over, or the attempt
was in vain. -/
def decided : Except Error (Option α) → Option (Except Error α)
  | .error e => some (.error e)
  | .ok (some a) => some (.ok a)
  | .ok none => none

/-- The pause after an attempt in vain that ended at some time. -/
def pauseAt (interval : Duration) : Option Duration → Duration → Duration
  | none, _ => interval
  | some d, now => min interval (d - now)

variable (clock : Clock σ) (interval : Duration) (deadline : Option Duration) (late : Error)
  (attempt : Action σ (Option α))

/-- Whether an attempt that begins in this world is followed by another one. -/
def GoesOn (s : σ) : Prop :=
  (attempt s).1 = .ok none ∧ ∀ d ∈ deadline, clock.now (attempt s).2 < d

/-- The world after an attempt in vain and the pause that follows. -/
def turn (s : σ) : σ :=
  clock.sleep (pauseAt interval deadline (clock.now (attempt s).2)) (attempt s).2

variable {clock interval deadline late attempt}

theorem round_of_goesOn {s : σ} (h : GoesOn clock deadline attempt s) :
    round clock interval deadline late attempt s
      = (.ok (.inl ()), turn clock interval deadline attempt s) := by
  obtain ⟨hvain, hearly⟩ := h
  rcases hs : attempt s with ⟨x, s'⟩
  rw [hs] at hvain hearly
  obtain rfl : x = .ok none := hvain
  rw [round, turn, hs]
  cases deadline with
  | none => rfl
  | some d => exact if_neg (Nat.not_le.mpr (hearly d rfl))

variable (interval late) in
/-- An attempt that is not followed by another one ends the wait: by what it
decides, or too late. -/
theorem round_of_not_goesOn {s : σ} (h : ¬ GoesOn clock deadline attempt s) :
    round clock interval deadline late attempt s
      = (((decided (attempt s).1).getD (.error late)).map .inr, (attempt s).2) := by
  rcases hs : attempt s with ⟨x, s'⟩
  rw [round, hs]
  cases x with
  | error e => rfl
  | ok found =>
      cases found with
      | some a => rfl
      | none =>
          rw [GoesOn, hs] at h
          cases deadline with
          | none => exact absurd ⟨rfl, fun d hd => nomatch hd⟩ h
          | some d =>
              have hlate : d ≤ clock.now s' := by
                by_contra hearly
                exact h ⟨rfl, fun d' hd' => Option.some.inj hd' ▸ Nat.not_le.mp hearly⟩
              exact if_pos hlate

/-! ## Success -/

theorem round_again {s s' : σ} {u : Unit}
    (h : round clock interval deadline late attempt s = (.ok (.inl u), s')) :
    ∃ s₁, attempt s = (.ok none, s₁) ∧ (∀ d ∈ deadline, clock.now s₁ < d) ∧
      s' = clock.sleep (pauseAt interval deadline (clock.now s₁)) s₁ := by
  by_cases hs : GoesOn clock deadline attempt s
  · rw [round_of_goesOn hs] at h
    cases h
    exact ⟨(attempt s).2, Prod.ext hs.1 rfl, hs.2, rfl⟩
  · rw [round_of_not_goesOn interval late hs] at h
    cases hx : (decided (attempt s).1).getD (.error late) <;> rw [hx] at h <;> cases h

theorem round_failed {s s' : σ} {e : Error}
    (h : round clock interval deadline late attempt s = (.error e, s')) :
    attempt s = (.error e, s') ∨
      (e = late ∧ attempt s = (.ok none, s') ∧ ∃ d ∈ deadline, d ≤ clock.now s') := by
  by_cases hs : GoesOn clock deadline attempt s
  · rw [round_of_goesOn hs] at h
    cases h
  · rw [round_of_not_goesOn interval late hs] at h
    rcases hx : attempt s with ⟨x, s₁⟩
    rw [GoesOn, hx, not_and] at hs
    rw [hx] at h
    rcases x with e' | _ | a
    · cases h
      exact .inl rfl
    · cases h
      exact .inr ⟨rfl, rfl, by simpa using hs rfl⟩
    · cases h

theorem round_done {s s' : σ} {a : α}
    (h : round clock interval deadline late attempt s = (.ok (.inr a), s')) :
    attempt s = (.ok (some a), s') := by
  by_cases hs : GoesOn clock deadline attempt s
  · rw [round_of_goesOn hs] at h
    cases h
  · rw [round_of_not_goesOn interval late hs] at h
    rcases hx : attempt s with ⟨x, s₁⟩
    rw [hx] at h
    rcases x with e | found
    · cases h
    · cases found <;> cases h
      rfl

theorem wait_of_found {timeout : Duration} {what : String} {s s' : σ} {a : α}
    (h : attempt s = (.ok (some a), s')) :
    wait clock interval timeout what attempt s = (.ok a, s') := by
  rw [wait]
  exact Action.loop_of_loop? (Action.loop?_of_done (by rw [round, h]))

/-- An invariant of attempts in vain and of pauses is at hand when an attempt
succeeds. -/
theorem wait_ok (I : σ → Prop) (Q : α → σ → Prop) {timeout : Duration} {what : String} {s s' : σ}
    {a : α} (vain : ∀ s s', I s → attempt s = (.ok none, s') → I s')
    (pause : ∀ d s, I s → I (clock.sleep d s))
    (found : ∀ s a s', I s → attempt s = (.ok (some a), s') → Q a s') (start : I s)
    (h : wait clock interval timeout what attempt s = (.ok a, s')) : Q a s' := by
  refine Action.loop_ok (fun _ => I) Q ?_ ?_ start h
  · intro _ s _ s' hI hs
    obtain ⟨s₁, hvain, -, rfl⟩ := round_again hs
    exact pause _ s₁ (vain s s₁ hI hvain)
  · intro _ s a s' hI hs
    exact found s a s' hI (round_done hs)

theorem keeps_wait {I : σ → Prop} (h : Action.Keeps I attempt)
    (pause : ∀ d s, I s → I (clock.sleep d s)) (interval timeout : Duration) (what : String) :
    Action.Keeps I (wait clock interval timeout what attempt) := by
  intro s
  rw [wait]
  generalize deadline? (clock.now s) timeout = deadline
  refine Action.Keeps.loop (fun _ s start => ?_) () s
  by_cases hs : GoesOn clock deadline attempt s
  · rw [round_of_goesOn hs]
    exact pause _ _ (h s start)
  · rw [round_of_not_goesOn interval _ hs]
    exact h s start

/-! ## Courses

A course names the world before every attempt.  It determines these worlds, and the
loop follows it to its last attempt. -/

variable (clock interval deadline attempt)

/-- A wait that begins in world `s` makes attempt `k` in world `before k`, up
to attempt `last`. -/
structure Course (s : σ) (last : Nat) (before : Nat → σ) : Prop where
  start : before 0 = s
  vain : ∀ k < last, (attempt (before k)).1 = .ok none
  early : ∀ k < last, ∀ d ∈ deadline, clock.now (attempt (before k)).2 < d
  pause : ∀ k < last, before (k + 1) =
    clock.sleep (pauseAt interval deadline (clock.now (attempt (before k)).2))
      (attempt (before k)).2

/-- The worlds in which attempts are made, as long as they go on. -/
def worlds (s : σ) : Nat → σ
  | 0 => s
  | k + 1 => turn clock interval deadline attempt (worlds s k)

variable {clock interval deadline attempt} {s : σ} {last : Nat} {before : Nat → σ}

variable (interval) in
theorem course_worlds
    (h : ∀ k < last, GoesOn clock deadline attempt (worlds clock interval deadline attempt s k)) :
    Course clock interval deadline attempt s last (worlds clock interval deadline attempt s) where
  start := rfl
  vain := fun k hk => (h k hk).1
  early := fun k hk => (h k hk).2
  pause := fun _ _ => rfl

theorem Course.goesOn (c : Course clock interval deadline attempt s last before) {k : Nat}
    (hk : k < last) : GoesOn clock deadline attempt (before k) :=
  ⟨c.vain k hk, c.early k hk⟩

theorem Course.loop?_eq (c : Course clock interval deadline attempt s last before) :
    Action.loop? (fun _ => round clock interval deadline late attempt) () s
      = Action.loop? (fun _ => round clock interval deadline late attempt) () (before last) := by
  rw [← c.start]
  refine Action.loop?_of_steps (fun _ => ()) before fun k hk => ?_
  rw [c.pause k hk]
  exact round_of_goesOn (c.goesOn hk)

/-- A wait ends with the attempt at the end of its course, unless that one is
in vain and in time. -/
theorem Course.loop?_eq_some (c : Course clock interval deadline attempt s last before)
    (hlast : ¬ GoesOn clock deadline attempt (before last)) :
    Action.loop? (fun _ => round clock interval deadline late attempt) () s
      = some ((decided (attempt (before last)).1).getD (.error late),
          (attempt (before last)).2) := by
  have hround := round_of_not_goesOn interval late hlast
  rw [c.loop?_eq]
  cases hx : (decided (attempt (before last)).1).getD (.error late) with
  | error e =>
      rw [hx] at hround
      exact Action.loop?_of_error hround
  | ok a =>
      rw [hx] at hround
      exact Action.loop?_of_done hround

/-! ## Time

The clock moves in pauses and in attempts, and never back.  So the start of an
attempt is bounded from both sides, and known exactly where attempts take no time. -/

/-- A clock that attempts do not turn back, and that sleeping moves by just
the time slept. -/
structure Steady (clock : Clock σ) (attempt : Action σ (Option α)) : Prop where
  sleep : ∀ d s, clock.now (clock.sleep d s) = clock.now s + d
  attempt : ∀ s, clock.now s ≤ clock.now (attempt s).2

section Time

variable {d : Duration} (steady : Steady clock attempt)
  (c : Course clock interval (some d) attempt s last before)

include steady c

/-- An attempt begins an interval after the end of the one before it, or at
the deadline. -/
theorem Course.now_succ {k : Nat} (hk : k < last) :
    clock.now (before (k + 1)) = min (clock.now (attempt (before k)).2 + interval) d := by
  have hearly := c.early k hk d rfl
  rw [c.pause k hk, steady.sleep, pauseAt]
  unfold Duration at *
  omega

theorem Course.now_le_deadline (hs : clock.now s ≤ d) {k : Nat} (hk : k ≤ last) :
    clock.now (before k) ≤ d := by
  cases k with
  | zero => exact c.start ▸ hs
  | succ k =>
      rw [c.now_succ steady hk]
      exact Nat.min_le_right _ _

theorem Course.le_now {k : Nat} (hk : k ≤ last) :
    min (clock.now s + k * interval) d ≤ clock.now (before k) := by
  induction k with
  | zero =>
      rw [c.start, Nat.zero_mul]
      exact Nat.min_le_left _ _
  | succ k ih =>
      have hbefore := ih (Nat.le_of_succ_le hk)
      have hattempt := steady.attempt (before k)
      rw [c.now_succ steady hk, Nat.succ_mul]
      unfold Duration at *
      omega

/-- If attempts take no time, attempt `k` begins `k` intervals after the
start, or at the deadline. -/
theorem Course.now_eq_of_instant (hs : clock.now s ≤ d)
    (instant : ∀ k < last, clock.now (attempt (before k)).2 = clock.now (before k))
    {k : Nat} (hk : k ≤ last) :
    clock.now (before k) = min (clock.now s + k * interval) d := by
  induction k with
  | zero =>
      rw [c.start, Nat.zero_mul]
      exact (Nat.min_eq_left hs).symm
  | succ k ih =>
      rw [c.now_succ steady hk, instant k hk, ih (Nat.le_of_succ_le hk), Nat.succ_mul]
      unfold Duration at *
      omega

end Time

theorem Course.pause_of_instant {timeout : Duration} (steady : Steady clock attempt)
    (c : Course clock interval (some (clock.now s + timeout)) attempt s last before)
    (instant : ∀ s, clock.now (attempt s).2 = clock.now s) {k : Nat} (hk : k < last) :
    before (k + 1)
      = clock.sleep (min interval (timeout - k * interval)) (attempt (before k)).2 := by
  have hnow := c.now_eq_of_instant steady (Nat.le_add_right _ _) (fun k _ => instant (before k))
    hk.le
  have hleft :
      clock.now s + timeout - clock.now (attempt (before k)).2 = timeout - k * interval := by
    rw [instant, hnow]
    unfold Duration at *
    omega
  rw [c.pause k hk, ← hleft]
  rfl

/-! ## Beats

The worlds of a course as iterations of one turn, which do not depend on what the
attempts answer as long as they are in vain. -/

/-- The worlds in which something is done again and again, with the pauses of a
wait between them. -/
def beats (clock : Clock σ) (interval timeout : Duration) (act : σ → σ) (s : σ) : Nat → σ
  | 0 => s
  | k + 1 =>
    clock.sleep (min interval (timeout - k * interval)) (act (beats clock interval timeout act s k))

theorem now_beats {timeout : Duration} {act : σ → σ}
    (exact : ∀ d s, clock.now (clock.sleep d s) = clock.now s + d)
    (instant : ∀ s, clock.now (act s) = clock.now s) (k : Nat) :
    clock.now (beats clock interval timeout act s k)
      = clock.now s + min (k * interval) timeout := by
  induction k with
  | zero => rw [beats, Nat.zero_mul, Nat.zero_min, Nat.add_zero]
  | succ k ih =>
      rw [beats, exact, instant, ih, Nat.succ_mul]
      unfold Duration at *
      omega

theorem beats_congr {timeout : Duration} {act act' : σ → σ} {n : Nat}
    (same : ∀ k < n, act (beats clock interval timeout act s k)
      = act' (beats clock interval timeout act s k)) :
    beats clock interval timeout act s n = beats clock interval timeout act' s n := by
  induction n with
  | zero => rfl
  | succ n ih =>
      rw [beats, beats, same n (Nat.lt_succ_self n), ih fun k hk => same k (Nat.lt_succ_of_lt hk)]

theorem Course.before_eq_beats {timeout : Duration} (steady : Steady clock attempt)
    (c : Course clock interval (some (clock.now s + timeout)) attempt s last before)
    (instant : ∀ s, clock.now (attempt s).2 = clock.now s) {k : Nat} (hk : k ≤ last) :
    before k = beats clock interval timeout (fun s => (attempt s).2) s k := by
  induction k with
  | zero => exact c.start
  | succ k ih => rw [c.pause_of_instant steady instant hk, ih (Nat.le_of_succ_le hk), beats]

/-- A wait with a deadline ends after no more pauses than fill the timeout. -/
theorem exists_course (timeout : Duration) (positive : 0 < interval)
    (steady : Steady clock attempt) (s : σ) :
    ∃ last before, last ≤ timeout ⌈/⌉ interval ∧
      Course clock interval (some (clock.now s + timeout)) attempt s last before ∧
      ¬ GoesOn clock (some (clock.now s + timeout)) attempt (before last) := by
  have hend : ∃ k ≤ timeout ⌈/⌉ interval, ¬ GoesOn clock (some (clock.now s + timeout)) attempt
      (worlds clock interval (some (clock.now s + timeout)) attempt s k) := by
    by_contra hall
    push Not at hall
    -- So many pauses of the interval lead up to the deadline.
    have c := course_worlds interval fun k (hk : k < timeout ⌈/⌉ interval + 1) =>
      hall k (Nat.le_of_lt_succ hk)
    have hnow := c.le_now steady (Nat.le_succ (timeout ⌈/⌉ interval))
    have hcover := le_ceilDiv_mul (n := timeout) positive
    have hattempt := steady.attempt
      (worlds clock interval (some (clock.now s + timeout)) attempt s (timeout ⌈/⌉ interval))
    have hearly := c.early _ (Nat.lt_succ_self _) _ rfl
    unfold Duration at *
    omega
  classical
  obtain ⟨hle, hlast⟩ := Nat.find_spec hend
  refine ⟨Nat.find hend, _, hle, course_worlds interval fun k hk => ?_, hlast⟩
  by_contra hk'
  exact Nat.find_min hend hk ⟨(Nat.le_of_lt hk).trans hle, hk'⟩

end BoardRig.Poll
