/-
# `BoardRig.Proofs.Poll.Deadline` — a wait keeps its deadline

What a wait does is settled by the attempts alone, however slow they are.
With a deadline that the clock can show it is `Punctual`: it ends with the
first attempt that decides, or with the first one in vain that is too late,
and until then it pauses for the interval or the time left.  Without one it
is `Boundless`: it pauses for the whole interval and ends with nothing but an
attempt that decides.
-/
import BoardRig.Proofs.Poll.Course
import Mathlib.Tactic.IntervalCases

namespace BoardRig.Poll

variable {σ α : Type} (clock : Clock σ) (interval timeout : Duration)
  (attempt : Action σ (Option α)) (s : σ)

/-- A wait with a deadline that begins in world `s`, makes attempt `k` in
world `before k` up to attempt `last`, and has the end `r`. -/
structure Punctual (late : Error) (r : Except Error α × σ) (last : Nat) (before : Nat → σ) :
    Prop where
  /-- Attempts before the last one are in vain and end before the deadline; the
  pause after each is the interval or the time left. -/
  course : Course clock interval (some (clock.now s + timeout)) attempt s last before
  /-- There are at most so many pauses, and one attempt more than pauses. -/
  few : last ≤ timeout ⌈/⌉ interval
  /-- No attempt begins after the deadline. -/
  begins : ∀ k ≤ last, clock.now (before k) ≤ clock.now s + timeout
  /-- The last attempt ends the wait, with its own outcome or too late. -/
  ends : r = ((decided (attempt (before last)).1).getD (.error late), (attempt (before last)).2)
  expires : (attempt (before last)).1 = .ok none →
    clock.now s + timeout ≤ clock.now (attempt (before last)).2
  /-- In vain and in no time, all the attempts are made and just the timeout
  passes. -/
  exhausts : (∀ k ≤ last, (attempt (before k)).1 = .ok none ∧
      clock.now (attempt (before k)).2 = clock.now (before k)) →
    last = timeout ⌈/⌉ interval ∧ clock.now r.2 = clock.now s + timeout

/-- A wait without a deadline that begins in world `s`, makes attempt `k` in
world `before k`, and has the end `r`. -/
structure Boundless (r : Option (Except Error α × σ)) (before : Nat → σ) : Prop where
  start : before 0 = s
  /-- Between two attempts there is just one pause of the whole interval. -/
  pause : ∀ k, before (k + 1) = clock.sleep interval (attempt (before k)).2
  /-- The first attempt that decides ends the wait, and nothing else does. -/
  ends : ∀ last outcome, (∀ k < last, (attempt (before k)).1 = .ok none) →
    decided (attempt (before last)).1 = some outcome →
      r = some (outcome, (attempt (before last)).2)
  endless : (∀ k, (attempt (before k)).1 = .ok none) → r = none

variable {clock interval timeout attempt s}

theorem deadline?_of_lt {start : Duration} (h : start + timeout < horizon) :
    deadline? start timeout = some (start + timeout) :=
  if_pos h

theorem deadline?_of_le {start : Duration} (h : horizon ≤ start + timeout) :
    deadline? start timeout = none :=
  if_neg (Nat.not_lt.mpr h)

theorem punctual_of_course {late : Error} {last : Nat} {before : Nat → σ}
    (steady : Steady clock attempt) (positive : 0 < interval)
    (few : last ≤ timeout ⌈/⌉ interval)
    (c : Course clock interval (some (clock.now s + timeout)) attempt s last before)
    (hlast : ¬ GoesOn clock (some (clock.now s + timeout)) attempt (before last)) :
    Punctual clock interval timeout attempt s late
      ((decided (attempt (before last)).1).getD (.error late), (attempt (before last)).2)
      last before := by
  have hstart : clock.now s ≤ clock.now s + timeout := Nat.le_add_right _ _
  have expires : (attempt (before last)).1 = .ok none →
      clock.now s + timeout ≤ clock.now (attempt (before last)).2 := by
    intro hvain
    by_contra hearly
    exact hlast ⟨hvain, fun d hd => Option.some.inj hd ▸ Nat.not_le.mp hearly⟩
  refine ⟨c, few, fun k hk => c.now_le_deadline steady hstart hk, rfl, expires, fun idle => ?_⟩
  have hbegin := c.now_le_deadline steady hstart le_rfl
  have hnow := c.now_eq_of_instant steady hstart (fun k hk => (idle k hk.le).2) le_rfl
  have hend := expires (idle last le_rfl).1
  rw [(idle last le_rfl).2] at hend ⊢
  have hpauses : timeout ≤ interval * last := by
    rw [Nat.mul_comm]
    unfold Duration at *
    omega
  exact ⟨Nat.le_antisymm few ((ceilDiv_le_iff_le_mul positive).mpr hpauses),
    Nat.le_antisymm hbegin hend⟩

theorem boundless_worlds (late : Error) :
    Boundless clock interval attempt s
      (Action.loop? (fun _ => round clock interval none late attempt) () s)
      (worlds clock interval none attempt s) := by
  have hgoesOn : ∀ k, (attempt (worlds clock interval none attempt s k)).1 = .ok none →
      GoesOn clock none attempt (worlds clock interval none attempt s k) :=
    fun k hvain => ⟨hvain, fun d hd => nomatch hd⟩
  refine ⟨rfl, fun k => rfl, fun last outcome hvain hdecided => ?_, fun hvain => ?_⟩
  · have c := course_worlds interval fun k hk => hgoesOn k (hvain k hk)
    rw [c.loop?_eq_some fun hgo => ?_, hdecided, Option.getD_some]
    rw [hgo.1] at hdecided
    cases hdecided
  · exact Action.loop?_eq_none (fun _ => ()) (worlds clock interval none attempt s) fun k =>
      round_of_goesOn (hgoesOn k (hvain k))

variable (attempt) in
/-- A wait whose attempts take no time makes them beat by beat, up to the first
one that decides or up to the deadline. -/
theorem exists_last_attempt (what : String) (positive : 0 < interval)
    (exact : ∀ d s, clock.now (clock.sleep d s) = clock.now s + d)
    (instant : ∀ s, clock.now (attempt s).2 = clock.now s)
    (shown : clock.now s + timeout < horizon) :
    let before := beats clock interval timeout (fun s => (attempt s).2) s
    ∃ last ≤ timeout ⌈/⌉ interval, (∀ k < last, (attempt (before k)).1 = .ok none) ∧
      ((attempt (before last)).1 = .ok none → last = timeout ⌈/⌉ interval) ∧
      wait clock interval timeout what attempt s
        = ((decided (attempt (before last)).1).getD (.error (expired what timeout)),
          (attempt (before last)).2) := by
  intro beat
  have steady : Steady clock attempt := ⟨exact, fun s => (instant s).ge⟩
  obtain ⟨last, before, few, c, hlast⟩ := exists_course timeout positive steady s
  have hbeat : ∀ k ≤ last, beat k = before k :=
    fun k hk => (c.before_eq_beats steady instant hk).symm
  have punctual : Punctual clock interval timeout attempt s (expired what timeout) _ last before :=
    punctual_of_course steady positive few c hlast
  refine ⟨last, few, fun k hk => hbeat k hk.le ▸ c.vain k hk, ?_⟩
  rw [hbeat last le_rfl]
  refine ⟨fun hvain => (punctual.exhausts fun k hk => ⟨?_, instant _⟩).1, ?_⟩
  · obtain hlt | rfl := Nat.lt_or_eq_of_le hk
    · exact c.vain k hlt
    · exact hvain
  · rw [wait, deadline?_of_lt shown, Action.loop_of_loop? (c.loop?_eq_some hlast)]

/-- Every wait is punctual if the clock can show its deadline, and boundless
otherwise. -/
theorem wait_keeps_deadline (clock : Clock σ) (interval timeout : Duration) (what : String)
    (attempt : Action σ (Option α)) (s : σ) (positive : 0 < interval)
    (steady : Steady clock attempt) :
    (clock.now s + timeout < horizon →
      ∃ last before, Punctual clock interval timeout attempt s (expired what timeout)
        (wait clock interval timeout what attempt s) last before) ∧
    (horizon ≤ clock.now s + timeout →
      ∃ r before, wait clock interval timeout what attempt s = r.getD (.error .unending, s) ∧
        Boundless clock interval attempt s r before) := by
  constructor
  · intro hshown
    obtain ⟨last, before, few, c, hlast⟩ := exists_course timeout positive steady s
    refine ⟨last, before, ?_⟩
    rw [wait, deadline?_of_lt hshown, Action.loop_of_loop? (c.loop?_eq_some hlast)]
    exact punctual_of_course steady positive few c hlast
  · intro hhidden
    refine ⟨_, _, ?_, boundless_worlds (expired what timeout)⟩
    rw [wait, deadline?_of_le hhidden]
    rfl

/-- Waiting in vain for 1000 in steps of 400 takes four attempts and just that
time, and waiting without a deadline for what is there at 800 takes until then. -/
theorem wait_keeps_deadline_between_steps :
    let clock : Clock Nat := ⟨id, fun d t => t + d⟩
    let readyAt (t : Nat) : Action Nat (Option Unit) :=
      fun now => (.ok (if now < t then none else some ()), now)
    (0 < 400 ∧ Steady clock (readyAt 2000) ∧ Steady clock (readyAt 800)) ∧
      (clock.now 0 + 1000 < horizon ∧ ∃ before,
        Punctual clock 400 1000 (readyAt 2000) 0 (expired "it" 1000)
          (wait clock 400 1000 "it" (readyAt 2000) 0) 3 before ∧
        wait clock 400 1000 "it" (readyAt 2000) 0 = (.error (expired "it" 1000), 1000)) ∧
      (horizon ≤ clock.now 0 + horizon ∧
        wait clock 400 horizon "it" (readyAt 800) 0 = (.ok (), 800)) := by
  intro clock readyAt
  have steady : ∀ t, Steady clock (readyAt t) := fun t => ⟨fun _ _ => rfl, fun _ => le_rfl⟩
  refine ⟨⟨by decide, steady 2000, steady 800⟩, ⟨by decide, ?_⟩, le_add_self, ?_⟩
  · obtain ⟨last, before, h⟩ := (wait_keeps_deadline clock 400 1000 "it" (readyAt 2000) 0
      (by decide) (steady 2000)).1 (by decide)
    have hvain : ∀ k ≤ last, (readyAt 2000 (before k)).1 = .ok none := fun k hk => by
      have hbegin : before k ≤ 0 + 1000 := h.begins k hk
      exact congrArg Except.ok (if_pos (by omega))
    obtain ⟨rfl, hnow⟩ := h.exhausts fun k hk => ⟨hvain k hk, rfl⟩
    refine ⟨before, h, Prod.ext ?_ hnow⟩
    rw [h.ends, hvain _ le_rfl]
    rfl
  · obtain ⟨r, before, hwait, h⟩ := (wait_keeps_deadline clock 400 horizon "it" (readyAt 800) 0
      (by decide) (steady 800)).2 le_add_self
    have first : before 0 = 0 := h.start
    have second : before 1 = 400 := by rw [h.pause, first]
    have third : before 2 = 800 := by rw [h.pause, second]
    rw [hwait, h.ends 2 (.ok ()) ?_ ?_, third]
    · rfl
    · intro k hk
      interval_cases k
      · rw [first]; rfl
      · rw [second]; rfl
    · rw [third]; rfl

end BoardRig.Poll
