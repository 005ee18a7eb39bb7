/-
# `BoardRig.Proofs.Conduct.Search` — searching in passes

A search makes a pass, and after a pass in vain a pause and another pass.  On
every clock it makes whole passes, and its outcome is the answer of the last
one or that there is none (`Search`, `Shows.search`).  It gives up only when its
time is up, and it goes on for ever only if all its passes are in vain and come
before the deadline (`Patient`, `Shows.patient`).  Where the clock ticks, none
does that with a deadline that the clock can show (`Ticking.not_endless`).

On a clock that only sleeping moves the pauses and the number of passes are
known as well.  With a deadline that the clock can show, the first answer
among the passes up to the deadline is the outcome, and without an answer the
search lasts for just its timeout (`PunctualSearch`, `punctual_search`).
Without such a deadline the search goes on to the first answer
(`BoundlessSearch`, `boundless_search`).
-/
import BoardRig.Proofs.Conduct.Order
import BoardRig.Proofs.Poll.Deadline

namespace BoardRig

variable {σ α : Type}

/-! ## Any clock

Nothing is known about the clock here, so neither is the number of passes.  The loop
is followed turn by turn: a turn that leads on is a pass in vain before the deadline
and a pause, and a loop without an end consists of such turns for ever. -/

/-- A pass in vain that ends before the deadline, if there is one, and the pause
after it. -/
def VainTurn (clock : Clock σ) (interval : Duration) (deadline : Option Duration)
    (Pass : Conduct σ (Option α)) (s s' : σ) : Prop :=
  ∃ es after, Leads s es after ∧ Pass es none ∧ (∀ d ∈ deadline, clock.now after < d) ∧
    s' = clock.sleep (Poll.pauseAt interval deadline (clock.now after)) after

/-- From world `s` a search passes in vain for ever, and never gets to its deadline. -/
def EndlessSearch (clock : Clock σ) (interval timeout : Duration) (Pass : Conduct σ (Option α))
    (s : σ) : Prop :=
  Forever (VainTurn clock interval (Poll.deadline? (clock.now s) timeout) Pass) s

/-- Passes in vain with a pause after each, and then the pass that ends the
search. -/
inductive Passes (clock : Clock σ) (Pass : Conduct σ (Option α)) (missing : Error) :
    List (Event σ) → Except Error α → Prop where
  | found {es : List (Event σ)} {a : α} (last : Pass es (some a)) :
      Passes clock Pass missing es (.ok a)
  | missed {es : List (Event σ)} (last : Pass es none) :
      Passes clock Pass missing es (.error missing)
  | again {es es' : List (Event σ)} {d : Duration} {r : Except Error α} (vain : Pass es none)
      (rest : Passes clock Pass missing es' r) :
      Passes clock Pass missing (es ++ .sleep clock d :: es') r

/-- The passes of a search that comes to an end, or a search without one. -/
inductive Search (clock : Clock σ) (interval timeout : Duration) (Pass : Conduct σ (Option α))
    (missing : Error) : List (Event σ) → Except Error α → Prop where
  | ended {es : List (Event σ)} {r : Except Error α} (passes : Passes clock Pass missing es r) :
      Search clock interval timeout Pass missing es r
  | endless :
      Search clock interval timeout Pass missing
        [.endless .clock (EndlessSearch clock interval timeout Pass)] (.error .unending)

/-- By world `s'` the time is up of a search that began in world `s`. -/
def TimeUp (clock : Clock σ) (timeout : Duration) (s s' : σ) : Prop :=
  ∃ d, Poll.deadline? (clock.now s) timeout = some d ∧ d ≤ clock.now s'

section AnyClock

variable {clock : Clock σ} {interval timeout : Duration} {what : String}
  {pass : StateM σ (Option α)} {Pass : Conduct σ (Option α)} {missing : Error} {s : σ}

theorem Shows.vainTurn {deadline : Option Duration} {late : Error} {s' : σ} {u : Unit}
    (h : Shows pass Pass)
    (again : Poll.round clock interval deadline late (Action.total pass) s = (.ok (.inl u), s')) :
    VainTurn clock interval deadline Pass s s' := by
  obtain ⟨after, hvain, early, rfl⟩ := Poll.round_again again
  obtain ⟨es, hleads, hpass⟩ := h.of_eq (Action.total_eq_ok_iff.mp hvain)
  exact ⟨es, after, hleads, hpass, early, rfl⟩

/-- How the loop of a search ends: with a pass that finds something, or with one in
vain when the deadline has passed. -/
inductive PassesEnd (clock : Clock σ) (Pass : Conduct σ (Option α)) (missing late : Error)
    (deadline : Option Duration) : σ → Except Error α → σ → Prop where
  | found {es : List (Event σ)} {s s' : σ} {a : α} (leads : Leads s es s')
      (passes : Passes clock Pass missing es (.ok a)) :
      PassesEnd clock Pass missing late deadline s (.ok a) s'
  | late {es : List (Event σ)} {s s' : σ} {d : Duration} (leads : Leads s es s')
      (passes : Passes clock Pass missing es (.error missing : Except Error α))
      (shown : deadline = some d) (passed : d ≤ clock.now s') :
      PassesEnd clock Pass missing late deadline s (.error late) s'

variable (missing) in
theorem Shows.passesEnd {deadline : Option Duration} {late : Error} {r : Except Error α} {s' : σ}
    (h : Shows pass Pass)
    (ends : Action.loop? (fun _ => Poll.round clock interval deadline late (Action.total pass)) () s
      = some (r, s')) : PassesEnd clock Pass missing late deadline s r s' := by
  refine Action.loop?_induct
    (fun _ s r s' => PassesEnd clock Pass missing late deadline s r s') ?_ ?_ ?_ ends
  · intro _ s e s' hround
    obtain failed | ⟨rfl, hvain, d, shown, passed⟩ := Poll.round_failed hround
    · exact absurd failed Action.total_ne_error
    · obtain ⟨es, hleads, hpass⟩ := h.of_eq (Action.total_eq_ok_iff.mp hvain)
      exact .late hleads (.missed hpass) shown passed
  · intro _ s a s' hround
    obtain ⟨es, hleads, hpass⟩ := h.of_eq (Action.total_eq_ok_iff.mp (Poll.round_done hround))
    exact .found hleads (.found hpass)
  · intro _ s _ s₁ r s' hround rest
    obtain ⟨es, after, hleads, hpass, -, rfl⟩ := h.vainTurn hround
    cases rest with
    | found leads passes =>
        exact .found (hleads.append ((Leads.sleep clock _ after).append leads)) (.again hpass passes)
    | late leads passes shown passed =>
        exact .late (hleads.append ((Leads.sleep clock _ after).append leads))
          (.again hpass passes) shown passed

variable (clock interval timeout what missing s) in
/-- A search makes its passes until one of them finds something or its time is up. -/
theorem Shows.exists_search (h : Shows pass Pass) :
    let outcome := (Poll.wait clock interval timeout what (Action.total pass)).onTimeout missing s
    ∃ es, Leads s es outcome.2 ∧ Search clock interval timeout Pass missing es outcome.1 ∧
      ∀ text, outcome.1 = .error (.deviceNotFound text) → TimeUp clock timeout s outcome.2 := by
  rw [Action.onTimeout, Poll.wait]
  dsimp only
  cases hend : Action.loop? (fun _ => Poll.round clock interval
      (Poll.deadline? (clock.now s) timeout) (Poll.expired what timeout) (Action.total pass)) () s with
  | none =>
      have endless : EndlessSearch clock interval timeout Pass s :=
        (Action.forever_of_loop?_eq_none hend).map Prod.snd fun _ _ => h.vainTurn
      rw [Action.loop, hend]
      refine ⟨_, .endless endless, .endless, fun text unending => ?_⟩
      cases unending
  | some end' =>
      obtain ⟨r, s'⟩ := end'
      rw [Action.loop_of_loop? hend]
      cases h.passesEnd missing hend with
      | found leads passes =>
          refine ⟨_, leads, .ended passes, fun text missed => ?_⟩
          cases missed
      | late leads passes shown passed =>
          exact ⟨_, leads, .ended passes, fun _ _ => ⟨_, shown, passed⟩⟩

theorem Shows.search (h : Shows pass Pass) :
    Shows ((Poll.wait clock interval timeout what (Action.total pass)).onTimeout missing)
      (Search clock interval timeout Pass missing) := by
  intro s
  obtain ⟨es, hleads, hsearch, -⟩ := h.exists_search clock interval timeout what missing s
  exact ⟨es, hleads, hsearch⟩

theorem Search.last_pass {es : List (Event σ)} {a : α}
    (h : Search clock interval timeout Pass missing es (.ok a)) :
    ∃ before pass, es = before ++ pass ∧ Pass pass (some a) := by
  cases h with
  | ended passes =>
      generalize found : Except.ok a = r at passes
      induction passes with
      | found last =>
          cases found
          exact ⟨[], _, rfl, last⟩
      | missed => cases found
      | again _ _ ih =>
          obtain ⟨before, pass, rfl, last⟩ := ih found
          exact ⟨_, pass, (List.append_assoc _ (_ :: before) pass).symm, last⟩

theorem Passes.ends {es : List (Event σ)} {r : Except Error α}
    (h : Passes clock Pass missing es r) : (∃ a, r = .ok a) ∨ r = .error missing := by
  induction h with
  | found last => exact .inl ⟨_, rfl⟩
  | missed last => exact .inr rfl
  | again _ _ ih => exact ih

end AnyClock

theorem Conduct.Within.search {clock : Clock σ} {interval timeout : Duration}
    {Pass : Conduct σ (Option α)} {missing : Error} {kind : Event σ → Prop}
    (pass : Within kind Pass) (pause : ∀ d, kind (.sleep clock d))
    (endless : ∀ lasts, kind (.endless .clock lasts)) :
    Within kind (Search clock interval timeout Pass missing) := by
  intro es r h
  cases h with
  | ended passes =>
      induction passes with
      | found last => exact pass _ _ last
      | missed last => exact pass _ _ last
      | again vain _ ih =>
          exact List.forall_mem_append.mpr ⟨pass _ _ vain, List.forall_mem_cons.mpr ⟨pause _, ih⟩⟩
  | endless => exact List.forall_mem_singleton.mpr (endless _)

/-! ## A clock that ticks

A search with a deadline ends where every pause takes its time, since only so many
pauses fit before the deadline.  `Patient` gathers what is known of a search on any
clock, for the scenarios and recoveries that contain one. -/

/-- What the end of a search rests on: there are pauses, sleeping takes its time,
and passes do not turn the clock back. -/
structure Ticking (clock : Clock σ) (interval : Duration) (Pass : Conduct σ (Option α)) : Prop where
  positive : 0 < interval
  sleep : ∀ d s, clock.now s + d ≤ clock.now (clock.sleep d s)
  onward : ∀ es found s s', Pass es found → Leads s es s' → clock.now s ≤ clock.now s'

/-- A search with a deadline that the clock can show comes to an end. -/
theorem Ticking.not_endless {clock : Clock σ} {interval timeout : Duration}
    {Pass : Conduct σ (Option α)} {s : σ} (ticking : Ticking clock interval Pass)
    (shown : clock.now s + timeout < Poll.horizon) :
    ¬ EndlessSearch clock interval timeout Pass s := by
  rintro ⟨course, rfl, turns⟩
  rw [Poll.deadline?_of_lt shown] at turns
  have before : ∀ k, clock.now (course k) < clock.now (course 0) + timeout := by
    intro k
    obtain ⟨es, after, hleads, hpass, early, -⟩ := turns k
    exact lt_of_le_of_lt (ticking.onward _ _ _ _ hpass hleads) (early _ rfl)
  -- No pause is cut short, for then the next pass would come too late.
  have later : ∀ k, clock.now (course 0) + k * interval ≤ clock.now (course k) := by
    intro k
    induction k with
    | zero => rw [Nat.zero_mul, Nat.add_zero]
    | succ k ih =>
        obtain ⟨es, after, hleads, hpass, early, hnext⟩ := turns k
        have onward := ticking.onward _ _ _ _ hpass hleads
        have sleep := ticking.sleep (Poll.pauseAt interval
          (some (clock.now (course 0) + timeout)) (clock.now after)) after
        have next := before (k + 1)
        have now := early _ rfl
        rw [← hnext, Poll.pauseAt] at sleep
        rw [Nat.succ_mul]
        unfold Duration at *
        omega
  have last := later (timeout + 1)
  have limit := before (timeout + 1)
  have many := Nat.le_mul_of_pos_right (timeout + 1) ticking.positive
  unfold Duration at *
  omega

/-- A search gives up only when its time is up, and goes on for ever only if its
passes do. -/
structure Patient (clock : Clock σ) (interval timeout : Duration) (Pass : Conduct σ (Option α))
    (search : Action σ α) : Prop where
  timeUp : ∀ s text, (search s).1 = .error (.deviceNotFound text) →
    TimeUp clock timeout s (search s).2
  endless : ∀ s, (search s).1 = .error .unending →
    EndlessSearch clock interval timeout Pass s ∧ (search s).2 = s
  ends : Ticking clock interval Pass → ∀ s, clock.now s + timeout < Poll.horizon →
    (search s).1 ≠ .error .unending

section Patient

variable (clock : Clock σ) (interval timeout : Duration) (what text : String)
  {pass : StateM σ (Option α)} {Pass : Conduct σ (Option α)}

theorem Shows.endless_of_unending (h : Shows pass Pass) {s : σ}
    (unending : ((Poll.wait clock interval timeout what (Action.total pass)).onTimeout
      (.deviceNotFound text) s).1 = .error .unending) :
    EndlessSearch clock interval timeout Pass s ∧
      ((Poll.wait clock interval timeout what (Action.total pass)).onTimeout
        (.deviceNotFound text) s).2 = s := by
  obtain ⟨es, hleads, hsearch, -⟩ :=
    h.exists_search clock interval timeout what (.deviceNotFound text) s
  rw [unending] at hsearch
  cases hsearch with
  | ended passes => obtain ⟨_, h⟩ | h := passes.ends <;> cases h
  | endless => exact hleads.of_endless

theorem Shows.patient (h : Shows pass Pass) :
    Patient clock interval timeout Pass
      ((Poll.wait clock interval timeout what (Action.total pass)).onTimeout
        (.deviceNotFound text)) where
  timeUp s text' := by
    obtain ⟨-, -, -, timeUp⟩ := h.exists_search clock interval timeout what (.deviceNotFound text) s
    exact timeUp text'
  endless _ := h.endless_of_unending clock interval timeout what text
  ends ticking _ shown unending :=
    ticking.not_endless shown (h.endless_of_unending clock interval timeout what text unending).1

end Patient

/-! ## A clock that only sleeping moves

Passes take no time, so a pass in vain can be told from the number of pauses
before it, and the whole search from the calls that its passes would make. -/

/-- The calls of the passes up to the last one, with the pauses between them. -/
def passCalls (clock : Clock σ) (pauseAfter : Nat → Duration) (asked : Nat → List (Event σ)) :
    (last : Nat) → List (Event σ)
  | 0 => asked 0
  | k + 1 => passCalls clock pauseAfter asked k ++ .sleep clock (pauseAfter k) :: asked (k + 1)

variable (clock : Clock σ) (interval timeout : Duration) (Pass : Conduct σ (Option α))
  (missing : Error) (s : σ)

/-- A search from world `s` to the end `r` whose deadline the clock can show:
pass `k` makes the calls `asked k`, up to pass `last`. -/
structure PunctualSearch (r : Except Error α × σ) (asked : Nat → List (Event σ)) (last : Nat) :
    Prop where
  /-- The pauses fill the timeout, and the last of them is cut short. -/
  leads : Leads s (passCalls clock (fun k => min interval (timeout - k * interval)) asked last) r.2
  vain : ∀ k < last, Pass (asked k) none
  /-- There are at most so many pauses, and one pass more than pauses. -/
  few : last ≤ timeout ⌈/⌉ interval
  lasts : clock.now r.2 = clock.now s + min (last * interval) timeout
  /-- The last pass has the answer, or there was none before the time was up. -/
  ends : (∃ a, Pass (asked last) (some a) ∧ r.1 = .ok a) ∨
    (Pass (asked last) none ∧ r.1 = .error missing ∧ last = timeout ⌈/⌉ interval ∧
      clock.now r.2 = clock.now s + timeout)

/-- A search from world `s` without a deadline: pass `k` makes the calls
`asked k`, and pauses are never cut short. The first answer is the outcome, and
without an answer the search has no end. -/
inductive BoundlessSearch (asked : Nat → List (Event σ)) : Option (Except Error α × σ) → Prop where
  | found {last : Nat} {a : α} {s' : σ}
      (leads : Leads s (passCalls clock (fun _ => interval) asked last) s')
      (vain : ∀ k < last, Pass (asked k) none) (answer : Pass (asked last) (some a))
      (lasts : clock.now s' = clock.now s + last * interval) :
      BoundlessSearch asked (some (.ok a, s'))
  | endless (leads : ∀ k, ∃ s', Leads s (passCalls clock (fun _ => interval) asked k) s')
      (vain : ∀ k, Pass (asked k) none) : BoundlessSearch asked none

/-! ### Passes as a search

What is known about the number of passes is more than `Search` says, and gives it
back: the passes before the last one are in vain. -/

section Passes

variable {clock interval timeout Pass missing} {asked : Nat → List (Event σ)}
  {pauseAfter : Nat → Duration} {es : List (Event σ)} {r : Except Error α}

theorem Passes.after_passCalls {d : Duration} {last : Nat} (vain : ∀ k ≤ last, Pass (asked k) none)
    (rest : Passes clock Pass missing es r) :
    Passes clock Pass missing (passCalls clock pauseAfter asked last ++ .sleep clock d :: es)
      r := by
  induction last generalizing es d with
  | zero => exact .again (vain 0 le_rfl) rest
  | succ k ih =>
      rw [passCalls, List.append_assoc, List.cons_append]
      exact ih (fun i hi => vain i (Nat.le_succ_of_le hi)) (.again (vain (k + 1) le_rfl) rest)

theorem Passes.of_passCalls {last : Nat} (vain : ∀ k < last, Pass (asked k) none)
    (final : Passes clock Pass missing (asked last) r) :
    Passes clock Pass missing (passCalls clock pauseAfter asked last) r := by
  cases last with
  | zero => exact final
  | succ k => exact .after_passCalls (fun i hi => vain i (Nat.lt_succ_of_le hi)) final

theorem PunctualSearch.search {s : σ} {last : Nat} {outcome : Except Error α × σ}
    (h : PunctualSearch clock interval timeout Pass missing s outcome asked last) :
    Search clock interval timeout Pass missing
      (passCalls clock (fun k => min interval (timeout - k * interval)) asked last) outcome.1 := by
  refine .ended (.of_passCalls h.vain ?_)
  obtain ⟨a, hpass, hr⟩ | ⟨hpass, hr, -⟩ := h.ends
  · exact hr ▸ .found hpass
  · exact hr ▸ .missed hpass

end Passes

section Sleeping

variable {clock interval timeout Pass missing s} {what : String} {pass : StateM σ (Option α)}
  (exact : ∀ d s, clock.now (clock.sleep d s) = clock.now s + d)
  (instant : ∀ s, clock.now (pass s).2 = clock.now s)

theorem leads_passCalls {pauseAfter : Nat → Duration} {asked : Nat → List (Event σ)}
    {before after : Nat → σ} {last : Nat} (hasked : ∀ k, Leads (before k) (asked k) (after k))
    (hpause : ∀ k < last, before (k + 1) = clock.sleep (pauseAfter k) (after k)) :
    Leads (before 0) (passCalls clock pauseAfter asked last) (after last) := by
  induction last with
  | zero => exact hasked 0
  | succ k ih =>
      refine (ih fun i hi => hpause i (Nat.lt_succ_of_lt hi)).append (.call rfl ?_)
      rw [← hpause k (Nat.lt_succ_self k)]
      exact hasked (k + 1)

include exact instant

variable (missing what) in
/-- A search with a deadline makes its passes beat by beat, up to the first one
that finds something or up to the deadline. -/
theorem exists_last_pass (positive : 0 < interval)
    (shown : clock.now s + timeout < Poll.horizon) :
    let before := Poll.beats clock interval timeout (fun s => (pass s).2) s
    ∃ last ≤ timeout ⌈/⌉ interval, (∀ k < last, (pass (before k)).1 = none) ∧
      ((pass (before last)).1 = none → last = timeout ⌈/⌉ interval) ∧
      (Poll.wait clock interval timeout what (Action.total pass)).onTimeout missing s
        = ((pass (before last)).1.elim (.error missing) .ok, (pass (before last)).2) := by
  intro before
  obtain ⟨last, few, vain, full, hwait⟩ :=
    Poll.exists_last_attempt (Action.total pass) what positive exact instant shown
  have hpass : Poll.wait clock interval timeout what (Action.total pass) s
      = ((Poll.decided (.ok (pass (before last)).1)).getD (.error (Poll.expired what timeout)),
        (pass (before last)).2) := hwait
  refine ⟨last, few, fun k hk => Except.ok.inj (vain k hk), fun hnone => full ?_, ?_⟩
  · exact congrArg Except.ok hnone
  · rw [Action.onTimeout, hpass]
    cases (pass (before last)).1 <;> rfl

variable (missing what) in
theorem punctual_search (h : Shows pass Pass) (positive : 0 < interval)
    (shown : clock.now s + timeout < Poll.horizon) :
    ∃ asked last, PunctualSearch clock interval timeout Pass missing s
      ((Poll.wait clock interval timeout what (Action.total pass)).onTimeout missing s)
      asked last := by
  obtain ⟨last, few, vain, full, hsearch⟩ :=
    exists_last_pass missing what exact instant positive shown
  choose asked hleads hpass using
    fun k => h (Poll.beats clock interval timeout (fun s => (pass s).2) s k)
  have hnow : ∀ k, clock.now (Poll.beats clock interval timeout (fun s => (pass s).2) s k)
      = clock.now s + min (k * interval) timeout := Poll.now_beats exact instant
  rw [hsearch]
  refine ⟨asked, last, leads_passCalls hleads fun _ _ => rfl, fun k hk => vain k hk ▸ hpass k, few,
    (instant _).trans (hnow last), ?_⟩
  have hfinal := hpass last
  cases hfound : (pass (Poll.beats clock interval timeout (fun s => (pass s).2) s last)).1 with
  | some a => exact .inl ⟨a, hfound ▸ hfinal, rfl⟩
  | none =>
      have hlast := full hfound
      have hcover := le_ceilDiv_mul (n := timeout) positive
      refine .inr ⟨hfound ▸ hfinal, rfl, hlast, (instant _).trans ?_⟩
      rw [hnow, hlast, Nat.min_eq_right hcover]

variable (missing what) in
theorem boundless_search (h : Shows pass Pass)
    (hidden : Poll.horizon ≤ clock.now s + timeout) :
    ∃ asked r, (Poll.wait clock interval timeout what (Action.total pass)).onTimeout missing s
        = r.getD (.error .unending, s) ∧
      BoundlessSearch clock interval Pass s asked r := by
  obtain ⟨final, before, hwait, boundless⟩ : ∃ final before,
      Poll.wait clock interval timeout what (Action.total pass) s
        = final.getD (.error .unending, s) ∧
      Poll.Boundless clock interval (Action.total pass) s final before :=
    ⟨_, _, by rw [Poll.wait, Poll.deadline?_of_le hidden]; rfl,
      Poll.boundless_worlds (Poll.expired what timeout)⟩
  choose asked hleads hpass using fun k => h (before k)
  have leads : ∀ k, Leads s (passCalls clock (fun _ => interval) asked k) (pass (before k)).2 := by
    intro k
    rw [← boundless.start]
    exact leads_passCalls hleads fun k _ => boundless.pause k
  have lasts : ∀ k, clock.now (pass (before k)).2 = clock.now s + k * interval := by
    intro k
    induction k with
    | zero => rw [instant, boundless.start, Nat.zero_mul, Nat.add_zero]
    | succ k ih =>
        rw [instant, boundless.pause, exact, Nat.succ_mul, ← Nat.add_assoc]
        exact congrArg (· + interval) ih
  refine ⟨asked, ?_⟩
  rw [Action.onTimeout, hwait]
  by_cases hvain : ∀ k, (pass (before k)).1 = none
  · rw [boundless.endless fun k => congrArg Except.ok (hvain k)]
    exact ⟨none, rfl, .endless (fun k => ⟨_, leads k⟩) fun k => hvain k ▸ hpass k⟩
  · push Not at hvain
    classical
    obtain ⟨a, ha⟩ := Option.ne_none_iff_exists'.mp (Nat.find_spec hvain)
    have hearlier : ∀ k < Nat.find hvain, (pass (before k)).1 = none :=
      fun k hk => not_not.mp (Nat.find_min hvain hk)
    rw [boundless.ends (Nat.find hvain) (.ok a) (fun k hk => congrArg Except.ok (hearlier k hk))
      (congrArg (fun found => Poll.decided (.ok found)) ha)]
    exact ⟨_, rfl, .found (leads _) (fun k hk => hearlier k hk ▸ hpass k) (ha ▸ hpass _) (lasts _)⟩

end Sleeping

end BoardRig
