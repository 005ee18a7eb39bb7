/-
# `BoardRig.Proofs.Usb.Enumeration` — which port is found, and in which pass

An enumeration shows the candidates in order, each with the answer to a reading
of its identity (`enumerate`).  A pass that looks for an identity stops reading
at the first candidate that has it, and up to there it sees the same
(`findNow_fst`, `findNow_of_unseen`, `leads_findNow`).  So what a search comes
to can be told from a history in which the wanted identity plays no part: what
enumerations would show that are made beat by beat (`history`).  It finds the
first port of the first enumeration that shows the identity, and it misses just
the identities that none of them shows (`find_iff_shown`).
-/
import BoardRig.Proofs.Occurrence
import BoardRig.Proofs.Usb.Device

namespace BoardRig

variable {σ : Type}

/-- A candidate port with the answer to a reading of its identity. -/
structure Candidate where
  port : String
  reading : Except IoError UsbIdentity
deriving DecidableEq

def Candidate.Has (identity : UsbIdentity) (c : Candidate) : Prop :=
  c.reading = .ok identity

instance (identity : UsbIdentity) (c : Candidate) : Decidable (c.Has identity) :=
  inferInstanceAs (Decidable (c.reading = .ok identity))

namespace UsbSource

/-! ## Enumerations

An enumeration reads every identity and looks for none. -/

/-- Read the identities of some ports, one after another. -/
def readings (source : UsbSource σ) : List String → StateM σ (List Candidate)
  | [] => pure []
  | port :: rest => fun s =>
    let (reading, s) := source.identityOf port s
    let (later, s) := readings source rest s
    (⟨port, reading⟩ :: later, s)

/-- List the candidates, and read the identities of all of them. -/
def enumerate (source : UsbSource σ) : StateM σ (List Candidate) := fun s =>
  let (ports, s) := source.candidates s
  source.readings ports s

/-- The readings of candidates up to the first one that has the identity. -/
def scanCalls (source : UsbSource σ) (identity : UsbIdentity) : List Candidate → List (Event σ)
  | [] => []
  | c :: rest =>
    .identity source c.port c.reading ::
      if c.Has identity then [] else scanCalls source identity rest

/-- The calls of a pass that looks for an identity where an enumeration would
show these candidates. -/
def callsOfPass (source : UsbSource σ) (identity : UsbIdentity) (cs : List Candidate) :
    List (Event σ) :=
  .candidates source (cs.map Candidate.port) :: source.scanCalls identity cs

theorem readings_cons (source : UsbSource σ) (port : String) (rest : List String) (s : σ) :
    source.readings (port :: rest) s = match source.identityOf port s with
      | (reading, s') =>
        (⟨port, reading⟩ :: (source.readings rest s').1, (source.readings rest s').2) :=
  rfl

theorem map_port_readings (source : UsbSource σ) (ports : List String) (s : σ) :
    (source.readings ports s).1.map Candidate.port = ports := by
  induction ports generalizing s with
  | nil => rfl
  | cons port rest ih =>
      rw [readings_cons]
      exact congrArg (port :: ·) (ih _)

theorem map_port_enumerate (source : UsbSource σ) (s : σ) :
    (source.enumerate s).1.map Candidate.port = (source.candidates s).1 :=
  source.map_port_readings _ _

end UsbSource

namespace UsbLocator

variable (l : UsbLocator σ) (identity : UsbIdentity)

/-! ## Passes

A pass is the beginning of an enumeration: it makes the same calls up to the first
candidate with the identity, and all of them where there is none. -/

theorem firstWith_fst (ports : List String) (s : σ) :
    (l.firstWith identity ports s).1
      = ((l.source.readings ports s).1.find? (·.Has identity)).map Candidate.port := by
  induction ports generalizing s with
  | nil => rfl
  | cons port rest ih =>
      rw [firstWith_cons, UsbSource.readings_cons]
      rcases l.source.identityOf port s with ⟨answer, s'⟩
      by_cases h : answer = .ok identity
      · simp [Candidate.Has, h]
      · simp [Candidate.Has, h, ih]

theorem firstWith_of_unseen {ports : List String} {s : σ}
    (h : ∀ c ∈ (l.source.readings ports s).1, ¬ c.Has identity) :
    l.firstWith identity ports s = (none, (l.source.readings ports s).2) := by
  induction ports generalizing s with
  | nil => rfl
  | cons port rest ih =>
      rw [UsbSource.readings_cons] at h ⊢
      rw [firstWith_cons]
      rcases hread : l.source.identityOf port s with ⟨answer, s'⟩
      rw [hread] at h
      obtain ⟨unlike, later⟩ := List.forall_mem_cons.mp h
      exact (if_neg unlike).trans (ih later)

theorem leads_firstWith (ports : List String) (s : σ) :
    Leads s (l.source.scanCalls identity (l.source.readings ports s).1)
      (l.firstWith identity ports s).2 := by
  induction ports generalizing s with
  | nil => exact .nowhere
  | cons port rest ih =>
      rw [firstWith_cons, UsbSource.readings_cons]
      rcases hread : l.source.identityOf port s with ⟨answer, s'⟩
      refine .call hread ?_
      by_cases has : Candidate.Has identity ⟨port, answer⟩
      · have found : answer = .ok identity := has
        simp only [if_pos has, if_pos found]
        exact .nowhere
      · have other : answer ≠ .ok identity := has
        simp only [if_neg has, if_neg other]
        exact ih s'

theorem findNow_fst (s : σ) :
    (l.findNow identity s).1
      = ((l.source.enumerate s).1.find? (·.Has identity)).map Candidate.port :=
  l.firstWith_fst identity _ _

theorem findNow_of_unseen {s : σ} (h : ∀ c ∈ (l.source.enumerate s).1, ¬ c.Has identity) :
    l.findNow identity s = (none, (l.source.enumerate s).2) :=
  l.firstWith_of_unseen identity h

theorem leads_findNow (s : σ) :
    Leads s (l.source.callsOfPass identity (l.source.enumerate s).1) (l.findNow identity s).2 := by
  have listed : (Event.candidates l.source ((l.source.enumerate s).1.map Candidate.port)).Happens s
      (l.source.candidates s).2 := by
    rw [l.source.map_port_enumerate]
    rfl
  exact .call listed (l.leads_firstWith identity _ _)

theorem findNow_eq_some_iff {port : String} {s : σ} :
    (l.findNow identity s).1 = some port ↔
      ∃ c, IsFirst (Candidate.Has identity) (l.source.enumerate s).1 c ∧ c.port = port := by
  rw [findNow_fst, Option.map_eq_some_iff]
  simp only [find?_eq_some_iff_isFirst (p := Candidate.Has identity) fun _ => decide_eq_true_iff]

theorem findNow_eq_none_iff {s : σ} :
    (l.findNow identity s).1 = none ↔ ∀ c ∈ (l.source.enumerate s).1, ¬ c.Has identity := by
  rw [findNow_fst, Option.map_eq_none_iff, List.find?_eq_none]
  simp only [decide_eq_true_iff]

/-! ## Histories

Until the identity is seen, a search leaves the worlds that enumerations would have
left.  So the history can be told without it, and the search from the history. -/

/-- The worlds in which the passes of a search begin that finds nothing. -/
def passWorlds (timeout : Duration) (s : σ) : Nat → σ :=
  Poll.beats l.clock l.interval timeout (fun s => (l.source.enumerate s).2) s

/-- What the passes of a search can see that begins in world `s`. -/
def history (timeout : Duration) (s : σ) (k : Nat) : List Candidate :=
  (l.source.enumerate (l.passWorlds timeout s k)).1

/-- Pass `k` is the first one that shows the identity, and it shows it first at
`port`. -/
structure ShownFirst (identity : UsbIdentity) (history : Nat → List Candidate) (k : Nat)
    (port : String) : Prop where
  earlier : ∀ j < k, ∀ c ∈ history j, ¬ c.Has identity
  first : ∃ c, IsFirst (Candidate.Has identity) (history k) c ∧ c.port = port

section ShownFirst

variable {identity} {history : Nat → List Candidate} {k k' final : Nat} {port port' : String}

theorem ShownFirst.not_unseen (h : ShownFirst identity history k port) (hk : k ≤ final) :
    ¬ ∀ j ≤ final, ∀ c ∈ history j, ¬ c.Has identity := by
  obtain ⟨c, first, -⟩ := h.first
  exact fun unseen => unseen k hk c first.mem first.holds

theorem ShownFirst.not_lt (h : ShownFirst identity history k port)
    (h' : ShownFirst identity history k' port') : ¬ k < k' := by
  obtain ⟨c, first, -⟩ := h.first
  exact fun hlt => h'.earlier k hlt c first.mem first.holds

theorem ShownFirst.unique (h : ShownFirst identity history k port)
    (h' : ShownFirst identity history k' port') : k = k' ∧ port = port' := by
  obtain rfl : k = k' := Nat.le_antisymm (Nat.not_lt.mp (h'.not_lt h)) (Nat.not_lt.mp (h.not_lt h'))
  obtain ⟨c, first, rfl⟩ := h.first
  obtain ⟨c', first', rfl⟩ := h'.first
  exact ⟨rfl, congrArg Candidate.port (first.unique first')⟩

end ShownFirst

/-- A search from world `s` to world `s'` has made the passes up to number `k`, with
a pause between any two of them, and has taken the time `d`. -/
structure Lasts (timeout : Duration) (s s' : σ) (k : Nat) (d : Duration) : Prop where
  calls : Leads s (passCalls l.clock (fun i => min l.interval (timeout - i * l.interval))
    (fun i => l.source.callsOfPass identity (l.history timeout s i)) k) s'
  time : l.clock.now s' = l.clock.now s + d

section Sleeping

variable {l} {timeout : Duration} {s : σ}
  (exact : ∀ d s, l.clock.now (l.clock.sleep d s) = l.clock.now s + d)
  (instant : Instant l.source l.clock)

/-- Passes that find nothing are made where enumerations would be made. -/
theorem beats_findNow {k : Nat} (unseen : ∀ j < k, ∀ c ∈ l.history timeout s j, ¬ c.Has identity) :
    Poll.beats l.clock l.interval timeout (fun s => (l.findNow identity s).2) s k
      = l.passWorlds timeout s k := by
  refine (Poll.beats_congr fun j hj => ?_).symm
  exact (congrArg Prod.snd (l.findNow_of_unseen identity (unseen j hj))).symm

theorem unseen_of_vain {k : Nat}
    (vain : ∀ j < k, (l.findNow identity
      (Poll.beats l.clock l.interval timeout (fun s => (l.findNow identity s).2) s j)).1 = none) :
    ∀ j < k, ∀ c ∈ l.history timeout s j, ¬ c.Has identity := by
  induction k with
  | zero => exact fun j hj => absurd hj (Nat.not_lt_zero j)
  | succ k ih =>
      have earlier := ih fun j hj => vain j (Nat.lt_succ_of_lt hj)
      intro j hj
      obtain hlt | rfl := Nat.lt_succ_iff_lt_or_eq.mp hj
      · exact earlier j hlt
      · -- Up to pass `j` nothing was seen, so it is made where enumeration `j` would be.
        have hvain := vain j hj
        rw [beats_findNow identity earlier] at hvain
        exact (l.findNow_eq_none_iff identity).mp hvain

include exact instant

/-- A search ends with the first pass that shows the identity, or with the last
one in time. -/
theorem exists_final_pass (positive : 0 < l.interval)
    (shown : l.clock.now s + timeout < Poll.horizon) :
    ∃ k ≤ timeout ⌈/⌉ l.interval,
      l.Lasts identity timeout s (l.find identity timeout s).2 k (min (k * l.interval) timeout) ∧
      ((∃ port, (l.find identity timeout s).1 = .ok port ∧
          ShownFirst identity (l.history timeout s) k port) ∨
        ((l.find identity timeout s).1 = .error (notFound identity timeout) ∧
          k = timeout ⌈/⌉ l.interval ∧
          ∀ j ≤ k, ∀ c ∈ l.history timeout s j, ¬ c.Has identity)) := by
  obtain ⟨k, few, vain, full, hfind⟩ := exists_last_pass (notFound identity timeout)
    s!"USB device {identity.text}" exact (l.now_findNow instant) positive shown
  have earlier := unseen_of_vain identity vain
  have reached := beats_findNow identity earlier
  rw [reached] at full hfind
  have ends : l.find identity timeout s
      = ((l.findNow identity (l.passWorlds timeout s k)).1.elim
          (.error (notFound identity timeout)) .ok,
        (l.findNow identity (l.passWorlds timeout s k)).2) := hfind
  have asked : ∀ i, Leads (l.passWorlds timeout s i)
      (l.source.callsOfPass identity (l.history timeout s i))
      (l.findNow identity (l.passWorlds timeout s i)).2 := fun i => l.leads_findNow identity _
  rw [ends]
  refine ⟨k, few, ⟨leads_passCalls asked fun i hi => ?_, ?_⟩, ?_⟩
  · rw [l.findNow_of_unseen identity (earlier i hi)]
    rfl
  · rw [l.now_findNow instant, ← reached]
    exact Poll.now_beats exact (l.now_findNow instant) k
  · rcases hfound : (l.findNow identity (l.passWorlds timeout s k)).1 with _ | port
    · refine .inr ⟨rfl, full hfound, fun j hj => ?_⟩
      obtain hlt | rfl := Nat.lt_or_eq_of_le hj
      · exact earlier j hlt
      · exact (l.findNow_eq_none_iff identity).mp hfound
    · exact .inl ⟨port, rfl, earlier, (l.findNow_eq_some_iff identity).mp hfound⟩

end Sleeping

/-- A search finds the first port of the first enumeration that shows the identity, if
one of those made up to the deadline does. Otherwise it makes all these passes, and the
device is not found; there is no other error. -/
theorem find_iff_shown (l : UsbLocator σ) (identity : UsbIdentity) (timeout : Duration) (s : σ)
    (positive : 0 < l.interval)
    (exact : ∀ d s, l.clock.now (l.clock.sleep d s) = l.clock.now s + d)
    (instant : Instant l.source l.clock) (shown : l.clock.now s + timeout < Poll.horizon) :
    let final := timeout ⌈/⌉ l.interval
    let history := l.history timeout s
    (∀ port, (l.find identity timeout s).1 = .ok port ↔
      ∃ k ≤ final, ShownFirst identity history k port) ∧
    (∀ e, (l.find identity timeout s).1 = .error e ↔
      e = notFound identity timeout ∧ ∀ k ≤ final, ∀ c ∈ history k, ¬ c.Has identity) ∧
    (∀ k ≤ final, ∀ port, ShownFirst identity history k port →
      l.Lasts identity timeout s (l.find identity timeout s).2 k (min (k * l.interval) timeout)) ∧
    ((∀ k ≤ final, ∀ c ∈ history k, ¬ c.Has identity) →
      l.Lasts identity timeout s (l.find identity timeout s).2 final timeout) := by
  intro final history
  obtain ⟨k, few, lasts, ⟨port, hfind, first⟩ | ⟨hfind, rfl, unseen⟩⟩ :=
    exists_final_pass identity exact instant positive shown
  · rw [hfind]
    refine ⟨fun port' => ⟨?_, ?_⟩, fun e => ⟨fun h => (nomatch h), ?_⟩, ?_, ?_⟩
    · rintro ⟨⟩
      exact ⟨k, few, first⟩
    · rintro ⟨k', -, first'⟩
      exact congrArg Except.ok (first.unique first').2
    · rintro ⟨-, unseen⟩
      exact absurd unseen (first.not_unseen few)
    · rintro k' - port' first'
      exact (first.unique first').1 ▸ lasts
    · exact fun unseen => absurd unseen (first.not_unseen few)
  · rw [hfind]
    rw [Nat.min_eq_right (le_ceilDiv_mul positive)] at lasts
    refine ⟨fun port => ⟨fun h => (nomatch h), ?_⟩, fun e => ⟨?_, ?_⟩, ?_, fun _ => lasts⟩
    · rintro ⟨k, hk, first⟩
      exact absurd unseen (first.not_unseen hk)
    · rintro ⟨⟩
      exact ⟨rfl, unseen⟩
    · rintro ⟨rfl, -⟩
      rfl
    · exact fun k hk port first => absurd unseen (first.not_unseen hk)

/-- A device that appears just at the deadline, behind a port that cannot be read, is
found with the last pass, and one that never appears is missed with it. -/
theorem find_iff_shown_at_deadline :
    let wanted : UsbIdentity := ⟨"2e8a", "000b"⟩
    let other : UsbIdentity := ⟨"2e8a", "0003"⟩
    let source : UsbSource Nat :=
      { candidates := fun now =>
          (if now < 10 then ["/dev/ttyACM0"] else
            ["/dev/ttyACM0", "/dev/ttyACM1", "/dev/ttyACM2"], now)
        identityOf := fun port now =>
          (if port = "/dev/ttyACM0" then .error .noSuchFile else .ok wanted, now) }
    let l : UsbLocator Nat := ⟨source, ⟨id, fun d now => now + d⟩, 4⟩
    (0 < l.interval ∧ (∀ d s, l.clock.now (l.clock.sleep d s) = l.clock.now s + d) ∧
      Instant l.source l.clock ∧ l.clock.now 0 + 10 < Poll.horizon) ∧
      ((l.find wanted 10 0).1 = .ok "/dev/ttyACM1" ∧
        l.Lasts wanted 10 0 (l.find wanted 10 0).2 3 10) ∧
      (l.find other 10 0).1 = .error (notFound other 10) ∧
        l.Lasts other 10 0 (l.find other 10 0).2 3 10 := by
  intro wanted other source l
  have exact : ∀ d s, l.clock.now (l.clock.sleep d s) = l.clock.now s + d := fun _ _ => rfl
  have instant : Instant l.source l.clock := ⟨fun _ => rfl, fun _ _ => rfl⟩
  have shown : l.clock.now 0 + 10 < Poll.horizon := by decide
  have final : 10 ⌈/⌉ l.interval = 3 := Nat.ceilDiv_eq_add_pred_div 10 4
  obtain ⟨found, -, foundLasts, -⟩ := find_iff_shown l wanted 10 0 (by decide) exact instant shown
  obtain ⟨-, missed, -, missedLasts⟩ := find_iff_shown l other 10 0 (by decide) exact instant shown
  have first : ShownFirst wanted (l.history 10 0) 3 "/dev/ttyACM1" :=
    ⟨by decide, ⟨"/dev/ttyACM1", .ok wanted⟩,
      ⟨[⟨"/dev/ttyACM0", .error .noSuchFile⟩], [⟨"/dev/ttyACM2", .ok wanted⟩], rfl, rfl,
        by decide⟩, rfl⟩
  have unseen : ∀ k ≤ 10 ⌈/⌉ l.interval, ∀ c ∈ l.history 10 0 k, ¬ c.Has other := by
    rw [final]
    decide
  refine ⟨⟨by decide, exact, instant, shown⟩, ⟨(found _).mpr ⟨3, final.ge, first⟩, ?_⟩,
    (missed _).mpr ⟨rfl, unseen⟩, final ▸ missedLasts unseen⟩
  exact foundLasts 3 final.ge _ first

end UsbLocator

end BoardRig
