/-
# `BoardRig.Proofs.Recovery.Awaited` — what a recovery awaits, and for how long

A recovery awaits a port with some identity or a volume with some label, and
it does so in a search (`Awaited.find`).  What is looked for has appeared when
the identity was read at a port, or when the mount table or the listing of the
block devices told where the volume is mounted (`Awaited.Appears`).

An operation that gives up has looked until the time was up, and one that goes
on for ever is searching, which it does not on a clock that ticks (`Waited`).
This follows from the searches (`Awaited.waited`), since the steps around them
fail for other reasons (`Calm`).
-/
import BoardRig.Proofs.Conduct.Order
import BoardRig.Proofs.Storage.Volume
import BoardRig.Proofs.Usb.Device

namespace BoardRig

variable {σ α β : Type}

/-! ## What appears

A call shows what is looked for by its answer alone, whatever the pass makes of it.
A pass that finds something has such a call, and a pass in vain has none. -/

/-- The call looks for a port or a volume. -/
def Event.Looks (e : Event σ) : Prop :=
  e.channel = .usb ∨ e.channel = .storage

/-- The passes of a search show what is awaited just if they find it, and do
nothing but look. -/
structure Reveals (Appears : Event σ → Prop) (Pass : Conduct σ (Option α)) : Prop where
  found : ∀ es a, Pass es (some a) → ∃ e ∈ es, Appears e
  vain : ∀ es, Pass es none → ∀ e ∈ es, ¬ Appears e
  looks : ∀ es found, Pass es found → es ≠ [] ∧ ∀ e ∈ es, e.Looks
  appears : ∀ e, Appears e → e.Looks

namespace UsbLocator

def Appears (source : UsbSource σ) (identity : UsbIdentity) (e : Event σ) : Prop :=
  ∃ port, e = .identity source port (.ok identity)

theorem Pass.ne_nil {source : UsbSource σ} {identity : UsbIdentity} {es : List (Event σ)}
    {found : Option String} (h : Pass source identity es found) : es ≠ [] := by
  cases h with
  | scan => exact List.cons_ne_nil _ _

theorem reveals (source : UsbSource σ) (identity : UsbIdentity) :
    Reveals (Appears source identity) (Pass source identity) where
  found es port pass := ⟨_, pass.eq_some_iff.mp rfl, port, rfl⟩
  vain es pass := by
    rintro e he ⟨port, rfl⟩
    cases pass.eq_some_iff.mpr he
  looks es found pass := ⟨pass.ne_nil, fun e he => .inl (pass.channel e he)⟩
  appears := by
    rintro e ⟨port, rfl⟩
    exact .inl rfl

end UsbLocator

namespace VolumeLocator

/-- The call told where the volume is mounted: an entry of the mount table carries
the label, or the first block device with the label reports a mount point. -/
inductive Appears (source : StorageSource σ) (label : String) : Event σ → Prop where
  | entry {table : String} {m : Mount} (listed : m ∈ Mount.parseTable table)
      (carries : Mount.Carries label m.mountPoint) :
      Appears source label (.mountTable source (.ok table))
  | device {devices : List BlockDevice} {d : BlockDevice} {mountPoint : String}
      (first : IsFirst (·.label = some label) (BlockDevice.preorderAll devices) d)
      (reported : mountPoint ∈ d.reports) (some : mountPoint ≠ "") :
      Appears source label (.blockDevices source (.ok devices))

variable {source : StorageSource σ} {label : String} {es : List (Event σ)}

theorem Listed.appears_of_some {mountPoint : String}
    (h : Listed source label es (some mountPoint)) : ∃ e ∈ es, Appears source label e := by
  cases h with
  | reported first point =>
      exact ⟨_, List.mem_singleton_self _, .device first point.mem point.holds⟩

theorem Listed.not_appears (h : Listed source label es none) :
    ∀ e ∈ es, ¬ Appears source label e := by
  cases h with
  | unknown =>
      refine List.forall_mem_singleton.mpr fun appears => ?_
      cases appears
  | absent unlabelled =>
      refine List.forall_mem_singleton.mpr fun appears => ?_
      cases appears with
      | device first => exact unlabelled _ first.mem first.holds
  | requested first nowhere =>
      refine List.forall_mem_cons.mpr ⟨fun appears => ?_,
        List.forall_mem_singleton.mpr fun appears => nomatch appears⟩
      cases appears with
      | device first' reported some =>
          cases first.unique first'
          exact some (nowhere _ reported)

theorem reveals (source : StorageSource σ) (label : String) :
    Reveals (Appears source label) (Pass source label) where
  found es mountPoint pass := by
    cases pass with
    | mounted first => exact ⟨_, List.mem_singleton_self _, .entry first.mem first.holds⟩
    | unmounted _ listed =>
        obtain ⟨e, he, appears⟩ := listed.appears_of_some
        exact ⟨e, List.mem_cons_of_mem _ he, appears⟩
  vain es pass := by
    cases pass with
    | unmounted missing listed =>
        refine List.forall_mem_cons.mpr ⟨fun appears => ?_, listed.not_appears⟩
        cases appears with
        | entry mem carries => exact missing _ rfl _ mem carries
  looks es found pass := by
    refine ⟨?_, fun e he => .inr (pass.channel e he)⟩
    cases pass with
    | mounted => exact List.cons_ne_nil _ _
    | unmounted => exact List.cons_ne_nil _ _
  appears e appears := by
    cases appears <;> exact .inr rfl

end VolumeLocator

/-! ## What is awaited

Ports and volumes are looked for by different means, but they are waited for and
missed in the same way.  So one type stands for both, and its functions go by cases. -/

/-- What is awaited, and where it is looked for until the time is up. -/
inductive Awaited (σ : Type) where
  | port (locator : UsbLocator σ) (identity : UsbIdentity) (timeout : Duration)
  | volume (locator : VolumeLocator σ) (label : String) (timeout : Duration)

namespace Awaited

def clock : Awaited σ → Clock σ
  | port locator _ _ => locator.clock
  | volume locator _ _ => locator.clock

def interval : Awaited σ → Duration
  | port locator _ _ => locator.interval
  | volume locator _ _ => locator.interval

def timeout : Awaited σ → Duration
  | port _ _ timeout => timeout
  | volume _ _ timeout => timeout

def Pass : Awaited σ → Conduct σ (Option String)
  | port locator identity _ => UsbLocator.Pass locator.source identity
  | volume locator label _ => VolumeLocator.Pass locator.source label

def Appears : Awaited σ → Event σ → Prop
  | port locator identity _ => UsbLocator.Appears locator.source identity
  | volume locator label _ => VolumeLocator.Appears locator.source label

def missing : Awaited σ → Error
  | port _ identity timeout => UsbLocator.notFound identity timeout
  | volume _ label timeout => VolumeLocator.notFound label timeout

def find : Awaited σ → Action σ String
  | port locator identity timeout => locator.find identity timeout
  | volume locator label timeout => locator.find label timeout

variable (sought : Awaited σ)

def Lookup : Conduct σ (Except Error String) :=
  Search sought.clock sought.interval sought.timeout sought.Pass sought.missing

/-- From world `s` it is looked for in vain for ever. -/
def Endless (s : σ) : Prop :=
  EndlessSearch sought.clock sought.interval sought.timeout sought.Pass s

theorem shows_find : Shows sought.find sought.Lookup := by
  cases sought with
  | port locator identity timeout => exact locator.shows_find identity timeout
  | volume locator label timeout => exact locator.shows_find label timeout

theorem patient : Patient sought.clock sought.interval sought.timeout sought.Pass sought.find := by
  cases sought with
  | port locator identity timeout => exact locator.patient_find identity timeout
  | volume locator label timeout => exact locator.patient_find label timeout

theorem reveals : Reveals sought.Appears sought.Pass := by
  cases sought with
  | port locator identity _ => exact UsbLocator.reveals locator.source identity
  | volume locator label _ => exact VolumeLocator.reveals locator.source label

theorem not_appears {e : Event σ} (unlooked : ¬ e.Looks) : ¬ sought.Appears e :=
  fun appears => unlooked (sought.reveals.appears e appears)

theorem missing_eq : ∃ text, sought.missing = .deviceNotFound text := by
  cases sought <;> exact ⟨_, rfl⟩

end Awaited

/-! ## How long it is awaited

Steps other than the search fail for reasons of their own, so what is known of the
search passes to every operation that contains it. -/

/-- How long a run from world `s` to world `s'` goes on that gives up, or has no
end, if there is something that it awaits. -/
structure Waited (awaited : Option (Awaited σ)) (s : σ) (e : Error) (s' : σ) : Prop where
  /-- What is not found was looked for until the time was up, and not before. -/
  timeUp : ∀ text, e = .deviceNotFound text → ∃ sought before s₁ lookup, awaited = some sought ∧
    Leads s before s₁ ∧ (∀ e ∈ before, ¬ e.Looks) ∧
    Leads s₁ lookup s' ∧ sought.Lookup lookup (.error e) ∧
    TimeUp sought.clock sought.timeout s₁ s'
  /-- On a clock that ticks, only what has no deadline is looked for without end. -/
  endless : e = .unending → ∃ sought, awaited = some sought ∧ sought.Endless s' ∧
    (Ticking sought.clock sought.interval sought.Pass →
      Poll.horizon ≤ sought.clock.now s' + sought.timeout)

/-- Every run that fails has waited. -/
def Waits (awaited : Option (Awaited σ)) (act : Action σ α) : Prop :=
  ∀ s e s', act s = (.error e, s') → Waited awaited s e s'

/-- What a search fails with. -/
def Error.OfSearch : Error → Prop
  | .deviceNotFound _ | .unending => True
  | _ => False

/-- Nothing is looked for in an operation, and so it does not fail as a search does. -/
def Calm (act : Action σ α) : Prop :=
  Shows act fun es r => (∀ e ∈ es, ¬ e.Looks) ∧ ∀ e, r = .error e → ¬ e.OfSearch

namespace Calm

variable {x : Action σ α} {f : α → Action σ β}

theorem of_shows {P : Conduct σ (Except Error α)} (h : Shows x P)
    (unlooked : P.Within fun e => ¬ e.Looks) (failure : ∀ es e, P es (.error e) → ¬ e.OfSearch) :
    Calm x := by
  refine h.mono fun es r hP => ⟨unlooked es r hP, ?_⟩
  rintro e rfl
  exact failure es e hP

theorem pure (a : α) : Calm (Pure.pure a : Action σ α) :=
  .of_shows (.pure a) (.yields _) fun _ _ h => nomatch h.2

theorem throw {e : Error} (other : ¬ e.OfSearch) : Calm (throw e : Action σ α) := by
  refine .of_shows (.throw e) (.yields _) ?_
  rintro es e' ⟨-, ⟨⟩⟩
  exact other

theorem pause (clock : Clock σ) (d : Duration) : Calm (clock.pause d) :=
  .of_shows (.pause clock d) (.pauses (by simp [Event.Looks, Event.channel]))
    fun _ _ h => nomatch h.2

theorem file {e : Except IoError α → Event σ} (h : Shows x (Conduct.one e).io)
    (call : ∀ answer, (e answer).channel = .files) : Calm x := by
  refine .of_shows h ?_ ?_
  · rintro es r ⟨answer, rfl, -⟩
    simp [Event.Looks, call]
  · rintro es e' ⟨_ | cause, -, h⟩ <;> cases h
    exact id

theorem bind (h : Calm x) (h' : ∀ a, Calm (f a)) : Calm (x >>= f) := by
  refine (Shows.bind h h').mono fun es r hrun => ?_
  cases hrun with
  | stops first =>
      exact ⟨first.1, fun e he => first.2 e (congrArg Except.error (Except.error.inj he))⟩
  | goesOn first rest => exact ⟨List.forall_mem_append.mpr ⟨first.1, rest.1⟩, rest.2⟩

theorem discard (h : Calm x) : Calm (discard x) := by
  rw [Action.discard_eq_bind]
  exact h.bind fun _ => .pure ()

end Calm

theorem Waited.of_other {awaited : Option (Awaited σ)} {s s' : σ} {e : Error}
    (other : ¬ e.OfSearch) : Waited awaited s e s' := by
  constructor
  · rintro text rfl
    exact absurd trivial other
  · rintro rfl
    exact absurd trivial other

theorem Waited.after {awaited : Option (Awaited σ)} {s s₁ s' : σ} {e : Error} {es : List (Event σ)}
    (h : Waited awaited s₁ e s') (hleads : Leads s es s₁) (unlooked : ∀ e ∈ es, ¬ e.Looks) :
    Waited awaited s e s' where
  timeUp text missed := by
    obtain ⟨sought, before, s₂, lookup, hsought, hbefore, hunlooked, search⟩ := h.timeUp text missed
    exact ⟨sought, es ++ before, s₂, lookup, hsought, hleads.append hbefore,
      List.forall_mem_append.mpr ⟨unlooked, hunlooked⟩, search⟩
  endless := h.endless

namespace Waits

variable {awaited : Option (Awaited σ)} {x : Action σ α} {f : α → Action σ β}

theorem of_calm (h : Calm x) : Waits awaited x := by
  intro s e s' hx
  obtain ⟨es, -, -, failure⟩ := h.of_eq hx
  exact .of_other (failure e rfl)

theorem after (h : Calm x) (h' : ∀ a, Waits awaited (f a)) : Waits awaited (x >>= f) := by
  intro s e s' hrun
  rw [Action.bind_apply] at hrun
  rcases hx : x s with ⟨e' | a, s₁⟩ <;> rw [hx] at hrun
  · cases hrun
    exact of_calm h s _ _ hx
  · obtain ⟨es, hleads, unlooked, -⟩ := h.of_eq hx
    exact (h' a s₁ e s' hrun).after hleads unlooked

theorem before (h : Waits awaited x) (h' : ∀ a, Calm (f a)) : Waits awaited (x >>= f) := by
  intro s e s' hrun
  rw [Action.bind_apply] at hrun
  rcases hx : x s with ⟨e' | a, s₁⟩ <;> rw [hx] at hrun
  · cases hrun
    exact h s _ _ hx
  · obtain ⟨es, -, -, failure⟩ := (h' a).of_eq hrun
    exact .of_other (failure e rfl)

theorem discard (h : Waits awaited x) : Waits awaited (discard x) := by
  rw [Action.discard_eq_bind]
  exact h.before fun _ => .pure ()

end Waits

theorem Awaited.waits (sought : Awaited σ) : Waits (some sought) sought.find := by
  intro s e s' hfind
  constructor
  · rintro text rfl
    have late := sought.patient.timeUp s text (congrArg Prod.fst hfind)
    rw [hfind] at late
    obtain ⟨lookup, hleads, search⟩ := sought.shows_find.of_eq hfind
    exact ⟨sought, [], s, lookup, rfl, .nowhere, fun _ h => absurd h List.not_mem_nil, hleads,
      search, late⟩
  · rintro rfl
    obtain ⟨endless, rest⟩ := sought.patient.endless s (congrArg Prod.fst hfind)
    rw [hfind] at rest
    obtain rfl : s' = s := rest
    refine ⟨sought, rfl, endless, fun ticking => ?_⟩
    by_contra shown
    exact sought.patient.ends ticking s' (not_le.mp shown) (congrArg Prod.fst hfind)

end BoardRig
