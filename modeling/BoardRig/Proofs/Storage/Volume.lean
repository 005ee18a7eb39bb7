/-
# `BoardRig.Proofs.Storage.Volume` — how a volume is found

A pass of the search makes one call, or two, or three: it reads the mount
table, then lists the block devices, and then asks for one of them to be
mounted.  Which calls it makes and what it answers is told by what these calls
show (`Pass`, `shows_locateOnce`), where the walk over the devices is preorder
(`BlockDevice.walk_eq_preorderAll`).  None of the failures of a
call ends the search; it ends with the first answer, or when its time is over
(`VolumeLocator.find_exact`).
-/
import BoardRig.Proofs.Conduct.Search
import BoardRig.Proofs.Storage.Walk
import BoardRig.Storage.Locator

namespace BoardRig

/-! ## What a pass looks for

Mount points are taken in the order of their tables, and devices in preorder. -/

namespace Mount

/-- The last name of the path has the label in it. -/
def Carries (label mountPoint : String) : Prop :=
  ∃ name, Path.fileName? mountPoint = some name ∧ label.toList <:+: name.toList

theorem carriesLabel_iff {label mountPoint : String} :
    carriesLabel label mountPoint = true ↔ Carries label mountPoint := by
  rw [carriesLabel, Carries]
  cases Path.fileName? mountPoint with
  | none => exact ⟨fun h => (nomatch h), fun ⟨_, h, _⟩ => (nomatch h)⟩
  | some name =>
      rw [Text.occursIn_iff]
      exact ⟨fun h => ⟨name, rfl, h⟩, fun ⟨_, hname, h⟩ => Option.some.inj hname ▸ h⟩

theorem exists_isFirst_of_findMounted? {table label mountPoint : String}
    (h : findMounted? table label = some mountPoint) :
    ∃ m, IsFirst (fun m => Carries label m.mountPoint) (parseTable table) m ∧
      m.mountPoint = mountPoint := by
  rw [findMounted?, List.find?_map, Option.map_eq_some_iff] at h
  obtain ⟨m, hm, rfl⟩ := h
  exact ⟨m, (find?_eq_some_iff_isFirst fun _ => carriesLabel_iff).mp hm, rfl⟩

theorem not_carries_of_findMounted? {table label : String} (h : findMounted? table label = none) :
    ∀ m ∈ parseTable table, ¬ Carries label m.mountPoint := by
  rw [findMounted?, List.find?_map, Option.map_eq_none_iff, List.find?_eq_none] at h
  exact fun m hm hcarries => h m hm (carriesLabel_iff.mpr hcarries)

end Mount

namespace BlockDevice

/-- The mount points that are reported for a device, the one of older listings
first. -/
def reports (d : BlockDevice) : List String :=
  (d.singleMountPoint :: d.manyMountPoints).filterMap id

theorem isFirst_of_mountPoint? {d : BlockDevice} {mountPoint : String}
    (h : d.mountPoint? = some mountPoint) : IsFirst (· ≠ "") d.reports mountPoint :=
  (find?_eq_some_iff_isFirst fun _ => bne_iff_ne).mp h

theorem eq_empty_of_mountPoint? {d : BlockDevice} (h : d.mountPoint? = none) :
    ∀ p ∈ d.reports, p = "" := by
  intro p hp
  have hempty := List.find?_eq_none.mp h p hp
  rwa [bne_iff_ne, not_not] at hempty

theorem isFirst_of_findLabelled? {label : String} {roots : List BlockDevice} {d : BlockDevice}
    (h : findLabelled? label roots = some d) :
    IsFirst (·.label = some label) (preorderAll roots) d := by
  rw [findLabelled?, walk_eq_preorderAll] at h
  exact (find?_eq_some_iff_isFirst fun _ => beq_iff_eq).mp h

theorem label_ne_of_findLabelled? {label : String} {roots : List BlockDevice}
    (h : findLabelled? label roots = none) : ∀ d ∈ preorderAll roots, d.label ≠ some label := by
  rw [findLabelled?, walk_eq_preorderAll, List.find?_eq_none] at h
  exact fun d hd hlabel => h d hd (beq_iff_eq.mpr hlabel)

end BlockDevice

/-! ## Passes

A pass goes on to its next source only if the one before it had no answer.  There is
one constructor for every source at which it can end. -/

namespace VolumeLocator

variable {σ : Type}

/-- The calls that look for the volume among the block devices, with the
answer. -/
inductive Listed (source : StorageSource σ) (label : String) :
    List (Event σ) → Option String → Prop where
  | unknown {e : Error} : Listed source label [.blockDevices source (.error e)] none
  | absent {devices : List BlockDevice}
      (unlabelled : ∀ d ∈ BlockDevice.preorderAll devices, d.label ≠ some label) :
      Listed source label [.blockDevices source (.ok devices)] none
  /-- The first device with the label tells where it is mounted. -/
  | reported {devices : List BlockDevice} {d : BlockDevice} {mountPoint : String}
      (first : IsFirst (·.label = some label) (BlockDevice.preorderAll devices) d)
      (point : IsFirst (· ≠ "") d.reports mountPoint) :
      Listed source label [.blockDevices source (.ok devices)] (some mountPoint)
  /-- The first device with the label is mounted nowhere, and is asked to be,
  with whatever answer. -/
  | requested {devices : List BlockDevice} {d : BlockDevice} {answer : Except Error Unit}
      (first : IsFirst (·.label = some label) (BlockDevice.preorderAll devices) d)
      (nowhere : ∀ p ∈ d.reports, p = "") :
      Listed source label [.blockDevices source (.ok devices), .mount source d answer] none

/-- The calls of one pass, with its answer. -/
inductive Pass (source : StorageSource σ) (label : String) :
    List (Event σ) → Option String → Prop where
  /-- The first entry of the mount table that carries the label is the answer. -/
  | mounted {table : String} {m : Mount}
      (first : IsFirst (fun m => Mount.Carries label m.mountPoint) (Mount.parseTable table) m) :
      Pass source label [.mountTable source (.ok table)] (some m.mountPoint)
  /-- The mount table has no such entry, or cannot be read. -/
  | unmounted {answer : Except Error String} {es : List (Event σ)} {found : Option String}
      (missing : ∀ table, answer = .ok table →
        ∀ m ∈ Mount.parseTable table, ¬ Mount.Carries label m.mountPoint)
      (listed : Listed source label es found) :
      Pass source label (.mountTable source answer :: es) found

theorem Pass.channel {source : StorageSource σ} {label : String} {es : List (Event σ)}
    {found : Option String} (h : Pass source label es found) : ∀ e ∈ es, e.channel = .storage := by
  cases h with
  | mounted => simp [Event.channel]
  | unmounted missing listed => cases listed <;> simp [Event.channel]

variable (l : VolumeLocator σ) (label : String)

theorem shows_findListed : Shows (l.findListed label) (Listed l.source label) := by
  intro s
  rw [findListed]
  rcases hlist : l.source.blockDevices s with ⟨e | devices, s'⟩
  · exact ⟨[.blockDevices l.source (.error e)], .single hlist, .unknown⟩
  · have listed : Leads s [.blockDevices l.source (.ok devices)] s' := .single hlist
    cases hfirst : BlockDevice.findLabelled? label devices with
    | none =>
        simp only [hfirst]
        exact ⟨_, listed, .absent (BlockDevice.label_ne_of_findLabelled? hfirst)⟩
    | some d =>
        have first := BlockDevice.isFirst_of_findLabelled? hfirst
        cases hpoint : d.mountPoint? with
        | some mountPoint =>
            simp only [hfirst, hpoint]
            exact ⟨_, listed, .reported first (BlockDevice.isFirst_of_mountPoint? hpoint)⟩
        | none =>
            simp only [hfirst, hpoint]
            have asked : Leads s' [.mount l.source d (l.source.mount d s').1]
                (l.source.mount d s').2 := .single rfl
            exact ⟨_, listed.append asked,
              .requested first (BlockDevice.eq_empty_of_mountPoint? hpoint)⟩

theorem shows_locateOnce : Shows (l.locateOnce label) (Pass l.source label) := by
  intro s
  rw [locateOnce, findMountedNow]
  -- A pass without an entry of the table is that of the listing.
  have unmounted : ∀ answer s', l.source.mountTable s = (answer, s') →
      (∀ table, answer = .ok table →
        ∀ m ∈ Mount.parseTable table, ¬ Mount.Carries label m.mountPoint) →
      ∃ es, Leads s es (l.findListed label s').2 ∧
        Pass l.source label es (l.findListed label s').1 := by
    intro answer s' htable missing
    obtain ⟨es, hleads, hlisted⟩ := l.shows_findListed label s'
    exact ⟨.mountTable l.source answer :: es, .call htable hleads, .unmounted missing hlisted⟩
  rcases htable : l.source.mountTable s with ⟨e | table, s'⟩
  · exact unmounted _ s' htable fun table h => nomatch h
  · cases hfirst : Mount.findMounted? table label with
    | some mountPoint =>
        obtain ⟨m, first, rfl⟩ := Mount.exists_isFirst_of_findMounted? hfirst
        simp only [hfirst]
        exact ⟨[.mountTable l.source (.ok table)], .single htable, .mounted first⟩
    | none =>
        simp only [hfirst]
        refine unmounted _ s' htable fun table' h => ?_
        cases h
        exact Mount.not_carries_of_findMounted? hfirst

/-! ## Searches

None of the failures of a call reaches the search, so only its time can end it in
vain. -/

theorem shows_find (timeout : Duration) :
    Shows (l.find label timeout)
      (Search l.clock l.interval timeout (Pass l.source label) (notFound label timeout)) :=
  (l.shows_locateOnce label).search

theorem patient_find (timeout : Duration) :
    Patient l.clock l.interval timeout (Pass l.source label) (l.find label timeout) :=
  (l.shows_locateOnce label).patient l.clock l.interval timeout _ _

/-- The clock stands still while the source is asked. -/
structure Instant (source : StorageSource σ) (clock : Clock σ) : Prop where
  mountTable : ∀ s, clock.now (source.mountTable s).2 = clock.now s
  blockDevices : ∀ s, clock.now (source.blockDevices s).2 = clock.now s
  mount : ∀ d s, clock.now (source.mount d s).2 = clock.now s

section Instant

variable {source : StorageSource σ} {clock : Clock σ} (instant : Instant source clock)

include instant

theorem Instant.keeps_mountTable (answer : Except Error String) :
    (Event.mountTable source answer).Keeps clock.now :=
  Event.keeps_of_act (fun _ _ h => h) instant.mountTable

theorem Instant.keeps_blockDevices (answer : Except Error (List BlockDevice)) :
    (Event.blockDevices source answer).Keeps clock.now :=
  Event.keeps_of_act (fun _ _ h => h) instant.blockDevices

theorem Instant.keeps_mount (d : BlockDevice) (answer : Except Error Unit) :
    (Event.mount source d answer).Keeps clock.now :=
  Event.keeps_of_act (fun _ _ h => h) (instant.mount d)

theorem Instant.keeps_pass {label : String} {es : List (Event σ)} {found : Option String}
    (h : Pass source label es found) : ∀ e ∈ es, e.Keeps clock.now := by
  cases h with
  | mounted => simp [instant.keeps_mountTable]
  | unmounted missing listed =>
      cases listed <;>
        simp [instant.keeps_mountTable, instant.keeps_blockDevices, instant.keeps_mount]

end Instant

theorem now_locateOnce (instant : Instant l.source l.clock) (s : σ) :
    l.clock.now (l.locateOnce label s).2 = l.clock.now s := by
  obtain ⟨es, hleads, hpass⟩ := l.shows_locateOnce label s
  exact hleads.keeps (instant.keeps_pass hpass)

/-- Whatever the source does, each pass is a `Pass`, and its answers alone
decide. -/
theorem find_exact (l : VolumeLocator σ) (label : String) (timeout : Duration) (s : σ)
    (positive : 0 < l.interval)
    (exact : ∀ d s, l.clock.now (l.clock.sleep d s) = l.clock.now s + d)
    (instant : Instant l.source l.clock) :
    (l.clock.now s + timeout < Poll.horizon →
      ∃ asked last, PunctualSearch l.clock l.interval timeout (Pass l.source label)
        (notFound label timeout) s (l.find label timeout s) asked last) ∧
    (Poll.horizon ≤ l.clock.now s + timeout →
      ∃ asked r, l.find label timeout s = r.getD (.error .unending, s) ∧
        BoundlessSearch l.clock l.interval (Pass l.source label) s asked r) :=
  ⟨punctual_search _ _ exact (l.now_locateOnce label instant) (l.shows_locateOnce label) positive,
    boundless_search _ _ exact (l.now_locateOnce label instant) (l.shows_locateOnce label)⟩

/-- With an unreadable mount table and a first listing that fails, the volume of
a partition is found with the second pass. -/
theorem find_exact_of_second_listing :
    let part : BlockDevice := .mk "sda1" (some "RPI-RP2") none [none, some "/media/RPI-RP2"] []
    let source : StorageSource Nat :=
      { mountTable := fun now => (.error (.io .permissionDenied), now)
        blockDevices := fun now =>
          (if now < 400 then .error .json else .ok [.mk "sda" none none [] [part]], now)
        mount := fun _ now => (.ok (), now) }
    let l : VolumeLocator Nat := ⟨source, ⟨id, fun d now => now + d⟩, 400⟩
    (0 < l.interval ∧ (∀ d s, l.clock.now (l.clock.sleep d s) = l.clock.now s + d) ∧
      Instant l.source l.clock ∧ l.clock.now 0 + 1000 < Poll.horizon) ∧
      (∃ asked last, PunctualSearch l.clock l.interval 1000 (Pass l.source "RPI-RP2")
        (notFound "RPI-RP2" 1000) 0 (l.find "RPI-RP2" 1000 0) asked last) ∧
      l.find "RPI-RP2" 1000 0 = (.ok "/media/RPI-RP2", 400) := by
  intro part source l
  have instant : Instant l.source l.clock := ⟨fun _ => rfl, fun _ => rfl, fun _ _ => rfl⟩
  have shown : l.clock.now 0 + 1000 < Poll.horizon := by decide
  refine ⟨⟨by decide, fun _ _ => rfl, instant, shown⟩,
    (find_exact l "RPI-RP2" 1000 0 (by decide) (fun _ _ => rfl) instant).1 shown, ?_⟩
  have first : l.locateOnce "RPI-RP2" 0 = (none, 0) := rfl
  have found : BlockDevice.findLabelled? "RPI-RP2" [.mk "sda" none none [] [part]] = some part := by
    rw [BlockDevice.findLabelled?, BlockDevice.walk, BlockDevice.walkFrom_eq_preorderAll]
    rfl
  have second : l.locateOnce "RPI-RP2" 400 = (some "/media/RPI-RP2", 400) := by
    change l.findListed "RPI-RP2" 400 = _
    rw [findListed,
      show l.source.blockDevices 400 = (.ok [.mk "sda" none none [] [part]], 400) from rfl]
    simp only [found]
    rfl
  have again : ∀ late, Poll.round l.clock l.interval (some (l.clock.now 0 + 1000)) late
      (Action.total (l.locateOnce "RPI-RP2")) 0 = (.ok (.inl ()), 400) := by
    intro late
    rw [Poll.round, Action.total, first]
    rfl
  have done : ∀ late, Poll.round l.clock l.interval (some (l.clock.now 0 + 1000)) late
      (Action.total (l.locateOnce "RPI-RP2")) 400 = (.ok (.inr "/media/RPI-RP2"), 400) := by
    intro late
    rw [Poll.round, Action.total, second]
  rw [find, Action.onTimeout, Poll.wait, Poll.deadline?_of_lt shown, Action.loop_of_loop?
    ((Action.loop?_of_again (again _)).trans (Action.loop?_of_done (done _)))]

end VolumeLocator

end BoardRig
