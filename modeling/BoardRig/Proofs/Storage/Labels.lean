/-
# `BoardRig.Proofs.Storage.Labels` — several devices with one label

Where the mount table does not show a volume, the first device with its label
decides alone (`first_labelled_decides`).  If this one is mounted, the search is over at once.
If it is not, it is asked to be, and all others with the label are passed over,
mounted or not; and as long as it stays like that, the volume is not found
(`find_of_firstUnmounted`).
-/
import BoardRig.Proofs.Storage.Volume

namespace BoardRig.VolumeLocator

variable {σ : Type} {l : VolumeLocator σ} {label : String} {s s' : σ}
  {devices : List BlockDevice} {d : BlockDevice} {mountPoint : String}

/-! ## Passes -/

/-- In world `s` the mount table shows no volume with the label, and then these
devices are listed. -/
def Lists (l : VolumeLocator σ) (label : String) (s : σ) (devices : List BlockDevice) (s' : σ) :
    Prop :=
  ∃ answer s₁, l.source.mountTable s = (answer, s₁) ∧
    (∀ table, answer = .ok table →
      ∀ m ∈ Mount.parseTable table, ¬ Mount.Carries label m.mountPoint) ∧
    l.source.blockDevices s₁ = (.ok devices, s')

/-- The devices of a forest with a label, in preorder, begin with this one. -/
def FirstLabelled (label : String) (devices : List BlockDevice) (d : BlockDevice) : Prop :=
  IsFirst (·.label = some label) (BlockDevice.preorderAll devices) d

theorem Lists.locateOnce_eq (h : l.Lists label s devices s')
    (first : FirstLabelled label devices d) :
    l.locateOnce label s = match d.mountPoint? with
      | some mountPoint => (some mountPoint, s')
      | none => (none, (l.source.mount d s').2) := by
  obtain ⟨answer, s₁, htable, unmatched, hlist⟩ := h
  have unseen : l.findMountedNow label s = (none, s₁) := by
    rw [findMountedNow, htable]
    cases answer with
    | error e => rfl
    | ok table =>
        cases hmounted : Mount.findMounted? table label with
        | none => exact congrArg (·, s₁) hmounted
        | some mountPoint =>
            obtain ⟨m, carries, -⟩ := Mount.exists_isFirst_of_findMounted? hmounted
            exact absurd carries.holds (unmatched table rfl m carries.mem)
  have found : BlockDevice.findLabelled? label devices = some d := by
    cases hlabelled : BlockDevice.findLabelled? label devices with
    | none =>
        exact absurd first.holds (BlockDevice.label_ne_of_findLabelled? hlabelled d first.mem)
    | some d' => rw [(BlockDevice.isFirst_of_findLabelled? hlabelled).unique first]
  have looked : l.locateOnce label s = l.findListed label s₁ := by
    simp only [locateOnce, unseen]
  rw [looked, findListed, hlist]
  cases hpoint : d.mountPoint? <;> simp only [found, hpoint]

theorem Lists.locateOnce_of_mounted (h : l.Lists label s devices s')
    (first : FirstLabelled label devices d) (mounted : ∃ p ∈ d.reports, p ≠ "") :
    ∃ p, IsFirst (· ≠ "") d.reports p ∧ l.locateOnce label s = (some p, s') := by
  rw [h.locateOnce_eq first]
  cases hpoint : d.mountPoint? with
  | some p => exact ⟨p, BlockDevice.isFirst_of_mountPoint? hpoint, rfl⟩
  | none =>
      obtain ⟨p, hp, some⟩ := mounted
      exact absurd (BlockDevice.eq_empty_of_mountPoint? hpoint p hp) some

theorem Lists.locateOnce_of_unmounted (h : l.Lists label s devices s')
    (first : FirstLabelled label devices d) (unmounted : ∀ p ∈ d.reports, p = "") :
    l.locateOnce label s = (none, (l.source.mount d s').2) := by
  rw [h.locateOnce_eq first]
  cases hpoint : d.mountPoint? with
  | some p =>
      have point := BlockDevice.isFirst_of_mountPoint? hpoint
      exact absurd (unmounted p point.mem) point.holds
  | none => rfl

/-! ## Searches

A condition that every pass finds again is true of the whole search. -/

theorem find_of_locateOnce (h : l.locateOnce label s = (some mountPoint, s'))
    (timeout : Duration) : l.find label timeout s = (.ok mountPoint, s') := by
  have found : Action.total (l.locateOnce label) s = (.ok (some mountPoint), s') := by
    rw [Action.total, h]
  rw [find, Action.onTimeout, Poll.wait_of_found found]

/-- In world `s` the mount table does not show the volume, and the first device with
its label is mounted nowhere. -/
def FirstUnmounted (l : VolumeLocator σ) (label : String) (s : σ) : Prop :=
  ∃ devices s' d, l.Lists label s devices s' ∧ FirstLabelled label devices d ∧
    ∀ p ∈ d.reports, p = ""

theorem FirstUnmounted.locateOnce_fst (h : l.FirstUnmounted label s) :
    (l.locateOnce label s).1 = none := by
  obtain ⟨devices, s', d, listing, first, unmounted⟩ := h
  rw [listing.locateOnce_of_unmounted first unmounted]

/-- The worlds in which the passes of a search begin that finds nothing. -/
def passWorlds (l : VolumeLocator σ) (label : String) (timeout : Duration) (s : σ) : Nat → σ :=
  Poll.beats l.clock l.interval timeout (fun s => (l.locateOnce label s).2) s

/-- A volume is not found whose first device is unmounted in every pass. -/
theorem find_of_firstUnmounted (timeout : Duration) (positive : 0 < l.interval)
    (exact : ∀ d s, l.clock.now (l.clock.sleep d s) = l.clock.now s + d)
    (instant : Instant l.source l.clock) (shown : l.clock.now s + timeout < Poll.horizon)
    (unmounted : ∀ k ≤ timeout ⌈/⌉ l.interval,
      l.FirstUnmounted label (l.passWorlds label timeout s k)) :
    (l.find label timeout s).1 = .error (notFound label timeout) ∧
      l.clock.now (l.find label timeout s).2 = l.clock.now s + timeout := by
  obtain ⟨last, few, -, full, hfind⟩ := exists_last_pass (notFound label timeout)
    s!"volume {label}" exact (l.now_locateOnce label instant) positive shown
  have vain := (unmounted last few).locateOnce_fst
  have ends : l.find label timeout s
      = ((l.locateOnce label (l.passWorlds label timeout s last)).1.elim
          (.error (notFound label timeout)) .ok,
        (l.locateOnce label (l.passWorlds label timeout s last)).2) := hfind
  -- The last pass is in vain as well, so it is the one at the deadline.
  obtain rfl := full vain
  rw [ends, vain]
  refine ⟨rfl, ?_⟩
  rw [l.now_locateOnce label instant, passWorlds,
    Poll.now_beats exact (l.now_locateOnce label instant),
    Nat.min_eq_right (le_ceilDiv_mul positive)]

/-- Where the mount table does not show the volume, the first device with its label
decides: mounted, it is what every search finds at once, and unmounted, it is asked to
be mounted, and the pass finds none of the others. A search whose passes are all like
this fails when its time is over. -/
theorem first_labelled_decides (l : VolumeLocator σ) (label : String) (s s' : σ)
    (devices : List BlockDevice) (listing : l.Lists label s devices s')
    (labelled : ∃ d ∈ BlockDevice.preorderAll devices, d.label = some label) :
    ∃ d, FirstLabelled label devices d ∧
      ((∃ p ∈ d.reports, p ≠ "") → ∃ p, IsFirst (· ≠ "") d.reports p ∧
        l.locateOnce label s = (some p, s') ∧ ∀ timeout, l.find label timeout s = (.ok p, s')) ∧
      ((∀ p ∈ d.reports, p = "") →
        l.locateOnce label s = (none, (l.source.mount d s').2) ∧
        ∀ timeout, 0 < l.interval →
          (∀ d s, l.clock.now (l.clock.sleep d s) = l.clock.now s + d) →
          Instant l.source l.clock → l.clock.now s + timeout < Poll.horizon →
          (∀ k ≤ timeout ⌈/⌉ l.interval, l.FirstUnmounted label (l.passWorlds label timeout s k)) →
          (l.find label timeout s).1 = .error (notFound label timeout) ∧
            l.clock.now (l.find label timeout s).2 = l.clock.now s + timeout) := by
  obtain ⟨x, hx, hlabel⟩ := labelled
  obtain ⟨d, first⟩ := exists_isFirst (p := (·.label = some label)) hx hlabel
  refine ⟨d, first, fun mounted => ?_, fun unmounted => ?_⟩
  · obtain ⟨p, point, found⟩ := listing.locateOnce_of_mounted first mounted
    exact ⟨p, point, found, find_of_locateOnce found⟩
  · refine ⟨listing.locateOnce_of_unmounted first unmounted, ?_⟩
    intro timeout positive exact instant shown still
    exact find_of_firstUnmounted timeout positive exact instant shown still

/-- A locator in a world that nothing but time changes: the mount table is empty, the
same devices are listed again and again, and none of them can be mounted. -/
def standing (devices : List BlockDevice) : VolumeLocator Nat where
  source :=
    { mountTable := fun now => (.ok "", now)
      blockDevices := fun now => (.ok devices, now)
      mount := fun _ now => (.error (.commandFailed "udisksctl" "not authorized"), now) }
  clock := ⟨id, fun d now => now + d⟩
  interval := 500

theorem instant_standing (devices : List BlockDevice) :
    Instant (standing devices).source (standing devices).clock :=
  ⟨fun _ => rfl, fun _ => rfl, fun _ _ => rfl⟩

theorem lists_standing (label : String) (devices : List BlockDevice) (now : Nat) :
    (standing devices).Lists label now devices now := by
  refine ⟨.ok "", now, rfl, fun table htable m hm => ?_, rfl⟩
  cases htable
  exact absurd hm List.not_mem_nil

/-- Two volumes of which each has a device that is mounted and one that is not. -/
def pairs : List BlockDevice :=
  [.mk "sda" none none []
      [.mk "sda1" (some "RPI-RP2") (some "") [none, some "/media/RPI-RP2"] [],
        .mk "sda2" (some "DATA") none [none] []],
    .mk "sdb" (some "RPI-RP2") none [] [],
    .mk "sdc" (some "DATA") (some "/mnt/data") [] []]

/-- One of them is found at once because its mounted device is listed first, and the
other one is never found because its unmounted device is. -/
theorem first_labelled_decides_for_pairs :
    (standing pairs).Lists "RPI-RP2" 0 pairs 0 ∧
      (∃ d ∈ BlockDevice.preorderAll pairs, d.label = some "RPI-RP2") ∧
      (standing pairs).find "RPI-RP2" 0 0 = (.ok "/media/RPI-RP2", 0) ∧
      (standing pairs).Lists "DATA" 0 pairs 0 ∧
      (∃ d ∈ BlockDevice.preorderAll pairs, d.label = some "DATA") ∧
      (standing pairs).locateOnce "DATA" 0 = (none, 0) ∧
      ((standing pairs).find "DATA" 1200 0).1 = .error (notFound "DATA" 1200) := by
  have listing : ∀ label now, (standing pairs).Lists label now pairs now :=
    fun label => lists_standing label pairs
  let firmware : BlockDevice :=
    .mk "sda1" (some "RPI-RP2") (some "") [none, some "/media/RPI-RP2"] []
  let data : BlockDevice := .mk "sda2" (some "DATA") none [none] []
  have firstFirmware : FirstLabelled "RPI-RP2" pairs firmware :=
    ⟨[_], _, rfl, rfl, List.forall_mem_singleton.mpr nofun⟩
  have firstData : FirstLabelled "DATA" pairs data := by
    refine ⟨[_, firmware], _, rfl, rfl, ?_⟩
    exact List.forall_mem_cons.mpr ⟨nofun, List.forall_mem_singleton.mpr (by decide)⟩
  have someFirmware : ∃ d ∈ BlockDevice.preorderAll pairs, d.label = some "RPI-RP2" :=
    ⟨firmware, firstFirmware.mem, rfl⟩
  have someData : ∃ d ∈ BlockDevice.preorderAll pairs, d.label = some "DATA" :=
    ⟨data, firstData.mem, rfl⟩
  obtain ⟨d, first, mounted, -⟩ :=
    first_labelled_decides (standing pairs) "RPI-RP2" 0 0 pairs (listing _ 0) someFirmware
  obtain rfl := first.unique firstFirmware
  obtain ⟨p, point, -, found⟩ := mounted ⟨"/media/RPI-RP2", by decide, by decide⟩
  obtain rfl : p = "/media/RPI-RP2" :=
    point.unique ⟨[""], [], rfl, by decide, by decide⟩
  obtain ⟨d, first, -, unmounted⟩ :=
    first_labelled_decides (standing pairs) "DATA" 0 0 pairs (listing _ 0) someData
  obtain rfl := first.unique firstData
  have nowhere : ∀ p ∈ data.reports, p = "" := nofun
  obtain ⟨pass, missed⟩ := unmounted nowhere
  have still : ∀ now, (standing pairs).FirstUnmounted "DATA" now :=
    fun now => ⟨pairs, now, data, listing _ now, firstData, nowhere⟩
  exact ⟨listing _ 0, someFirmware, found 0, listing _ 0, someData, pass,
    (missed 1200 (by decide) (fun _ _ => rfl) (instant_standing pairs) (by decide)
      fun k _ => still _).1⟩

/-- A partition is mounted, but it is not found: the disk that it stands on has the same
label. -/
theorem mounted_partition_not_found :
    let part : BlockDevice := .mk "sda1" (some "RPI-RP2") (some "/mnt/usb") [] []
    let disk : BlockDevice := .mk "sda" (some "RPI-RP2") none [] [part]
    (part ∈ BlockDevice.preorderAll [disk] ∧ part.label = some "RPI-RP2" ∧
      part.mountPoint? = some "/mnt/usb") ∧
      (standing [disk]).Lists "RPI-RP2" 0 [disk] 0 ∧
      (standing [disk]).locateOnce "RPI-RP2" 0 = (none, 0) ∧
      ((standing [disk]).find "RPI-RP2" 1200 0).1 = .error (notFound "RPI-RP2" 1200) := by
  intro part disk
  have first : FirstLabelled "RPI-RP2" [disk] disk := ⟨[], [part], rfl, rfl, nofun⟩
  have unmounted : ∀ p ∈ disk.reports, p = "" := nofun
  have listing := lists_standing "RPI-RP2" [disk]
  have missed := find_of_firstUnmounted (l := standing [disk]) (s := 0) 1200 (by decide)
    (fun _ _ => rfl) (instant_standing [disk]) (by decide) fun k _ =>
      ⟨[disk], _, disk, listing _, first, unmounted⟩
  exact ⟨⟨List.mem_cons_of_mem _ List.mem_cons_self, rfl, rfl⟩, listing 0,
    (listing 0).locateOnce_of_unmounted first unmounted, missed.1⟩

end BoardRig.VolumeLocator
