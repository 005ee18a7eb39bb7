/-
# `BoardRig.Proofs.Recovery.Observation` — a state that was reached, and what is seen of it

A device that was brought into a state is confirmed by a look at the volumes,
where the listing of block devices counts as well, or by a look for one
identity (`exists_confirms`).  What is seen of a device later is decided in
another way: the mount table comes first and block devices are not listed, then
the bootloader, and then firmware (`Visible`, `observe_visible`).  As long as
everything stays as it was confirmed, the two agree exactly when the volume is
where it should be: in the mount table for the mask ROM, and not in it for the
update mode (`Aftermath`, `observe_after_reach`).
-/
import BoardRig.Proofs.Recovery.Deployment

namespace BoardRig

/-! ## What there is to see

A view holds every answer that the surroundings give as long as nothing changes.
`Visible` says which state such answers show, in the order in which they are asked. -/

/-- What the mount table, the block devices and the USB ports have to tell. -/
structure View where
  table : Except Error String
  devices : Except Error (List BlockDevice)
  ports : List String
  identity : String → Except IoError UsbIdentity

/-- A call has the answer of a view, if the view tells of such calls at all. -/
def Event.Agrees {σ : Type} (view : View) : Event σ → Prop
  | .mountTable _ answer => answer = view.table
  | .blockDevices _ answer => answer = view.devices
  | .candidates _ answer => answer = view.ports
  | .identity _ port answer => answer = view.identity port
  | _ => True

def View.HasPort (view : View) (identity : UsbIdentity) : Prop :=
  ∃ port ∈ view.ports, view.identity port = .ok identity

def View.Lists (view : View) (label : String) : Prop :=
  ∃ table, view.table = .ok table ∧ ∃ m ∈ Mount.parseTable table, Mount.Carries label m.mountPoint

/-- The first block device with a label tells where it is mounted. -/
def View.Reports (view : View) (label : String) : Prop :=
  ∃ devices d mountPoint, view.devices = .ok devices ∧
    IsFirst (·.label = some label) (BlockDevice.preorderAll devices) d ∧
      IsFirst (· ≠ "") d.reports mountPoint

namespace Orchestrator

variable {σ : Type} (o : Orchestrator σ)

/-- In calm worlds everything is as in a view, and looking leaves them calm. -/
structure Steady (view : View) (calm : σ → Prop) : Prop where
  mountTable : ∀ s, calm s →
    (o.storage.source.mountTable s).1 = view.table ∧ calm (o.storage.source.mountTable s).2
  blockDevices : ∀ s, calm s →
    (o.storage.source.blockDevices s).1 = view.devices ∧ calm (o.storage.source.blockDevices s).2
  candidates : ∀ s, calm s →
    (o.usb.source.candidates s).1 = view.ports ∧ calm (o.usb.source.candidates s).2
  identityOf : ∀ port s, calm s →
    (o.usb.source.identityOf port s).1 = view.identity port ∧
      calm (o.usb.source.identityOf port s).2

/-- The state that is seen in a view: each sign counts only without the ones
before it. -/
inductive Visible (view : View) : DeviceState → Prop where
  | volume (listed : view.Lists o.profile.volumeLabel) : Visible view .massStorage
  | bootloader (unlisted : ¬ view.Lists o.profile.volumeLabel)
      (shown : view.HasPort o.profile.bootloaderIdentity) : Visible view .updateMode
  | firmware (unlisted : ¬ view.Lists o.profile.volumeLabel)
      (missing : ¬ view.HasPort o.profile.bootloaderIdentity)
      (shown : view.HasPort o.profile.firmwareIdentity) : Visible view (.firmware none)
  | nothing (unlisted : ¬ view.Lists o.profile.volumeLabel)
      (missing : ¬ view.HasPort o.profile.bootloaderIdentity)
      (silent : ¬ view.HasPort o.profile.firmwareIdentity) : Visible view .unknown

/-! ## Observing -/

theorem look_bind_apply {α β : Type} (look : StateM σ (Option α)) (b : β) (rest : StateM σ β)
    (s : σ) :
    (look >>= fun found => if found.isSome = true then pure b else rest) s
      = if (look s).1.isSome = true then (b, (look s).2) else rest (look s).2 := by
  simp only [bind, StateT.bind]
  rcases look s with ⟨_ | _, s'⟩ <;> rfl

section Steady

variable {o} {view : View} {calm : σ → Prop} (steady : o.Steady view calm)

include steady

theorem Steady.findMountedNow (label : String) {s : σ} (hs : calm s) :
    ((o.storage.findMountedNow label s).1.isSome = true ↔ view.Lists label) ∧
      calm (o.storage.findMountedNow label s).2 := by
  obtain ⟨answer, hcalm⟩ := steady.mountTable s hs
  rw [VolumeLocator.findMountedNow]
  rcases htable : o.storage.source.mountTable s with ⟨e | table, s'⟩
  · rw [htable] at answer hcalm
    refine ⟨⟨fun h => absurd h Bool.false_ne_true, ?_⟩, hcalm⟩
    rintro ⟨table, h, -⟩
    cases answer.trans h
  · rw [htable] at answer hcalm
    refine ⟨?_, hcalm⟩
    dsimp only
    cases hfirst : Mount.findMounted? table label with
    | some mountPoint =>
        obtain ⟨m, first, -⟩ := Mount.exists_isFirst_of_findMounted? hfirst
        exact ⟨fun _ => ⟨table, answer.symm, m, first.mem, first.holds⟩, fun _ => rfl⟩
    | none =>
        refine ⟨fun h => absurd h Bool.false_ne_true, ?_⟩
        rintro ⟨table', h, m, hm, hcarries⟩
        cases answer.trans h
        exact absurd hcarries (Mount.not_carries_of_findMounted? hfirst m hm)

theorem Steady.firstWith (identity : UsbIdentity) (ports : List String) {s : σ} (hs : calm s) :
    ((o.usb.firstWith identity ports s).1.isSome = true ↔
        ∃ port ∈ ports, view.identity port = .ok identity) ∧
      calm (o.usb.firstWith identity ports s).2 := by
  induction ports generalizing s with
  | nil =>
      refine ⟨⟨fun h => absurd h Bool.false_ne_true, ?_⟩, hs⟩
      rintro ⟨port, hport, -⟩
      exact absurd hport List.not_mem_nil
  | cons port rest ih =>
      obtain ⟨answer, hcalm⟩ := steady.identityOf port s hs
      rw [UsbLocator.firstWith_cons]
      rcases hread : o.usb.source.identityOf port s with ⟨found, s'⟩
      rw [hread] at answer hcalm
      obtain rfl : found = view.identity port := answer
      rw [List.exists_mem_cons_iff]
      by_cases h : view.identity port = .ok identity
      · simp only [if_pos h]
        exact ⟨⟨fun _ => .inl h, fun _ => rfl⟩, hcalm⟩
      · simp only [h, false_or, if_false]
        exact ih hcalm

theorem Steady.findNow (identity : UsbIdentity) {s : σ} (hs : calm s) :
    ((o.usb.findNow identity s).1.isSome = true ↔ view.HasPort identity) ∧
      calm (o.usb.findNow identity s).2 := by
  obtain ⟨answer, hcalm⟩ := steady.candidates s hs
  have found := steady.firstWith identity view.ports hcalm
  rw [← answer] at found
  rw [View.HasPort, ← answer]
  exact found

/-- In a calm world, what is seen is what the view has to show. -/
theorem observe_visible {s : σ} (hs : calm s) : o.Visible view (o.observe s).1 := by
  obtain ⟨listed, hs₁⟩ := steady.findMountedNow o.profile.volumeLabel hs
  obtain ⟨bootloader, hs₂⟩ := steady.findNow o.profile.bootloaderIdentity hs₁
  obtain ⟨firmware, -⟩ := steady.findNow o.profile.firmwareIdentity hs₂
  rw [observe, look_bind_apply]
  split
  · next h => exact .volume (listed.mp h)
  next h₁ =>
    rw [look_bind_apply]
    split
    · next h => exact .bootloader (mt listed.mpr h₁) (bootloader.mp h)
    next h₂ =>
      rw [look_bind_apply]
      split
      · next h => exact .firmware (mt listed.mpr h₁) (mt bootloader.mpr h₂) (firmware.mp h)
      · next h => exact .nothing (mt listed.mpr h₁) (mt bootloader.mpr h₂) (mt firmware.mpr h)

end Steady

/-! ## Reaching

The pass that confirmed a state is the last one of its search, and what it showed is
part of the view. -/

/-- The calls of the look that confirms a state, with the state. -/
inductive Confirms : RecoveryTarget → DeviceState → List (Event σ) → Prop where
  | volume {pass : List (Event σ)} {mountPoint : String}
      (found : VolumeLocator.Pass o.storage.source o.profile.volumeLabel pass (some mountPoint)) :
      Confirms .massStorage .massStorage pass
  | bootloader {pass : List (Event σ)} {port : String}
      (found : o.BootloaderPass pass (some port)) : Confirms .updateMode .updateMode pass

variable {o} {target : RecoveryTarget} {state : DeviceState} {s s' : σ}

/-- A state that was reached was confirmed by the last calls of the run. -/
theorem exists_confirms (reached : o.reach target s = (.ok state, s')) :
    ∃ before pass, Leads s (before ++ pass) s' ∧ o.Confirms target state pass := by
  cases target with
  | massStorage =>
      rw [reach, Action.discard_bind_apply] at reached
      rcases hvolume : o.enterMassStorage s with ⟨e | mountPoint, s₁⟩
      · rw [hvolume] at reached
        cases reached
      · rw [hvolume] at reached
        cases reached
        obtain ⟨es, hleads, hvolume⟩ := o.shows_enterMassStorage.of_eq hvolume
        cases hvolume with
        | @searched forcing lookup _ forced search =>
            obtain ⟨before, pass, rfl, found⟩ := search.last_pass
            refine ⟨forcing ++ .sleep o.clock o.timings.bootselEnumeration :: before, pass, ?_,
              .volume found⟩
            rwa [List.append_assoc]
  | updateMode =>
      rw [reach_updateMode_eq] at reached
      rcases hentry : o.enterUpdateMode s with ⟨e | entry, s₁⟩
      · rw [hentry] at reached
        cases reached
      · rw [hentry] at reached
        dsimp only at reached
        rcases hlookup : o.waitForBootloader o.timings.portTimeout s₁ with ⟨e | port, s₂⟩
        · rw [hlookup] at reached
          cases reached
        · rw [hlookup] at reached
          cases reached
          obtain ⟨entering, hentering, -⟩ := o.shows_enterUpdateMode.of_eq hentry
          obtain ⟨lookup, hleads, search⟩ := (o.usb.shows_find _ _).of_eq hlookup
          obtain ⟨before, pass, rfl, found⟩ := search.last_pass
          refine ⟨entering ++ before, pass, ?_, .bootloader found⟩
          rw [List.append_assoc]
          exact hentering.append hleads
  | firmware => cases reached

/-- What confirms a state is there in a view: block devices count only where the
mount table has no volume. -/
inductive Confirmed (o : Orchestrator σ) (view : View) : RecoveryTarget → DeviceState → Prop where
  | listed (h : view.Lists o.profile.volumeLabel) : Confirmed o view .massStorage .massStorage
  | reported (unlisted : ¬ view.Lists o.profile.volumeLabel)
      (h : view.Reports o.profile.volumeLabel) : Confirmed o view .massStorage .massStorage
  | bootloader (h : view.HasPort o.profile.bootloaderIdentity) :
      Confirmed o view .updateMode .updateMode

theorem mem_of_scan {source : UsbSource σ} {identity : UsbIdentity} {ports : List String}
    {es : List (Event σ)} {port : String}
    (h : UsbLocator.Scan source identity ports es (some port)) : port ∈ ports := by
  generalize found : some port = r at h
  induction h with
  | nil => cases found
  | found =>
      cases found
      exact List.mem_cons_self
  | other _ _ ih => exact List.mem_cons_of_mem _ (ih found)

theorem Confirms.confirmed {view : View} {pass : List (Event σ)}
    (h : o.Confirms target state pass) (agree : ∀ e ∈ pass, e.Agrees view) :
    o.Confirmed view target state := by
  cases h with
  | volume found =>
      cases found with
      | mounted first =>
          exact .listed ⟨_, (agree _ List.mem_cons_self).symm, _, first.mem, first.holds⟩
      | unmounted missing listed =>
          obtain ⟨table, agree⟩ := List.forall_mem_cons.mp agree
          cases listed with
          | reported first point =>
              refine .reported ?_ ⟨_, _, _, (agree _ List.mem_cons_self).symm, first, point⟩
              rintro ⟨text, htext, m, hm, hcarries⟩
              exact missing text (table.trans htext) m hm hcarries
  | bootloader found =>
      cases found with
      | scan among =>
          obtain ⟨ports, agree⟩ := List.forall_mem_cons.mp agree
          exact .bootloader ⟨_, ports ▸ mem_of_scan among,
            (agree _ (among.eq_some_iff.mp rfl)).symm⟩

theorem Confirmed.visible_massStorage_iff {view : View} {seen : DeviceState}
    (h : o.Confirmed view .massStorage state) (visible : o.Visible view seen) :
    seen = state ↔ view.Lists o.profile.volumeLabel := by
  cases h with
  | listed h =>
      cases visible with
      | volume => exact ⟨fun _ => h, fun _ => rfl⟩
      | bootloader unlisted | firmware unlisted | nothing unlisted => exact absurd h unlisted
  | reported unlisted h =>
      cases visible with
      | volume listed => exact absurd listed unlisted
      | bootloader | firmware | nothing =>
          exact ⟨fun h => (nomatch h), fun listed => absurd listed unlisted⟩

theorem Confirmed.visible_updateMode_iff {view : View} {seen : DeviceState}
    (h : o.Confirmed view .updateMode state) (visible : o.Visible view seen) :
    seen = state ↔ ¬ view.Lists o.profile.volumeLabel := by
  cases h with
  | bootloader h =>
      cases visible with
      | volume listed => exact ⟨fun h => (nomatch h), fun unlisted => absurd listed unlisted⟩
      | bootloader unlisted => exact ⟨fun _ => unlisted, fun _ => rfl⟩
      | firmware _ missing | nothing _ missing => exact absurd h missing

/-! ## Reaching and observing

The looks that confirmed the state do not disturb the view, so that what is observed
afterwards can be compared with what was reached. -/

/-- A call that only looks at the mount table, the block devices or the USB
ports. -/
inductive Looks (o : Orchestrator σ) : Event σ → Prop where
  | mountTable {answer : Except Error String} : Looks o (.mountTable o.storage.source answer)
  | blockDevices {answer : Except Error (List BlockDevice)} :
      Looks o (.blockDevices o.storage.source answer)
  | candidates {answer : List String} : Looks o (.candidates o.usb.source answer)
  | identity {port : String} {answer : Except IoError UsbIdentity} :
      Looks o (.identity o.usb.source port answer)

theorem looks_of_scan {identity : UsbIdentity} {ports : List String} {es : List (Event σ)}
    {found : Option String} (h : UsbLocator.Scan o.usb.source identity ports es found) :
    ∀ e ∈ es, o.Looks e := by
  induction h with
  | nil => exact List.forall_mem_nil _
  | found => exact List.forall_mem_singleton.mpr .identity
  | other _ _ ih => exact List.forall_mem_cons.mpr ⟨.identity, ih⟩

theorem Confirms.looks {pass : List (Event σ)} (h : o.Confirms target state pass) :
    ∀ e ∈ pass, o.Looks e := by
  cases h with
  | volume found =>
      cases found with
      | mounted => exact List.forall_mem_singleton.mpr .mountTable
      | unmounted _ listed =>
          cases listed with
          | reported =>
              exact List.forall_mem_cons.mpr
                ⟨.mountTable, List.forall_mem_singleton.mpr .blockDevices⟩
  | bootloader found =>
      cases found with
      | scan among => exact List.forall_mem_cons.mpr ⟨.candidates, looks_of_scan among⟩

/-- How a run from world `s` that reached a state in world `s'` stands to what is
observed there. The calls of its last look are `pass`, from world `s₁` on. -/
structure Aftermath (o : Orchestrator σ) (view : View) (calm : σ → Prop) (target : RecoveryTarget)
    (state : DeviceState) (s s₁ s' : σ) (before pass : List (Event σ)) : Prop where
  forced : Leads s before s₁
  looked : Leads s₁ pass s'
  confirms : o.Confirms target state pass
  /-- If nothing changes from the look on, it found what there is later. -/
  lasting : calm s₁ → (∀ e ∈ pass, e.Agrees view) ∧ calm s'
  visible : calm s' → o.Visible view (o.observe s').1
  confirmed : (∀ e ∈ pass, e.Agrees view) → o.Confirmed view target state
  /-- A volume that is still as it was found is observed if the mount table has
  it, and not if only the block devices show it. -/
  massStorage_iff : calm s' → (∀ e ∈ pass, e.Agrees view) → target = .massStorage →
    ((o.observe s').1 = state ↔ view.Lists o.profile.volumeLabel)
  /-- A bootloader that is still as it was found is observed unless the mount
  table has a volume. -/
  updateMode_iff : calm s' → (∀ e ∈ pass, e.Agrees view) → target = .updateMode →
    ((o.observe s').1 = state ↔ ¬ view.Lists o.profile.volumeLabel)

section Steady

variable {view : View} {calm : σ → Prop} (steady : o.Steady view calm)

include steady

theorem Steady.happens {e : Event σ} (looks : o.Looks e) (h : e.Happens s s') (hs : calm s) :
    e.Agrees view ∧ calm s' := by
  have kept : ∀ {ρ : Type} {act : σ → ρ × σ} {answer answer' : ρ},
      act s = (answer, s') → (act s).1 = answer' ∧ calm (act s).2 → answer = answer' ∧ calm s' := by
    rintro ρ act answer answer' hact hcalm
    rwa [hact] at hcalm
  cases looks with
  | mountTable => exact kept h (steady.mountTable s hs)
  | blockDevices => exact kept h (steady.blockDevices s hs)
  | candidates => exact kept h (steady.candidates s hs)
  | identity => exact kept h (steady.identityOf _ s hs)

/-- Looking from a calm world on, one sees the view and leaves a calm world. -/
theorem Steady.leads {es : List (Event σ)} (looks : ∀ e ∈ es, o.Looks e) (h : Leads s es s')
    (hs : calm s) : (∀ e ∈ es, e.Agrees view) ∧ calm s' := by
  induction h with
  | nowhere => exact ⟨List.forall_mem_nil _, hs⟩
  | call first _ ih =>
      obtain ⟨look, looks⟩ := List.forall_mem_cons.mp looks
      obtain ⟨agrees, hs₁⟩ := steady.happens look first hs
      obtain ⟨agree, hs'⟩ := ih looks hs₁
      exact ⟨List.forall_mem_cons.mpr ⟨agrees, agree⟩, hs'⟩

/-- Every run that reached a state, whatever happened before and whatever the
surroundings are later. -/
theorem observe_after_reach (reached : o.reach target s = (.ok state, s')) :
    ∃ s₁ before pass, o.Aftermath view calm target state s s₁ s' before pass := by
  obtain ⟨before, pass, hleads, confirms⟩ := exists_confirms reached
  obtain ⟨s₁, hbefore, hpass⟩ := hleads.of_append
  refine ⟨s₁, before, pass, ⟨hbefore, hpass, confirms, steady.leads confirms.looks hpass,
    observe_visible steady, confirms.confirmed, ?_, ?_⟩⟩
  · rintro settled agree rfl
    exact (confirms.confirmed agree).visible_massStorage_iff (observe_visible steady settled)
  · rintro settled agree rfl
    exact (confirms.confirmed agree).visible_updateMode_iff (observe_visible steady settled)

end Steady

/-- A device that can be forced at once, in surroundings that are always as in a
view. The world is the time. -/
def still (view : View) : Orchestrator Nat :=
  let clock : Clock Nat := ⟨id, fun d now => now + d⟩
  let files : Files Nat :=
    { scratch := fun _ now => (.ok "/tmp/bytes", now)
      discard := fun _ now => ((), now)
      read := fun _ now => (.error .noSuchFile, now)
      openSource := fun _ now => (.error .noSuchFile, now)
      create := fun _ now => (.error .noSuchFile, now)
      contents := fun _ now => (.error .noSuchFile, now)
      append := fun _ _ now => (.error .noSuchFile, now)
      sync := fun _ now => (.error .noSuchFile, now) }
  let source : StorageSource Nat :=
    { mountTable := fun now => (view.table, now)
      blockDevices := fun now => (view.devices, now)
      mount := fun _ now => (.ok (), now) }
  let usb : UsbSource Nat :=
    { candidates := fun now => (view.ports, now)
      identityOf := fun port now => (view.identity port, now) }
  { profile := .rp2040, timings := { updateModeSettle := 3000, bootselEnumeration := 2000 }
    probe := ⟨⟨fun _ now => (.ok (.ok ""), now)⟩, files, "rp2040", "probe-rs"⟩
    usb := ⟨usb, clock, 500⟩, storage := ⟨source, clock, 500⟩, files, clock }

theorem still_steady (view : View) : (still view).Steady view fun _ => True :=
  ⟨fun _ _ => ⟨rfl, trivial⟩, fun _ _ => ⟨rfl, trivial⟩, fun _ _ => ⟨rfl, trivial⟩,
    fun _ _ _ => ⟨rfl, trivial⟩⟩

theorem reach_still_updateMode {view : View} {port : String}
    (found : (still view).usb.findNow Profile.rp2040.bootloaderIdentity 3000
      = (some port, 3000)) :
    (still view).reach .updateMode 0 = (.ok .updateMode, 3000) := by
  have entered : (still view).enterUpdateMode 0 = (.ok ⟨true, true⟩, 3000) := rfl
  have pass : Action.total ((still view).usb.findNow Profile.rp2040.bootloaderIdentity) 3000
      = (.ok (some port), 3000) := by
    rw [Action.total, found]
  have lookup : (still view).waitForBootloader (still view).timings.portTimeout 3000
      = (.ok port, 3000) := by
    change (still view).usb.find Profile.rp2040.bootloaderIdentity _ 3000 = _
    rw [UsbLocator.find, Action.onTimeout, Poll.wait_of_found pass]
  rw [reach_updateMode_eq, entered]
  dsimp only
  rw [lookup]
  rfl

theorem reach_still_massStorage {view : View} {mountPoint : String}
    (found : (still view).storage.locateOnce Profile.rp2040.volumeLabel 2000
      = (some mountPoint, 2000)) :
    (still view).reach .massStorage 0 = (.ok .massStorage, 2000) := by
  have pass : Action.total ((still view).storage.locateOnce Profile.rp2040.volumeLabel) 2000
      = (.ok (some mountPoint), 2000) := by
    rw [Action.total, found]
  have volume : (still view).enterMassStorage 0 = (.ok mountPoint, 2000) := by
    change (still view).storage.find Profile.rp2040.volumeLabel _ 2000 = _
    rw [VolumeLocator.find, Action.onTimeout, Poll.wait_of_found pass]
  rw [reach, Action.discard_bind_apply, volume]
  rfl

/-- A bootloader at the second port, next to a directory whose name only looks
like that of a volume. -/
def secondPort : View where
  table := .ok "/dev/sda2 /home/RPI-RP2-backup/data ext4 rw 0 0\n"
  devices := .error .json
  ports := ["/dev/ttyACM0", "/dev/ttyACM1"]
  identity port :=
    if port = "/dev/ttyACM1" then .ok Profile.rp2040.bootloaderIdentity else .error .noSuchFile

theorem observe_after_reach_of_secondPort :
    (still secondPort).Steady secondPort (fun _ => True) ∧
      (still secondPort).reach .updateMode 0 = (.ok .updateMode, 3000) ∧
      ¬ secondPort.Lists Profile.rp2040.volumeLabel ∧
      (still secondPort).Confirmed secondPort .updateMode .updateMode ∧
      ((still secondPort).observe 3000).1 = .updateMode := by
  have found : (still secondPort).usb.findNow Profile.rp2040.bootloaderIdentity 3000
      = (some "/dev/ttyACM1", 3000) := by
    rfl
  have reached := reach_still_updateMode found
  have unlisted : ¬ secondPort.Lists Profile.rp2040.volumeLabel := by
    rintro ⟨table, h, m, hm, hcarries⟩
    cases h
    exact Mount.not_carries_of_findMounted? (by decide +kernel) m hm hcarries
  obtain ⟨s₁, before, pass, run⟩ := observe_after_reach (still_steady secondPort) reached
  obtain ⟨agree, settled⟩ := run.lasting trivial
  exact ⟨still_steady secondPort, reached, unlisted, run.confirmed agree,
    (run.updateMode_iff settled agree rfl).mpr unlisted⟩

/-- A volume that is mounted under another name than its label. -/
def renamed : View where
  table := .ok "/dev/sdc1 /mnt/usb vfat rw 0 0\n"
  devices := .ok [.mk "sdc1" (some "RPI-RP2") (some "/mnt/usb") [] []]
  ports := []
  identity _ := .error .noSuchFile

/-- A bootloader next to a volume that is still in the mount table. -/
def stale : View where
  table := .ok "/dev/sdc1 /media/ci/RPI-RP2 vfat rw 0 0\n"
  devices := .ok []
  ports := ["/dev/ttyACM0"]
  identity _ := .ok Profile.rp2040.bootloaderIdentity

/-- Neither state is observed where it was reached, though nothing changes at
all. -/
theorem observe_ne_reached :
    ((still renamed).Steady renamed (fun _ => True) ∧
      (still renamed).reach .massStorage 0 = (.ok .massStorage, 2000) ∧
      ((still renamed).observe 2000).1 = .unknown) ∧
    ((still stale).Steady stale (fun _ => True) ∧
      (still stale).reach .updateMode 0 = (.ok .updateMode, 3000) ∧
      ((still stale).observe 3000).1 = .massStorage) := by
  have located : (still renamed).storage.locateOnce Profile.rp2040.volumeLabel 2000
      = (some "/mnt/usb", 2000) := by
    change (_ : Option String × Nat) = _
    decide +kernel
  have found : (still stale).usb.findNow Profile.rp2040.bootloaderIdentity 3000
      = (some "/dev/ttyACM0", 3000) := rfl
  exact ⟨⟨still_steady renamed, reach_still_massStorage located, by decide +kernel⟩,
    still_steady stale, reach_still_updateMode found, by decide +kernel⟩

end Orchestrator

end BoardRig
