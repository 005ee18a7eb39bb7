/-
# `BoardRig.Proofs.Usb.Device` — how a device is found

A pass of the search lists the candidates and reads their identities one
after another, up to the first one that is the wanted identity (`Pass`,
`shows_findNow`).  So a search succeeds with a port just if one of its
readings has shown the wanted identity at that port (`search_ok_iff`).  Where
there is only one device, it is found at once (`Rig.find_single`).
-/
import BoardRig.Proofs.Conduct.Search
import BoardRig.Rig
import BoardRig.Usb.Locator

namespace BoardRig.UsbLocator

variable {σ : Type}

/-! ## Passes

The identities are read only as long as none of them is the wanted one. -/

/-- The readings of the identities of some ports, up to the first port with the
wanted one. -/
inductive Scan (source : UsbSource σ) (identity : UsbIdentity) :
    List String → List (Event σ) → Option String → Prop where
  | nil : Scan source identity [] [] none
  | found {port : String} {rest : List String} :
      Scan source identity (port :: rest) [.identity source port (.ok identity)] (some port)
  | other {port : String} {rest : List String} {answer : Except IoError UsbIdentity}
      {es : List (Event σ)} {found : Option String} (unlike : answer ≠ .ok identity)
      (later : Scan source identity rest es found) :
      Scan source identity (port :: rest) (.identity source port answer :: es) found

/-- The calls of one pass, with its answer. -/
inductive Pass (source : UsbSource σ) (identity : UsbIdentity) :
    List (Event σ) → Option String → Prop where
  | scan {ports : List String} {es : List (Event σ)} {found : Option String}
      (among : Scan source identity ports es found) :
      Pass source identity (.candidates source ports :: es) found

theorem Scan.channel {source : UsbSource σ} {identity : UsbIdentity} {ports : List String}
    {es : List (Event σ)} {found : Option String} (h : Scan source identity ports es found) :
    ∀ e ∈ es, e.channel = .usb := by
  induction h with
  | nil => exact fun e he => absurd he List.not_mem_nil
  | found => exact List.forall_mem_singleton.mpr rfl
  | other _ _ ih => exact List.forall_mem_cons.mpr ⟨rfl, ih⟩

theorem Pass.channel {source : UsbSource σ} {identity : UsbIdentity} {es : List (Event σ)}
    {found : Option String} (h : Pass source identity es found) : ∀ e ∈ es, e.channel = .usb := by
  cases h with
  | scan among => exact List.forall_mem_cons.mpr ⟨rfl, among.channel⟩

section Shows

variable (l : UsbLocator σ) (identity : UsbIdentity)

theorem firstWith_cons (port : String) (rest : List String) (s : σ) :
    l.firstWith identity (port :: rest) s = match l.source.identityOf port s with
      | (answer, s') =>
        if answer = .ok identity then (some port, s') else l.firstWith identity rest s' := by
  rw [firstWith]
  simp only [bind, StateT.bind]
  rcases l.source.identityOf port s with ⟨e | found, s'⟩
  · rfl
  · by_cases h : found = identity
    · simp only [h, if_true]
      rfl
    · simp only [h, if_false, Except.ok.injEq]

variable {identity} in
theorem find_of_first {port : String} {rest : List String} {timeout : Duration} {s s' s'' : σ}
    (listed : l.source.candidates s = (port :: rest, s'))
    (read : l.source.identityOf port s' = (.ok identity, s'')) :
    l.find identity timeout s = (.ok port, s'') := by
  have scanned : l.findNow identity s = (some port, s'') := by
    simp only [findNow, bind, StateT.bind, listed]
    rw [firstWith_cons, read]
    exact if_pos rfl
  have found : Action.total (l.findNow identity) s = (.ok (some port), s'') := by
    rw [Action.total, scanned]
  rw [find, Action.onTimeout, Poll.wait_of_found found]

theorem shows_firstWith (ports : List String) :
    Shows (l.firstWith identity ports) (Scan l.source identity ports) := by
  intro s
  induction ports generalizing s with
  | nil => exact ⟨[], .nowhere, .nil⟩
  | cons port rest ih =>
      rw [firstWith_cons]
      rcases hread : l.source.identityOf port s with ⟨answer, s'⟩
      by_cases h : answer = .ok identity
      · subst h
        simp only [if_true]
        exact ⟨[.identity l.source port (.ok identity)], .single hread, .found⟩
      · simp only [if_neg h]
        obtain ⟨es, hleads, hscan⟩ := ih s'
        exact ⟨.identity l.source port answer :: es, .call hread hleads, .other h hscan⟩

theorem shows_findNow : Shows (l.findNow identity) (Pass l.source identity) := by
  intro s
  obtain ⟨es, hleads, hscan⟩ := l.shows_firstWith identity (l.source.candidates s).1
    (l.source.candidates s).2
  exact ⟨.candidates l.source (l.source.candidates s).1 :: es, .call rfl hleads, .scan hscan⟩

theorem shows_find (timeout : Duration) :
    Shows (l.find identity timeout)
      (Search l.clock l.interval timeout (Pass l.source identity) (notFound identity timeout)) :=
  (l.shows_findNow identity).search

theorem patient_find (timeout : Duration) :
    Patient l.clock l.interval timeout (Pass l.source identity) (l.find identity timeout) :=
  (l.shows_findNow identity).patient l.clock l.interval timeout _ _

end Shows

/-! ## Readings -/

variable {source : UsbSource σ} {identity : UsbIdentity} {port : String} {es : List (Event σ)}

theorem Scan.eq_some_iff {ports : List String} {found : Option String}
    (h : Scan source identity ports es found) :
    found = some port ↔ .identity source port (.ok identity) ∈ es := by
  induction h with
  | nil => simp
  | found => simp [eq_comm]
  | other unlike _ ih => simp [ih, unlike.symm]

theorem Pass.eq_some_iff {found : Option String} (h : Pass source identity es found) :
    found = some port ↔ .identity source port (.ok identity) ∈ es := by
  cases h with
  | scan among => simp [among.eq_some_iff]

/-- The clock stands still while the source is asked. -/
structure Instant (source : UsbSource σ) (clock : Clock σ) : Prop where
  candidates : ∀ s, clock.now (source.candidates s).2 = clock.now s
  identityOf : ∀ port s, clock.now (source.identityOf port s).2 = clock.now s

section Instant

variable {clock : Clock σ} (instant : Instant source clock)

include instant

theorem Instant.keeps_scan {ports : List String} {found : Option String}
    (h : Scan source identity ports es found) : ∀ e ∈ es, e.Keeps clock.now := by
  have keeps : ∀ port answer, (Event.identity source port answer).Keeps clock.now :=
    fun port answer => Event.keeps_of_act (fun _ _ h => h) (instant.identityOf port)
  induction h with
  | nil => exact fun e he => absurd he List.not_mem_nil
  | found => exact List.forall_mem_singleton.mpr (keeps _ _)
  | other _ _ ih => exact List.forall_mem_cons.mpr ⟨keeps _ _, ih⟩

theorem Instant.keeps_pass {found : Option String} (h : Pass source identity es found) :
    ∀ e ∈ es, e.Keeps clock.now := by
  cases h with
  | scan among =>
      exact List.forall_mem_cons.mpr ⟨Event.keeps_of_act (fun _ _ h => h) instant.candidates,
        instant.keeps_scan among⟩

end Instant

theorem now_findNow (l : UsbLocator σ) (instant : Instant l.source l.clock) (s : σ) :
    l.clock.now (l.findNow identity s).2 = l.clock.now s := by
  obtain ⟨es, hleads, hpass⟩ := l.shows_findNow identity s
  exact hleads.keeps (instant.keeps_pass hpass)

end BoardRig.UsbLocator

namespace BoardRig.Rig

variable {σ : Type}

/-! ## A single device

A rig whose ports never change, for runs in which nothing has to be awaited. -/

/-- A rig with a device at one port and nothing else: no file and no volume is found,
and no time passes. -/
def single (runner : Runner σ) (opener : Opener σ) (port : String) (identity : UsbIdentity) :
    Rig σ where
  runner
  opener
  usb := ⟨fun s => ([port], s), fun _ s => (.ok identity, s)⟩
  clock := ⟨fun _ => 0, fun _ s => s⟩
  storage := ⟨fun s => (.ok "", s), fun s => (.ok [], s), fun _ s => (.ok (), s)⟩
  files :=
    { read := fun _ s => (.error .noSuchFile, s)
      openSource := fun _ s => (.error .noSuchFile, s)
      create := fun _ s => (.error .noSuchFile, s)
      contents := fun _ s => (.error .noSuchFile, s)
      append := fun _ _ s => (.error .noSuchFile, s)
      sync := fun _ s => (.error .noSuchFile, s)
      scratch := fun _ s => (.error .noSuchFile, s)
      discard := fun _ s => ((), s) }
  exists? _ _ := false
  isFile _ _ := false
  ports _ := []

theorem find_single (runner : Runner σ) (opener : Opener σ) (port : String) (identity : UsbIdentity)
    (settings : Settings) (timeout : Duration) (s : σ) :
    ((single runner opener port identity).usbLocator settings).find identity timeout s
      = (.ok port, s) :=
  UsbLocator.find_of_first _ rfl rfl

end BoardRig.Rig
