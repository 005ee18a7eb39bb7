/-
# `BoardRig.Proofs.Usb.Directory` — the choice among several devices

A directory gives its names in some order.  What a path leads to is found by
name, and a directory has a name once only (`Regular`), so the order shows in
listings and nowhere else: in tables that differ in nothing but that
(`SameButOrder`), paths lead to the same nodes (`SameButOrder.find`), the same
is read there (`SameButOrder.readText`), and a directory lists the same names,
in another order (`SameButOrder.names`).

The candidates are the entries of the device directory whose names begin in the
right way, each one once and in ascending order (`pairwise_candidates`,
`mem_candidates_iff`).  A pass takes the first one that shows the wanted identity,
and in ascending order that is the least one (`findNow_eq_some_iff_least`).  So
the order in which the system lists a directory makes no difference, neither to the
candidates nor to the choice among them (`least_offer_is_chosen`).
-/
import BoardRig.Proofs.FileSystem.Scratch
import BoardRig.Proofs.Text.Chunks
import BoardRig.Proofs.Usb.Enumeration
import BoardRig.Usb.Sysfs

namespace BoardRig.FileSystem

variable {fs fs' : FileSystem} {id : Nat} {name path : String} {es es' : List (String × Nat)}

/-! ## Names in a directory -/

/-- A directory has a name once only, and the names are such as can stand in one. -/
structure Regular (fs : FileSystem) : Prop where
  distinct : ∀ d, ((fs.entries d).map Prod.fst).Nodup
  named : ∀ d, ∀ entry ∈ fs.entries d, Path.IsName entry.1 ∧ entry.1 ≠ ".."

theorem regular_of_nodes (h : ∀ node ∈ fs.nodes, ∀ entries, node.2.content = .directory entries →
    (entries.map Prod.fst).Nodup ∧ ∀ entry ∈ entries, Path.IsName entry.1 ∧ entry.1 ≠ "..") :
    fs.Regular := by
  have each : ∀ d, ((fs.entries d).map Prod.fst).Nodup ∧
      ∀ entry ∈ fs.entries d, Path.IsName entry.1 ∧ entry.1 ≠ ".." := by
    intro d
    rw [FileSystem.entries]
    split
    · next entries content =>
      obtain ⟨node, stored, content⟩ := Option.map_eq_some_iff.mp content
      obtain ⟨_, _, whole, -⟩ := List.lookup_eq_some_iff.mp stored
      exact h (d, node) (whole ▸ List.mem_append_right _ List.mem_cons_self) entries content
    · exact ⟨.nil, List.forall_mem_nil _⟩
  exact ⟨fun d => (each d).1, fun d => (each d).2⟩

theorem lookup_eq_some_iff_mem (distinct : (es.map Prod.fst).Nodup) :
    es.lookup name = some id ↔ (name, id) ∈ es := by
  induction es with
  | nil => simp
  | cons first rest ih =>
      obtain ⟨key, value⟩ := first
      obtain ⟨absent, distinct⟩ := List.nodup_cons.mp distinct
      rw [List.lookup_cons, List.mem_cons, Prod.mk.injEq]
      by_cases same : name = key
      · subst same
        have other : (name, id) ∉ rest := fun h => absent (List.mem_map.mpr ⟨_, h, rfl⟩)
        simp [other, eq_comm]
      · simp [beq_false_of_ne same, same, ih distinct]

theorem lookup_perm (distinct : (es.map Prod.fst).Nodup) (h : es.Perm es') (name : String) :
    es'.lookup name = es.lookup name := by
  have distinct' := (h.map Prod.fst).nodup_iff.mp distinct
  refine Option.ext fun id => ?_
  rw [lookup_eq_some_iff_mem distinct, lookup_eq_some_iff_mem distinct', h.mem_iff]

/-! ## Tables with the same files in another order

Looking up does not see the order, so following a path does not either
(`follow_congr`). -/

/-- The same content, but that a directory may have its names in another order. -/
inductive Reordered : Content → Content → Prop where
  | same (c : Content) : Reordered c c
  | directory {entries entries' : List (String × Nat)} (perm : entries.Perm entries') :
      Reordered (.directory entries) (.directory entries')

/-- The same nodes under the same numbers, but that directories may have their names in
another order. -/
structure SameButOrder (fs fs' : FileSystem) : Prop where
  node : ∀ n, Option.Rel Reordered (fs.content? n) (fs'.content? n)

theorem SameButOrder.cases (h : SameButOrder fs fs') (n : Nat) :
    (∃ entries entries', fs.content? n = some (.directory entries) ∧
      fs'.content? n = some (.directory entries') ∧ entries.Perm entries') ∨
    fs'.content? n = fs.content? n := by
  have node := h.node n
  generalize fs.content? n = old, fs'.content? n = new at node ⊢
  cases node with
  | none => exact .inr rfl
  | some reordered =>
      cases reordered with
      | same => exact .inr rfl
      | directory perm => exact .inl ⟨_, _, rfl, rfl, perm⟩

theorem SameButOrder.entries (h : SameButOrder fs fs') (d : Nat) :
    (fs.entries d).Perm (fs'.entries d) := by
  obtain ⟨_, _, old, new, perm⟩ | same := h.cases d
  · rwa [FileSystem.entries, FileSystem.entries, old, new]
  · rw [FileSystem.entries, FileSystem.entries, same]

theorem SameButOrder.entry (h : SameButOrder fs fs') (regular : fs.Regular) (d : Nat)
    (name : String) : fs'.entry? d name = fs.entry? d name :=
  lookup_perm (regular.distinct d) (h.entries d) name

theorem SameButOrder.find (h : SameButOrder fs fs') (regular : fs.Regular) (path : String) :
    fs'.find path = fs.find path := by
  have leads : ∀ links trail parts,
      fs'.follow links trail parts = fs.follow links trail parts :=
    follow_congr (h.entry regular) fun _ _ n _ => (h.cases n).imp_left
      fun ⟨entries, entries', old, new, _⟩ => ⟨entries, entries', old, new⟩
  simp only [FileSystem.find, FileSystem.place, leads]

theorem SameButOrder.read (h : SameButOrder fs fs') (regular : fs.Regular) (path : String) :
    fs'.read path = fs.read path := by
  have holds : fs'.contentOf = fs.contentOf := by
    funext n
    rw [contentOf, contentOf]
    obtain ⟨_, _, old, new, -⟩ | same := h.cases n
    · rw [old, new]
    · rw [same]
  rw [FileSystem.read, FileSystem.read, h.find regular, holds]

theorem SameButOrder.readText (h : SameButOrder fs fs') (regular : fs.Regular) (path : String) :
    fs'.readText path = fs.readText path := by
  rw [FileSystem.readText, FileSystem.readText, h.read regular]

/-! ## Listings

A listing does see the order, and nothing else of it. -/

theorem names_of_find {d : Nat} (found : fs.find path = .ok d) :
    fs.names path = match fs.content? d with
      | some (.directory entries) => .ok (entries.map Prod.fst)
      | _ => .error .notADirectory := by
  rw [FileSystem.names, found]
  rfl

theorem names_of_find_error {e : IoError} (missing : fs.find path = .error e) :
    fs.names path = .error e := by
  rw [FileSystem.names, missing]
  rfl

theorem Regular.names (regular : fs.Regular) {names : List String}
    (h : fs.names path = .ok names) :
    names.Nodup ∧ ∀ name ∈ names, Path.IsName name ∧ name ≠ ".." := by
  obtain ⟨d, -, listed⟩ := bind_eq_ok_iff.mp h
  split at listed
  · next entries content =>
    obtain rfl := Except.ok.inj listed
    have all : fs.entries d = entries := by rw [FileSystem.entries, content]
    refine ⟨all ▸ regular.distinct d, fun name hname => ?_⟩
    obtain ⟨entry, hentry, rfl⟩ := List.mem_map.mp hname
    exact regular.named d entry (all ▸ hentry)
  · cases listed

/-- A directory that is listed lists the same names, in another order; one that is not
listed fails in the same way. -/
theorem SameButOrder.names (h : SameButOrder fs fs') (regular : fs.Regular) (path : String) :
    (∃ names names', fs.names path = .ok names ∧ fs'.names path = .ok names' ∧
      names.Perm names') ∨
    ∃ e, fs.names path = .error e ∧ fs'.names path = .error e := by
  have leads := h.find regular path
  cases found : fs.find path with
  | error e =>
      rw [found] at leads
      exact .inr ⟨e, names_of_find_error found, names_of_find_error leads⟩
  | ok d =>
      rw [found] at leads
      rw [names_of_find found, names_of_find leads]
      obtain ⟨entries, entries', old, new, perm⟩ | same := h.cases d
      · rw [old, new]
        exact .inl ⟨_, _, rfl, rfl, perm.map Prod.fst⟩
      · rw [same]
        split
        · exact .inl ⟨_, _, rfl, rfl, .refl _⟩
        · exact .inr ⟨_, rfl, rfl⟩

end BoardRig.FileSystem

namespace BoardRig.SysfsLayout

variable {l : SysfsLayout} {fs fs' : FileSystem} {identity : UsbIdentity} {name port : String}
  {names xs ys : List String}

/-! ## Ascending order

Sorting forgets the order that was given.  The names differ, so the result has no
two of the same rank. -/

theorem sorted_perm (xs : List String) : (sorted xs).Perm xs :=
  List.mergeSort_perm xs _

theorem pairwise_not_lt_sorted (xs : List String) :
    (sorted xs).Pairwise fun a b => ¬ b < a := by
  have order : (sorted xs).Pairwise fun a b => (!decide (b < a)) = true := by
    refine List.pairwise_mergeSort ?_ ?_ xs
    · intro a b c hab hbc
      simp only [Bool.not_eq_true', decide_eq_false_iff_not, String.not_lt] at hab hbc ⊢
      exact String.le_trans hab hbc
    · intro a b
      simp only [Bool.or_eq_true, Bool.not_eq_true', decide_eq_false_iff_not, String.not_lt]
      exact String.le_total a b
  exact order.imp fun h => by simpa using h

theorem sorted_congr (h : xs.Perm ys) : sorted xs = sorted ys := by
  refine List.Perm.eq_of_pairwise (fun a b _ _ hab hba => ?_) (pairwise_not_lt_sorted xs)
    (pairwise_not_lt_sorted ys) ((sorted_perm xs).trans (h.trans (sorted_perm ys).symm))
  exact String.le_antisymm (String.not_lt.mp hab) (String.not_lt.mp hba)

theorem pairwise_sorted (distinct : xs.Nodup) : (sorted xs).Pairwise (· < ·) := by
  have different : (sorted xs).Nodup := (sorted_perm xs).nodup_iff.mpr distinct
  refine (List.pairwise_and_iff.mpr ⟨pairwise_not_lt_sorted xs, different⟩).imp ?_
  rintro a b ⟨le, ne⟩
  by_contra lt
  exact ne (String.le_antisymm (String.not_lt.mp le) (String.not_lt.mp lt))

/-! ## Candidates -/

theorem mem_candidatesAmong_iff :
    port ∈ l.candidatesAmong names ↔
      ∃ name ∈ names, l.start.toList <+: name.toList ∧ port = Path.join l.devices name := by
  rw [candidatesAmong, (sorted_perm _).mem_iff, List.mem_map]
  simp only [List.mem_filter, List.isPrefixOf_iff_prefix, and_assoc, @eq_comm _ _ port]

theorem candidatesAmong_congr {names' : List String} (h : names.Perm names') :
    l.candidatesAmong names = l.candidatesAmong names' :=
  sorted_congr ((h.filter _).map _)

theorem candidates_of_names (listed : fs.names l.devices = .ok names) :
    l.candidates fs = l.candidatesAmong names := by
  rw [candidates, listed]

theorem candidates_of_unlisted {e : IoError} (unlisted : fs.names l.devices = .error e) :
    l.candidates fs = [] := by
  rw [candidates, unlisted]

theorem mem_candidates_iff :
    port ∈ l.candidates fs ↔ ∃ names, fs.names l.devices = .ok names ∧ ∃ name ∈ names,
      l.start.toList <+: name.toList ∧ port = Path.join l.devices name := by
  cases listed : fs.names l.devices with
  | error e => simp [candidates_of_unlisted listed]
  | ok names => simp [candidates_of_names listed, mem_candidatesAmong_iff]

theorem pairwise_candidates (regular : fs.Regular) : (l.candidates fs).Pairwise (· < ·) := by
  cases listed : fs.names l.devices with
  | error e =>
      rw [candidates_of_unlisted listed]
      exact .nil
  | ok names =>
      rw [candidates_of_names listed]
      obtain ⟨distinct, named⟩ := regular.names listed
      refine pairwise_sorted (List.Nodup.map_on ?_ (distinct.filter _))
      intro a ha b hb same
      exact (Path.join_inj l.devices (named a (List.mem_filter.mp ha).1).1
        (named b (List.mem_filter.mp hb).1).1).mp same

theorem candidates_congr (h : fs.SameButOrder fs') (regular : fs.Regular) :
    l.candidates fs' = l.candidates fs := by
  obtain ⟨names, names', old, new, perm⟩ | ⟨e, old, new⟩ := h.names regular l.devices
  · rw [candidates_of_names old, candidates_of_names new, candidatesAmong_congr perm]
  · rw [candidates_of_unlisted old, candidates_of_unlisted new]

/-! ## Identities -/

/-- The ids of a port can be read, and they are those of the identity. -/
def ShowsIds (l : SysfsLayout) (fs : FileSystem) (identity : UsbIdentity) (name : String) : Prop :=
  ∃ vendor product, fs.readText (Path.join (l.idDirectory name) "idVendor") = .ok vendor ∧
    fs.readText (Path.join (l.idDirectory name) "idProduct") = .ok product ∧
    UsbIdentity.ofAttributes vendor product = identity

theorem identityOf_join_eq_ok_iff (h : Path.IsName name) (up : name ≠ "..") :
    l.identityOf fs (Path.join l.devices name) = .ok identity ↔ l.ShowsIds fs identity name := by
  rw [identityOf, Path.fileName?_join l.devices h up]
  simp only [bind_eq_ok_iff, ShowsIds]
  refine exists_congr fun vendor => ?_
  constructor
  · rintro ⟨first, product, second, made⟩
    exact ⟨product, first, second, Except.ok.inj made⟩
  · rintro ⟨product, first, second, made⟩
    exact ⟨first, product, second, congrArg Except.ok made⟩

theorem identityOf_congr (h : fs.SameButOrder fs') (regular : fs.Regular) (port : String) :
    l.identityOf fs' port = l.identityOf fs port := by
  simp only [identityOf, h.readText regular]

/-! ## Passes

The first candidate in ascending order that offers the identity is the least one
that does. -/

/-- The port of an entry that begins in the right way and shows the identity. -/
def Offers (l : SysfsLayout) (fs : FileSystem) (identity : UsbIdentity) (port : String) : Prop :=
  ∃ names, fs.names l.devices = .ok names ∧ ∃ name ∈ names, l.start.toList <+: name.toList ∧
    port = Path.join l.devices name ∧ l.ShowsIds fs identity name

theorem offers_iff (regular : fs.Regular) :
    l.Offers fs identity port ↔
      port ∈ l.candidates fs ∧ l.identityOf fs port = .ok identity := by
  have reads : ∀ {names}, fs.names l.devices = .ok names → ∀ name ∈ names,
      (l.identityOf fs (Path.join l.devices name) = .ok identity ↔
        l.ShowsIds fs identity name) := fun listed name hname =>
    have ⟨named, up⟩ := (regular.names listed).2 name hname
    identityOf_join_eq_ok_iff named up
  rw [mem_candidates_iff]
  constructor
  · rintro ⟨names, listed, name, hname, start, rfl, ids⟩
    exact ⟨⟨names, listed, name, hname, start, rfl⟩, (reads listed name hname).mpr ids⟩
  · rintro ⟨⟨names, listed, name, hname, start, rfl⟩, read⟩
    exact ⟨names, listed, name, hname, start, rfl, (reads listed name hname).mp read⟩

section Source

variable {σ : Type} {get : σ → FileSystem}

theorem readings_source (ports : List String) (s : σ) :
    (l.source get).readings ports s
      = (ports.map fun port => ⟨port, l.identityOf (get s) port⟩, s) := by
  induction ports with
  | nil => rfl
  | cons port rest ih =>
      rw [UsbSource.readings_cons]
      change (_ :: ((l.source get).readings rest s).1, ((l.source get).readings rest s).2) = _
      rw [ih]
      rfl

theorem enumerate_source (s : σ) :
    (l.source get).enumerate s
      = ((l.candidates (get s)).map fun port => ⟨port, l.identityOf (get s) port⟩, s) :=
  readings_source _ s

variable {locator : UsbLocator σ} (hsource : locator.source = l.source get) {s s' : σ}

include hsource

theorem firstWith_snd (ports : List String) : (locator.firstWith identity ports s).2 = s := by
  induction ports with
  | nil => rfl
  | cons port rest ih =>
      rw [UsbLocator.firstWith_cons, hsource]
      simp only [source]
      split
      · rfl
      · exact ih

theorem findNow_snd : (locator.findNow identity s).2 = s := by
  have scanned : locator.findNow identity s
      = locator.firstWith identity (l.candidates (get s)) s := by
    simp only [UsbLocator.findNow, bind, StateT.bind, hsource]
    rfl
  rw [scanned, firstWith_snd hsource]

theorem findNow_eq_some_iff_least (regular : (get s).Regular) :
    (locator.findNow identity s).1 = some port ↔ l.Offers (get s) identity port ∧
      ∀ other, l.Offers (get s) identity other → other = port ∨ port < other := by
  let shown := (l.candidates (get s)).map fun port =>
    (⟨port, l.identityOf (get s) port⟩ : Candidate)
  have order : shown.Pairwise fun c c' => c.port < c'.port :=
    List.pairwise_map.mpr (pairwise_candidates regular)
  rw [UsbLocator.findNow_eq_some_iff, hsource, enumerate_source]
  change (∃ c, IsFirst _ shown c ∧ _) ↔ _
  simp only [isFirst_iff_of_pairwise order fun _ _ => String.lt_asymm, offers_iff regular]
  constructor
  · rintro ⟨_, ⟨hc, has, least⟩, rfl⟩
    obtain ⟨port, listed, rfl⟩ := List.mem_map.mp hc
    refine ⟨⟨listed, has⟩, fun other ⟨listed', read⟩ => ?_⟩
    exact (least _ (List.mem_map_of_mem listed') read).imp_left (congrArg Candidate.port)
  · rintro ⟨⟨listed, read⟩, least⟩
    refine ⟨⟨port, l.identityOf (get s) port⟩, ⟨List.mem_map_of_mem listed, read, ?_⟩, rfl⟩
    intro c hc has
    obtain ⟨other, listed', rfl⟩ := List.mem_map.mp hc
    obtain rfl | behind := least other ⟨listed', has⟩
    · exact .inl rfl
    · exact .inr behind

theorem findNow_eq_none_iff_no_offer (regular : (get s).Regular) :
    (locator.findNow identity s).1 = none ↔ ∀ port, ¬ l.Offers (get s) identity port := by
  rw [UsbLocator.findNow_eq_none_iff, hsource, enumerate_source]
  simp only [offers_iff regular]
  constructor
  · exact fun unlike port ⟨listed, read⟩ => unlike _ (List.mem_map_of_mem listed) read
  · intro none c hc has
    obtain ⟨port, listed, rfl⟩ := List.mem_map.mp hc
    exact none port ⟨listed, has⟩

/-- The choice is made from what is listed and read, and both are the same in any order. -/
theorem findNow_congr (regular : (get s).Regular) (h : (get s).SameButOrder (get s')) :
    (locator.findNow identity s').1 = (locator.findNow identity s).1 := by
  rw [UsbLocator.findNow_fst, UsbLocator.findNow_fst, hsource, enumerate_source, enumerate_source,
    candidates_congr h regular]
  simp only [identityOf_congr h regular]

end Source

/-- The candidates are the paths of the entries whose names begin in the right way, each one
once and in ascending order. A pass finds the least one whose ids can be read and are those of
the identity, or none if there is no such one, and it changes nothing. A system that differs
only in the order in which directories give their names has the same candidates, and the
choice among them is the same. -/
theorem least_offer_is_chosen {σ : Type} (l : SysfsLayout) (get : σ → FileSystem)
    (locator : UsbLocator σ) (hsource : locator.source = l.source get) (identity : UsbIdentity)
    (s : σ) (regular : (get s).Regular) :
    let fs := get s
    ((l.candidates fs).Pairwise (· < ·) ∧
      ∀ port, port ∈ l.candidates fs ↔ ∃ names, fs.names l.devices = .ok names ∧
        ∃ name ∈ names, l.start.toList <+: name.toList ∧ port = Path.join l.devices name) ∧
    ((locator.findNow identity s).2 = s ∧
      (∀ port, (locator.findNow identity s).1 = some port ↔ l.Offers fs identity port ∧
        ∀ other, l.Offers fs identity other → other = port ∨ port < other) ∧
      ((locator.findNow identity s).1 = none ↔ ∀ port, ¬ l.Offers fs identity port)) ∧
    ∀ s', fs.SameButOrder (get s') → l.candidates (get s') = l.candidates fs ∧
      (locator.findNow identity s').1 = (locator.findNow identity s).1 :=
  ⟨⟨pairwise_candidates regular, fun _ => mem_candidates_iff⟩,
    ⟨findNow_snd hsource, fun _ => findNow_eq_some_iff_least hsource regular,
      findNow_eq_none_iff_no_offer hsource regular⟩,
    fun _ h => ⟨candidates_congr h regular, findNow_congr hsource regular h⟩⟩

/-! ## Two boards -/

/-- A system with two boards that show the same ids, and with a port that shows none yet. The
device directory gives its names in some order. -/
def twoBoards (ports : List (String × Nat)) : FileSystem where
  nodes := [
    (0, ⟨.directory [("dev", 1), ("class", 2)], 0, 0⟩),
    (1, ⟨.directory ports, 0, 0⟩),
    (2, ⟨.directory [("ttyACM2", 3), ("ttyACM1", 3)], 0, 0⟩),
    (3, ⟨.directory [("device", 4), ("idVendor", 5), ("idProduct", 6)], 0, 0⟩),
    (4, .emptyDirectory),
    (5, .ofBytes (Utf8.encodeString "2e8a\n") false),
    (6, .ofBytes (Utf8.encodeString "000A\n") false),
    (7, .ofBytes [] false)]
  now := 0

theorem sameButOrder_twoBoards {ports ports' : List (String × Nat)} (perm : ports.Perm ports') :
    (twoBoards ports).SameButOrder (twoBoards ports') where
  node n := by
    by_cases hn : n = 1
    · subst hn
      exact .some (.directory perm)
    · have same : (twoBoards ports').content? n = (twoBoards ports).content? n := by
        simp only [FileSystem.content?, FileSystem.node?, twoBoards, List.lookup_cons,
          beq_false_of_ne hn]
      rw [same]
      cases (twoBoards ports).content? n with
      | none => exact .none
      | some c => exact .some (.same c)

section TwoBoards

variable {ports : List (String × Nat)}

theorem regular_twoBoards (distinct : (ports.map Prod.fst).Nodup)
    (named : ∀ port ∈ ports, Path.IsName port.1 ∧ port.1 ≠ "..") : (twoBoards ports).Regular := by
  have directory : ∀ {es : List (String × Nat)}, (es.map Prod.fst).Nodup →
      (∀ entry ∈ es, Path.IsName entry.1 ∧ entry.1 ≠ "..") → ∀ entries,
        Content.directory es = .directory entries → (entries.map Prod.fst).Nodup ∧
          ∀ entry ∈ entries, Path.IsName entry.1 ∧ entry.1 ≠ ".." := by
    rintro es distinct named _ ⟨⟩
    exact ⟨distinct, named⟩
  refine FileSystem.regular_of_nodes ?_
  simp only [twoBoards, List.forall_mem_cons]
  exact ⟨directory (by decide) (by decide), directory distinct named,
    directory (by decide) (by decide), directory (by decide) (by decide),
    directory .nil (List.forall_mem_nil _), fun _ h => (nomatch h), fun _ h => (nomatch h),
    fun _ h => (nomatch h), List.forall_mem_nil _⟩

theorem names_twoBoards : (twoBoards ports).names "/dev" = .ok (ports.map Prod.fst) := by
  have steps : FileSystem.stepsOf "/dev" = ["dev"] := by decide
  have found : (twoBoards ports).find "/dev" = .ok 1 := by
    refine FileSystem.find_of_follow (by decide) ?_
    rw [steps, FileSystem.follow_directory [] (by decide) (by decide) (by decide) rfl rfl,
      FileSystem.follow]
    rfl
  rw [FileSystem.names_of_find found]
  rfl

/-- The way to the ids of a board leads to its interface and back. -/
theorem readText_twoBoards (file text : String) (n : Nat) {path : String}
    (steps : FileSystem.stepsOf path = ["class", "ttyACM1", "device", "..", file])
    (given : FileSystem.check path = .ok ()) (stays : file ≠ ".") (up : file ≠ "..")
    (short : ¬ FileSystem.nameLimit < file.utf8ByteSize)
    (hentry : FileSystem.entry? (twoBoards ports) 3 file = some n)
    (content : (twoBoards ports).content? n = some (.file (Utf8.encodeString text))) :
    (twoBoards ports).readText path = .ok text := by
  have found : (twoBoards ports).find path = .ok n := by
    refine FileSystem.find_of_follow given ?_
    rw [steps, FileSystem.follow_directory _ (by decide) (by decide) (by decide) rfl rfl,
      FileSystem.follow_directory _ (by decide) (by decide) (by decide) rfl rfl,
      FileSystem.follow_directory _ (by decide) (by decide) (by decide) rfl rfl,
      FileSystem.follow, if_neg (by decide), if_pos rfl]
    exact FileSystem.follow_end stays up short hentry (FileSystem.isEnd_of_file content)
  have read : (twoBoards ports).read path = .ok (Utf8.encodeString text) := by
    refine bind_eq_ok_iff.mpr ⟨n, found, ?_⟩
    rw [FileSystem.contentOf, content]
  have decoded : Utf8.decode? (Utf8.encodeString text) = some text.toList := Utf8.decode?_encode _
  refine bind_eq_ok_iff.mpr ⟨_, read, ?_⟩
  rw [decoded]
  exact congrArg Except.ok String.ofList_toList

theorem unreadable_twoBoards {text : String} :
    (twoBoards ports).readText "/class/ttyACM0/device/../idVendor" ≠ .ok text := by
  have steps : FileSystem.stepsOf "/class/ttyACM0/device/../idVendor"
      = ["class", "ttyACM0", "device", "..", "idVendor"] := by decide
  have lost : (twoBoards ports).follow FileSystem.linkLimit [FileSystem.root]
      ["class", "ttyACM0", "device", "..", "idVendor"] = .error .noSuchFile := by
    rw [FileSystem.follow_directory _ (by decide) (by decide) (by decide) rfl rfl,
      FileSystem.follow_vacant _ (by decide) (by decide) (by decide) rfl]
    rfl
  intro h
  obtain ⟨_, read, -⟩ := bind_eq_ok_iff.mp h
  obtain ⟨_, found, -⟩ := bind_eq_ok_iff.mp read
  obtain ⟨_, placed, -⟩ := bind_eq_ok_iff.mp found
  obtain ⟨_, -, leads⟩ := bind_eq_ok_iff.mp placed
  rw [steps, lost] at leads
  cases leads

end TwoBoards

/-- Both boards show the wanted ids, and a port that comes before them shows none yet: the
least of the two boards is found, whatever the order. -/
theorem least_offer_is_chosen_of_two_boards :
    let l : SysfsLayout := ⟨"/dev", "/class", "ttyACM"⟩
    let fs := twoBoards [("ttyACM2", 7), ("null", 7), ("ttyACM1", 7), ("ttyACM0", 7)]
    let fs' := twoBoards [("ttyACM0", 7), ("ttyACM1", 7), ("ttyACM2", 7), ("null", 7)]
    let locator : UsbLocator FileSystem := ⟨l.source id, ⟨fun _ => 0, fun _ fs => fs⟩, 1⟩
    let wanted := UsbIdentity.ofIds 0x2E8A 0x000A
    fs.Regular ∧ fs.SameButOrder fs' ∧ (locator.findNow wanted fs).1 = some "/dev/ttyACM1" ∧
      (locator.findNow wanted fs').1 = some "/dev/ttyACM1" := by
  intro l fs fs' locator wanted
  have regular : fs.Regular := regular_twoBoards (by decide) (by decide)
  have perm : fs.SameButOrder fs' := sameButOrder_twoBoards (by decide)
  obtain ⟨-, ⟨-, found, -⟩, anyOrder⟩ :=
    least_offer_is_chosen l id locator rfl wanted fs regular
  have first : (locator.findNow wanted fs).1 = some "/dev/ttyACM1" := by
    refine (found _).mpr ⟨⟨_, names_twoBoards, "ttyACM1", by decide, by decide, by decide, ?_⟩, ?_⟩
    · have vendor : Path.join (l.idDirectory "ttyACM1") "idVendor"
          = "/class/ttyACM1/device/../idVendor" := by decide
      have product : Path.join (l.idDirectory "ttyACM1") "idProduct"
          = "/class/ttyACM1/device/../idProduct" := by decide
      rw [ShowsIds, vendor, product]
      refine ⟨"2e8a\n", "000A\n", ?_, ?_, by decide⟩
      · exact readText_twoBoards "idVendor" _ 5 (by decide) (by decide) (by decide) (by decide)
          (by decide) rfl rfl
      · exact readText_twoBoards "idProduct" _ 6 (by decide) (by decide) (by decide) (by decide)
          (by decide) rfl rfl
    · have silent : Path.join (l.idDirectory "ttyACM0") "idVendor"
          = "/class/ttyACM0/device/../idVendor" := by decide
      rintro other ⟨names, listed, name, hname, start, rfl, _, _, vendor, -⟩
      rw [← Except.ok.inj (names_twoBoards.symm.trans listed)] at hname
      simp only [List.map_cons, List.map_nil, List.mem_cons, List.not_mem_nil, or_false] at hname
      obtain rfl | rfl | rfl | rfl := hname
      · exact .inr (by decide)
      · exact absurd start (by decide)
      · exact .inl (by decide)
      · exact absurd (silent ▸ vendor) unreadable_twoBoards
  exact ⟨regular, perm, first, ((anyOrder fs' perm).2).trans first⟩

end BoardRig.SysfsLayout
