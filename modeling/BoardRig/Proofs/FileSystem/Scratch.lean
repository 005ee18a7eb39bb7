/-
# `BoardRig.Proofs.FileSystem.Scratch` — a file that was made and removed again

The name of a scratch file is one that its directory does not have: there is
such a name among one more candidates than the directory has names, since no
two numbers give one name (`scratchName_freeNumber`).  A file that is written
under a new name is found there (`Names.written`), and when the name is removed
every directory has the names that it had before, for the nodes that it had them
for, and these are what they were (`SameFiles`).  The node of the file itself
stays behind without a name, so no path leads to it; that takes a table in which
every name has a node already (`Closed`).
-/
import BoardRig.Proofs.FileSystem.Frame
import BoardRig.Proofs.Path
import Mathlib.Data.List.Nodup
import Mathlib.Data.List.Perm.Subperm

namespace BoardRig.FileSystem

variable {fs made fs' fs'' : FileSystem} {d id n : Nat} {directory name path : String}
  {bytes : Bytes}

/-! ## Tables with the same files

A node without a name cannot be reached, so it makes no difference to any path.
That takes a table in which no name leads to a number that is still free. -/

/-- The directories of the second table have the names of those of the first one, for the
same nodes, and what was in the first table is as it was. -/
structure SameFiles (fs fs' : FileSystem) : Prop where
  names : ∀ d, fs'.entries d = fs.entries d
  content : ∀ n c, fs.content? n = some c → fs'.content? n = some c

/-- There is a root, and there is something behind every name. -/
structure Closed (fs : FileSystem) : Prop where
  root : ∃ c, fs.content? root = some c
  behind : ∀ d name n, fs.entry? d name = some n → ∃ c, fs.content? n = some c

theorem SameFiles.refl (fs : FileSystem) : SameFiles fs fs :=
  ⟨fun _ => rfl, fun _ _ h => h⟩

theorem SameFiles.trans (h : SameFiles fs fs') (h' : SameFiles fs' fs'') : SameFiles fs fs'' :=
  ⟨fun d => (h'.names d).trans (h.names d), fun n c stored => h'.content n c (h.content n c stored)⟩

theorem SameFiles.entry (h : SameFiles fs fs') (d : Nat) (name : String) :
    fs'.entry? d name = fs.entry? d name := by
  rw [FileSystem.entry?, h.names, ← FileSystem.entry?]

theorem SameFiles.follow (h : SameFiles fs fs') (closed : fs.Closed) (links : Nat)
    (trail : List Nat) (parts : List String) :
    fs'.follow links trail parts = fs.follow links trail parts := by
  refine follow_congr h.entry (fun d name n hentry => .inr ?_) links trail parts
  obtain ⟨c, stored⟩ := closed.behind d name n hentry
  rw [stored, h.content n c stored]

theorem SameFiles.find (h : SameFiles fs fs') (closed : fs.Closed) (path : String) :
    fs'.find path = fs.find path := by
  simp only [FileSystem.find, FileSystem.place, h.follow closed]

/-- A way through a table in which something is behind every name ends at something. -/
theorem Closed.follow (closed : fs.Closed) {links : Nat} {trail : List Nat} {parts : List String}
    (on : ∀ d ∈ trail, ∃ c, fs.content? d = some c)
    (h : fs.follow links trail parts = .ok (.node n)) : ∃ c, fs.content? n = some c := by
  fun_induction FileSystem.follow fs links trail parts with
  | case1 links trail =>
      cases h
      cases trail with
      | nil => exact closed.root
      | cons d trail => exact on d List.mem_cons_self
  | case2 _ _ _ ih => exact ih on h
  | case3 links trail rest _ ih =>
      refine ih (fun d hd => on d ?_) h
      split at hd
      · exact hd
      · exact List.mem_of_mem_tail hd
  | case4 => cases h
  | case5 => cases h
  | case6 => cases h
  | case7 _ _ _ _ _ _ _ _ next hentry _ hcontent ih =>
      exact ih (List.forall_mem_cons.mpr ⟨⟨_, hcontent⟩, on⟩) h
  | case8 => cases h
  | case9 trail _ _ _ _ _ _ _ _ target _ _ ih =>
      refine ih (fun d hd => ?_) h
      split at hd
      · obtain rfl := List.mem_singleton.mp hd
        exact closed.root
      · exact on d hd
  | case10 _ _ _ _ _ _ _ here _ hentry =>
      cases h
      exact closed.behind here _ n hentry
  | case11 => cases h

theorem Closed.find (closed : fs.Closed) (h : fs.find path = .ok n) :
    ∃ c, fs.content? n = some c := by
  obtain ⟨place, leads, ends⟩ := bind_eq_ok_iff.mp h
  obtain ⟨⟨⟩, -, follows⟩ := bind_eq_ok_iff.mp leads
  cases place with
  | vacant => cases ends
  | node m =>
      obtain rfl : m = n := Except.ok.inj ends
      refine closed.follow (fun d hd => ?_) follows
      obtain rfl := List.mem_singleton.mp hd
      exact closed.root

theorem SameFiles.read (h : SameFiles fs fs') (closed : fs.Closed) (path : String) :
    fs'.read path = fs.read path := by
  rw [FileSystem.read, FileSystem.read, h.find closed]
  cases found : fs.find path with
  | error e => rfl
  | ok n =>
      obtain ⟨c, stored⟩ := closed.find found
      change fs'.contentOf n = fs.contentOf n
      rw [contentOf, contentOf, h.content n c stored, stored]

/-! ## A name in a directory

A path that ends in a name leads through its directory, so making and removing the
name can be told from that directory alone. -/

/-- The path is that of a name in a directory. -/
structure Names (directory name path : String) : Prop where
  parts : partsOf path = partsOf directory ++ [name]
  closed : endsInSlash path = false
  parent : parentOf path = directory
  given : check directory = .ok ()
  opened : endsInSlash directory = false
  stays : name ≠ "."
  up : name ≠ ".."

/-- A way to a name leads through its directory, and it ends there if the name is free. -/
theorem exists_parent_of_follow (stays : name ≠ ".") (up : name ≠ "..") {links : Nat}
    {trail : List Nat} {parts : List String} {place : Place}
    (h : fs.follow links trail (parts ++ [name]) = .ok place) :
    ∃ d, fs.follow links trail parts = .ok (.node d) ∧
      (fs.entry? d name = none → place = .vacant d name) := by
  fun_induction FileSystem.follow fs links trail parts with
  | case1 links trail =>
      refine ⟨_, rfl, fun free => ?_⟩
      rw [List.nil_append] at h
      by_cases long : nameLimit < name.utf8ByteSize
      · rw [FileSystem.follow, if_neg stays, if_neg up, if_pos long] at h
        cases h
      · rw [follow_vacant [] stays up long free] at h
        cases h
        rfl
  | case2 links trail rest ih =>
      rw [List.cons_append, FileSystem.follow, if_pos rfl] at h
      exact ih h
  | case3 links trail rest stays' ih =>
      rw [List.cons_append, FileSystem.follow, if_neg stays', if_pos rfl] at h
      exact ih h
  | case4 links trail part rest stays' parent long =>
      rw [List.cons_append, FileSystem.follow, if_neg stays', if_neg parent, if_pos long] at h
      cases h
  | case5 links trail part rest stays' parent short here vacant last =>
      rw [List.cons_append, follow_vacant _ stays' parent short vacant] at h
      simp at h
  | case6 links trail part rest stays' parent short here vacant last =>
      rw [List.cons_append, follow_vacant _ stays' parent short vacant] at h
      simp at h
  | case7 links trail part rest stays' parent short here next hentry entries hcontent ih =>
      rw [List.cons_append, follow_directory _ stays' parent short hentry hcontent] at h
      exact ih h
  | case8 trail part rest stays' parent short here next hentry target hcontent =>
      rw [List.cons_append, FileSystem.follow, if_neg stays', if_neg parent, if_neg short] at h
      simp only [here] at hentry
      simp only [hentry, hcontent] at h
      cases h
  | case9 trail part rest stays' parent short here next hentry target hcontent links ih =>
      rw [List.cons_append, follow_link _ stays' parent short hentry hcontent,
        ← List.append_assoc] at h
      exact ih h
  | case10 links trail part rest stays' parent short here next hentry last other other' =>
      rw [List.cons_append, follow_isEnd _ stays' parent short hentry ⟨other, other'⟩] at h
      simp at h
  | case11 links trail part rest stays' parent short here next hentry last other other' =>
      rw [List.cons_append, follow_isEnd _ stays' parent short hentry ⟨other, other'⟩] at h
      simp at h

theorem follow_concat (stays : name ≠ ".") (up : name ≠ "..")
    (short : ¬ nameLimit < name.utf8ByteSize) {entries : List (String × Nat)}
    (stored : fs.content? d = some (.directory entries)) (free : fs.entry? d name = none)
    {links : Nat} {trail : List Nat} {parts : List String}
    (h : fs.follow links trail parts = .ok (.node d)) :
    fs.follow links trail (parts ++ [name]) = .ok (.vacant d name) := by
  fun_induction FileSystem.follow fs links trail parts with
  | case1 links trail =>
      cases h
      rw [List.nil_append, follow_vacant [] stays up short free]
      rfl
  | case2 links trail rest ih =>
      rw [List.cons_append, FileSystem.follow, if_pos rfl]
      exact ih h
  | case3 links trail rest stays' ih =>
      rw [List.cons_append, FileSystem.follow, if_neg stays', if_pos rfl]
      exact ih h
  | case4 => cases h
  | case5 => cases h
  | case6 => cases h
  | case7 links trail part rest stays' parent short' here next hentry entries hcontent ih =>
      rw [List.cons_append, follow_directory _ stays' parent short' hentry hcontent]
      exact ih h
  | case8 => cases h
  | case9 trail part rest stays' parent short' here next hentry target hcontent links ih =>
      rw [List.cons_append, follow_link _ stays' parent short' hentry hcontent,
        ← List.append_assoc]
      exact ih h
  | case10 links trail part rest stays' parent short' here next hentry last other other' =>
      cases h
      exact absurd stored (other entries)
  | case11 => cases h

section Names

variable (h : Names directory name path)

include h

theorem Names.find_directory {place : Place} (leads : fs.place path = .ok place) :
    ∃ d, fs.find directory = .ok d ∧ (fs.entry? d name = none → place = .vacant d name) := by
  obtain ⟨⟨⟩, -, follows⟩ := bind_eq_ok_iff.mp leads
  rw [stepsOf, h.closed, if_neg Bool.false_ne_true, h.parts] at follows
  obtain ⟨d, leads, ends⟩ := exists_parent_of_follow h.stays h.up follows
  have place : fs.place directory = .ok (.node d) := by
    rw [FileSystem.place, h.given, stepsOf, h.opened]
    exact leads
  exact ⟨d, bind_eq_ok_iff.mpr ⟨_, place, rfl⟩, ends⟩

theorem Names.remove_eq (found : fs.find directory = .ok d) :
    fs.remove path = fs.erase d name := by
  rw [remove, lastName?, h.parent, found, h.parts, List.getLast?_append, List.getLast?_singleton]
  rfl

theorem Names.create_new (new : ∀ d, fs.find directory = .ok d → fs.entry? d name = none)
    (created : fs.create path = .ok (made, id)) :
    fs.find path = .error .noSuchFile ∧ ∃ d entries, fs.find directory = .ok d ∧
      fs.content? d = some (.directory entries) ∧ entries.lookup name = none ∧
      fs.insert d name (.ofBytes [] false) = (made, id) := by
  obtain ⟨place, leads, opened, -⟩ := exists_place_of_create created
  obtain ⟨d, found, ends⟩ := h.find_directory leads
  have free := new d found
  obtain rfl := ends free
  refine ⟨by rw [FileSystem.find, leads]; rfl, d, ?_⟩
  rw [openPlace] at opened
  split at opened
  · next entries stored =>
    rw [ entry?_eq, stored] at free
    exact ⟨entries, found, stored, free, Except.ok.inj opened⟩
  · cases opened

theorem Names.exists_write {entries : List (String × Nat)} (found : fs.find directory = .ok d)
    (stored : fs.content? d = some (.directory entries)) (free : fs.entry? d name = none)
    (given : check path = .ok ()) (short : ¬ nameLimit < name.utf8ByteSize) (bytes : Bytes) :
    ∃ fs', fs.write path bytes = .ok fs' := by
  obtain ⟨place, leads, ends⟩ := bind_eq_ok_iff.mp found
  cases place with
  | vacant => cases ends
  | node m =>
      obtain rfl : m = d := Except.ok.inj ends
      rw [FileSystem.place, h.given, stepsOf, h.opened] at leads
      have follows : fs.follow linkLimit [root] (partsOf path) = .ok (.vacant m name) := by
        rw [h.parts]
        exact follow_concat h.stays h.up short stored free leads
      have opens : fs.openPlace true (.vacant m name)
          = .ok (fs.insert m name (.ofBytes [] false)) := by
        rw [openPlace, stored]
      have created : fs.create path = .ok (fs.insert m name (.ofBytes [] false)) := by
        rw [create, openForWriting, given, h.closed]
        exact bind_eq_ok_iff.mpr ⟨(), rfl, bind_eq_ok_iff.mpr ⟨_, follows, opens⟩⟩
      exact ⟨_, bind_eq_ok_iff.mpr ⟨_, created, rfl⟩⟩

end Names

/-! ## Made and removed

Adding an entry and erasing it gives the entries back, since the name was free. -/

theorem sameFiles_of_fresh (fresh : fs'.content? fs.fresh = some (.file bytes))
    (others : ∀ n, n ≠ fs.fresh → fs'.content? n = fs.content? n) : SameFiles fs fs' where
  names d := by
    by_cases new : d = fs.fresh
    · subst new
      rw [entries_eq_nil_of_isEnd (isEnd_of_file fresh), entries, content?, node?_fresh]
      rfl
    · rw [entries, others d new, ← entries]
  content n c stored := by
    have old : n ≠ fs.fresh := by
      rintro rfl
      rw [content?, node?_fresh] at stored
      cases stored
    rw [others n old, stored]

theorem content?_append {old : Bytes} (h : fs.content? id = some (.file old)) (bytes : Bytes)
    (n : Nat) : (fs.append id bytes).content? n
      = if n = id then some (.file (old ++ bytes)) else fs.content? n := by
  rw [append, h]
  exact content?_replace h n

theorem content?_erase {entries : List (String × Nat)}
    (h : fs.content? d = some (.directory entries)) (name : String) (n : Nat) :
    (fs.erase d name).content? n
      = if n = d then some (.directory (entries.filter (·.1 != name))) else fs.content? n := by
  have here : fs.entries d = entries := by rw [FileSystem.entries, h]
  rw [erase, here, content?_replace h]

theorem filter_added {entries : List (String × Nat)} (free : entries.lookup name = none) (n : Nat) :
    (entries ++ [(name, n)]).filter (·.1 != name) = entries := by
  have others : entries.filter (·.1 != name) = entries := by
    refine List.filter_eq_self.mpr fun entry hentry => ?_
    rw [bne_comm]
    exact List.lookup_eq_none_iff.mp free entry hentry
  rw [List.filter_append, others, List.filter_singleton, bne_self_eq_false]
  exact List.append_nil entries

/-- A file that is written under a new name is at its path, and when the name is removed
everything is as it was. -/
theorem Names.written (h : Names directory name path)
    (new : ∀ d, fs.find directory = .ok d → fs.entry? d name = none)
    (written : fs.write path bytes = .ok fs') :
    fs.find path = .error .noSuchFile ∧ fs'.Stores path bytes ∧ SameFiles fs (fs'.remove path) := by
  obtain ⟨⟨made, id⟩, created, appended⟩ := bind_eq_ok_iff.mp written
  obtain rfl : made.append id bytes = fs' := Except.ok.inj appended
  obtain ⟨widens, leads, -⟩ := widens_of_create created
  obtain ⟨nothing, d, entries, found, stored, free, inserted⟩ := h.create_new new created
  have makes : ∀ n, made.content? n = if n = id then some (.file [])
      else if n = d then some (.directory (entries ++ [(name, id)])) else fs.content? n := by
    obtain ⟨rfl, rfl⟩ := Prod.mk.inj inserted
    exact content?_insert _ stored
  obtain rfl : fs.fresh = id := congrArg Prod.snd inserted
  have blank : made.content? fs.fresh = some (.file []) := by rw [makes, if_pos rfl]
  have holds := content?_append blank bytes
  have filled : (made.append fs.fresh bytes).content? fs.fresh = some (.file bytes) := by
    rw [holds, if_pos rfl]
    rfl
  have widens' : Widens made (made.append fs.fresh bytes) := by
    rw [append, blank]
    exact widens_replace blank (isEnd_of_file blank)
  have old : d ≠ fs.fresh := by
    rintro rfl
    rw [content?, node?_fresh] at stored
    cases stored
  have named : (made.append fs.fresh bytes).content? d
      = some (.directory (entries ++ [(name, fs.fresh)])) := by
    rw [holds, if_neg old, makes, if_neg old, if_pos rfl]
  refine ⟨nothing, ⟨_, widens'.find leads, filled⟩, ?_⟩
  rw [h.remove_eq (widens'.find (widens.find found))]
  have behind : ((made.append fs.fresh bytes).erase d name).content? fs.fresh
      = some (.file bytes) := by
    rw [content?_erase named, if_neg old.symm, filled]
  refine sameFiles_of_fresh behind fun n other => ?_
  rw [content?_erase named, filter_added free, holds, if_neg other, makes, if_neg other]
  split
  · next here => rw [here, stored]
  · rfl

/-! ## Free names

The candidates are numbered, so one of the first `n + 1` is missing among `n` names.
Being names, they may be joined to a path. -/

/-- The digits in the name of a scratch file. -/
def scratchDigits (n : Nat) : List Char :=
  List.replicate (6 - (Nat.toDigits 10 n).length) '0' ++ Nat.toDigits 10 n

theorem toList_scratchName (n : Nat) :
    (scratchName n).toList = "crispy-probe-".toList ++ scratchDigits n ++ ".bin".toList := by
  have digits : (toString n).toList = Nat.toDigits 10 n := Nat.toList_repr
  simp only [scratchName, digits, String.toList_append, String.toList_ofList, scratchDigits]

theorem ofDigitChars_scratchDigits (n : Nat) : Nat.ofDigitChars 10 (scratchDigits n) 0 = n := by
  rw [scratchDigits, Nat.ofDigitChars_append, Nat.ofDigitChars_replicate_zero, Nat.mul_zero,
    Nat.ofDigitChars_ten_toDigits]

theorem scratchName_injective : Function.Injective scratchName := by
  intro m n h
  have texts := congrArg String.toList h
  rw [toList_scratchName, toList_scratchName, List.append_left_inj, List.append_right_inj] at texts
  rw [← ofDigitChars_scratchDigits m, texts, ofDigitChars_scratchDigits]

/-- Where the search ends at a name that is taken, all the names before it are taken. -/
theorem mem_of_freeNumber {names : List String} {fuel n : Nat}
    (h : scratchName (freeNumber names fuel n) ∈ names) :
    ∀ k ≤ fuel, scratchName (n + k) ∈ names := by
  induction fuel generalizing n with
  | zero =>
      intro k hk
      obtain rfl := Nat.le_zero.mp hk
      exact h
  | succ fuel ih =>
      rw [freeNumber] at h
      split at h
      · next taken =>
        intro k hk
        cases k with
        | zero => exact taken
        | succ k =>
            rw [← Nat.succ_add_eq_add_succ]
            exact ih h k (Nat.le_of_succ_le_succ hk)
      · next free => exact absurd h free

theorem scratchName_freeNumber (names : List String) :
    scratchName (freeNumber names names.length 0) ∉ names := by
  intro h
  -- All the names that were looked at are different, and one more than there are.
  have taken := mem_of_freeNumber h
  have looked : (List.range (names.length + 1)).map scratchName ⊆ names := by
    intro name hname
    obtain ⟨k, hk, rfl⟩ := List.mem_map.mp hname
    have here := taken k (Nat.le_of_lt_succ (List.mem_range.mp hk))
    rwa [Nat.zero_add] at here
  have different : ((List.range (names.length + 1)).map scratchName).Nodup :=
    List.Nodup.map scratchName_injective List.nodup_range
  have fewer := (different.subperm looked).length_le
  rw [List.length_map, List.length_range] at fewer
  omega

theorem isDigit_of_mem_scratchDigits {n : Nat} {c : Char} (h : c ∈ scratchDigits n) :
    c.isDigit = true := by
  obtain h | h := List.mem_append.mp h
  · rw [List.eq_of_mem_replicate h]
    rfl
  · exact Nat.isDigit_of_mem_toDigits (by decide) (by decide) h

theorem slash_notMem_scratchName (n : Nat) : '/' ∉ (scratchName n).toList := by
  have front : '/' ∉ "crispy-probe-".toList := by decide
  have back : '/' ∉ ".bin".toList := by decide
  rw [toList_scratchName, List.mem_append, List.mem_append]
  rintro ((h | h) | h)
  · exact front h
  · exact absurd (isDigit_of_mem_scratchDigits h) (by decide)
  · exact back h

theorem head?_scratchName (n : Nat) : (scratchName n).toList.head? = some 'c' := by
  have front : "crispy-probe-".toList = 'c' :: "rispy-probe-".toList := by decide
  rw [toList_scratchName, front]
  rfl

theorem getLast?_scratchName (n : Nat) : (scratchName n).toList.getLast? = some 'n' := by
  have back : ".bin".toList = ".bi".toList ++ ['n'] := by decide
  rw [toList_scratchName, back, ← List.append_assoc, List.getLast?_append, List.getLast?_singleton]
  rfl

theorem scratchName_ne {n : Nat} {text : String} (h : text.toList.head? ≠ some 'c') :
    scratchName n ≠ text := by
  rintro rfl
  exact h (head?_scratchName n)

theorem partsOf_join (directory : String) {name : String} (noSlash : '/' ∉ name.toList)
    (some : name ≠ "") : partsOf (directory ++ "/" ++ name) = partsOf directory ++ [name] := by
  have slash : "/".toList = ['/'] := by decide
  rw [partsOf, String.toList_append, String.toList_append, slash, List.append_assoc,
    List.singleton_append, Text.split, Text.splitFrom_append, Text.split,
    Text.splitFrom_of_not_mem [] noSlash, List.map_append, List.filter_append]
  congr 1
  simp [some]

theorem names_scratchName (n : Nat) :
    Names scratchDirectory (scratchName n) (scratchDirectory ++ "/" ++ scratchName n) := by
  have parts := partsOf_join scratchDirectory (slash_notMem_scratchName n)
    (scratchName_ne (by decide))
  have inside : "/" ++ String.intercalate "/" (partsOf scratchDirectory) = scratchDirectory := by
    decide
  refine ⟨parts, ?_, ?_, by decide, by decide, scratchName_ne (by decide),
    scratchName_ne (by decide)⟩
  · rw [endsInSlash, String.toList_append, List.getLast?_append, getLast?_scratchName]
    decide
  · rw [parentOf, parts, List.dropLast_concat, inside]

theorem entry?_freeNumber (found : fs.find scratchDirectory = .ok d) :
    let names := (fs.names scratchDirectory).toOption.getD []
    fs.entry? d (scratchName (freeNumber names names.length 0)) = none := by
  intro names
  have free : scratchName (freeNumber names names.length 0) ∉ names :=
    scratchName_freeNumber names
  rw [ entry?_eq]
  split
  · next entries stored =>
    have listed : fs.names scratchDirectory = .ok (entries.map (·.1)) := by
      refine bind_eq_ok_iff.mpr ⟨d, found, ?_⟩
      rw [stored]
    have all : names = entries.map (·.1) := congrArg (·.toOption.getD []) listed
    refine List.lookup_eq_none_iff.mpr fun entry hentry => bne_iff_ne.mpr fun same => free ?_
    rw [same, all]
    exact List.mem_map_of_mem hentry
  · rfl

/-- A scratch file is new and holds its bytes, and nothing is left of it when its name is
removed. -/
theorem write_freeScratchPath (written : fs.write fs.freeScratchPath bytes = .ok fs') :
    fs.find fs.freeScratchPath = .error .noSuchFile ∧ fs'.Stores fs.freeScratchPath bytes ∧
      SameFiles fs (fs'.remove fs.freeScratchPath) :=
  (names_scratchName _).written (fun _ found => entry?_freeNumber found) written

end BoardRig.FileSystem

namespace BoardRig.Files

variable {σ : Type} {get : σ → FileSystem} {set : FileSystem → σ → σ} {directory path : String}
  {bytes : Bytes} {s s' : σ}

theorem changing_eq_error {α : Type} {change : FileSystem → Except IoError (FileSystem × α)}
    {cause : IoError} (h : changing get set change s = (.error cause, s')) : s' = s := by
  rw [changing] at h
  split at h
  · cases h
  · exact (Prod.mk.inj h).2.symm

theorem scratch_eq : (ofFileSystem get set directory).scratch bytes
    = changing get set fun fs =>
        fs.write fs.freeScratchPath bytes >>= fun fs' => pure (fs', fs.freeScratchPath) := by
  dsimp only [ofFileSystem]

theorem scratch_eq_ok (lens : ∀ fs s, get (set fs s) = fs)
    (h : (ofFileSystem get set directory).scratch bytes s = (.ok path, s')) :
    (get s).find path = .error .noSuchFile ∧ (get s').Stores path bytes ∧
      FileSystem.SameFiles (get s) ((get s').remove path) := by
  rw [scratch_eq] at h
  obtain ⟨fs, change, rfl⟩ := changing_eq_ok h
  obtain ⟨fs', written, result⟩ := bind_eq_ok_iff.mp change
  have result : (fs', (get s).freeScratchPath) = (fs, path) := Except.ok.inj result
  obtain ⟨rfl, rfl⟩ := Prod.mk.inj result
  rw [lens]
  exact FileSystem.write_freeScratchPath written

theorem scratch_eq_error {cause : IoError}
    (h : (ofFileSystem get set directory).scratch bytes s = (.error cause, s')) : s' = s := by
  rw [scratch_eq] at h
  exact changing_eq_error h

end BoardRig.Files
