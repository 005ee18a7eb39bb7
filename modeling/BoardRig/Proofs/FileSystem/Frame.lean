/-
# `BoardRig.Proofs.FileSystem.Frame` — what making and writing one file leaves alone

A file that is made is a file that was there, or a new node under one new name.
In both cases every way that leads to another node after it led there before
(`follow_of_names`), and the other nodes are what they were.  `OthersKept` says
so, with what there is in the directories.  Making a file and writing into it
are two such changes, one after the other (`OthersKept.trans`), and what the
path leads to then is just what was written (`rewritten_of_create`).
-/
import BoardRig.Proofs.FileSystem.Creation

namespace BoardRig.FileSystem

variable {fs made fs' : FileSystem} {d id n : Nat} {name path : String} {c : Content}
  {bytes : Bytes}

/-- From the first table to the second one nothing has changed but the node `id` and, at
most, one name that leads to it. -/
structure OthersKept (fs fs' : FileSystem) (id : Nat) : Prop where
  /-- A path leads to another node just if it did before. -/
  leads : ∀ path n, n ≠ id → (fs'.find path = .ok n ↔ fs.find path = .ok n)
  /-- Another node is what it was, with its permissions and its time of change; what a
  directory has is said by `entries`. -/
  node : ∀ n, n ≠ id → (∀ entries, fs.content? n ≠ some (.directory entries)) →
    fs'.node? n = fs.node? n
  /-- The directories have their names in their order, and at most one has a new name. -/
  entries : (∀ d, fs'.entries d = fs.entries d) ∨
    ∃ d₀ name, fs.entry? d₀ name = none ∧
      ∀ d, fs'.entries d = fs.entries d ++ if d = d₀ then [(name, id)] else []

/-! ## Ways to other nodes

A way that does not end in the changed node can be taken before and after the
change, in both directions. -/

/-- Where no name was added but names of one end of ways, a way to another node was there
before. -/
theorem follow_of_names (widens : Widens fs fs') (hend : fs'.IsEnd id)
    (names : ∀ d name n, fs'.entry? d name = some n → n ≠ id → fs.entry? d name = some n)
    {links : Nat} {trail : List Nat} {parts : List String} (other : n ≠ id)
    (h : fs'.follow links trail parts = .ok (.node n)) :
    fs.follow links trail parts = .ok (.node n) := by
  fun_induction FileSystem.follow fs' links trail parts with
  | case1 links trail =>
      cases h
      rw [FileSystem.follow]
  | case2 links trail rest ih =>
      rw [FileSystem.follow, if_pos rfl]
      exact ih h
  | case3 links trail rest stays ih =>
      rw [FileSystem.follow, if_neg stays, if_pos rfl]
      exact ih h
  | case4 => cases h
  | case5 => cases h
  | case6 => cases h
  | case7 links trail part rest stays parent short here next hentry entries hcontent ih =>
      have old : next ≠ id := by
        rintro rfl
        exact hend.1 entries hcontent
      obtain ⟨entries', hcontent'⟩ := (widens.directory next).mpr ⟨entries, hcontent⟩
      rw [follow_directory rest stays parent short (names _ _ _ hentry old) hcontent']
      exact ih h
  | case8 => cases h
  | case9 trail part rest stays parent short here next hentry target hcontent links ih =>
      have old : next ≠ id := by
        rintro rfl
        exact hend.2 target hcontent
      rw [follow_link rest stays parent short (names _ _ _ hentry old)
        ((widens.link next target).mpr hcontent)]
      exact ih h
  | case10 links trail part rest stays parent short here _ hentry last other' other'' =>
      cases h
      obtain rfl := List.isEmpty_iff.mp last
      have ends : fs.IsEnd n := by
        refine ⟨fun entries hold => ?_, fun target hold => ?_⟩
        · obtain ⟨entries', hnew⟩ := (widens.directory n).mp ⟨entries, hold⟩
          exact other' entries' hnew
        · exact other'' target ((widens.link n target).mp hold)
      exact follow_end stays parent short (names _ _ _ hentry other) ends
  | case11 => cases h

theorem find_iff_of_names (widens : Widens fs fs') (hend : fs'.IsEnd id)
    (names : ∀ d name n, fs'.entry? d name = some n → n ≠ id → fs.entry? d name = some n)
    (other : n ≠ id) : fs'.find path = .ok n ↔ fs.find path = .ok n := by
  refine ⟨fun found => ?_, widens.find⟩
  rw [FileSystem.find] at found ⊢
  obtain ⟨place, leads, ends⟩ := bind_eq_ok_iff.mp found
  obtain ⟨⟨⟩, given, follows⟩ := bind_eq_ok_iff.mp leads
  cases place with
  | vacant => cases ends
  | node m =>
      obtain rfl : m = n := Except.ok.inj ends
      have before := follow_of_names widens hend names other follows
      exact bind_eq_ok_iff.mpr ⟨.node m, bind_eq_ok_iff.mpr ⟨(), given, before⟩, rfl⟩

/-! ## The changes -/

theorem OthersKept.refl (fs : FileSystem) (id : Nat) : OthersKept fs fs id :=
  ⟨fun _ _ _ => Iff.rfl, fun _ _ _ => rfl, .inl fun _ => rfl⟩

theorem OthersKept.trans (first : OthersKept fs made id) (second : OthersKept made fs' id)
    (same : ∀ d, fs'.entries d = made.entries d) : OthersKept fs fs' id where
  leads path n other := (second.leads path n other).trans (first.leads path n other)
  node n other noDirectory := by
    have kept := first.node n other noDirectory
    rw [← kept]
    refine second.node n other fun entries hold => ?_
    rw [content?, kept] at hold
    exact noDirectory entries hold
  entries := by
    simp only [same]
    exact first.entries

theorem entries_eq_nil_of_isEnd (hend : fs.IsEnd id) : fs.entries id = [] := by
  rw [FileSystem.entries]
  split
  · next entries h => exact absurd h (hend.1 entries)
  · rfl

theorem entries_replace (h : fs.content? id = some c) (hend : fs.IsEnd id) (d : Nat) :
    (fs.replace id (.file bytes)).entries d = fs.entries d := by
  by_cases hd : d = id
  · subst hd
    rw [entries_eq_nil_of_isEnd hend, FileSystem.entries, content?_replace h, if_pos rfl]
  · rw [FileSystem.entries, content?_replace h, if_neg hd, ← FileSystem.entries]

theorem OthersKept.replace (h : fs.content? id = some c) (hend : fs.IsEnd id) :
    OthersKept fs (fs.replace id (.file bytes)) id where
  leads path n other := by
    have new : (fs.replace id (.file bytes)).content? id = some (.file bytes) := by
      rw [content?_replace h, if_pos rfl]
    refine find_iff_of_names (widens_replace h hend) (isEnd_of_file new) ?_ other
    intro d name n hentry _
    rwa [ entry?, entries_replace h hend] at hentry
  node n other _ := by rw [FileSystem.replace, node?_modify, if_neg other]
  entries := .inl (entries_replace h hend)

theorem OthersKept.truncate (h : fs.content? id = some c) (hend : fs.IsEnd id) :
    OthersKept fs (fs.truncate id) id := by
  rw [FileSystem.truncate, h]
  cases c with
  | file => exact .replace h hend
  | program => exact .replace h hend
  | directory => exact .refl fs id
  | link => exact .refl fs id
  | device => exact .refl fs id

theorem entries_insert {entries : List (String × Nat)} {node : Node}
    (h : fs.content? d = some (.directory entries)) (hfile : node.content = .file bytes)
    (d' : Nat) : (fs.insert d name node).1.entries d'
      = fs.entries d' ++ if d' = d then [(name, fs.fresh)] else [] := by
  have hne : d ≠ fs.fresh := by
    rintro rfl
    rw [content?, node?_fresh] at h
    cases h
  rw [FileSystem.entries, content?_insert node h, hfile]
  by_cases hfresh : d' = fs.fresh
  · subst hfresh
    rw [if_pos rfl, if_neg hne.symm, FileSystem.entries, content?, node?_fresh]
    rfl
  · rw [if_neg hfresh]
    by_cases hd : d' = d
    · subst hd
      rw [if_pos rfl, if_pos rfl, FileSystem.entries, h]
    · rw [if_neg hd, if_neg hd, ← FileSystem.entries, List.append_nil]

theorem OthersKept.insert {entries : List (String × Nat)} {node : Node}
    (h : fs.content? d = some (.directory entries)) (hfile : node.content = .file bytes)
    (free : fs.entry? d name = none) :
    OthersKept fs (fs.insert d name node).1 fs.fresh where
  leads path n other := by
    have new : (fs.insert d name node).1.content? fs.fresh = some (.file bytes) := by
      rw [content?_insert node h, if_pos rfl, hfile]
    refine find_iff_of_names (widens_insert h hfile) (isEnd_of_file new) ?_ other
    intro d' name' n' hentry old
    rw [ entry?, entries_insert h hfile, List.lookup_append, Option.or_eq_some_iff] at hentry
    obtain hentry | ⟨-, hentry⟩ := hentry
    · exact hentry
    · split at hentry
      · rw [List.lookup_cons] at hentry
        split at hentry
        · exact absurd (Option.some.inj hentry).symm old
        · cases hentry
      · cases hentry
  node n other noDirectory := by
    have hne : n ≠ d := by
      rintro rfl
      exact noDirectory entries h
    change List.lookup n (_ ++ _) = _
    rw [List.lookup_append]
    have single : List.lookup n [(fs.fresh, { node with modified := fs.now })] = none := by
      rw [List.lookup_cons, beq_false_of_ne other]
      rfl
    rw [single, Option.or_none]
    change (fs.replace d _).node? n = _
    rw [FileSystem.replace, node?_modify, if_neg hne]
  entries := .inr ⟨d, name, free, entries_insert h hfile⟩

theorem OthersKept.create (h : fs.create path = .ok (fs', id)) : OthersKept fs fs' id := by
  obtain ⟨place, -, opened, vacant⟩ := exists_place_of_create h
  cases place with
  | vacant d name =>
      rw [openPlace] at opened
      split at opened
      · next entries stored =>
        cases opened
        exact .insert stored rfl (vacant d name rfl)
      · cases opened
  | node n =>
      obtain ⟨rfl, rfl, hend, c, stored⟩ := openPlace_node_eq_ok opened
      exact .truncate stored hend

theorem OthersKept.append (kept : OthersKept fs made id) (bytes : Bytes) :
    OthersKept fs (made.append id bytes) id := by
  rw [FileSystem.append]
  split
  · next old stored =>
    exact kept.trans (.replace stored (isEnd_of_file stored))
      (entries_replace stored (isEnd_of_file stored))
  · exact kept

/-- The file `id` at a path was made or emptied, and then these bytes were written into it. -/
structure Rewritten (fs fs' : FileSystem) (path : String) (id : Nat) (bytes : Bytes) : Prop where
  found : fs'.find path = .ok id
  /-- The bytes are all that it holds, unless it is a device. -/
  stored : fs'.content? id = some (.file bytes) ∨
    fs' = fs ∧ ∃ device, fs.content? id = some (.device device)
  others : OthersKept fs fs' id

/-- A device that is opened for writing is left as it is, and so is the table. -/
theorem eq_of_create_device {device : Device} (h : fs.create path = .ok (fs', id))
    (stored : fs'.content? id = some (.device device)) : fs' = fs := by
  obtain ⟨-, rfl⟩ | ⟨-, d, name, entries, old, inserted⟩ := create_cases h
  · rw [truncate] at stored ⊢
    split at stored
    · next old => rw [content?_replace old, if_pos rfl] at stored; cases stored
    · next old => rw [content?_replace old, if_pos rfl] at stored; cases stored
    · rfl
  · obtain ⟨rfl, rfl⟩ := Prod.mk.inj inserted
    have new : FileSystem.content? (fs.insert d name (.ofBytes [] false)).1 fs.fresh
        = some (.file []) := by
      rw [content?_insert _ old, if_pos rfl]
      rfl
    cases new.symm.trans stored

theorem rewritten_of_create (h : fs.create path = .ok (made, id)) (bytes : Bytes) :
    fs.Rewritten (made.append id bytes) path id bytes := by
  obtain ⟨found, blank⟩ := create_ok h
  obtain ⟨found', stored⟩ := append_blank bytes found blank
  refine ⟨found', stored.imp_right ?_, (OthersKept.create h).append bytes⟩
  rintro ⟨same, device, stored⟩
  obtain rfl := eq_of_create_device h stored
  exact ⟨same, device, stored⟩

/-- Only a device refuses what is written into it. -/
theorem eq_of_create_refusal {cause : IoError} (h : fs.create path = .ok (fs', id))
    (refused : fs'.refusal? id = some cause) : fs' = fs := by
  rw [refusal?] at refused
  split at refused
  · next stored => exact eq_of_create_device h stored
  · cases refused

end BoardRig.FileSystem
