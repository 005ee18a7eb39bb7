/-
# `BoardRig.Proofs.FileSystem.Creation` — files that are made, and found again

A change of the table may add names and may change what files hold.  Ways
through the table are not disturbed by that (`Widens`, `Widens.follow`): a way
that came to a node still does, and a way that ended at a free name comes to
the node that has the name now.  So a path at which a file was made leads to
that file, which is empty then (`create_ok`), and what is written into it is
what the path leads to (`append_of_isBlank`, and `Files.stores_of_create_append`
for a world that holds such a table).  Every other file keeps its bytes; the one
that the path led to before has lost them (`contentOf_create`).
-/
import BoardRig.FileSystem.Access
import BoardRig.Proofs.Outcome

namespace BoardRig.FileSystem

variable {fs fs' : FileSystem} {d id n : Nat} {name path : String} {c c' : Content}

/-! ## The table -/

theorem node?_modify (fs : FileSystem) (id n : Nat) (change : Node → Node) :
    (fs.modify id change).node? n
      = if n = id then (fs.node? n).map change else fs.node? n := by
  rw [node?, node?, modify]
  induction fs.nodes with
  | nil => simp
  | cons entry nodes ih =>
      obtain ⟨k, node⟩ := entry
      have hentry : (if k = id then (k, change node) else (k, node))
          = (k, if k = id then change node else node) := by split <;> rfl
      simp only [List.map_cons, hentry, List.lookup_cons, ih]
      cases hk : n == k with
      | true =>
          obtain rfl := beq_iff_eq.mp hk
          by_cases hid : n = id <;> simp [hid]
      | false => rfl

theorem content?_replace (h : fs.content? id = some c) (n : Nat) :
    (fs.replace id c').content? n = if n = id then some c' else fs.content? n := by
  rw [content?, replace, node?_modify]
  by_cases hn : n = id
  · subst hn
    obtain ⟨node, hnode, -⟩ := Option.map_eq_some_iff.mp h
    simp [hnode]
  · simp [hn, content?]

theorem entry?_eq (fs : FileSystem) (d : Nat) (name : String) :
    fs.entry? d name = match fs.content? d with
      | some (.directory entries) => entries.lookup name
      | _ => none := by
  rw [ entry?, entries]
  rcases fs.content? d with _ | ⟨_ | _ | _ | _ | _⟩ <;> rfl

theorem le_foldl_max (nodes : List (Nat × Node)) (start : Nat) :
    start ≤ nodes.foldl (fun n entry => max n entry.1) start ∧
      ∀ entry ∈ nodes, entry.1 ≤ nodes.foldl (fun n entry => max n entry.1) start := by
  induction nodes generalizing start with
  | nil => simp
  | cons first rest ih =>
      obtain ⟨hstart, hrest⟩ := ih (max start first.1)
      exact ⟨Nat.le_trans (Nat.le_max_left ..) hstart,
        List.forall_mem_cons.mpr ⟨Nat.le_trans (Nat.le_max_right ..) hstart, hrest⟩⟩

theorem node?_fresh (fs : FileSystem) : fs.node? fs.fresh = none := by
  rw [node?, List.lookup_eq_none_iff]
  intro entry hentry
  have hle := (le_foldl_max fs.nodes 0).2 entry hentry
  exact bne_iff_ne.mpr (Nat.ne_of_gt (Nat.lt_succ_of_le hle))

theorem content?_insert {entries : List (String × Nat)} (node : Node)
    (h : fs.content? d = some (.directory entries)) (n : Nat) :
    (fs.insert d name node).1.content? n =
      if n = fs.fresh then some node.content
      else if n = d then some (.directory (entries ++ [(name, fs.fresh)]))
      else fs.content? n := by
  have hold : fs.entries d = entries := by rw [FileSystem.entries, h]
  have hbind : (fs.bind d name fs.fresh).node? fs.fresh = none := by
    rw [bind, replace, node?_modify, node?_fresh]
    split <;> rfl
  rw [← content?_replace h, ← hold]
  change Option.map _ (List.lookup n (_ ++ _)) = _
  rw [List.lookup_append]
  by_cases hn : n = fs.fresh
  · subst hn
    rw [← node?, hbind, if_pos rfl]
    simp
  · rw [if_neg hn]
    simp [List.lookup_cons, beq_false_of_ne hn]
    rfl

/-! ## Ways

A way is followed through links and directories, and its end is a node or a free
name.  The induction is that of `follow`; a change that only widens the table takes
each of its cases to the same case. -/

/-- A node at which a way ends: it is no directory and no link. -/
def IsEnd (fs : FileSystem) (id : Nat) : Prop :=
  (∀ entries, fs.content? id ≠ some (.directory entries)) ∧
    ∀ target, fs.content? id ≠ some (.link target)

theorem isEnd_of_file {bytes : Bytes} (h : fs.content? id = some (.file bytes)) :
    fs.IsEnd id := by
  rw [IsEnd, h]
  simp

/-- The second table has the names of the first one, and leads on where the
first one does. -/
structure Widens (fs fs' : FileSystem) : Prop where
  entry : ∀ d name id, fs.entry? d name = some id → fs'.entry? d name = some id
  directory : ∀ id, (∃ entries, fs.content? id = some (.directory entries)) ↔
    ∃ entries, fs'.content? id = some (.directory entries)
  link : ∀ id target, fs.content? id = some (.link target) ↔ fs'.content? id = some (.link target)

theorem Widens.isEnd (h : Widens fs fs') (hend : fs.IsEnd id) : fs'.IsEnd id := by
  refine ⟨fun entries hentries => ?_, fun target htarget => ?_⟩
  · obtain ⟨entries, hentries⟩ := (h.directory id).mpr ⟨entries, hentries⟩
    exact hend.1 entries hentries
  · exact hend.2 target ((h.link id target).mpr htarget)

/-- The place where a way ended is a node: it was that node already, or it was a
free name, which the node has now. -/
def Becomes (fs : FileSystem) (id : Nat) : Place → Prop
  | .node n => n = id
  | .vacant d name => fs.entry? d name = some id ∧ fs.IsEnd id

section Part

variable {links : Nat} {trail : List Nat} {part : String} (rest : List String) (stays : part ≠ ".")
  (parent : part ≠ "..") (short : ¬ nameLimit < part.utf8ByteSize)
  (hentry : fs.entry? (trail.head?.getD root) part = some id)

include stays parent short

/-- A name that a directory does not have ends a way, or breaks it off. -/
theorem follow_vacant (vacant : fs.entry? (trail.head?.getD root) part = none) :
    fs.follow links trail (part :: rest)
      = if rest.isEmpty then .ok (.vacant (trail.head?.getD root) part)
        else .error .noSuchFile := by
  rw [follow, if_neg stays, if_neg parent, if_neg short]
  simp only [vacant]

include hentry

theorem follow_isEnd (hend : fs.IsEnd id) :
    fs.follow links trail (part :: rest)
      = if rest.isEmpty then .ok (.node id) else .error .notADirectory := by
  rw [follow, if_neg stays, if_neg parent, if_neg short]
  simp only [hentry]
  split
  · next entries h => exact absurd h (hend.1 entries)
  · next target h => exact absurd h (hend.2 target)
  · rfl

omit rest in
theorem follow_end (hend : fs.IsEnd id) : fs.follow links trail [part] = .ok (.node id) :=
  follow_isEnd [] stays parent short hentry hend

theorem follow_directory {entries : List (String × Nat)}
    (h : fs.content? id = some (.directory entries)) :
    fs.follow links trail (part :: rest) = fs.follow links (id :: trail) rest := by
  rw [follow, if_neg stays, if_neg parent, if_neg short]
  simp only [hentry, h]

theorem follow_link {target : String} (h : fs.content? id = some (.link target)) :
    fs.follow (links + 1) trail (part :: rest)
      = fs.follow links (if Path.isAbsolute target then [root] else trail)
          (stepsOf target ++ rest) := by
  rw [follow, if_neg stays, if_neg parent, if_neg short]
  simp only [hentry, h]

end Part

/-- Ways lead to the same place where the directories on them have the same names for the
same nodes, and every node that has a name is a directory in both tables or the same in both. -/
theorem follow_congr (entry : ∀ d name, fs'.entry? d name = fs.entry? d name)
    (behind : ∀ d name n, fs.entry? d name = some n →
      (∃ entries entries', fs.content? n = some (.directory entries) ∧
        fs'.content? n = some (.directory entries')) ∨ fs'.content? n = fs.content? n)
    (links : Nat) (trail : List Nat) (parts : List String) :
    fs'.follow links trail parts = fs.follow links trail parts := by
  have same : ∀ {d name n}, fs.entry? d name = some n →
      (∀ entries, fs.content? n ≠ some (.directory entries)) → fs'.content? n = fs.content? n := by
    intro d name n hentry other
    obtain ⟨entries, -, old, -⟩ | same := behind d name n hentry
    · exact absurd old (other entries)
    · exact same
  -- One part after the other is looked up in both tables, with the same outcome.
  fun_induction FileSystem.follow fs links trail parts with
  | case1 => rw [FileSystem.follow]
  | case2 links trail rest ih =>
      rw [FileSystem.follow, if_pos rfl]
      exact ih
  | case3 links trail rest stays ih =>
      rw [FileSystem.follow, if_neg stays, if_pos rfl]
      exact ih
  | case4 _ _ _ _ stays parent long =>
      rw [FileSystem.follow, if_neg stays, if_neg parent, if_pos long]
  | case5 links trail part rest stays parent short here vacant last =>
      rw [follow_vacant rest stays parent short ((entry _ _).trans vacant), if_pos last]
  | case6 links trail part rest stays parent short here vacant last =>
      rw [follow_vacant rest stays parent short ((entry _ _).trans vacant), if_neg last]
  | case7 links trail part rest stays parent short here next hentry entries hcontent ih =>
      have directory : ∃ entries', fs'.content? next = some (.directory entries') := by
        obtain ⟨-, entries', -, new⟩ | same := behind _ _ next hentry
        · exact ⟨entries', new⟩
        · exact ⟨entries, same.trans hcontent⟩
      obtain ⟨entries', hcontent'⟩ := directory
      rw [follow_directory rest stays parent short ((entry _ _).trans hentry) hcontent']
      exact ih
  | case8 trail part rest stays parent short here next hentry target hcontent =>
      have hcontent' := (same hentry (by rw [hcontent]; exact fun _ h => nomatch h)).trans hcontent
      rw [FileSystem.follow, if_neg stays, if_neg parent, if_neg short]
      simp only [entry, here, hentry, hcontent']
  | case9 trail part rest stays parent short here next hentry target hcontent links ih =>
      have hcontent' := (same hentry (by rw [hcontent]; exact fun _ h => nomatch h)).trans hcontent
      rw [follow_link rest stays parent short ((entry _ _).trans hentry) hcontent']
      exact ih
  | case10 links trail part rest stays parent short here next hentry last other other' =>
      have ends : fs'.IsEnd next := by
        rw [IsEnd, same hentry other]
        exact ⟨other, other'⟩
      rw [follow_isEnd rest stays parent short ((entry _ _).trans hentry) ends, if_pos last]
  | case11 links trail part rest stays parent short here next hentry last other other' =>
      have ends : fs'.IsEnd next := by
        rw [IsEnd, same hentry other]
        exact ⟨other, other'⟩
      rw [follow_isEnd rest stays parent short ((entry _ _).trans hentry) ends, if_neg last]

theorem Widens.follow (h : Widens fs fs') {links : Nat} {trail : List Nat} {parts : List String}
    {place : Place} (hplace : fs'.Becomes id place)
    (hfollow : fs.follow links trail parts = .ok place) :
    fs'.follow links trail parts = .ok (.node id) := by
  fun_induction FileSystem.follow fs links trail parts with
  | case1 links trail =>
      cases hfollow
      rw [FileSystem.follow, hplace]
  | case2 links trail rest ih =>
      rw [FileSystem.follow, if_pos rfl]
      exact ih hfollow
  | case3 links trail rest stays ih =>
      rw [FileSystem.follow, if_neg stays, if_pos rfl]
      exact ih hfollow
  | case4 => cases hfollow
  | case5 links trail part rest stays parent short here vacant last =>
      cases hfollow
      obtain rfl := List.isEmpty_iff.mp last
      exact follow_end stays parent short hplace.1 hplace.2
  | case6 => cases hfollow
  | case7 links trail part rest stays parent short here next hentry entries hcontent ih =>
      obtain ⟨entries', hcontent'⟩ := (h.directory next).mp ⟨entries, hcontent⟩
      rw [follow_directory rest stays parent short (h.entry _ _ _ hentry) hcontent']
      exact ih hfollow
  | case8 => cases hfollow
  | case9 trail part rest stays parent short here next hentry target hcontent links ih =>
      rw [follow_link rest stays parent short (h.entry _ _ _ hentry)
        ((h.link next target).mp hcontent)]
      exact ih hfollow
  | case10 links trail part rest stays parent short here next hentry last other other' =>
      cases hfollow
      obtain rfl := List.isEmpty_iff.mp last
      rw [← (hplace : next = id)]
      exact follow_end stays parent short (h.entry _ _ _ hentry) (h.isEnd ⟨other, other'⟩)
  | case11 => cases hfollow

/-- The path names something right below the root. -/
structure BelowRoot (path name : String) : Prop where
  given : check path = .ok ()
  parts : partsOf path = [name]
  closed : endsInSlash path = false
  stays : name ≠ "."
  parent : name ≠ ".."
  short : ¬ nameLimit < name.utf8ByteSize

theorem BelowRoot.follow {name : String} (h : BelowRoot path name)
    (hentry : fs.entry? root name = some id) (hend : fs.IsEnd id) :
    fs.follow linkLimit [root] (partsOf path) = .ok (.node id) := by
  rw [h.parts]
  exact follow_end h.stays h.parent h.short hentry hend

theorem find_of_follow (given : check path = .ok ())
    (leads : fs.follow linkLimit [root] (stepsOf path) = .ok (.node n)) : fs.find path = .ok n :=
  bind_eq_ok_iff.mpr ⟨.node n, bind_eq_ok_iff.mpr ⟨(), given, leads⟩, rfl⟩

theorem BelowRoot.find {name : String} (h : BelowRoot path name)
    (hentry : fs.entry? root name = some id) (hend : fs.IsEnd id) : fs.find path = .ok id := by
  refine find_of_follow h.given ?_
  rw [stepsOf, h.closed]
  exact h.follow hentry hend

theorem create_of_find {bytes : Bytes} (closed : endsInSlash path = false)
    (found : fs.find path = .ok id) (hfile : fs.content? id = some (.file bytes)) :
    fs.create path = .ok (fs.truncate id, id) := by
  rw [FileSystem.find] at found
  obtain ⟨place, leads, found⟩ := bind_eq_ok_iff.mp found
  rw [FileSystem.place, stepsOf, closed] at leads
  obtain ⟨⟨⟩, given, follows⟩ := bind_eq_ok_iff.mp leads
  cases place with
  | vacant => cases found
  | node n =>
      obtain rfl : n = id := Except.ok.inj found
      have opens : fs.openPlace true (.node n) = .ok (fs.truncate n, n) := by
        rw [openPlace, hfile]
        rfl
      rw [FileSystem.create, openForWriting, closed]
      exact bind_eq_ok_iff.mpr ⟨(), given, bind_eq_ok_iff.mpr ⟨.node n, follows, opens⟩⟩

/-! ## Making and writing files

A path leads to a node, which is emptied, or to a free name, which gets a new node.
The two cases of `openPlace` are told apart once, and everything else follows from
what both have in common. -/

theorem entry?_eq_none_of_isEnd (hend : fs.IsEnd id) (name : String) :
    fs.entry? id name = none := by
  rw [entry?_eq]
  split
  · next entries h => exact absurd h (hend.1 entries)
  · rfl

/-- What an end of ways holds may change. -/
theorem widens_replace {bytes : Bytes} (h : fs.content? id = some c) (hend : fs.IsEnd id) :
    Widens fs (fs.replace id (.file bytes)) where
  entry d name n hentry := by
    have hne : d ≠ id := by
      rintro rfl
      rw [entry?_eq_none_of_isEnd hend] at hentry
      cases hentry
    rw [entry?_eq, content?_replace h, if_neg hne, ← entry?_eq]
    exact hentry
  directory n := by
    rw [content?_replace h]
    split
    · next hn =>
      subst hn
      exact ⟨fun ⟨entries, hold⟩ => absurd hold (hend.1 entries), fun ⟨_, hnew⟩ => nomatch hnew⟩
    · exact Iff.rfl
  link n target := by
    rw [content?_replace h]
    split
    · next hn =>
      subst hn
      exact ⟨fun hold => absurd hold (hend.2 target), fun hnew => nomatch hnew⟩
    · exact Iff.rfl

theorem widens_insert {entries : List (String × Nat)} {node : Node} {bytes : Bytes}
    (h : fs.content? d = some (.directory entries)) (hfile : node.content = .file bytes) :
    Widens fs (fs.insert d name node).1 := by
  have hfresh : fs.content? fs.fresh = none := by rw [content?, node?_fresh]; rfl
  refine ⟨fun d' name' n hentry => ?_, fun n => ?_, fun n target => ?_⟩
  · have hne : d' ≠ fs.fresh := by
      rintro rfl
      rw [entry?_eq, hfresh] at hentry
      cases hentry
    rw [entry?_eq, content?_insert node h, if_neg hne]
    by_cases hd : d' = d
    · subst hd
      rw [entry?_eq, h] at hentry
      rw [if_pos rfl]
      dsimp only at hentry ⊢
      rw [List.lookup_append, hentry, Option.some_or]
    · rw [if_neg hd, ← entry?_eq]
      exact hentry
  · rw [content?_insert node h, hfile]
    split
    · next hn => simp [hn, hfresh]
    · split
      · next hn => simp [hn, h]
      · exact Iff.rfl
  · rw [content?_insert node h, hfile]
    split
    · next hn => simp [hn, hfresh]
    · split
      · next hn => simp [hn, h]
      · exact Iff.rfl

theorem entry?_eq_none_of_follow {links : Nat} {trail : List Nat} {parts : List String}
    (h : fs.follow links trail parts = .ok (.vacant d name)) : fs.entry? d name = none := by
  fun_induction FileSystem.follow fs links trail parts with
  | case1 => cases h
  | case2 _ _ _ ih => exact ih h
  | case3 _ _ _ _ ih => exact ih h
  | case4 => cases h
  | case5 links trail part rest _ _ _ here vacant =>
      obtain ⟨rfl, rfl⟩ := Place.vacant.inj (Except.ok.inj h)
      exact vacant
  | case6 => cases h
  | case7 _ _ _ _ _ _ _ _ _ _ _ _ ih => exact ih h
  | case8 => cases h
  | case9 _ _ _ _ _ _ _ _ _ _ _ _ ih => exact ih h
  | case10 => cases h
  | case11 => cases h

/-- What was opened anew is an empty file, or a device. -/
def IsBlank (fs : FileSystem) (id : Nat) : Prop :=
  fs.content? id = some (.file []) ∨ ∃ device, fs.content? id = some (.device device)

theorem openPlace_vacant (h : fs.openPlace true (.vacant d name) = .ok (fs', id))
    (vacant : fs.entry? d name = none) :
    Widens fs fs' ∧ fs'.Becomes id (.vacant d name) ∧ fs'.IsBlank id := by
  rw [openPlace] at h
  split at h
  · next entries hentries =>
    cases h
    have hfile : (fs.insert d name (.ofBytes [] false)).1.content? fs.fresh
        = some (.file []) := by
      rw [content?_insert _ hentries, if_pos rfl]
      rfl
    have hne : d ≠ fs.fresh := by
      rintro rfl
      rw [content?, node?_fresh] at hentries
      cases hentries
    have hentry : FileSystem.entry? (fs.insert d name (.ofBytes [] false)).1 d name
        = some fs.fresh := by
      rw [entry?_eq, hentries] at vacant
      dsimp only at vacant
      rw [entry?_eq, content?_insert _ hentries, if_neg hne, if_pos rfl]
      dsimp only
      rw [List.lookup_append, vacant, List.lookup_cons_self, Option.none_or]
    exact ⟨widens_insert hentries rfl, ⟨hentry, isEnd_of_file hfile⟩, .inl hfile⟩
  · cases h

theorem truncate_of_isEnd (h : fs.content? id = some c) (hend : fs.IsEnd id) :
    Widens fs (fs.truncate id) ∧ (fs.truncate id).IsBlank id := by
  have hfile : ∀ bytes, (fs.replace id (.file bytes)).content? id = some (.file bytes) := by
    intro bytes
    rw [content?_replace h, if_pos rfl]
  rw [truncate, h]
  cases c with
  | file => exact ⟨widens_replace h hend, .inl (hfile [])⟩
  | program => exact ⟨widens_replace h hend, .inl (hfile [])⟩
  | device device =>
      exact ⟨⟨fun _ _ _ h => h, fun _ => Iff.rfl, fun _ _ => Iff.rfl⟩, .inr ⟨device, h⟩⟩
  | directory entries => exact absurd h (hend.1 entries)
  | link target => exact absurd h (hend.2 target)

theorem openPlace_node_eq_ok (h : fs.openPlace true (.node n) = .ok (fs', id)) :
    n = id ∧ fs' = fs.truncate id ∧ fs.IsEnd id ∧ ∃ c, fs.content? id = some c := by
  rw [openPlace] at h
  split at h
  · cases h
  · cases h
  · cases h
  · cases h
  · next directory _ link none =>
    cases h
    exact ⟨rfl, rfl, ⟨directory, link⟩, Option.ne_none_iff_exists'.mp none⟩

theorem openPlace_node (h : fs.openPlace true (.node n) = .ok (fs', id)) :
    Widens fs fs' ∧ fs'.Becomes id (.node n) ∧ fs'.IsBlank id := by
  obtain ⟨rfl, rfl, hend, c, hc⟩ := openPlace_node_eq_ok h
  obtain ⟨widens, blank⟩ := truncate_of_isEnd hc hend
  exact ⟨widens, rfl, blank⟩

theorem exists_place_of_create (h : fs.create path = .ok (fs', id)) :
    ∃ place, fs.place path = .ok place ∧ fs.openPlace true place = .ok (fs', id) ∧
      (∀ d name, place = .vacant d name → fs.entry? d name = none) := by
  rw [create, openForWriting] at h
  obtain ⟨⟨⟩, given, h⟩ := bind_eq_ok_iff.mp h
  split at h
  · obtain ⟨_, -, h⟩ := bind_eq_ok_iff.mp h
    cases h
  · next open' =>
    obtain ⟨place, follows, opened⟩ := bind_eq_ok_iff.mp h
    refine ⟨place, ?_, opened, ?_⟩
    · rw [FileSystem.place, stepsOf, if_neg open']
      exact bind_eq_ok_iff.mpr ⟨(), given, follows⟩
    · rintro d name rfl
      exact entry?_eq_none_of_follow follows

/-- Making a file adds a name at most, and what was made is at the end of the path. -/
theorem widens_of_create (h : fs.create path = .ok (fs', id)) :
    Widens fs fs' ∧ fs'.find path = .ok id ∧ fs'.IsBlank id := by
  obtain ⟨place, leads, opened, vacant⟩ := exists_place_of_create h
  obtain ⟨widens, becomes, blank⟩ :
      Widens fs fs' ∧ fs'.Becomes id place ∧ fs'.IsBlank id := by
    cases place with
    | vacant d name => exact openPlace_vacant opened (vacant d name rfl)
    | node n => exact openPlace_node opened
  obtain ⟨⟨⟩, given, follows⟩ := bind_eq_ok_iff.mp leads
  have leads' : fs'.place path = .ok (.node id) :=
    bind_eq_ok_iff.mpr ⟨(), given, widens.follow becomes follows⟩
  exact ⟨widens, bind_eq_ok_iff.mpr ⟨_, leads', rfl⟩, blank⟩

theorem create_ok (h : fs.create path = .ok (fs', id)) :
    fs'.find path = .ok id ∧ fs'.IsBlank id :=
  (widens_of_create h).2

theorem Widens.find (h : Widens fs fs') (hfind : fs.find path = .ok id) :
    fs'.find path = .ok id := by
  rw [FileSystem.find] at hfind ⊢
  obtain ⟨place, hplace, hnode⟩ := bind_eq_ok_iff.mp hfind
  obtain ⟨⟨⟩, hcheck, hfollow⟩ := bind_eq_ok_iff.mp hplace
  cases place with
  | vacant => cases hnode
  | node n =>
      obtain rfl : n = id := Except.ok.inj hnode
      have becomes : fs'.Becomes n (.node n) := rfl
      refine bind_eq_ok_iff.mpr ⟨.node n, ?_, rfl⟩
      exact bind_eq_ok_iff.mpr ⟨(), hcheck, h.follow becomes hfollow⟩

/-- The path leads to a file with these bytes. -/
def Stores (fs : FileSystem) (path : String) (bytes : Bytes) : Prop :=
  ∃ id, fs.find path = .ok id ∧ fs.content? id = some (.file bytes)

theorem Stores.read {bytes : Bytes} (h : fs.Stores path bytes) : fs.read path = .ok bytes := by
  obtain ⟨id, hfind, hcontent⟩ := h
  rw [FileSystem.read]
  exact bind_eq_ok_iff.mpr ⟨id, hfind, by rw [contentOf, hcontent]⟩

/-- A file that was opened anew holds what is written into it; a device takes it and stays
what it is. -/
theorem append_blank (bytes : Bytes) (hfind : fs.find path = .ok id) (blank : fs.IsBlank id) :
    (fs.append id bytes).find path = .ok id ∧
      ((fs.append id bytes).content? id = some (.file bytes) ∨
        fs.append id bytes = fs ∧ ∃ device, fs.content? id = some (.device device)) := by
  obtain hfile | ⟨device, hdevice⟩ := blank
  · rw [append, hfile]
    have widens : Widens fs (fs.replace id (.file ([] ++ bytes))) :=
      widens_replace hfile (isEnd_of_file hfile)
    exact ⟨widens.find hfind, .inl (by rw [content?_replace hfile, if_pos rfl]; rfl)⟩
  · have same : fs.append id bytes = fs := by rw [append, hdevice]
    rw [same]
    exact ⟨hfind, .inr ⟨rfl, device, hdevice⟩⟩

theorem append_of_isBlank (bytes : Bytes) (hfind : fs.find path = .ok id) (blank : fs.IsBlank id) :
    (fs.append id bytes).Stores path bytes ∨
      ∃ device, (fs.append id bytes).find path = .ok id ∧
        (fs.append id bytes).content? id = some (.device device) := by
  obtain ⟨found, stored | ⟨same, device, stored⟩⟩ := append_blank bytes hfind blank
  · exact .inl ⟨id, found, stored⟩
  · exact .inr ⟨device, found, by rw [same, stored]⟩

/-! ## The other files -/

/-- A file is made where a path leads: the one that is there is emptied, or a new one gets
a free name. -/
theorem create_cases (h : fs.create path = .ok (fs', id)) :
    (fs.find path = .ok id ∧ fs' = fs.truncate id) ∨
      (fs.find path = .error .noSuchFile ∧ ∃ d name entries,
        fs.content? d = some (.directory entries) ∧
          fs.insert d name (.ofBytes [] false) = (fs', id)) := by
  obtain ⟨place, leads, opened, -⟩ := exists_place_of_create h
  rw [find, leads]
  cases place with
  | vacant d name =>
      rw [openPlace] at opened
      split at opened
      · next entries stored => exact .inr ⟨rfl, d, name, entries, stored, Except.ok.inj opened⟩
      · cases opened
  | node n =>
      obtain ⟨rfl, rfl, -⟩ := openPlace_node_eq_ok opened
      exact .inl ⟨rfl, rfl⟩

theorem contentOf_of_file {bytes : Bytes} (h : fs.content? id = some (.file bytes)) :
    fs.contentOf id = .ok bytes := by
  rw [contentOf, h]

section Other

variable {source : Nat} {bytes : Bytes} (held : fs.contentOf source = .ok bytes)

include held

theorem contentOf_truncate (id : Nat) :
    (fs.truncate id).contentOf source = .ok (if id = source then [] else bytes) := by
  by_cases same : id = source
  · subst same
    rw [if_pos rfl]
    rw [contentOf] at held
    rw [truncate]
    split
    · next stored => exact contentOf_of_file (by rw [content?_replace stored, if_pos rfl])
    · next stored => exact contentOf_of_file (by rw [content?_replace stored, if_pos rfl])
    · next noFile noProgram =>
      split at held
      · next stored => exact absurd stored (noFile _)
      · next stored => exact absurd stored (noProgram _)
      · next stored => rw [contentOf, stored]
      · cases held
      · cases held
  · rw [if_neg same, truncate]
    split
    · next stored => rwa [contentOf, content?_replace stored, if_neg (Ne.symm same)]
    · next stored => rwa [contentOf, content?_replace stored, if_neg (Ne.symm same)]
    · exact held

theorem ne_fresh_of_contentOf : source ≠ fs.fresh := by
  rintro rfl
  rw [contentOf, content?, node?_fresh] at held
  cases held

theorem contentOf_insert {entries : List (String × Nat)} (node : Node)
    (h : fs.content? d = some (.directory entries)) :
    (fs.insert d name node).1.contentOf source = .ok bytes := by
  have noDirectory : source ≠ d := by
    rintro rfl
    rw [contentOf, h] at held
    cases held
  rwa [contentOf, content?_insert node h, if_neg (ne_fresh_of_contentOf held),
    if_neg noDirectory]

theorem create_eq_iff (h : fs.create path = .ok (fs', id)) :
    id = source ↔ fs.find path = .ok source := by
  obtain ⟨found, -⟩ | ⟨nothing, d, name, entries, -, inserted⟩ := create_cases h
  · rw [found, Except.ok.injEq]
  · have new : id = fs.fresh := (congrArg Prod.snd inserted).symm
    rw [nothing, new]
    exact iff_of_false (ne_fresh_of_contentOf held).symm nofun

/-- Making a file takes the bytes of the one that is there, and of no other one. -/
theorem contentOf_create (h : fs.create path = .ok (fs', id)) :
    fs'.contentOf source = .ok (if id = source then [] else bytes) := by
  obtain ⟨-, rfl⟩ | ⟨-, d, name, entries, stored, inserted⟩ := create_cases h
  · exact contentOf_truncate held id
  · have kept : (fs.insert d name (.ofBytes [] false)).1.contentOf source = .ok bytes :=
      contentOf_insert held _ stored
    have new : id = fs.fresh := (congrArg Prod.snd inserted).symm
    rw [inserted] at kept
    rwa [new, if_neg (ne_fresh_of_contentOf held).symm]

end Other

theorem contentOf_append {source : Nat} {bytes : Bytes} (h : id ≠ source ∨ bytes = []) :
    (fs.append id bytes).contentOf source = fs.contentOf source := by
  rw [append]
  split
  · next old stored =>
    rw [contentOf, content?_replace stored, contentOf]
    split_ifs with same
    · obtain rfl : bytes = [] := h.resolve_left (not_not_intro same.symm)
      rw [same, stored, List.append_nil]
    · rfl
  · rfl

theorem content?_ne_device_of_isFile (hfile : fs.isFile path = true)
    (hfind : fs.find path = .ok id) (device : Device) :
    fs.content? id ≠ some (.device device) := by
  intro hdevice
  rw [isFile, hfind] at hfile
  simp [Except.toOption, hdevice] at hfile

end BoardRig.FileSystem

namespace BoardRig

/-! ## Files in a world

The same for a world that holds a table: reading and writing it back are assumed
to be a lens. -/

theorem Action.ofIo_eq_ok_iff {σ α : Type} {act : StateM σ (Except IoError α)} {a : α} {s s' : σ} :
    Action.ofIo act s = (.ok a, s') ↔ act s = (.ok a, s') := by
  rw [Action.ofIo]
  rcases act s with ⟨e | b, s₁⟩
  · exact ⟨fun h => (nomatch h), fun h => (nomatch h)⟩
  · exact ⟨fun h => by cases h; rfl, fun h => by cases h; rfl⟩

namespace Files

variable {σ : Type} {get : σ → FileSystem} {set : FileSystem → σ → σ} {directory path : String}
  {id : Nat} {bytes : Bytes} {s s' s'' : σ}

theorem changing_eq_ok {α : Type} {change : FileSystem → Except IoError (FileSystem × α)} {a : α}
    (h : changing get set change s = (.ok a, s')) :
    ∃ fs, change (get s) = .ok (fs, a) ∧ s' = set fs s := by
  rw [changing] at h
  split at h
  · next fs b hchange =>
    cases h
    exact ⟨fs, hchange, rfl⟩
  · cases h

theorem changing_of_ok {α : Type} {change : FileSystem → Except IoError (FileSystem × α)} {a : α}
    {fs : FileSystem} (h : change (get s) = .ok (fs, a)) :
    changing get set change s = (.ok a, set fs s) := by
  rw [changing, h]

theorem changing_of_error {α : Type} {change : FileSystem → Except IoError (FileSystem × α)}
    {cause : IoError} (h : change (get s) = .error cause) :
    changing get set change s = (.error cause, s) := by
  rw [changing, h]

theorem create_eq : (ofFileSystem get set directory).create path
    = changing get set (·.create (within directory path)) := rfl

theorem create_of_find (closed : FileSystem.endsInSlash (within directory path) = false)
    (found : (get s).find (within directory path) = .ok id)
    (hfile : (get s).content? id = some (.file bytes)) :
    (ofFileSystem get set directory).create path s = (.ok id, set ((get s).truncate id) s) := by
  rw [create_eq]
  exact changing_of_ok (FileSystem.create_of_find closed found hfile)

section BelowRoot

variable {name : String} (h : FileSystem.BelowRoot (within directory path) name)
  (hentry : FileSystem.entry? (get s) FileSystem.root name = some id)
  (hfile : (get s).content? id = some (.file bytes))

include h hentry hfile

theorem read_of_belowRoot :
    (ofFileSystem get set directory).read path s = (.ok bytes, s) := by
  have read : (get s).read (within directory path) = .ok bytes := by
    rw [FileSystem.read, h.find hentry (FileSystem.isEnd_of_file hfile)]
    change (get s).contentOf id = _
    rw [FileSystem.contentOf, hfile]
  exact congrArg (·, s) read

theorem create_of_belowRoot :
    (ofFileSystem get set directory).create path s = (.ok id, set ((get s).truncate id) s) :=
  create_of_find h.closed (h.find hentry (FileSystem.isEnd_of_file hfile)) hfile

theorem isFile_of_belowRoot : (get s).isFile (within directory path) = true := by
  rw [FileSystem.isFile, h.find hentry (FileSystem.isEnd_of_file hfile)]
  simp [Except.toOption, hfile]

end BelowRoot

theorem append_of_refusal {cause : IoError} (h : (get s).refusal? id = some cause) :
    (ofFileSystem get set directory).append id bytes s = (.error cause, s) := by
  dsimp only [ofFileSystem]
  exact changing_of_error (by rw [h])

theorem append_of_takes (h : (get s).refusal? id = none) :
    (ofFileSystem get set directory).append id bytes s
      = (.ok (), set ((get s).append id bytes) s) := by
  dsimp only [ofFileSystem]
  exact changing_of_ok (by rw [h])

theorem append_eq_ok (h : (ofFileSystem get set directory).append id bytes s = (.ok (), s')) :
    s' = set ((get s).append id bytes) s := by
  cases hrefusal : (get s).refusal? id with
  | some e =>
      rw [append_of_refusal hrefusal] at h
      cases h
  | none =>
      rw [append_of_takes hrefusal] at h
      exact (Prod.mk.inj h).2.symm

theorem stores_of_create_append (lens : ∀ fs s, get (set fs s) = fs)
    (made : (ofFileSystem get set directory).create path s = (.ok id, s'))
    (written : (ofFileSystem get set directory).append id bytes s' = (.ok (), s'')) :
    (get s'').Stores (within directory path) bytes ∨
      ∃ device, (get s'').find (within directory path) = .ok id ∧
        (get s'').content? id = some (.device device) := by
  rw [create_eq] at made
  obtain ⟨fs, hcreate, rfl⟩ := changing_eq_ok made
  obtain ⟨hfind, blank⟩ := FileSystem.create_ok hcreate
  rw [append_eq_ok written, lens, lens]
  exact FileSystem.append_of_isBlank bytes hfind blank

/-- What is made in a world is a file that was there just if the path led to it; that one
has lost its bytes, and every other one has them. -/
theorem contentOf_of_create {source : Nat} (lens : ∀ fs s, get (set fs s) = fs)
    (held : (get s).contentOf source = .ok bytes)
    (made : (ofFileSystem get set directory).create path s = (.ok id, s')) :
    (id = source ↔ (get s).find (within directory path) = .ok source) ∧
      (get s').contentOf source = .ok (if id = source then [] else bytes) := by
  rw [create_eq] at made
  obtain ⟨fs, created, rfl⟩ := changing_eq_ok made
  rw [lens]
  exact ⟨FileSystem.create_eq_iff held created, FileSystem.contentOf_create held created⟩

theorem not_device_of_sync (synced : (ofFileSystem get set directory).sync id s = (.ok (), s')) :
    s' = s ∧ ∀ device, (get s).content? id ≠ some (.device device) := by
  simp only [ofFileSystem, looking] at synced
  obtain ⟨hlook, rfl⟩ := Prod.mk.inj synced
  refine ⟨rfl, fun device hdevice => ?_⟩
  rw [FileSystem.syncRefusal?, hdevice] at hlook
  cases hlook

theorem stores_of_sync (lens : ∀ fs s, get (set fs s) = fs) {after : σ}
    (made : (ofFileSystem get set directory).create path s = (.ok id, s'))
    (written : (ofFileSystem get set directory).append id bytes s' = (.ok (), s''))
    (synced : (ofFileSystem get set directory).sync id s'' = (.ok (), after)) :
    after = s'' ∧ (get s'').Stores (within directory path) bytes := by
  obtain ⟨rfl, noDevice⟩ := not_device_of_sync synced
  obtain stores | ⟨device, -, stored⟩ := stores_of_create_append lens made written
  · exact ⟨rfl, stores⟩
  · exact absurd stored (noDevice device)

end Files

end BoardRig
