/-
# `BoardRig.Proofs.Storage.Walk` — a walk with a stack is the preorder

A walk takes the device on top of its stack and puts the children of that device
there instead, the last of them first.  What the stack stands for is the preorder of
its devices from the top down, and a visit takes the first device off it
(`stillAhead_of_visit?`).  So after `k` visits just the first `k` devices of the
preorder are gone (`stillAhead_stackAfter`), and the walk is over when all of them are.

Devices may look the same, so that a device is known by its place: the number
of its tree, then the number of a child, and so on (`at?`).  Places in the order of
a dictionary put parents before their children and siblings in order.  The preorder is
the list of all devices in that order of their places (`located`), and so a search for a
label ends at the smallest place with it (`findLabelled?_eq_some_iff`).
-/
import BoardRig.Proofs.Occurrence
import BoardRig.Storage.BlockDevice
import Mathlib.Data.List.Pairwise
import Mathlib.Order.Defs.LinearOrder

namespace BoardRig.BlockDevice

variable {d : BlockDevice} {forest roots : List BlockDevice} {stack rest : Array BlockDevice}
  {label : String}

/-! ## Preorder

Trees and forests are defined together, and one induction on forests serves both. -/

/-- A property of forests holds when it passes on from what stands on the first
device, and from the other trees. -/
@[elab_as_elim]
theorem forest_induct {motive : List BlockDevice → Prop} (nil : motive [])
    (cons : ∀ d rest, motive d.children → motive rest → motive (d :: rest)) :
    ∀ forest, motive forest
  | [] => nil
  | d :: rest => cons d rest (forest_induct nil cons d.children) (forest_induct nil cons rest)
termination_by forest => sizeAll forest
decreasing_by all_goals simp only [sizeAll, size_eq]; omega

theorem preorderAll_append (a b : List BlockDevice) :
    preorderAll (a ++ b) = preorderAll a ++ preorderAll b := by
  induction a with
  | nil => rw [preorderAll, List.nil_append, List.nil_append]
  | cons d rest ih => rw [List.cons_append, preorderAll, preorderAll, ih, List.append_assoc]

theorem preorder_eq (d : BlockDevice) : preorder d = d :: preorderAll d.children := by
  cases d
  rw [preorder, children]

theorem preorderAll_cons (d : BlockDevice) (rest : List BlockDevice) :
    preorderAll (d :: rest) = d :: (preorderAll d.children ++ preorderAll rest) := by
  rw [preorderAll, preorder_eq, List.cons_append]

theorem length_preorderAll (forest : List BlockDevice) :
    (preorderAll forest).length = sizeAll forest := by
  induction forest using forest_induct with
  | nil => rfl
  | cons d rest below ih =>
      rw [preorderAll_cons, List.length_cons, List.length_append, below, ih, sizeAll, size_eq]
      omega

/-! ## Visits

What a stack stands for loses its first device with every visit.  This invariant
makes the walk the preorder. -/

/-- The devices that a stack stands for, in the order in which they are to be visited. -/
def stillAhead (stack : Array BlockDevice) : List BlockDevice :=
  preorderAll stack.toList.reverse

theorem stillAhead_of_visit? (h : visit? stack = some (d, rest)) :
    stillAhead stack = d :: stillAhead rest := by
  obtain ⟨below, hstack, hrest⟩ := toList_of_visit? h
  rw [stillAhead, stillAhead, hstack, hrest, List.reverse_append, List.reverse_append,
    List.reverse_reverse, List.reverse_singleton, List.singleton_append, preorderAll_cons,
    preorderAll_append]

theorem stillAhead_of_visit?_eq_none (h : visit? stack = none) : stillAhead stack = [] := by
  rw [visit?, Option.map_eq_none_iff, Array.back?_eq_none_iff] at h
  rw [h]
  rfl

theorem walkFrom_eq_preorderAll (stack : Array BlockDevice) :
    walkFrom stack = preorderAll stack.toList.reverse := by
  change walkFrom stack = stillAhead stack
  induction stack using walkFrom.induct with
  | case1 stack h =>
      rw [walkFrom, stillAhead_of_visit?_eq_none h]
      split
      · rfl
      · next h' => cases h.symm.trans h'
  | case2 stack d rest h ih =>
      rw [walkFrom, stillAhead_of_visit? h]
      split
      · next h' => cases h.symm.trans h'
      · next h' =>
        cases h.symm.trans h'
        rw [ih]

theorem walk_eq_preorderAll (roots : List BlockDevice) : walk roots = preorderAll roots := by
  rw [walk, walkFrom_eq_preorderAll, List.reverse_reverse]

/-! ## Walks, visit by visit

The stack after some visits, so that a walk which is broken off is covered too. -/

/-- The stack of a walk after some visits. A walk that is over stays over. -/
def stackAfter (roots : List BlockDevice) : Nat → Array BlockDevice
  | 0 => roots.reverse.toArray
  | k + 1 =>
    match visit? (stackAfter roots k) with
    | some (_, rest) => rest
    | none => stackAfter roots k

theorem stillAhead_stackAfter (roots : List BlockDevice) (k : Nat) :
    stillAhead (stackAfter roots k) = (preorderAll roots).drop k := by
  induction k with
  | zero => rw [stackAfter, stillAhead, List.reverse_reverse, List.drop_zero]
  | succ k ih =>
      rw [stackAfter, ← List.drop_drop, ← ih]
      cases h : visit? (stackAfter roots k) with
      | none => rw [stillAhead_of_visit?_eq_none h, List.drop_nil]
      | some visit =>
          rw [stillAhead_of_visit? h]
          rfl

/-- The visits of a walk give the devices of the preorder, one by one, and then none. -/
theorem visit?_stackAfter (roots : List BlockDevice) (k : Nat) :
    (visit? (stackAfter roots k)).map Prod.fst = (preorderAll roots)[k]? := by
  rw [← List.head?_drop, ← stillAhead_stackAfter]
  cases h : visit? (stackAfter roots k) with
  | none => rw [stillAhead_of_visit?_eq_none h]; rfl
  | some visit => rw [stillAhead_of_visit? h]; rfl

/-! ## Places

A device and its place go together through the preorder; places grow from one to
the next in the order of a dictionary. -/

/-- The device at a place: the first number chooses a tree of the forest, and the others
go on from there among the children. -/
def at? (forest : List BlockDevice) : List Nat → Option BlockDevice
  | [] => none
  | i :: way => forest[i]?.bind fun d => if way.isEmpty then some d else at? d.children way

/-- The devices of a forest with their places, when its trees are numbered from `first`
on. -/
def located (first : Nat) (forest : List BlockDevice) : List (List Nat × BlockDevice) :=
  match forest with
  | [] => []
  | d :: rest =>
    ([first], d) :: ((located 0 d.children).map fun (way, e) => (first :: way, e)) ++
      located (first + 1) rest
termination_by sizeAll forest
decreasing_by all_goals simp only [sizeAll, size_eq]; omega

theorem located_cons (first : Nat) (d : BlockDevice) (rest : List BlockDevice) :
    located first (d :: rest) =
      ([first], d) :: ((located 0 d.children).map fun (way, e) => (first :: way, e)) ++
        located (first + 1) rest := by
  rw [located]

theorem map_snd_located (first : Nat) (forest : List BlockDevice) :
    (located first forest).map Prod.snd = preorderAll forest := by
  induction forest using forest_induct generalizing first with
  | nil => rw [located, preorderAll, List.map_nil]
  | cons d rest below ih =>
      rw [located_cons, preorderAll_cons, List.cons_append, List.map_cons, List.map_append,
        List.map_map, ih, ← below 0]
      rfl

theorem mem_located_iff {first : Nat} {place : List Nat} {e : BlockDevice} :
    (place, e) ∈ located first forest ↔
      ∃ i way, place = (first + i) :: way ∧ at? forest (i :: way) = some e := by
  induction forest using forest_induct generalizing first place e with
  | nil => simp [located, at?]
  | cons d rest below ih =>
      rw [located_cons, List.cons_append, List.mem_cons, List.mem_append, List.mem_map, ih]
      constructor
      · rintro (h | ⟨⟨way, e⟩, hway, h⟩ | ⟨i, way, rfl, h⟩)
        · cases h
          exact ⟨0, [], rfl, rfl⟩
        · cases h
          obtain ⟨i, way, rfl, h⟩ := below.mp hway
          exact ⟨0, (0 + i) :: way, rfl, by rwa [Nat.zero_add]⟩
        · exact ⟨i + 1, way, by rw [Nat.add_assoc, Nat.add_comm 1], h⟩
      · rintro ⟨i, way, rfl, h⟩
        cases i with
        | succ i => exact .inr (.inr ⟨i, way, by rw [Nat.add_assoc, Nat.add_comm 1], h⟩)
        | zero =>
            cases way with
            | nil => exact .inl (by cases h; rfl)
            | cons j way =>
                refine .inr (.inl ⟨(j :: way, e), below.mpr ⟨j, way, ?_, h⟩, rfl⟩)
                rw [Nat.zero_add]

theorem mem_located {place : List Nat} {e : BlockDevice} :
    (place, e) ∈ located 0 roots ↔ at? roots place = some e := by
  rw [mem_located_iff]
  constructor
  · rintro ⟨i, way, rfl, h⟩
    rwa [Nat.zero_add]
  · intro h
    cases place with
    | nil => cases h
    | cons i way => exact ⟨i, way, by rw [Nat.zero_add], h⟩

theorem pairwise_located (first : Nat) (forest : List BlockDevice) :
    (located first forest).Pairwise fun v w => v.1 < w.1 := by
  induction forest using forest_induct generalizing first with
  | nil => rw [located]; exact .nil
  | cons d rest below ih =>
      -- Whatever stands on the first device has its number in front, and the other trees
      -- have greater ones.
      have later : ∀ w ∈ located (first + 1) rest, ∀ way, first :: way < w.1 := by
        rintro ⟨place, e⟩ hw way
        obtain ⟨i, way', rfl, -⟩ := mem_located_iff.mp hw
        exact List.cons_lt_cons_iff.mpr (.inl (by omega))
      rw [located_cons, List.cons_append, List.pairwise_cons, List.pairwise_append]
      refine ⟨?_, ?_, ih (first + 1), ?_⟩
      · intro w hw
        obtain hw | hw := List.mem_append.mp hw
        · obtain ⟨⟨way, e⟩, hway, rfl⟩ := List.mem_map.mp hw
          obtain ⟨i, way, rfl, -⟩ := mem_located_iff.mp hway
          exact List.cons_lt_cons_iff.mpr (.inr ⟨rfl, List.nil_lt_cons _ _⟩)
        · exact later w hw []
      · refine List.pairwise_map.mpr ((below 0).imp fun hlt => ?_)
        exact List.cons_lt_cons_iff.mpr (.inr ⟨rfl, hlt⟩)
      · intro v hv w hw
        obtain ⟨⟨way, e⟩, -, rfl⟩ := List.mem_map.mp hv
        exact later w hw way

/-! ## Searches

The first device with a label is the one at the least place, as the order of the
walk is that of places. -/

/-- A search for a label ends at the smallest place where a device has it. -/
theorem findLabelled?_eq_some_iff :
    findLabelled? label roots = some d ↔
      ∃ place, at? roots place = some d ∧ d.label = some label ∧
        ∀ place' < place, ∀ e, at? roots place' = some e → e.label ≠ some label := by
  rw [findLabelled?, walk_eq_preorderAll, ← map_snd_located 0, List.find?_map,
    Option.map_eq_some_iff]
  have sorted := pairwise_located 0 roots
  constructor
  · rintro ⟨⟨place, e⟩, hfind, rfl⟩
    obtain ⟨before, after, hsplit, holds, none⟩ :=
      (find?_eq_some_iff_isFirst fun _ => beq_iff_eq).mp hfind
    refine ⟨place, mem_located.mp (hsplit ▸ by simp), holds, fun place' hlt f hf => ?_⟩
    have hmem := mem_located.mpr hf
    rw [hsplit] at hmem sorted
    obtain hmem | hmem := List.mem_append.mp hmem
    · exact none _ hmem
    · obtain hsame | hafter := List.mem_cons.mp hmem
      · cases hsame
        exact absurd hlt (List.lt_irrefl _)
      · have hgt := List.rel_of_pairwise_cons (List.pairwise_append.mp sorted).2.1 hafter
        exact absurd (List.lt_trans hlt hgt) (List.lt_irrefl _)
  · rintro ⟨place, hplace, holds, smallest⟩
    obtain ⟨before, after, hsplit⟩ := List.append_of_mem (mem_located.mpr hplace)
    refine ⟨(place, d), ?_, rfl⟩
    refine (find?_eq_some_iff_isFirst fun _ => beq_iff_eq).mpr ⟨before, after, hsplit, holds, ?_⟩
    rintro ⟨place', e⟩ hbefore
    have hlt := (List.pairwise_append.mp (hsplit ▸ sorted)).2.2 _ hbefore _ List.mem_cons_self
    exact smallest place' hlt e (mem_located.mp (hsplit ▸ List.mem_append_left _ hbefore))

theorem findLabelled?_eq_none_iff :
    findLabelled? label roots = none ↔
      ∀ place e, at? roots place = some e → e.label ≠ some label := by
  rw [findLabelled?, walk_eq_preorderAll, ← map_snd_located 0, List.find?_map,
    Option.map_eq_none_iff, List.find?_eq_none]
  constructor
  · intro none place e he hlabel
    exact none (place, e) (mem_located.mpr he) (beq_iff_eq.mpr hlabel)
  · rintro none ⟨place, e⟩ hmem hlabel
    exact none place e (mem_located.mp hmem) (beq_iff_eq.mp hlabel)

/-- The walk with its stack is the preorder: it visits the device at each place of the
forest once, in the order of the places, one with each visit until the stack is empty.
So a search for a label finds a device if any place has one with it, and then the one at
the smallest of these places. -/
theorem walk_in_order_of_places (roots : List BlockDevice) :
    walk roots = preorderAll roots ∧
      (∃ visits : List (List Nat × BlockDevice), visits.map Prod.snd = walk roots ∧
        (∀ place d, (place, d) ∈ visits ↔ at? roots place = some d) ∧
        visits.Pairwise fun v w => v.1 < w.1) ∧
      (∀ k, (visit? (stackAfter roots k)).map Prod.fst = (preorderAll roots)[k]? ∧
        (visit? (stackAfter roots k) = none ↔ sizeAll roots ≤ k)) ∧
      ∀ label,
        (findLabelled? label roots = none ↔
          ∀ place d, at? roots place = some d → d.label ≠ some label) ∧
        ∀ d, findLabelled? label roots = some d ↔
          ∃ place, at? roots place = some d ∧ d.label = some label ∧
            ∀ place' < place, ∀ e, at? roots place' = some e → e.label ≠ some label := by
  refine ⟨walk_eq_preorderAll roots, ⟨located 0 roots, ?_, fun _ _ => mem_located, ?_⟩,
    fun k => ⟨visit?_stackAfter roots k, ?_⟩, fun label => ⟨?_, fun d => ?_⟩⟩
  · rw [map_snd_located, walk_eq_preorderAll]
  · exact pairwise_located 0 roots
  · rw [← length_preorderAll, ← List.getElem?_eq_none_iff, ← visit?_stackAfter,
      Option.map_eq_none_iff]
  · exact findLabelled?_eq_none_iff
  · exact findLabelled?_eq_some_iff

end BoardRig.BlockDevice
