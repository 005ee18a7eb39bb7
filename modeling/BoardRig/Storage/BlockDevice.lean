/-
Block devices and what stands on them.

Devices form a forest: a disk has partitions, and further devices may stand
on these. A walk visits every device once, parents before their children and
siblings in order. It keeps the devices still to be visited on a stack, onto
which the children of a device go in reverse; `preorder` gives the same order
by recursion over the forest.
-/
import BoardRig.Path

namespace BoardRig

/-- A block device with the devices that stand on it. -/
inductive BlockDevice where
  | mk (name : String) (label : Option String) (mountPoint : Option String)
    (mountPoints : List (Option String)) (children : List BlockDevice)
deriving Inhabited

namespace BlockDevice

def name : BlockDevice → String
  | mk name _ _ _ _ => name

def label : BlockDevice → Option String
  | mk _ label _ _ _ => label

/-- The one mount point that older listings report. -/
def singleMountPoint : BlockDevice → Option String
  | mk _ _ mountPoint _ _ => mountPoint

/-- The mount points that newer listings report. -/
def manyMountPoints : BlockDevice → List (Option String)
  | mk _ _ _ mountPoints _ => mountPoints

def children : BlockDevice → List BlockDevice
  | mk _ _ _ _ children => children

/-- Where the device is mounted: the first mount point reported that is not
empty. -/
def mountPoint? (d : BlockDevice) : Option String :=
  ((d.singleMountPoint :: d.manyMountPoints).filterMap id).find? (· != "")

def path (d : BlockDevice) : String :=
  if Path.isAbsolute d.name then d.name else Path.join "/dev" d.name

/-! ## Walking a forest -/

mutual

def size : BlockDevice → Nat
  | mk _ _ _ _ children => sizeAll children + 1

def sizeAll : List BlockDevice → Nat
  | [] => 0
  | d :: rest => size d + sizeAll rest

end

theorem sizeAll_append (a b : List BlockDevice) : sizeAll (a ++ b) = sizeAll a + sizeAll b := by
  induction a with
  | nil => simp [sizeAll]
  | cons d rest ih => simp [sizeAll, ih, Nat.add_assoc]

theorem sizeAll_reverse (a : List BlockDevice) : sizeAll a.reverse = sizeAll a := by
  induction a with
  | nil => rfl
  | cons d rest ih =>
    rw [List.reverse_cons, sizeAll_append, ih]
    simp [sizeAll, Nat.add_comm]

theorem size_eq (d : BlockDevice) : size d = sizeAll d.children + 1 := by
  cases d
  simp [size, children]

/-- The device on top of a stack, and the stack with its children in its
place, the first of them on top. The top of a stack is its last element. -/
def visit? (stack : Array BlockDevice) : Option (BlockDevice × Array BlockDevice) :=
  stack.back?.map fun d => (d, stack.pop ++ d.children.reverse)

theorem toList_of_visit? {stack rest : Array BlockDevice} {d : BlockDevice}
    (h : visit? stack = some (d, rest)) :
    ∃ below, stack.toList = below ++ [d] ∧ rest.toList = below ++ d.children.reverse := by
  obtain ⟨top, htop, hrest⟩ := Option.map_eq_some_iff.mp h
  cases hrest
  obtain ⟨below, rfl⟩ := Array.back?_eq_some_iff.mp htop
  exact ⟨below.toList, by simp, by simp⟩

theorem sizeAll_of_visit? {stack rest : Array BlockDevice} {d : BlockDevice}
    (h : visit? stack = some (d, rest)) : sizeAll rest.toList < sizeAll stack.toList := by
  obtain ⟨below, hstack, hrest⟩ := toList_of_visit? h
  rw [hstack, hrest, sizeAll_append, sizeAll_append, sizeAll_reverse]
  simp only [sizeAll, size_eq]
  omega

/-- The devices in the order of the walk, where the stack holds those still
to be visited. -/
def walkFrom (stack : Array BlockDevice) : List BlockDevice :=
  match _h : visit? stack with
  | none => []
  | some (d, rest) => d :: walkFrom rest
termination_by sizeAll stack.toList
decreasing_by exact sizeAll_of_visit? _h

/-- Every device of a forest, parents before their children. -/
def walk (roots : List BlockDevice) : List BlockDevice :=
  walkFrom roots.reverse.toArray

mutual

/-- A device and then, tree by tree, what stands on it. -/
def preorder : BlockDevice → List BlockDevice
  | mk name label mountPoint mountPoints children =>
    mk name label mountPoint mountPoints children :: preorderAll children

/-- The devices of a forest, tree by tree. -/
def preorderAll : List BlockDevice → List BlockDevice
  | [] => []
  | d :: rest => preorder d ++ preorderAll rest

end

def findLabelled? (label : String) (roots : List BlockDevice) : Option BlockDevice :=
  (walk roots).find? (·.label == some label)

end BlockDevice

end BoardRig
