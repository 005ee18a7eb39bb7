/-
# `BoardRig.Proofs.Path` — where a joined path leads

A path is split at its slashes, and splitting at one slash more makes two
splits of one (`Text.splitFrom_append`).  So the parts of a directory joined
with the last name of some path are those of the directory and that name
(`Path.parts_join`): the joined path leads right into the directory.
-/
import BoardRig.Path
import Mathlib.Data.List.Basic

namespace BoardRig

namespace Text

variable {sep : Char}

theorem splitFrom_append (piece a b : List Char) :
    splitFrom sep piece (a ++ sep :: b) = splitFrom sep piece a ++ split sep b := by
  induction a generalizing piece with
  | nil =>
      rw [List.nil_append, splitFrom, splitFrom, if_pos rfl]
      rfl
  | cons c cs ih =>
      rw [List.cons_append, splitFrom, splitFrom]
      split
      · rw [ih, List.cons_append]
      · rw [ih]

theorem splitFrom_of_not_mem (piece : List Char) {cs : List Char} (h : sep ∉ cs) :
    splitFrom sep piece cs = [piece.reverse ++ cs] := by
  induction cs generalizing piece with
  | nil => rw [splitFrom, List.append_nil]
  | cons c cs ih =>
      obtain ⟨hc, hcs⟩ := List.ne_and_not_mem_of_not_mem_cons h
      rw [splitFrom, if_neg hc.symm, ih _ hcs, List.reverse_cons, List.append_assoc,
        List.singleton_append]

theorem not_mem_of_mem_splitFrom {piece cs part : List Char} (hpiece : sep ∉ piece)
    (h : part ∈ splitFrom sep piece cs) : sep ∉ part := by
  induction cs generalizing piece with
  | nil =>
      obtain rfl : part = piece.reverse := List.mem_singleton.mp h
      rwa [List.mem_reverse]
  | cons c cs ih =>
      rw [splitFrom] at h
      split at h
      · obtain rfl | h := List.mem_cons.mp h
        · rwa [List.mem_reverse]
        · exact ih List.not_mem_nil h
      · next hc => exact ih (List.not_mem_cons_of_ne_of_not_mem (Ne.symm hc) hpiece) h

end Text

namespace Path

/-- The parts of a text between its slashes that name something. -/
def partsOf (cs : List Char) : List String :=
  ((Text.split '/' cs).map String.ofList).filter fun p => p != "" && p != "."

theorem parts_eq (path : String) : parts path = partsOf path.toList := rfl

theorem partsOf_nil : partsOf [] = [] := rfl

theorem partsOf_append_slash (a b : List Char) :
    partsOf (a ++ '/' :: b) = partsOf a ++ partsOf b := by
  rw [partsOf, Text.split, Text.splitFrom_append, List.map_append, List.filter_append]
  rfl

/-! ## Names

A name has no slash and is not empty, so joining it to a directory adds one part.
It may still be `..`, which leads out of the directory again. -/

/-- A name of something in a directory. -/
structure IsName (name : String) : Prop where
  noSlash : '/' ∉ name.toList
  ne_empty : name ≠ ""
  ne_dot : name ≠ "."

instance (name : String) : Decidable (IsName name) :=
  decidable_of_iff ('/' ∉ name.toList ∧ name ≠ "" ∧ name ≠ ".")
    ⟨fun ⟨noSlash, ne_empty, ne_dot⟩ => ⟨noSlash, ne_empty, ne_dot⟩,
    fun h => ⟨h.noSlash, h.ne_empty, h.ne_dot⟩⟩

variable {name : String}

theorem IsName.partsOf (h : IsName name) : partsOf name.toList = [name] := by
  rw [Path.partsOf, Text.split, Text.splitFrom_of_not_mem [] h.noSlash]
  simp [h.ne_empty, h.ne_dot]

theorem IsName.not_isAbsolute (h : IsName name) : isAbsolute name = false := by
  rw [isAbsolute, beq_eq_false_iff_ne]
  exact fun hslash => h.noSlash (List.mem_of_head? hslash)

theorem parts_join (base : String) (h : IsName name) :
    parts (join base name) = parts base ++ [name] := by
  rw [join, if_neg (by rw [h.not_isAbsolute]; exact Bool.false_ne_true)]
  split
  · next hbase =>
    obtain hempty | hslash := Bool.or_eq_true_iff.mp hbase
    · rw [String.isEmpty_iff.mp hempty, String.empty_append, parts_eq, h.partsOf]
      rfl
    · obtain ⟨front, hfront⟩ := List.getLast?_eq_some_iff.mp (beq_iff_eq.mp hslash)
      rw [parts_eq, parts_eq, String.toList_append, hfront, List.append_assoc,
        List.singleton_append, partsOf_append_slash, partsOf_append_slash, partsOf_nil, h.partsOf,
        List.append_nil]
  · rw [parts_eq, parts_eq, String.toList_append, String.toList_append, List.append_assoc]
    change Path.partsOf (base.toList ++ '/' :: name.toList) = _
    rw [partsOf_append_slash, h.partsOf]

/-- A name that does not lead back to the parent is the last name of what it is joined to. -/
theorem fileName?_join (base : String) (h : IsName name) (up : name ≠ "..") :
    fileName? (join base name) = some name := by
  rw [fileName?, parts_join base h, List.getLast?_concat]
  split
  · next back => exact absurd (Option.some.inj back) up
  · rfl

theorem join_inj (base : String) {other : String} (h : IsName name) (h' : IsName other) :
    join base name = join base other ↔ name = other := by
  constructor
  · intro same
    rw [join, join, h.not_isAbsolute, h'.not_isAbsolute, if_neg Bool.false_ne_true,
      if_neg Bool.false_ne_true] at same
    split at same
    · exact (String.append_right_inj _).mp same
    · exact (String.append_right_inj _).mp same
  · exact congrArg (join base)

end Path

end BoardRig
