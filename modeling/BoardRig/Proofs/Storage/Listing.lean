/-
# `BoardRig.Proofs.Storage.Listing` — a forest of devices from any listing of it

A listing gives each device as an object.  Its members stand in any order among others
that nobody knows; what a device has not may be left out, and its mount points stand
under one name, under another one, or under both (`Shows`).  How deep the objects
and arrays lie in each other is bounded, and `room` is what is left of that bound.

Members are looked up by their names, so neither their order nor the others matter
(`fields?_of_present`).  So a value that shows a device is read as one with the same name,
label and mount point, whatever is read of the devices on it (`ofJson?_of_shows`), and by
induction over the listing the whole forest is (`mapM_ofJson?_of_lists`).  The texts of
a document are those of `BoardRig.Proofs.Json.Text`.
-/
import BoardRig.Proofs.Json.Text
import BoardRig.Proofs.Storage.Walk
import BoardRig.Storage.Listing

namespace BoardRig

/-! ## Members

A name is looked up among members that are known to differ, with any others between
them. -/

namespace Json

variable {key : String} {names : List String} {values : List (Option Json)}
  {members extras : List (String × Json)}

/-- The members of a record with these fields: a field that is missing has none. -/
def present (names : List String) (values : List (Option Json)) : List (String × Json) :=
  (names.zip values).filterMap fun (name, value) => value.map (name, ·)

theorem valuesOf_append (key : String) (a b : List (String × Json)) :
    valuesOf key (a ++ b) = valuesOf key a ++ valuesOf key b := by
  rw [valuesOf, List.filter_append, List.map_append]
  rfl

theorem valuesOf_eq_nil (other : ∀ m ∈ members, m.1 ≠ key) : valuesOf key members = [] := by
  rw [valuesOf, List.map_eq_nil_iff, List.filter_eq_nil_iff]
  exact fun m hm => by simpa using other m hm

theorem present_cons (name : String) (names : List String) (value : Option Json)
    (values : List (Option Json)) :
    present (name :: names) (value :: values)
      = (value.map (name, ·)).toList ++ present names values := by
  cases value <;> rfl

theorem mem_names_of_mem_present {m : String × Json} (h : m ∈ present names values) :
    m.1 ∈ names := by
  obtain ⟨⟨name, value⟩, hzip, hm⟩ := List.mem_filterMap.mp h
  obtain ⟨j, -, rfl⟩ := Option.map_eq_some_iff.mp hm
  exact (List.of_mem_zip hzip).1

theorem valuesOf_present {name : String} {value : Option Json} (nodup : names.Nodup)
    (h : (name, value) ∈ names.zip values) :
    valuesOf name (present names values) = value.toList := by
  induction names generalizing values with
  | nil => cases h
  | cons first names ih =>
      obtain ⟨fresh, nodup⟩ := List.nodup_cons.mp nodup
      cases values with
      | nil => cases h
      | cons v values =>
          rw [present_cons, valuesOf_append]
          obtain equal | later := List.mem_cons.mp h
          · obtain ⟨rfl, rfl⟩ := Prod.mk.inj equal
            have none : valuesOf name (present names values) = [] :=
              valuesOf_eq_nil fun m hm heq => fresh (heq ▸ mem_names_of_mem_present hm)
            rw [none, List.append_nil]
            cases value <;> simp [valuesOf]
          · have other : first ≠ name := by
              rintro rfl
              exact fresh (List.of_mem_zip later).1
            have none : valuesOf name ((v.map (first, ·)).toList) = [] := by
              cases v <;> simp [valuesOf, other]
            rw [none, List.nil_append, ih nodup later]

theorem atMostOne?_of_present {name : String} {value : Option Json} (nodup : names.Nodup)
    (unknown : ∀ m ∈ extras, m.1 ∉ names) (order : members.Perm (present names values ++ extras))
    (h : (name, value) ∈ names.zip values) : atMostOne? name members = some value := by
  have strangers : valuesOf name extras = [] :=
    valuesOf_eq_nil fun m hm heq => unknown m hm (heq ▸ (List.of_mem_zip h).1)
  have same : (valuesOf name members).Perm value.toList := by
    rw [← valuesOf_present nodup h, ← List.append_nil (valuesOf name (present names values)),
      ← strangers, ← valuesOf_append]
    exact (order.filter _).map _
  rw [atMostOne?]
  cases value with
  | none => rw [List.perm_nil.mp same]
  | some j => rw [List.perm_singleton.mp same]

theorem mapM_eq_some_of_zip {f : String → Option (Option Json)}
    (length : names.length = values.length)
    (found : ∀ name value, (name, value) ∈ names.zip values → f name = some value) :
    names.mapM f = some values := by
  induction names generalizing values with
  | nil =>
      obtain rfl := List.eq_nil_of_length_eq_zero length.symm
      rfl
  | cons name names ih =>
      cases values with
      | nil => cases length
      | cons value values =>
          rw [List.mapM_cons, found name value List.mem_cons_self,
            ih (Nat.succ.inj length) fun n v h => found n v (List.mem_cons_of_mem _ h)]
          rfl

theorem fields?_of_present (nodup : names.Nodup) (length : names.length = values.length)
    (unknown : ∀ m ∈ extras, m.1 ∉ names) (order : members.Perm (present names values ++ extras)) :
    (object members).fields? names = some values :=
  mapM_eq_some_of_zip length fun _ _ => atMostOne?_of_present nodup unknown order

end Json

namespace BlockDevice

variable {room : Nat} {d : BlockDevice} {forest below : List BlockDevice} {j : Json}
  {js : List Json} {value : Option Json}

/-! ## Listings

How a forest may be shown.  The relation follows the nesting of the devices, and
`room` goes down by what the reader spends on each level. -/

/-- A field for a text that may be missing: then it is left out, or null. -/
inductive ShowsText : Option String → Option Json → Prop where
  | absent : ShowsText none none
  | null : ShowsText none (some .null)
  | text (t : String) : ShowsText (some t) (some (.string t))

/-- A field for a list: it may be left out if nothing is listed, and it may be an array if
one more may be opened. -/
inductive ShowsList (room : Nat) : List Json → Option Json → Prop where
  | absent : ShowsList room [] none
  | array (opens : 0 < room) (elements : List Json) :
      ShowsList room elements (some (.array elements))

def entry (point : Option String) : Json := point.elim .null .string

/-- The first entry that is not empty is a mount point, or there is none. -/
def Reports (points : List (Option String)) : Option String → Prop
  | some point => IsFirst (fun p => p ≠ none ∧ p ≠ some "") points (some point)
  | none => ∀ p ∈ points, p = none ∨ p = some ""

/-- The value shows the device itself, in which `room` more objects and arrays may be opened,
and lists some values for the devices on it. -/
inductive Shows (room : Nat) (d : BlockDevice) (onIt : List Json) : Json → Prop where
  | object {label single several children : Option Json} {one : Option String}
      {many : List (Option String)} {members extras : List (String × Json)}
      (hlabel : ShowsText d.label label) (hsingle : ShowsText one single)
      (hseveral : ShowsList room (many.map entry) several)
      (reported : Reports (one :: many) d.mountPoint?) (hchildren : ShowsList room onIt children)
      (unknown : ∀ m ∈ extras, m.1 ∉ fieldNames)
      (order : members.Perm
        (Json.present fieldNames [some (.string d.name), label, single, several, children]
          ++ extras)) :
      Shows room d onIt (.object members)

/-- The values list the forest, where `room` more objects and arrays may be opened. -/
inductive Lists : Nat → List BlockDevice → List Json → Prop where
  | nil {room : Nat} : Lists room [] []
  | cons {room : Nat} {d : BlockDevice} {rest : List BlockDevice} {j : Json} {onIt js : List Json}
      (device : Shows room d onIt j) (children : Lists (room - 1) d.children onIt)
      (siblings : Lists (room + 1) rest js) : Lists (room + 1) (d :: rest) (j :: js)

/-- The document lists the forest. -/
inductive Document (forest : List BlockDevice) : Json → Prop where
  | object {devices : Option Json} {js : List Json} {members extras : List (String × Json)}
      (listed : Lists (Json.nestingLimit - 1 - 1) forest js)
      (shown : ShowsList (Json.nestingLimit - 1) js devices)
      (unknown : ∀ m ∈ extras, m.1 ∉ ["blockdevices"])
      (order : members.Perm (Json.present ["blockdevices"] [devices] ++ extras)) :
      Document forest (.object members)

/-- The text is a listing of the forest, with space around it. -/
inductive IsListing (forest : List BlockDevice) (text : String) : Prop where
  | text {j : Json} {ws cs ws' : List Char} (document : Document forest j)
      (written : Json.Writes (.value j) cs) (before : Json.IsBlank ws) (after : Json.IsBlank ws')
      (characters : text.toList = ws ++ (cs ++ ws')) : IsListing forest text

/-- What is told of a device: its name, its label and where it is mounted. -/
def told (d : BlockDevice) : String × Option String × Option String :=
  (d.name, d.label, d.mountPoint?)

/-! ## Reading them

The induction is over the listing.  A device with its children is one step of it,
and the members that show them have been taken apart before. -/

theorem field?_of_showsText {t : Option String} (h : ShowsText t value) :
    Json.field? Json.nullableString? none value = some t := by
  cases h <;> rfl

theorem listField?_of_showsList {α : Type} {read : List Json → Option (List α)} {xs : List α}
    (h : ShowsList room js value) (nothing : read [] = some []) (all : read js = some xs) :
    listField? room read value = some xs := by
  cases h with
  | absent => rw [listField?, ← nothing, all]
  | array opens =>
      rw [listField?, if_neg (Nat.pos_iff_ne_zero.mp opens)]
      exact all

theorem mapM_entry (many : List (Option String)) :
    (many.map entry).mapM Json.nullableString? = some many := by
  induction many with
  | nil => rfl
  | cons point many ih =>
      rw [List.map_cons, List.mapM_cons, ih]
      cases point <;> rfl

theorem find?_of_reports {points : List (Option String)} {point : Option String}
    (h : Reports points point) : (points.filterMap id).find? (· != "") = point := by
  cases point with
  | none =>
      refine List.find?_eq_none.mpr fun p hp => ?_
      obtain ⟨_, hpoint, rfl⟩ := List.mem_filterMap.mp hp
      obtain none | empty := h _ hpoint
      · cases none
      · simpa using empty
  | some point =>
      obtain ⟨before, after, rfl, ⟨-, given⟩, empty⟩ := h
      have skipped : (before.filterMap id).find? (· != "") = none := by
        refine List.find?_eq_none.mpr fun p hp => ?_
        obtain ⟨_, hpoint, rfl⟩ := List.mem_filterMap.mp hp
        simpa using empty _ hpoint
      rw [List.filterMap_append, List.find?_append, skipped, Option.none_or]
      exact List.find?_cons_of_pos (bne_iff_ne.mpr fun h => given (congrArg some h))

/-- A value that shows a device is read as one of which the same is told, on which stand
the devices that are read of the list. -/
theorem ofJson?_of_shows {onIt : List Json} (device : Shows room d onIt j)
    (children : onIt.mapM (ofJson? (room - 1)) = some below) :
    ∃ e, ofJson? (room + 1) j = some e ∧ told e = told d ∧ e.children = below := by
  obtain @⟨label, single, several, children', one, many, members, extras, hlabel, hsingle, hseveral,
    reported, hchildren, unknown, order⟩ := device
  have mounted : (mk d.name d.label one many below).mountPoint? = d.mountPoint? :=
    find?_of_reports reported
  refine ⟨mk d.name d.label one many below, ?_, ?_, rfl⟩
  · have points : listField? room (·.mapM Json.nullableString?) several = some many :=
      listField?_of_showsList hseveral rfl (mapM_entry many)
    rw [ofJson?, Json.fields?_of_present (by decide) rfl unknown order]
    simp only [field?_of_showsText hlabel, field?_of_showsText hsingle, points]
    cases room with
    | zero =>
        obtain _ | opens := hchildren
        · cases children
          rfl
        · cases opens
    | succ room =>
        have devices : listField? (room + 1) (·.mapM (ofJson? room)) children' = some below :=
          listField?_of_showsList hchildren rfl children
        simp only [devices]
        rfl
  · rw [told, mounted]
    rfl

theorem mapM_ofJson?_of_lists (h : Lists room forest js) :
    ∃ devices, js.mapM (ofJson? room) = some devices ∧
      (preorderAll devices).map told = (preorderAll forest).map told := by
  induction h with
  | nil => exact ⟨[], rfl, rfl⟩
  | cons device _ _ ihBelow ih =>
      obtain ⟨below, readBelow, sameBelow⟩ := ihBelow
      obtain ⟨rest, readRest, sameRest⟩ := ih
      obtain ⟨e, read, same, rfl⟩ := ofJson?_of_shows device readBelow
      refine ⟨e :: rest, ?_, ?_⟩
      · rw [List.mapM_cons, read, readRest]
        rfl
      · rw [preorderAll_cons, preorderAll_cons, List.map_cons, List.map_cons, same,
          List.map_append, List.map_append, sameBelow, sameRest]

theorem ofDocument?_of_document (h : Document forest j) :
    ∃ devices, ofDocument? j = some devices ∧
      (preorderAll devices).map told = (preorderAll forest).map told := by
  obtain ⟨listed, shown, unknown, order⟩ := h
  obtain ⟨devices, read, same⟩ := mapM_ofJson?_of_lists listed
  refine ⟨devices, ?_, same⟩
  rw [ofDocument?, Json.fields?_of_present (by decide) rfl unknown order]
  exact listField?_of_showsList shown rfl read

/-- Every listing of a forest is read, whichever way it gives the mount points, and a walk
over what was read tells just what there is to tell of the forest, in its preorder. -/
theorem walk_of_listing (forest : List BlockDevice) (text : String)
    (listing : IsListing forest text) :
    ∃ devices, parseListing text = .ok devices ∧
      (walk devices).map told = (preorderAll forest).map told := by
  obtain ⟨document, written, before, after, characters⟩ := listing
  obtain ⟨devices, read, same⟩ := ofDocument?_of_document document
  refine ⟨devices, ?_, by rw [walk_eq_preorderAll, same]⟩
  rw [parseListing, characters, Json.parse?_of_writes written before after, Option.bind_some, read]

/-- A device on another one: the mount point of the first stands alone, that of the second
in a list behind a null; the members are in no order, and one is known to nobody. -/
theorem walk_of_listing_of_partition :
    let forest := [mk "sda" none (some "/") [] [mk "sda1" (some "RPI-RP2") (some "/mnt") [] []]]
    let text := "\x7b\"blockdevices\": [\x7b\"ro\":false,\"name\":\"sda\",\"mountpoint\":\"/\"," ++
      "\"children\":[\x7b\"mountpoints\":[null,\"/mnt\"],\"label\":\"RPI-RP2\"," ++
      "\"name\":\"sda1\"\x7d]\x7d]\x7d\n"
    IsListing forest text ∧ ∃ devices, parseListing text = .ok devices ∧
      (walk devices).map told
        = [("sda", none, some "/"), ("sda1", some "RPI-RP2", some "/mnt")] := by
  intro forest text
  -- The text, from the inside out.
  have nothing : Json.IsBlank [] := Json.isBlank_nil
  have string : ∀ t : String, Json.ArePlain t.toList →
      Json.Writes (.value (.string t)) ('"' :: (t.toList ++ ['"'])) :=
    fun t plain => .string (Json.spells_plain plain)
  have pair : ∀ (key : String) (j : Json) (ws cs : List Char),
      Json.ArePlain key.toList → Json.IsBlank ws → Json.Writes (.value j) cs →
      Json.Writes (.member (some key, j))
        ('"' :: (key.toList ++ '"' :: ([] ++ ':' :: (ws ++ cs)))) :=
    fun key j ws cs plain blank value => .pair (Json.spells_plain plain) nothing blank value
  have points : Json.Writes (.value (.array [.null, .string "/mnt"])) _ :=
    .array nothing nothing
      (.element .null nothing nothing (.lastElement (string "/mnt" (by decide))))
  have sda1 : Json.Writes (.value (.object [("mountpoints", .array [.null, .string "/mnt"]),
      ("label", .string "RPI-RP2"), ("name", .string "sda1")])) _ :=
    .object nothing nothing
      (.member (pair "mountpoints" _ [] _ (by decide) nothing points) nothing nothing
        (.member (pair "label" _ [] _ (by decide) nothing (string "RPI-RP2" (by decide)))
          nothing nothing
          (.lastMember (pair "name" _ [] _ (by decide) nothing (string "sda1" (by decide))))))
  have sda := Json.Writes.object nothing nothing
    (.member (pair "ro" _ [] _ (by decide) nothing .false) nothing nothing
      (.member (pair "name" _ [] _ (by decide) nothing (string "sda" (by decide))) nothing nothing
        (.member (pair "mountpoint" _ [] _ (by decide) nothing (string "/" (by decide)))
          nothing nothing
          (.lastMember (pair "children" _ [] _ (by decide) nothing
            (.array nothing nothing (.lastElement sda1)))))))
  have written := Json.Writes.object nothing nothing
    (.lastMember (pair "blockdevices" _ [' '] _ (by decide) (by decide)
      (.array nothing nothing (.lastElement sda))))
  -- What it shows.
  have reversed : ∀ a b c : String × Json, List.Perm [a, b, c] [c, b, a] :=
    fun a b c => List.reverse_perm [c, b, a]
  have onSda1 : Shows 122 (mk "sda1" (some "RPI-RP2") (some "/mnt") [] []) []
      (.object [("mountpoints", .array ([none, some "/mnt"].map entry)),
        ("label", .string "RPI-RP2"), ("name", .string "sda1")]) :=
    .object (.text _) .absent (.array (by decide) _)
      ⟨[none, none], [], rfl, by simp, by simp⟩ .absent (List.forall_mem_nil _) (reversed _ _ _)
  have onSda : ∀ j, Shows 124
      (mk "sda" none (some "/") [] [mk "sda1" (some "RPI-RP2") (some "/mnt") [] []]) [j]
      (.object [("ro", .bool false), ("name", .string "sda"), ("mountpoint", .string "/"),
        ("children", .array [j])]) :=
    fun j => .object .absent (.text _) .absent ⟨[], [], rfl, by simp, by simp⟩
      (.array (by decide) _) (List.forall_mem_singleton.mpr (by decide))
      (List.perm_append_singleton _ _).symm
  have document : Document forest (.object [("blockdevices", .array [_])]) :=
    .object (.cons (onSda _) (.cons onSda1 .nil .nil) .nil) (.array (by decide) _)
      (List.forall_mem_nil _) (.refl _)
  have listing : IsListing forest text :=
    .text document written nothing (by decide : Json.IsBlank ['\n']) (by decide +kernel)
  refine ⟨listing, ?_⟩
  obtain ⟨devices, read, same⟩ := walk_of_listing forest text listing
  exact ⟨devices, read, same⟩

end BlockDevice

end BoardRig
