/-
# `BoardRig.Proofs.Status.Lines` — a text as its lines

Where a second text is put behind a text, the last line of the one and the first line
of the other become one line, and all others stay what they were (`Typeset.append`).

What a text reports depends on what its lines report, and on nothing else
(`parse_eq_of_entries`); a text with a line that counts is read line by line
(`parse_of_mem`).

A line names its field in front of a colon, or in front of an equals sign.  The
two mean the same as long as no colon stands in the value (`entry?_equals`).  A
colon in the value takes the place of the equals sign: what stands before it is
no name, and the line counts for nothing (`entry?_equals_of_colon`).  For whole
texts, a line with an equals sign can be written with a colon in the first case,
and can be left out in the second one (`parse_equals_line`).
-/
import BoardRig.Proofs.Status.Rendering

namespace BoardRig.BootloaderStatus

/-! ## Lines

A text is given with its lines.  One line may be exchanged or left out, and two
texts may be put together. -/

/-- The text that is made of lines. -/
def ofLines (lines : List (List Char)) : String :=
  String.ofList (['\n'].intercalate lines)

theorem typeset_ofLines {lines : List (List Char)} (single : ∀ line ∈ lines, '\n' ∉ line) :
    Typeset (ofLines lines) lines :=
  ⟨String.toList_ofList, single⟩

theorem intercalate_append_cons (sep : List Char) (front : List (List Char))
    (last first : List Char) (rest : List (List Char)) :
    sep.intercalate (front ++ [last]) ++ sep.intercalate (first :: rest)
      = sep.intercalate (front ++ (last ++ first) :: rest) := by
  induction front with
  | nil =>
      cases rest with
      | nil => simp only [List.nil_append, List.intercalate_singleton]
      | cons next rest =>
          simp only [List.nil_append, List.intercalate_singleton, List.intercalate_cons_cons,
            List.append_assoc]
  | cons line front ih =>
      have some : ∀ {line : List Char} {rest : List (List Char)}, front ++ line :: rest ≠ [] :=
        List.append_ne_nil_of_right_ne_nil front (List.cons_ne_nil _ _)
      rw [List.cons_append, List.cons_append, List.intercalate_cons_of_ne_nil some,
        List.intercalate_cons_of_ne_nil some, List.append_assoc, ih]

section Typeset

variable {text text' : String} {lines front rest before after : List (List Char)}
  {first last line line' : List Char}

theorem Typeset.exchange (h : Typeset text (before ++ line :: after)) (single : '\n' ∉ line') :
    Typeset (ofLines (before ++ line' :: after)) (before ++ line' :: after) := by
  obtain ⟨hbefore, hrest⟩ := List.forall_mem_append.mp h.single
  refine typeset_ofLines (List.forall_mem_append.mpr ⟨hbefore, ?_⟩)
  exact List.forall_mem_cons.mpr ⟨single, (List.forall_mem_cons.mp hrest).2⟩

theorem Typeset.omit (h : Typeset text (before ++ line :: after)) :
    Typeset (ofLines (before ++ after)) (before ++ after) := by
  obtain ⟨hbefore, hrest⟩ := List.forall_mem_append.mp h.single
  exact typeset_ofLines (List.forall_mem_append.mpr ⟨hbefore, (List.forall_mem_cons.mp hrest).2⟩)

theorem Typeset.append (h : Typeset text (front ++ [last])) (h' : Typeset text' (first :: rest)) :
    Typeset (text ++ text') (front ++ (last ++ first) :: rest) := by
  refine ⟨?_, ?_⟩
  · rw [String.toList_append, h.toList_eq, h'.toList_eq, intercalate_append_cons]
  · obtain ⟨hfront, hlast⟩ := List.forall_mem_append.mp h.single
    obtain ⟨hfirst, hrest⟩ := List.forall_mem_cons.mp h'.single
    refine List.forall_mem_append.mpr ⟨hfront, List.forall_mem_cons.mpr ⟨?_, hrest⟩⟩
    exact List.not_mem_append (hlast last List.mem_cons_self) hfirst

theorem exists_typeset_cons (text : String) : ∃ first rest, Typeset text (first :: rest) := by
  obtain ⟨lines, h⟩ := exists_typeset text
  cases lines with
  | nil => exact ⟨[], [], h.toList_eq, List.forall_mem_singleton.mpr List.not_mem_nil⟩
  | cons first rest => exact ⟨first, rest, h⟩

theorem exists_typeset_append (text : String) : ∃ front last, Typeset text (front ++ [last]) := by
  obtain ⟨first, rest, h⟩ := exists_typeset_cons text
  rw [← List.dropLast_append_getLast (List.cons_ne_nil first rest)] at h
  exact ⟨_, _, h⟩

end Typeset

/-! ## Names of fields

Fillers and capitals have no part in a name, but separators do: a key that names a
field has none of them. -/

section Names

variable {key : List Char} {f : Field}

theorem lower_mem_normalize {c : Char} (h : c ∈ key) (part : isFiller c = false) :
    lower c ∈ normalize key := by
  rw [normalize]
  refine List.mem_map_of_mem (List.mem_filter.mpr ⟨h, ?_⟩)
  rw [part]
  rfl

/-- What is neither a filler nor a letter stands in no name of a field. -/
theorem not_mem_of_named {c : Char} (named : normalize key = f.name) (part : isFiller c = false)
    (other : (lower c).isLower = false) : c ∉ key := by
  intro h
  have small := isLower_of_mem_name (named ▸ lower_mem_normalize h part)
  rw [other] at small
  cases small

theorem colon_not_mem (named : normalize key = f.name) : ':' ∉ key :=
  not_mem_of_named named (by decide) (by decide)

theorem entry?_colon (named : normalize key = f.name) (value : List Char) :
    entry? (key ++ ':' :: value) = some (f, Text.trim value) :=
  entry?_of_sides (.colon (colon_not_mem named)) named

end Names

/-! ## What lines report

Lines are reported from the first to the last, so a list of lines may be divided
anywhere. -/

/-- A status after lines have reported their fields, one by one. -/
def reported (s : BootloaderStatus) (lines : List (List Char)) : BootloaderStatus :=
  (lines.filterMap entry?).foldl (fun s (field, value) => s.report field value) s

section Reported

variable {text text' : String} {lines lines' : List (List Char)} {line value : List Char}
  {f : Field}

theorem reported_append (s : BootloaderStatus) (before after : List (List Char)) :
    s.reported (before ++ after) = (s.reported before).reported after := by
  rw [reported, List.filterMap_append, List.foldl_append]
  rfl

theorem reported_cons_of_entry? (h : entry? line = some (f, value)) (s : BootloaderStatus)
    (lines : List (List Char)) : s.reported (line :: lines) = (s.report f value).reported lines := by
  rw [reported, List.filterMap_cons_some h]
  rfl

theorem parse_eq_of_entries (h : Typeset text lines) (h' : Typeset text' lines')
    (same : lines.filterMap entry? = lines'.filterMap entry?) : parse text = parse text' := by
  rw [parse_eq, parse_eq, entries_of_typeset h, entries_of_typeset h', same]

theorem parse_of_mem (h : Typeset text lines) (hline : line ∈ lines)
    (counts : entry? line = some (f, value)) : parse text = .ok (empty.reported lines) := by
  have some : entries text.toList ≠ [] := by
    rw [entries_of_typeset h]
    exact List.ne_nil_of_mem (List.mem_filterMap.mpr ⟨line, hline, counts⟩)
  rw [parse_eq, if_neg some, entries_of_typeset h]
  rfl

end Reported

/-! ## A colon, or an equals sign

The colon is looked for first.  An equals sign therefore separates a name from its
value only where no colon stands behind it. -/

section Separators

variable {key value : List Char} {f : Field}

theorem equals_not_mem (named : normalize key = f.name) : '=' ∉ key :=
  not_mem_of_named named (by decide) (by decide)

theorem entry?_equals (named : normalize key = f.name) (plain : ':' ∉ value) :
    entry? (key ++ '=' :: value) = some (f, Text.trim value) := by
  refine entry?_of_sides (.equals ?_ (equals_not_mem named)) named
  intro h
  rcases List.mem_append.mp h with h | h
  · exact colon_not_mem named h
  · exact plain ((List.mem_cons.mp h).resolve_left (by decide))

theorem entry?_equals_of_colon (named : normalize key = f.name) (colon : ':' ∈ value) :
    entry? (key ++ '=' :: value) = none := by
  obtain ⟨start, rest, rfl, first⟩ := List.eq_append_cons_of_mem colon
  have sides : Sides (key ++ '=' :: (start ++ ':' :: rest)) (key ++ '=' :: start) rest := by
    rw [← List.cons_append, ← List.append_assoc]
    refine .colon fun h => ?_
    rcases List.mem_append.mp h with h | h
    · exact colon_not_mem named h
    · exact first ((List.mem_cons.mp h).resolve_left (by decide))
  rw [entry?_eq, sides?_of_sides sides, Option.bind_some, Option.map_eq_none_iff,
    Option.eq_none_iff_forall_ne_some]
  intro g hname
  exact equals_not_mem (ofName?_eq_some_iff.mp hname) (List.mem_append_right key List.mem_cons_self)

/-- Where a line names a field in front of an equals sign, it could as well do so in
front of a colon if its value holds no colon, and it could as well be missing if it
does.  In front of a colon the name always counts, and the line reports the value. -/
theorem parse_equals_line {text : String} {before after : List (List Char)}
    (written : Typeset text (before ++ (key ++ '=' :: value) :: after))
    (named : normalize key = f.name) :
    (':' ∉ value →
      parse text = parse (ofLines (before ++ (key ++ ':' :: ' ' :: value) :: after))) ∧
    (':' ∈ value → parse text = parse (ofLines (before ++ after))) ∧
    parse (ofLines (before ++ (key ++ ':' :: ' ' :: value) :: after))
      = .ok (((empty.reported before).report f (Text.trim value)).reported after) := by
  have named' : entry? (key ++ ':' :: ' ' :: value) = some (f, Text.trim value) := by
    have blank : ∀ c ∈ [' '], Text.isBlank c = true := List.forall_mem_singleton.mpr (by decide)
    have trimmed := Text.trim_padded blank (List.forall_mem_nil _) value
    rw [List.append_nil] at trimmed
    rw [entry?_colon named, ← trimmed]
    rfl
  have single : '\n' ∉ key ++ ':' :: ' ' :: value := by
    have hline := written.single _ (List.mem_append_right _ List.mem_cons_self)
    simpa using hline
  have rewritten := written.exchange single
  refine ⟨fun plain => ?_, fun colon => ?_, ?_⟩
  · refine parse_eq_of_entries written rewritten ?_
    rw [List.filterMap_append, List.filterMap_append,
      List.filterMap_cons_some (entry?_equals named plain), List.filterMap_cons_some named']
  · refine parse_eq_of_entries written written.omit ?_
    rw [List.filterMap_append, List.filterMap_append,
      List.filterMap_cons_none (entry?_equals_of_colon named colon)]
  · rw [parse_of_mem rewritten (List.mem_append_right _ List.mem_cons_self) named',
      reported_append, reported_cons_of_entry? named']

/-- Of two lines with an equals sign, the one with a time in its value is as good as
missing. -/
theorem parse_equals_line_with_time :
    let lines := ["Active_Bank=1".toList, "bootloader=v0.3.1 (built 10:42)".toList]
    let text := ofLines lines
    (Typeset text lines ∧
      normalize "Active_Bank".toList = Field.activeBank.name ∧
      normalize "bootloader".toList = Field.version.name) ∧
    parse text = parse "Active_Bank: 1\nbootloader=v0.3.1 (built 10:42)" ∧
    parse text = parse "Active_Bank=1" ∧
    parse "Active_Bank=1\nbootloader: v0.3.1 (built 10:42)"
      = .ok ⟨some "v0.3.1 (built 10:42)", some 1, none, none, none⟩ := by
  intro lines text
  have written : Typeset text lines := typeset_ofLines (by decide)
  have bank : normalize "Active_Bank".toList = Field.activeBank.name := by decide
  have version : normalize "bootloader".toList = Field.version.name := by decide
  let bankLine := "Active_Bank".toList ++ '=' :: ['1']
  let versionLine := "bootloader".toList ++ '=' :: "v0.3.1 (built 10:42)".toList
  have first : Typeset text ([] ++ bankLine :: [versionLine]) := written
  have second : Typeset text ([bankLine] ++ versionLine :: []) := written
  obtain ⟨same, -, -⟩ := parse_equals_line first bank
  obtain ⟨-, missing, always⟩ := parse_equals_line second version
  exact ⟨⟨written, bank, version⟩, same (by decide), missing (by decide), always⟩

/-- A version is lost that the same line reports with a colon. -/
theorem colon_in_value_hides_field :
    let text := "bootloader=v0.3.1 (built 10:42)\nstate=UpdateMode\n"
    let text' := "bootloader: v0.3.1 (built 10:42)\nstate=UpdateMode\n"
    normalize "bootloader".toList = Field.version.name ∧
      Typeset text ["bootloader".toList ++ '=' :: "v0.3.1 (built 10:42)".toList,
        "state=UpdateMode".toList, []] ∧
      Typeset text' ["bootloader".toList ++ ':' :: ' ' :: "v0.3.1 (built 10:42)".toList,
        "state=UpdateMode".toList, []] ∧
      parse text = .ok ⟨none, none, none, none, some "UpdateMode"⟩ ∧
      parse text' = .ok ⟨some "v0.3.1 (built 10:42)", none, none, none, some "UpdateMode"⟩ ∧
      parse text ≠ parse text' := by
  intro text text'
  have without : parse text = .ok ⟨none, none, none, none, some "UpdateMode"⟩ := by
    rw [parse, show ofText? text = some ⟨none, none, none, none, some "UpdateMode"⟩ by decide]
  have withColon : parse text'
      = .ok ⟨some "v0.3.1 (built 10:42)", none, none, none, some "UpdateMode"⟩ := by
    rw [parse, show ofText? text'
      = some ⟨some "v0.3.1 (built 10:42)", none, none, none, some "UpdateMode"⟩ by decide]
  refine ⟨by decide, ⟨by decide, by decide⟩, ⟨by decide, by decide⟩, without, withColon, ?_⟩
  rw [without, withColon]
  decide

end Separators

end BoardRig.BootloaderStatus
