/-
# `BoardRig.Proofs.Storage.MountTable` — reading the table that the kernel writes

A byte is written as a backslash and three octal digits, and read back as that
byte whatever follows it (`unescapeBytes_octal`).  Only the backslash has the
byte that an escape begins with, so a text in which the backslash and any other
characters are escaped is read back as it was (`unescapeBytes_escapeMarked`,
`unescape_escape`).

The kernel ends a field of its table at a space, so it writes the spaces, tabs,
line feeds and backslashes of a name in octal (`special`, `table`).  Reading the
escapes gives back the name, whatever else stands in it.  But the fields are
told apart at every blank character, and names may hold blanks that the kernel
writes as they are (`stray`).  So a table is read back exactly when no name
holds such a blank (`parseTable_table_iff`).
-/
import BoardRig.Proofs.Storage.Volume
import BoardRig.Proofs.Text.Chunks
import BoardRig.Proofs.Text.Cuts
import BoardRig.Storage.MountTable

namespace BoardRig.Mount

/-! ## Escapes

An escaped text never has a backslash of its own, so every backslash in it begins an
escape and reading goes piece by piece. -/

/-- A byte as a backslash and its three octal digits. -/
def octal (b : UInt8) : List Char :=
  ['\\', Nat.digitChar (b.toNat / 64), Nat.digitChar (b.toNat / 8 % 8), Nat.digitChar (b.toNat % 8)]

/-- A text in which the bytes of some characters are written in octal. -/
def escape (special : Char → Bool) (cs : List Char) : List Char :=
  cs.flatMap fun c => if special c then (String.utf8EncodeChar c).flatMap octal else [c]

/-- A text in which each character is marked on its own to be written in octal. -/
def escapeMarked (marked : List (Char × Bool)) : List Char :=
  marked.flatMap fun m => if m.2 then (String.utf8EncodeChar m.1).flatMap octal else [m.1]

theorem encode_digitChar : ∀ n < 8,
    String.utf8EncodeChar (Nat.digitChar n) = [UInt8.ofNat (48 + n)] := by
  decide

theorem octalDigit?_ofNat : ∀ n < 8, octalDigit? (UInt8.ofNat (48 + n)) = some n := by
  decide

theorem octalByte?_octal (b : UInt8) :
    octalByte? (UInt8.ofNat (48 + b.toNat / 64)) (UInt8.ofNat (48 + b.toNat / 8 % 8))
      (UInt8.ofNat (48 + b.toNat % 8)) = some b := by
  have small := b.toNat_lt
  have value : (b.toNat / 64 * 8 + b.toNat / 8 % 8) * 8 + b.toNat % 8 = b.toNat := by omega
  rw [octalByte?, octalDigit?_ofNat _ (by omega), octalDigit?_ofNat _ (by omega),
    octalDigit?_ofNat _ (by omega)]
  simp only [Option.bind_eq_bind, Option.bind_some, value, if_pos small, UInt8.ofNat_toNat]

theorem encode_octal (b : UInt8) :
    Utf8.encode (octal b) = [92, UInt8.ofNat (48 + b.toNat / 64),
      UInt8.ofNat (48 + b.toNat / 8 % 8), UInt8.ofNat (48 + b.toNat % 8)] := by
  have small := b.toNat_lt
  rw [octal, Utf8.encode, List.flatMap_cons, List.flatMap_cons, List.flatMap_cons,
    List.flatMap_cons, List.flatMap_nil, encode_digitChar _ (by omega),
    encode_digitChar _ (by omega), encode_digitChar _ (by omega)]
  rfl

theorem unescapeBytes_octal (b : UInt8) (rest : Bytes) :
    unescapeBytes (Utf8.encode (octal b) ++ rest) = b :: unescapeBytes rest := by
  rw [encode_octal]
  simp only [List.cons_append, List.nil_append]
  rw [unescapeBytes, escape?, if_pos rfl, octalByte?_octal]
  rfl

theorem unescapeBytes_cons {b : UInt8} (h : b ≠ 92) (rest : Bytes) :
    unescapeBytes (b :: rest) = b :: unescapeBytes rest := by
  have none : escape? (b :: rest) = none := by
    rw [escape?.eq_def]
    split
    · next slash _ _ _ _ same => exact if_neg ((List.cons.inj same).1 ▸ h)
    · rfl
  rw [unescapeBytes, none]

theorem unescapeBytes_append {bs : Bytes} (h : ∀ b ∈ bs, b ≠ 92) (rest : Bytes) :
    unescapeBytes (bs ++ rest) = bs ++ unescapeBytes rest := by
  induction bs with
  | nil => rfl
  | cons b bs ih =>
      obtain ⟨hb, hbs⟩ := List.forall_mem_cons.mp h
      rw [List.cons_append, unescapeBytes_cons hb, ih hbs, List.cons_append]

theorem unescapeBytes_octals (bs rest : Bytes) :
    unescapeBytes (Utf8.encode (bs.flatMap octal) ++ rest) = bs ++ unescapeBytes rest := by
  induction bs with
  | nil => rfl
  | cons b bs ih =>
      rw [List.flatMap_cons, Utf8.encode, List.flatMap_append, List.append_assoc]
      exact (unescapeBytes_octal b _).trans (congrArg (b :: ·) ih)

theorem ne_of_mem_encode {c : Char} (h : c ≠ '\\') : ∀ b ∈ String.utf8EncodeChar c, b ≠ 92 := by
  rintro b hb rfl
  by_cases ascii : c.toNat ≤ 0x7F
  · rw [← Char.ofNat_toNat c, Utf8.encode_ofNat_one ascii, List.mem_singleton] at hb
    have value : (UInt8.ofNat c.toNat).toNat = c.toNat :=
      UInt8.toNat_ofNat_of_lt (Nat.lt_of_le_of_lt ascii (by decide))
    exact h (Char.toNat_inj.mp ((congrArg UInt8.toNat hb).trans value).symm)
  · exact absurd (Utf8.le_of_mem_encode (by omega) _ hb) (by decide)

/-- Whichever characters are escaped, if every backslash is, then reading the
escapes gives back the bytes of the text. -/
theorem unescapeBytes_escapeMarked {marked : List (Char × Bool)}
    (slash : ∀ m ∈ marked, m.1 = '\\' → m.2 = true) :
    unescapeBytes (Utf8.encode (escapeMarked marked)) = Utf8.encode (marked.map Prod.fst) := by
  induction marked with
  | nil => rw [escapeMarked, List.flatMap_nil, Utf8.encode, List.flatMap_nil, unescapeBytes]; rfl
  | cons m marked ih =>
      obtain ⟨hm, hmarked⟩ := List.forall_mem_cons.mp slash
      rw [escapeMarked, List.flatMap_cons, List.map_cons, Utf8.encode_cons, Utf8.encode_append]
      split
      · rw [unescapeBytes_octals]
        exact congrArg (_ ++ ·) (ih hmarked)
      · next plain =>
        rw [Utf8.encode, List.flatMap_singleton,
          unescapeBytes_append (ne_of_mem_encode fun same => plain (hm same))]
        exact congrArg (_ ++ ·) (ih hmarked)

section Escape

variable {p : Char → Bool}

theorem escape_append (a b : List Char) : escape p (a ++ b) = escape p a ++ escape p b :=
  List.flatMap_append

theorem escape_cons_of_true {c : Char} (h : p c = true) (cs : List Char) :
    escape p (c :: cs) = (String.utf8EncodeChar c).flatMap octal ++ escape p cs := by
  rw [escape, List.flatMap_cons, if_pos h]
  rfl

theorem escape_cons_of_false {c : Char} (h : p c = false) (cs : List Char) :
    escape p (c :: cs) = c :: escape p cs := by
  rw [escape, List.flatMap_cons, if_neg (h ▸ Bool.false_ne_true)]
  rfl

theorem escape_ne_nil {cs : List Char} (h : cs ≠ []) : escape p cs ≠ [] := by
  obtain ⟨c, cs, rfl⟩ := List.exists_cons_of_ne_nil h
  cases hc : p c with
  | true =>
      obtain ⟨b, bs, hbytes⟩ := List.exists_cons_of_ne_nil (String.utf8EncodeChar_ne_nil (c := c))
      rw [escape_cons_of_true hc, hbytes]
      exact List.cons_ne_nil _ _
  | false =>
      rw [escape_cons_of_false hc]
      exact List.cons_ne_nil _ _

theorem of_mem_escape {cs : List Char} {d : Char} (h : d ∈ escape p cs) :
    (∃ b, d ∈ octal b) ∨ (d ∈ cs ∧ p d = false) := by
  obtain ⟨c, hc, h⟩ := List.mem_flatMap.mp h
  cases hp : p c with
  | true =>
      rw [if_pos hp] at h
      obtain ⟨b, -, h⟩ := List.mem_flatMap.mp h
      exact .inl ⟨b, h⟩
  | false =>
      rw [if_neg (hp ▸ Bool.false_ne_true), List.mem_singleton] at h
      exact .inr ⟨h ▸ hc, h ▸ hp⟩

theorem unescapeBytes_escape (slash : p '\\' = true) (cs : List Char) :
    unescapeBytes (Utf8.encode (escape p cs)) = Utf8.encode cs := by
  have marked : escape p cs = escapeMarked (cs.map fun c => (c, p c)) := by
    rw [escapeMarked, List.flatMap_map]
    rfl
  have all : ∀ m ∈ cs.map fun c => (c, p c), m.1 = '\\' → m.2 = true := by
    intro m hm
    obtain ⟨c, -, rfl⟩ := List.mem_map.mp hm
    rintro rfl
    exact slash
  rw [marked, unescapeBytes_escapeMarked all, List.map_map]
  exact congrArg Utf8.encode (List.map_id cs)

theorem unescape_escape (slash : p '\\' = true) (cs : List Char) :
    unescape (escape p cs) = String.ofList cs := by
  rw [unescape, unescapeBytes_escape slash, Utf8.lossyString, Utf8.decodeLossy_encode]

end Escape

/-! ## Names with escapes

Blanks that are escaped do not cut a name, and blanks that are not do.  So a name
is one word just if it has no stray blank. -/

/-- The characters of a name that the kernel writes in octal. -/
def special (c : Char) : Bool :=
  c = ' ' || c = '\t' || c = '\n' || c = '\\'

/-- A blank character that the kernel writes as it is. -/
def stray (c : Char) : Bool :=
  Text.isBlank c && !special c

theorem isBlank_digitChar : ∀ n < 8, Text.isBlank (Nat.digitChar n) = false := by
  decide

theorem isBlank_of_mem_octal {b : UInt8} {d : Char} (h : d ∈ octal b) : Text.isBlank d = false := by
  have small := b.toNat_lt
  simp only [octal, List.mem_cons, List.not_mem_nil, or_false] at h
  obtain rfl | rfl | rfl | rfl := h
  · decide
  · exact isBlank_digitChar _ (by omega)
  · exact isBlank_digitChar _ (by omega)
  · exact isBlank_digitChar _ (by omega)

theorem isBlank_of_mem_escape {cs : List Char} (h : ∀ c ∈ cs, stray c = false) :
    ∀ d ∈ escape special cs, Text.isBlank d = false := by
  intro d hd
  obtain ⟨b, hb⟩ | ⟨hmem, hd⟩ := of_mem_escape hd
  · exact isBlank_of_mem_octal hb
  · have hstray := h d hmem
    rwa [stray, hd, Bool.not_false, Bool.and_true] at hstray

theorem words_escape {cs : List Char} (some : cs ≠ []) (h : ∀ c ∈ cs, stray c = false) :
    Text.words (escape special cs) = [escape special cs] :=
  Text.wordsFrom_of_forall (isBlank_of_mem_escape h) (escape_ne_nil some)

/-- A word of a name with escapes is the escaping of a text without strays. -/
theorem of_mem_wordsFrom_escape {word cs part : List Char} (hword : ∀ c ∈ word, stray c = false)
    (h : part ∈ Text.wordsFrom Text.isBlank (escape special word).reverse (escape special cs)) :
    ∃ text, part = escape special text ∧ ∀ c ∈ text, stray c = false := by
  have ended : ∀ {word}, (∀ c ∈ word, stray c = false) →
      part ∈ Text.wordsFrom Text.isBlank (escape special word).reverse [] →
        ∃ text, part = escape special text ∧ ∀ c ∈ text, stray c = false := fun hword h =>
    ⟨_, (Text.eq_reverse_of_mem_wordsFrom_nil h).trans (List.reverse_reverse _), hword⟩
  induction cs generalizing word with
  | nil => exact ended hword h
  | cons c cs ih =>
      cases hc : stray c with
      | true =>
          obtain ⟨blank, plain⟩ := Bool.and_eq_true_iff.mp hc
          rw [escape_cons_of_false (Bool.not_eq_true' _ ▸ plain),
            Text.wordsFrom_cons_of_sep blank] at h
          obtain h | h := List.mem_append.mp h
          · exact ended hword h
          · exact @ih [] (List.forall_mem_nil _) h
      | false =>
          have longer : ∀ d ∈ word ++ [c], stray d = false :=
            List.forall_mem_append.mpr ⟨hword, List.forall_mem_singleton.mpr hc⟩
          rw [← List.singleton_append, escape_append, Text.wordsFrom_append_of_forall
              (isBlank_of_mem_escape (List.forall_mem_singleton.mpr hc)),
            ← List.reverse_append, ← escape_append] at h
          exact ih longer h

theorem words_escape_cases (cs : List Char) :
    Text.words (escape special cs) = [] ∨
      ∃ word rest, Text.words (escape special cs) = word :: rest ∧
        ∀ c ∈ (unescape word).toList, stray c = false := by
  cases hwords : Text.words (escape special cs) with
  | nil => exact .inl rfl
  | cons word rest =>
      have among : word ∈ Text.words (escape special cs) := hwords ▸ List.mem_cons_self
      obtain ⟨text, rfl, plain⟩ := @of_mem_wordsFrom_escape [] cs word (List.forall_mem_nil _) among
      refine .inr ⟨_, rest, rfl, ?_⟩
      rwa [unescape_escape rfl, String.toList_ofList]

/-! ## Tables

The kernel's lines have words at fixed places.  If a name was cut, the words behind
it are out of place, and the entry that is read differs from the one written. -/

/-- A mount as there can be one: every field has something in it, and the type
is one word. -/
structure Sound (m : Mount) : Prop where
  device : m.device ≠ ""
  mountPoint : m.mountPoint ≠ ""
  fsType : m.fsType ≠ ""
  oneWord : ∀ c ∈ m.fsType.toList, Text.isBlank c = false

/-- No name of the mount has a blank character in it but spaces, tabs and line
feeds. -/
structure Plain (m : Mount) : Prop where
  device : ∀ c ∈ m.device.toList, stray c = false
  mountPoint : ∀ c ∈ m.mountPoint.toList, stray c = false

theorem any_eq_false_iff {p : Char → Bool} {cs : List Char} :
    cs.any p = false ↔ ∀ c ∈ cs, p c = false := by
  simp only [List.any_eq_false, Bool.not_eq_true]

instance (m : Mount) : Decidable (Sound m) :=
  decidable_of_iff (m.device ≠ "" ∧ m.mountPoint ≠ "" ∧ m.fsType ≠ "" ∧
    m.fsType.toList.any Text.isBlank = false)
    ⟨fun ⟨device, mountPoint, fsType, oneWord⟩ =>
      ⟨device, mountPoint, fsType, any_eq_false_iff.mp oneWord⟩,
    fun h => ⟨h.device, h.mountPoint, h.fsType, any_eq_false_iff.mpr h.oneWord⟩⟩

instance (m : Mount) : Decidable (Plain m) :=
  decidable_of_iff (m.device.toList.any stray = false ∧ m.mountPoint.toList.any stray = false)
    ⟨fun ⟨device, mountPoint⟩ => ⟨any_eq_false_iff.mp device, any_eq_false_iff.mp mountPoint⟩,
    fun h => ⟨any_eq_false_iff.mpr h.device, any_eq_false_iff.mpr h.mountPoint⟩⟩

def line (m : Mount) : List Char :=
  escape special m.device.toList ++ ' ' :: (escape special m.mountPoint.toList ++
    ' ' :: (m.fsType.toList ++ ' ' :: "rw 0 0".toList))

def table (mounts : List Mount) : String :=
  String.ofList (mounts.flatMap fun m => line m ++ ['\n'])

theorem words_line {m : Mount} (h : Sound m) :
    Text.words (line m) = Text.words (escape special m.device.toList) ++
      (Text.words (escape special m.mountPoint.toList) ++
        [m.fsType.toList, ['r', 'w'], ['0'], ['0']]) := by
  have rest : Text.wordsFrom Text.isBlank [] "rw 0 0".toList = [['r', 'w'], ['0'], ['0']] := by
    decide
  rw [Text.words, line, Text.wordsFrom_append rfl, Text.wordsFrom_append rfl,
    Text.wordsFrom_append rfl,
    Text.wordsFrom_of_forall h.oneWord (mt String.toList_eq_nil_iff.mp h.fsType), rest]
  rfl

theorem ofWords?_line {m : Mount} (h : Sound m) (plain : Plain m) :
    ofWords? (Text.words (line m)) = some m := by
  rw [words_line h, words_escape (mt String.toList_eq_nil_iff.mp h.device) plain.device,
    words_escape (mt String.toList_eq_nil_iff.mp h.mountPoint) plain.mountPoint]
  simp only [List.cons_append, List.nil_append, ofWords?, unescape_escape (p := special) rfl,
    List.head?_cons, Option.getD_some, String.ofList_toList]

theorem device_of_ofWords? {m : Mount} {word : List Char} {rest : List (List Char)}
    (h : ofWords? (word :: rest) = some m) : m.device = unescape word := by
  cases rest with
  | nil => cases h
  | cons mountPoint rest =>
      obtain rfl := Option.some.inj h
      rfl

theorem mountPoint_of_ofWords? {m : Mount} {device word : List Char} {rest : List (List Char)}
    (h : ofWords? (device :: word :: rest) = some m) : m.mountPoint = unescape word := by
  obtain rfl := Option.some.inj h
  rfl

theorem fsType_of_ofWords? {m : Mount} {device mountPoint word : List Char}
    {rest : List (List Char)} (h : ofWords? (device :: mountPoint :: word :: rest) = some m) :
    m.fsType = String.ofList word := by
  obtain rfl := Option.some.inj h
  rfl

/-- The options of a line are no name of which no word is left. -/
theorem ne_unescape_options {name : String}
    (none : Text.words (escape special name.toList) = []) : name ≠ unescape ['r', 'w'] := by
  intro same
  have options : unescape ['r', 'w'] = "rw" := @unescape_escape special rfl ['r', 'w']
  rw [same, options] at none
  exact absurd none (by decide)

/-- A line that is read back has no strays: every name is read from the first
word of a name. -/
theorem plain_of_ofWords?_line {m : Mount} (h : Sound m)
    (same : ofWords? (Text.words (line m)) = some m) : Plain m := by
  rw [words_line h] at same
  have device : ∀ c ∈ m.device.toList, stray c = false := by
    obtain none | ⟨word, rest, hdevice, plain⟩ := words_escape_cases m.device.toList
    · rw [none, List.nil_append] at same
      -- No word is left of the device, so what is read as one is the mount point.
      obtain nowhere | ⟨word, rest, hpoint, plain⟩ := words_escape_cases m.mountPoint.toList
      · rw [nowhere, List.nil_append] at same
        exact absurd (mountPoint_of_ofWords? same) (ne_unescape_options nowhere)
      · rw [hpoint, List.cons_append] at same
        rwa [device_of_ofWords? same]
    · rw [hdevice, List.cons_append] at same
      rwa [device_of_ofWords? same]
  rw [words_escape (mt String.toList_eq_nil_iff.mp h.device) device, List.singleton_append] at same
  refine ⟨device, ?_⟩
  obtain nowhere | ⟨word, rest, hpoint, plain⟩ := words_escape_cases m.mountPoint.toList
  · rw [nowhere, List.nil_append] at same
    have point := mountPoint_of_ofWords? same
    rw [fsType_of_ofWords? same, String.toList_ofList] at point
    exact absurd point (ne_unescape_options nowhere)
  · rw [hpoint, List.cons_append] at same
    rwa [mountPoint_of_ofWords? same]

theorem newline_not_mem_escape (cs : List Char) : '\n' ∉ escape special cs := by
  intro h
  obtain ⟨b, hb⟩ | ⟨-, h⟩ := of_mem_escape h
  · exact absurd (isBlank_of_mem_octal hb) (by decide)
  · exact absurd h (by decide)

theorem newline_not_mem_line {m : Mount} (h : Sound m) : '\n' ∉ line m := by
  have fsType : '\n' ∉ m.fsType.toList := fun hmem => absurd (h.oneWord _ hmem) (by decide)
  have options : '\n' ∉ ' ' :: "rw 0 0".toList := by decide
  have space : '\n' ≠ ' ' := by decide
  rw [line, List.mem_append, List.mem_cons, List.mem_append, List.mem_cons, List.mem_append]
  rintro (device | blank | mountPoint | blank | last | last)
  · exact newline_not_mem_escape _ device
  · exact space blank
  · exact newline_not_mem_escape _ mountPoint
  · exact space blank
  · exact fsType last
  · exact options last

theorem dropReturn_line (m : Mount) : Text.dropReturn (line m) = line m := by
  have last : line m = (escape special m.device.toList ++ ' ' ::
      (escape special m.mountPoint.toList ++ ' ' :: (m.fsType.toList ++ " rw 0 ".toList))) ++
        ['0'] := by
    simp only [line, List.append_assoc, List.cons_append]
    rfl
  rw [last, Text.dropReturn_append_singleton (by decide)]

theorem lines_table {mounts : List Mount} (h : ∀ m ∈ mounts, Sound m) :
    Text.lines (table mounts).toList = mounts.map line := by
  rw [table, String.toList_ofList]
  induction mounts with
  | nil => rfl
  | cons m mounts ih =>
      obtain ⟨hm, hrest⟩ := List.forall_mem_cons.mp h
      rw [List.flatMap_cons, List.append_assoc, List.singleton_append,
        Text.lines_append (newline_not_mem_line hm), dropReturn_line, ih hrest, List.map_cons]

theorem parseTable_table {mounts : List Mount} (h : ∀ m ∈ mounts, Sound m) :
    parseTable (table mounts) = mounts.filterMap fun m => ofWords? (Text.words (line m)) := by
  rw [parseTable, lines_table h, List.filterMap_map]
  rfl

/-- What a search for a label finds in a list of mounts: the mount point of the
first one whose last name carries the label. -/
inductive Finds (label : String) (mounts : List Mount) : Option String → Prop where
  | first {m : Mount} (h : IsFirst (fun m => Carries label m.mountPoint) mounts m) :
      Finds label mounts (some m.mountPoint)
  | nowhere (h : ∀ m ∈ mounts, ¬ Carries label m.mountPoint) : Finds label mounts none

theorem finds_findMounted? (table label : String) :
    Finds label (parseTable table) (findMounted? table label) := by
  cases h : findMounted? table label with
  | some mountPoint =>
      obtain ⟨m, first, rfl⟩ := exists_isFirst_of_findMounted? h
      exact .first first
  | none => exact .nowhere (not_carries_of_findMounted? h)

/-- The table of the kernel is read back as the mounts that it lists exactly
when no name of them has a stray blank, and then every label is looked for in
the names as they are. -/
theorem parseTable_table_iff {mounts : List Mount} (h : ∀ m ∈ mounts, Sound m) :
    (parseTable (table mounts) = mounts ↔ ∀ m ∈ mounts, Plain m) ∧
      ((∀ m ∈ mounts, Plain m) →
        ∀ label, Finds label mounts (findMounted? (table mounts) label)) := by
  have whole : parseTable (table mounts) = mounts ↔ ∀ m ∈ mounts, Plain m := by
    have each := List.filterMap_eq_map_iff_forall_eq_some
      (f := fun m => ofWords? (Text.words (line m))) (g := id) (l := mounts)
    rw [List.map_id] at each
    rw [parseTable_table h, each]
    exact ⟨fun same m hm => plain_of_ofWords?_line (h m hm) (same m hm),
      fun plain m hm => ofWords?_line (h m hm) (plain m hm)⟩
  refine ⟨whole, fun plain label => ?_⟩
  have found := finds_findMounted? (table mounts) label
  rwa [whole.mpr plain] at found

/-- Two mounts whose names have everything in them that the kernel writes in
octal, and a text that looks like an escape. -/
def awkward : List Mount :=
  [⟨"a\tb", "/media/ü/RPI \\040RP2\n", "vfat"⟩, ⟨"tmpfs", "/tmp/RPI", "tmpfs"⟩]

example : table awkward = "a\\011b /media/ü/RPI\\040\\134040RP2\\012 vfat rw 0 0\n" ++
    "tmpfs /tmp/RPI tmpfs rw 0 0\n" := by
  decide +kernel

theorem parseTable_table_awkward :
    (∀ m ∈ awkward, Sound m) ∧ (∀ m ∈ awkward, Plain m) ∧ parseTable (table awkward) = awkward ∧
      Finds "RP2" awkward (findMounted? (table awkward) "RP2") := by
  have sound : ∀ m ∈ awkward, Sound m := by decide
  have plain : ∀ m ∈ awkward, Plain m := by decide
  have read := parseTable_table_iff sound
  exact ⟨sound, plain, read.1.mpr plain, read.2 plain "RP2"⟩

/-- A mount whose point has a no-break space in it, which the kernel writes as
it is. -/
def unbroken : Mount :=
  ⟨"/dev/sdc1", "/media/ci/RPI\u00a0RP2", "vfat"⟩

/-- Its line is cut at that space, so that the mount is read with another point
and another type. -/
theorem parseTable_table_unbroken :
    Sound unbroken ∧ parseTable (table [unbroken]) ≠ [unbroken] ∧
      parseTable (table [unbroken]) = [⟨"/dev/sdc1", "/media/ci/RPI", "RP2"⟩] ∧
      findMounted? (table [unbroken]) "RPI" = some "/media/ci/RPI" := by
  have read : parseTable (table [unbroken]) = [⟨"/dev/sdc1", "/media/ci/RPI", "RP2"⟩] := by
    decide +kernel
  refine ⟨by decide, ?_, read, ?_⟩
  · rw [read]
    decide
  · rw [findMounted?, read]
    decide

end BoardRig.Mount
