/-
# `BoardRig.Proofs.Usb.Identity` — identities are numbers

An identity comes from two numbers, from a text with a colon, or from the
attributes of a device.  Each way of making one spells a number in the same four
digits: `ofText_eq_ok_iff` says which texts denote which numbers, and
`ofAttributes_of_shows` that attributes may be padded and in any case.  These four
digits are read again as the number.  So identities agree just if their numbers
do, however they were made (`MadeFor.eq_iff`), and comparing identities as texts,
which is what searches and kinds of devices do, compares numbers
(`identities_agree`).
-/
import BoardRig.Proofs.Text.Cuts
import BoardRig.Proofs.Text.Numerals
import BoardRig.Proofs.Usb.Enumeration
import BoardRig.Usb.Kind

namespace BoardRig.UsbIdentity

variable {v p v' p' n : UInt16} {i j : UsbIdentity} {text : String} {cs : List Char}

/-! ## Four digits -/

/-- Four digits in base sixteen, in lower case. -/
def IsPlain (part : String) : Prop :=
  part.toList.length = 4 ∧
    ∀ c ∈ part.toList, ('0' ≤ c ∧ c ≤ '9') ∨ ('a' ≤ c ∧ c ≤ 'f')

/-- Four digits that denote the number, in any case and with any blanks around them. -/
def Shows (text : String) (n : UInt16) : Prop :=
  ∃ before ds after, text.toList = before ++ ds ++ after ∧
    (∀ c ∈ before, Text.isBlank c = true) ∧ (∀ c ∈ after, Text.isBlank c = true) ∧
    ds.length = 4 ∧ Radix.Denotes 16 ds n.toNat

theorem toList_digits (n : UInt16) : (digits n).toList = Radix.hexDigits 4 n.toNat := by
  rw [digits, Radix.hexFixed, String.toList_ofList]

theorem length_digits (n : UInt16) : (digits n).toList.length = 4 := by
  rw [toList_digits, Radix.length_hexDigits]

theorem digit_range : ∀ d < 16, ('0' ≤ Nat.digitChar d ∧ Nat.digitChar d ≤ '9') ∨
    ('a' ≤ Nat.digitChar d ∧ Nat.digitChar d ≤ 'f') := by
  decide

theorem isPlain_digits (n : UInt16) : IsPlain (digits n) := by
  refine ⟨length_digits n, fun c hc => ?_⟩
  rw [toList_digits] at hc
  obtain ⟨d, below, rfl⟩ := Radix.mem_hexDigits hc
  exact digit_range d below

theorem IsPlain.colon_not_mem {part : String} (h : IsPlain part) : ':' ∉ part.toList := by
  intro hc
  have other : ¬ (('0' ≤ ':' ∧ ':' ≤ '9') ∨ ('a' ≤ ':' ∧ ':' ≤ 'f')) := by decide
  exact other (h.2 _ hc)

/-! ## Numbers

Reading the four digits gives the number, so different numbers have different
digits. -/

theorem id_eq_ok_iff :
    id cs = .ok n ↔ Radix.read 16 (Nat.pow 2 16) (Text.trim cs) = .ok n.toNat := by
  rw [id]
  cases hread : Radix.read 16 (Nat.pow 2 16) (Text.trim cs) with
  | error e => exact ⟨fun h => (nomatch h), fun h => (nomatch h)⟩
  | ok m =>
      obtain ⟨-, -, -, -, below⟩ := (Radix.read_eq_ok_iff (by decide)).mp hread
      have fits : (UInt16.ofNat m).toNat = m := UInt16.toNat_ofNat_of_lt below
      constructor
      · intro h
        rw [← Except.ok.inj h, fits]
      · intro h
        rw [Except.ok.inj h, Except.map, UInt16.ofNat_toNat]

theorem id_digits (n : UInt16) : id (digits n).toList = .ok n := by
  have denotes : Radix.Denotes 16 (Radix.hexDigits 4 n.toNat) n.toNat :=
    Radix.denotes_hexDigits n.toNat_lt
  rw [id_eq_ok_iff, toList_digits, denotes.trim]
  exact Radix.read_hexDigits (by decide) n.toNat_lt n.toNat_lt

theorem digits_inj : digits v = digits p ↔ v = p := by
  refine ⟨fun h => ?_, congrArg digits⟩
  have same := id_digits v
  rw [h, id_digits p] at same
  exact (Except.ok.inj same).symm

theorem ofIds_inj : ofIds v p = ofIds v' p' ↔ v = v' ∧ p = p' := by
  rw [ofIds, ofIds, UsbIdentity.mk.injEq, digits_inj, digits_inj]

/-! ## Texts

A text is read as an identity if each side of its colon denotes a number. -/

/-- A text denotes an identity if numbers stand around its first colon. -/
theorem ofText_eq_ok_iff :
    ofText text = .ok i ↔ ∃ a b v p, text.toList = a ++ ':' :: b ∧ ':' ∉ a ∧
      id a = .ok v ∧ id b = .ok p ∧ i = ofIds v p := by
  constructor
  · intro h
    rw [ofText] at h
    split at h
    · cases h
    · next a b cut =>
      obtain ⟨sides, first⟩ := Text.cutAt?_eq_some_iff.mp cut
      split at h
      · cases h
      · next v hv =>
        split at h
        · cases h
        · next p hp => exact ⟨a, b, v, p, sides, first, hv, hp, (Except.ok.inj h).symm⟩
  · rintro ⟨a, b, v, p, sides, first, hv, hp, rfl⟩
    rw [ofText, Text.cutAt?_eq_some_iff.mpr ⟨sides, first⟩]
    simp only [hv, hp]

theorem parse_eq_ok_iff : parse text = .ok i ↔ ofText text = .ok i := by
  rw [parse]
  cases ofText text with
  | error e => exact ⟨fun h => (nomatch h), fun h => (nomatch h)⟩
  | ok i' => rw [Except.ok.injEq, Except.ok.injEq]

theorem parse_text (v p : UInt16) : parse (ofIds v p).text = .ok (ofIds v p) := by
  refine parse_eq_ok_iff.mpr (ofText_eq_ok_iff.mpr ⟨(digits v).toList, (digits p).toList, v, p,
    ?_, (isPlain_digits v).colon_not_mem, id_digits v, id_digits p, rfl⟩)
  have colon : ":".toList = [':'] := rfl
  rw [UsbIdentity.text, String.toList_append, String.toList_append, colon, List.append_assoc]
  rfl

/-! ## Attributes

Attributes are not read as numbers but brought into the common spelling. -/

theorem plainDigits_of_shows (h : Shows text n) : plainDigits text = digits n := by
  obtain ⟨before, ds, after, whole, hbefore, hafter, four, denotes⟩ := h
  rw [plainDigits, whole, Text.trim_padded hbefore hafter, denotes.trim,
    Radix.map_lowerAscii_of_denotes denotes, four, digits, Radix.hexFixed]

theorem ofAttributes_of_shows {vendor product : String} (h : Shows vendor v)
    (h' : Shows product p) : ofAttributes vendor product = ofIds v p := by
  rw [ofAttributes, ofIds, plainDigits_of_shows h, plainDigits_of_shows h']

/-! ## Every way of making identities -/

/-- The identity was made for two numbers: from the numbers, from a text that they
stand in around the first colon, or from attributes that show them. -/
inductive MadeFor : UsbIdentity → UInt16 → UInt16 → Prop where
  | ofIds (v p : UInt16) : MadeFor (ofIds v p) v p
  | ofText {text : String} {a b : List Char} {v p : UInt16} {i : UsbIdentity}
      (sides : text.toList = a ++ ':' :: b) (first : ':' ∉ a)
      (vendor : Radix.read 16 (Nat.pow 2 16) (Text.trim a) = .ok v.toNat)
      (product : Radix.read 16 (Nat.pow 2 16) (Text.trim b) = .ok p.toNat)
      (parsed : parse text = .ok i) : MadeFor i v p
  | ofAttributes {vendor product : String} {v p : UInt16} (first : Shows vendor v)
      (second : Shows product p) : MadeFor (ofAttributes vendor product) v p

theorem MadeFor.eq_ofIds (h : MadeFor i v p) : i = UsbIdentity.ofIds v p := by
  cases h with
  | ofIds => rfl
  | ofText sides first vendor product parsed =>
      have denoted := ofText_eq_ok_iff.mpr ⟨_, _, v, p, sides, first, id_eq_ok_iff.mpr vendor,
        id_eq_ok_iff.mpr product, rfl⟩
      exact Except.ok.inj (parsed.symm.trans (parse_eq_ok_iff.mpr denoted))
  | ofAttributes first second => exact ofAttributes_of_shows first second

theorem MadeFor.eq_iff (h : MadeFor i v p) (h' : MadeFor j v' p') : i = j ↔ v = v' ∧ p = p' := by
  rw [h.eq_ofIds, h'.eq_ofIds, ofIds_inj]

theorem MadeFor.classify (h : MadeFor i v p) (profile : Profile) :
    DeviceKind.classify i profile =
      if v = profile.vendor ∧ p = profile.bootloaderProduct then .bootloader
      else if v = profile.vendor ∧ p = profile.firmwareProduct then .firmware
      else if v = profile.vendor then .sameVendor
      else .unknown := by
  have vendor : i.vendor = digits v := congrArg UsbIdentity.vendor h.eq_ofIds
  simp only [DeviceKind.classify, Profile.bootloaderIdentity, Profile.firmwareIdentity,
    h.eq_iff (.ofIds _ _), vendor, digits_inj]

/-- A candidate has an identity if it can be read and was made for the same numbers. -/
theorem MadeFor.has_iff (h : MadeFor i v p) (c : Candidate) :
    c.Has i ↔ ∃ j, c.reading = .ok j ∧ MadeFor j v p := by
  constructor
  · exact fun has => ⟨i, has, h⟩
  · rintro ⟨j, has, h'⟩
    exact has.trans (congrArg Except.ok ((h'.eq_iff h).mpr ⟨rfl, rfl⟩))

/-- An identity that a text denotes is that of the numbers around the first colon; it has
four plain digits for each, and the line that shows it denotes it. Attributes that show
two numbers make the identity of these, and numbers that differ have other identities.
So identities that were made for numbers, each in any way, are equal just if the numbers
are; their kind is told by the numbers; and a pass finds the first port whose identity
was made for the wanted numbers. -/
theorem identities_agree :
    (∀ text i, parse text = .ok i →
      (∃ a b v p, text.toList = a ++ ':' :: b ∧ ':' ∉ a ∧
        Radix.read 16 (Nat.pow 2 16) (Text.trim a) = .ok v.toNat ∧
        Radix.read 16 (Nat.pow 2 16) (Text.trim b) = .ok p.toNat ∧ i = ofIds v p) ∧
      IsPlain i.vendor ∧ IsPlain i.product ∧ parse i.text = .ok i) ∧
    (∀ vendor product v p, Shows vendor v → Shows product p →
      ofAttributes vendor product = ofIds v p) ∧
    (∀ v p v' p', ofIds v p = ofIds v' p' → v = v' ∧ p = p') ∧
    ∀ i v p, MadeFor i v p →
      (∀ j v' p', MadeFor j v' p' → (i = j ↔ v = v' ∧ p = p')) ∧
      (∀ profile : Profile, DeviceKind.classify i profile =
        if v = profile.vendor ∧ p = profile.bootloaderProduct then .bootloader
        else if v = profile.vendor ∧ p = profile.firmwareProduct then .firmware
        else if v = profile.vendor then .sameVendor
        else .unknown) ∧
      ∀ (σ : Type) (l : UsbLocator σ) (s : σ) (port : String),
        (l.findNow i s).1 = some port ↔
          ∃ c, IsFirst (fun c : Candidate => ∃ j, c.reading = .ok j ∧ MadeFor j v p)
            (l.source.enumerate s).1 c ∧ c.port = port := by
  refine ⟨fun text i parsed => ?_, fun _ _ _ _ => ofAttributes_of_shows,
    fun _ _ _ _ => ofIds_inj.mp, fun i v p made => ⟨fun _ _ _ => made.eq_iff, made.classify, ?_⟩⟩
  · obtain ⟨a, b, v, p, sides, first, vendor, product, rfl⟩ :=
      ofText_eq_ok_iff.mp (parse_eq_ok_iff.mp parsed)
    exact ⟨⟨a, b, v, p, sides, first, id_eq_ok_iff.mp vendor, id_eq_ok_iff.mp product, rfl⟩,
      isPlain_digits v, isPlain_digits p, parse_text v p⟩
  · intro σ l s port
    rw [l.findNow_eq_some_iff i, funext fun c => propext (made.has_iff c)]

/-- A text with a sign, leading zeros and blanks, and attributes as the system shows
them, make the identity of the bootloader. -/
theorem identities_agree_on_spellings :
    let typed := " +002E8a : A "
    let vendor := "2e8A\n"
    let product := "000a\n"
    Shows vendor 0x2E8A ∧ Shows product 0x000A ∧
      parse typed = .ok (ofAttributes vendor product) ∧
      DeviceKind.classify (ofAttributes vendor product) .rp2040 = .bootloader := by
  intro typed vendor product
  have ends : ∀ c ∈ ['\n'], Text.isBlank c = true := List.forall_mem_singleton.mpr (by decide)
  have hvendor : Shows vendor 0x2E8A := by
    refine ⟨[], ['2', 'e', '8', 'A'], ['\n'], by decide, List.forall_mem_nil _, ends, rfl, ?_⟩
    exact ((Radix.readFrom_eq_ok_iff (Nat.succ_pos 0xFFFF)).mp rfl).1
  have hproduct : Shows product 0x000A := by
    refine ⟨[], ['0', '0', '0', 'a'], ['\n'], by decide, List.forall_mem_nil _, ends, rfl, ?_⟩
    exact ((Radix.readFrom_eq_ok_iff (Nat.succ_pos 0xFFFF)).mp rfl).1
  obtain ⟨-, attributes, -, numbers⟩ := identities_agree
  have same : ofAttributes vendor product = ofIds 0x2E8A 0x000A :=
    attributes vendor product _ _ hvendor hproduct
  have parsed : parse typed = .ok (ofIds 0x2E8A 0x000A) := by decide
  refine ⟨hvendor, hproduct, parsed.trans (congrArg Except.ok same.symm), ?_⟩
  exact (numbers _ _ _ (.ofAttributes hvendor hproduct)).2.1 .rp2040

end BoardRig.UsbIdentity
