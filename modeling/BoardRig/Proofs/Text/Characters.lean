/-
# `BoardRig.Proofs.Text.Characters` — what the pieces of a text are

The bytes of a character are a first byte and as many more as it announces,
each within its bounds (`encode_of_takes`, `takes_of_encode`).  So the piece at
the front of some bytes is a character exactly where its bytes stand there, it
is cut off where all the bytes are a start of one, and otherwise it is the
longest start of a character that stands there, or one byte if none does
(`piece_spec`, `Maximal`).
-/
import BoardRig.Text.Utf8
import Mathlib.Data.List.Infix

namespace BoardRig.Utf8

/-! ## The bytes of a character

The ranges of the encoding are written out once, by the length of a character, and
joined in both directions. -/

theorem encode_cons (c : Char) (cs : List Char) :
    encode (c :: cs) = String.utf8EncodeChar c ++ encode cs :=
  List.flatMap_cons

theorem encode_append (a b : List Char) : encode (a ++ b) = encode a ++ encode b :=
  List.flatMap_append

/-- As far as they go, the bytes may follow a first byte. -/
def Lead.Takes (lead : Lead) : Bytes → Prop
  | [] => True
  | b :: bs => within lead.low lead.high b = true ∧ ∀ t ∈ bs, isTail t = true

theorem Lead.Takes.of_start {lead : Lead} {bs bs' : Bytes} (h : lead.Takes bs')
    (hp : bs <+: bs') : lead.Takes bs := by
  obtain ⟨rest, rfl⟩ := hp
  cases bs with
  | nil => trivial
  | cons b bs => exact ⟨h.1, fun t ht => h.2 t (List.mem_append_left rest ht)⟩

theorem within_iff {low high : Nat} {b : UInt8} :
    within low high b = true ↔ low ≤ b.toNat ∧ b.toNat ≤ high := by
  rw [within, Bool.and_eq_true, decide_eq_true_eq, decide_eq_true_eq]

theorem isTail_iff {b : UInt8} : isTail b = true ↔ 0x80 ≤ b.toNat ∧ b.toNat ≤ 0xBF :=
  within_iff

/-- What a first byte announces: its bits, and which bytes come next. -/
theorem lead?_cases {b : UInt8} {lead : Lead} (h : lead? b = some lead) :
    0x80 ≤ lead.low ∧ lead.low ≤ lead.high ∧ lead.high ≤ 0xBF ∧
      (lead.more = 1 ∧ b.toNat = 0xC0 + lead.bits ∧ 2 ≤ lead.bits ∧ lead.bits ≤ 0x1F ∨
        lead.more = 2 ∧ b.toNat = 0xE0 + lead.bits ∧ lead.bits ≤ 0xF ∧
          (lead.bits = 0 → 0xA0 ≤ lead.low) ∧ (lead.bits = 0xD → lead.high ≤ 0x9F) ∨
        lead.more = 3 ∧ b.toNat = 0xF0 + lead.bits ∧ lead.bits ≤ 4 ∧
          (lead.bits = 0 → 0x90 ≤ lead.low) ∧ (lead.bits = 4 → lead.high ≤ 0x8F)) := by
  rw [lead?] at h
  repeat' split at h
  all_goals first | obtain rfl := Option.some.inj h | exact nomatch h
  all_goals dsimp only; omega

theorem lead?_eq_none_of_ascii {b : UInt8} (h : b.toNat < 0x80) : lead? b = none := by
  rw [lead?]
  repeat' split
  all_goals first | rfl | omega

section Lead

variable {b : UInt8} {bits : Nat}

theorem lead?_two (hb : b.toNat = bits + 0xC0) (low : 2 ≤ bits) (high : bits ≤ 0x1F) :
    lead? b = some ⟨bits, 1, 0x80, 0xBF⟩ := by
  rw [lead?, hb, if_pos (by omega), Nat.add_sub_cancel]

theorem lead?_three (hb : b.toNat = bits + 0xE0) (high : bits ≤ 0xF) :
    lead? b = some ⟨bits, 2, if bits = 0 then 0xA0 else 0x80,
      if bits = 0xD then 0x9F else 0xBF⟩ := by
  rw [lead?, hb, if_neg (by omega)]
  by_cases zero : bits = 0
  · subst zero
    rfl
  · by_cases surrogate : bits = 0xD
    · subst surrogate
      rfl
    · rw [if_neg (by omega), if_neg (by omega), if_pos (by omega), if_neg zero,
        if_neg surrogate, Nat.add_sub_cancel]

theorem lead?_four (hb : b.toNat = bits + 0xF0) (high : bits ≤ 4) :
    lead? b = some ⟨bits, 3, if bits = 0 then 0x90 else 0x80,
      if bits = 4 then 0x8F else 0xBF⟩ := by
  rw [lead?, hb, if_neg (by omega), if_neg (by omega), if_neg (by omega), if_neg (by omega)]
  by_cases zero : bits = 0
  · subst zero
    rfl
  · by_cases last : bits = 4
    · subst last
      rfl
    · rw [if_neg (by omega), if_pos (by omega), if_neg zero, if_neg last, Nat.add_sub_cancel]

end Lead

theorem append_eq (bits : Nat) (b : UInt8) : append bits b = bits * 64 + (b.toNat - 0x80) := rfl

section Encode

variable {n : Nat}

theorem toNat_val_ofNat (h : n.isValidChar) : (Char.ofNat n).val.toNat = n := by
  rw [Char.ofNat, dif_pos h]
  rfl

theorem encode_ofNat_one (h : n ≤ 0x7F) :
    String.utf8EncodeChar (Char.ofNat n) = [UInt8.ofNat n] := by
  rw [String.utf8EncodeChar, toNat_val_ofNat (.inl (by omega))]
  exact if_pos h

theorem encode_ofNat_two (low : 0x80 ≤ n) (high : n ≤ 0x7FF) :
    String.utf8EncodeChar (Char.ofNat n)
      = [UInt8.ofNat (n / 64 % 0x20 + 0xC0), UInt8.ofNat (n % 64 + 0x80)] := by
  rw [String.utf8EncodeChar, toNat_val_ofNat (.inl (by omega))]
  exact (if_neg (by omega)).trans (if_pos high)

theorem encode_ofNat_three (low : 0x800 ≤ n) (high : n ≤ 0xFFFF) (valid : n.isValidChar) :
    String.utf8EncodeChar (Char.ofNat n)
      = [UInt8.ofNat (n / 4096 % 0x10 + 0xE0), UInt8.ofNat (n / 64 % 64 + 0x80),
          UInt8.ofNat (n % 64 + 0x80)] := by
  rw [String.utf8EncodeChar, toNat_val_ofNat valid]
  exact (if_neg (by omega)).trans ((if_neg (by omega)).trans (if_pos high))

theorem encode_ofNat_four (low : 0x10000 ≤ n) (high : n ≤ 0x10FFFF) :
    String.utf8EncodeChar (Char.ofNat n)
      = [UInt8.ofNat (n / 262144 % 8 + 0xF0), UInt8.ofNat (n / 4096 % 64 + 0x80),
          UInt8.ofNat (n / 64 % 64 + 0x80), UInt8.ofNat (n % 64 + 0x80)] := by
  rw [String.utf8EncodeChar, toNat_val_ofNat (.inr (by omega))]
  exact (if_neg (by omega)).trans ((if_neg (by omega)).trans (if_neg (by omega)))

end Encode

theorem encode_of_takes {b : UInt8} {lead : Lead} {bs : Bytes} (hlead : lead? b = some lead)
    (length : bs.length = lead.more) (takes : lead.Takes bs) :
    String.utf8EncodeChar (Char.ofNat (bs.foldl append lead.bits)) = b :: bs := by
  have byte : ∀ {n : Nat} {c : UInt8}, n = c.toNat → UInt8.ofNat n = c := by
    rintro _ _ rfl
    exact UInt8.ofNat_toNat
  obtain ⟨hlow, hbounds, hhigh, h | h | h⟩ := lead?_cases hlead
  · obtain ⟨hmore, hb, hbits⟩ := h
    obtain ⟨t, rfl⟩ := List.length_eq_one_iff.mp (length.trans hmore)
    have ht := within_iff.mp takes.1
    rw [List.foldl_cons, List.foldl_nil, append_eq, encode_ofNat_two (by omega) (by omega),
      byte (c := b) (by omega), byte (c := t) (by omega)]
  · obtain ⟨hmore, hb, hbits, hzero, hlast⟩ := h
    obtain ⟨t, u, rfl⟩ := List.length_eq_two.mp (length.trans hmore)
    have ht := within_iff.mp takes.1
    have hu := isTail_iff.mp (takes.2 u List.mem_cons_self)
    rw [List.foldl_cons, List.foldl_cons, List.foldl_nil, append_eq, append_eq,
      encode_ofNat_three (by omega) (by omega) (by simp only [Nat.isValidChar]; omega),
      byte (c := b) (by omega), byte (c := t) (by omega), byte (c := u) (by omega)]
  · obtain ⟨hmore, hb, hbits, hzero, hlast⟩ := h
    obtain ⟨t, u, v, rfl⟩ := List.length_eq_three.mp (length.trans hmore)
    have ht := within_iff.mp takes.1
    have hu := isTail_iff.mp (takes.2 u List.mem_cons_self)
    have hv := isTail_iff.mp (takes.2 v (List.mem_cons_of_mem _ List.mem_cons_self))
    rw [List.foldl_cons, List.foldl_cons, List.foldl_cons, List.foldl_nil, append_eq, append_eq,
      append_eq, encode_ofNat_four (by omega) (by omega), byte (c := b) (by omega),
      byte (c := t) (by omega), byte (c := u) (by omega), byte (c := v) (by omega)]

theorem takes_of_encode {c : Char} (h : 0x80 ≤ c.toNat) :
    ∃ b lead bs, String.utf8EncodeChar c = b :: bs ∧ lead? b = some lead ∧
      bs.length = lead.more ∧ lead.Takes bs := by
  have valid : c.toNat.isValidChar := c.valid
  rw [← Char.ofNat_toNat c]
  generalize c.toNat = n at h valid
  have byte : ∀ {k : Nat}, k < 256 → (UInt8.ofNat k).toNat = k := UInt8.toNat_ofNat_of_lt
  have tail : ∀ k, isTail (UInt8.ofNat (k % 64 + 0x80)) = true := by
    intro k
    rw [isTail_iff, byte (by omega)]
    omega
  rw [Nat.isValidChar] at valid
  by_cases two : n ≤ 0x7FF
  · have hb : (UInt8.ofNat (n / 64 % 0x20 + 0xC0)).toNat = n / 64 % 0x20 + 0xC0 := byte (by omega)
    exact ⟨_, _, _, encode_ofNat_two h two, lead?_two hb (by omega) (by omega), rfl, tail n,
      List.forall_mem_nil _⟩
  by_cases three : n ≤ 0xFFFF
  · have hb : (UInt8.ofNat (n / 4096 % 0x10 + 0xE0)).toNat = n / 4096 % 0x10 + 0xE0 :=
      byte (by omega)
    have ht : (UInt8.ofNat (n / 64 % 64 + 0x80)).toNat = n / 64 % 64 + 0x80 := byte (by omega)
    refine ⟨_, _, _, encode_ofNat_three (by omega) three valid, lead?_three hb (by omega), rfl, ?_,
      List.forall_mem_singleton.mpr (tail n)⟩
    rw [within_iff, ht]
    dsimp only
    constructor <;> split <;> omega
  · have hb : (UInt8.ofNat (n / 262144 % 8 + 0xF0)).toNat = n / 262144 % 8 + 0xF0 :=
      byte (by omega)
    have ht : (UInt8.ofNat (n / 4096 % 64 + 0x80)).toNat = n / 4096 % 64 + 0x80 := byte (by omega)
    refine ⟨_, _, _, encode_ofNat_four (by omega) (by omega), lead?_four hb (by omega), rfl, ?_,
      List.forall_mem_cons.mpr ⟨tail (n / 64), List.forall_mem_singleton.mpr (tail n)⟩⟩
    rw [within_iff, ht]
    dsimp only
    constructor <;> split <;> omega

theorem le_of_mem_encode {c : Char} (h : 0x80 ≤ c.toNat) :
    ∀ b ∈ String.utf8EncodeChar c, 0x80 ≤ b.toNat := by
  obtain ⟨b, lead, bs, hbytes, hlead, -, takes⟩ := takes_of_encode h
  obtain ⟨hlow, -, -, first⟩ := lead?_cases hlead
  rw [hbytes]
  refine List.forall_mem_cons.mpr ⟨by omega, ?_⟩
  cases bs with
  | nil => exact List.forall_mem_nil _
  | cons t ts =>
      exact List.forall_mem_cons.mpr ⟨hlow.trans (within_iff.mp takes.1).1,
        fun u hu => (isTail_iff.mp (takes.2 u hu)).1⟩

theorem encode_eq_cons {c : Char} {b : UInt8} {bs : Bytes}
    (h : String.utf8EncodeChar c = b :: bs) :
    (b.toNat < 0x80 ∧ bs = []) ∨
      ∃ lead, lead? b = some lead ∧ bs.length = lead.more ∧ lead.Takes bs := by
  by_cases ascii : c.toNat ≤ 0x7F
  · rw [← Char.ofNat_toNat c, encode_ofNat_one ascii] at h
    obtain ⟨rfl, rfl⟩ := List.cons.inj h
    have small : c.toNat < 256 := Nat.lt_of_le_of_lt ascii (by decide)
    exact .inl ⟨(UInt8.toNat_ofNat_of_lt small).trans_lt (Nat.lt_succ_of_le ascii), rfl⟩
  · obtain ⟨b', lead, bs', h', hlead⟩ := takes_of_encode (Nat.lt_of_not_le ascii)
    obtain ⟨rfl, rfl⟩ := List.cons.inj (h'.symm.trans h)
    exact .inr ⟨lead, hlead⟩

theorem ascii_of_encode {c : Char} {b : UInt8} {bs : Bytes} (hlead : lead? b = none)
    (h : String.utf8EncodeChar c = b :: bs) : b.toNat < 0x80 ∧ bs = [] := by
  obtain ascii | ⟨lead, hlead', -⟩ := encode_eq_cons h
  · exact ascii
  · cases hlead.symm.trans hlead'

theorem length_and_takes_of_encode {c : Char} {b : UInt8} {lead : Lead} {bs : Bytes}
    (hlead : lead? b = some lead) (h : String.utf8EncodeChar c = b :: bs) :
    bs.length = lead.more ∧ lead.Takes bs := by
  obtain ⟨ascii, -⟩ | ⟨lead', hlead', takes⟩ := encode_eq_cons h
  · cases hlead.symm.trans (lead?_eq_none_of_ascii ascii)
  · cases hlead.symm.trans hlead'
    exact takes

/-- Whatever is missing of a character can be filled up with the least bytes
there may be. -/
theorem Lead.Takes.exists_append {b : UInt8} {lead : Lead} {bs : Bytes} (takes : lead.Takes bs)
    (hlead : lead? b = some lead) (short : bs.length < lead.more) :
    ∃ rest, (bs ++ rest).length = lead.more ∧ lead.Takes (bs ++ rest) := by
  have tails : ∀ n, ∀ t ∈ List.replicate n (0x80 : UInt8), isTail t = true := by
    intro n t ht
    rw [List.eq_of_mem_replicate ht]
    rfl
  cases bs with
  | nil =>
      obtain ⟨-, hbounds, hhigh, -⟩ := lead?_cases hlead
      have value : (UInt8.ofNat lead.low).toNat = lead.low :=
        UInt8.toNat_ofNat_of_lt (Nat.lt_of_le_of_lt (hbounds.trans hhigh) (by decide))
      refine ⟨UInt8.ofNat lead.low :: List.replicate (lead.more - 1) 0x80, ?_, ?_, tails _⟩
      · rw [List.nil_append, List.length_cons, List.length_replicate]
        exact Nat.sub_add_cancel short
      · rw [within_iff, value]
        exact ⟨Nat.le_refl _, hbounds⟩
  | cons a bs =>
      refine ⟨List.replicate (lead.more - (a :: bs).length) 0x80, ?_, takes.1,
        List.forall_mem_append.mpr ⟨takes.2, tails _⟩⟩
      rw [List.length_append, List.length_replicate]
      exact Nat.add_sub_cancel' short.le

/-- Where a character ends is told by its own bytes. -/
theorem encode_append_inj {c d : Char} {bs bs' : Bytes}
    (h : String.utf8EncodeChar c ++ bs = String.utf8EncodeChar d ++ bs') : c = d ∧ bs = bs' := by
  have hc := ByteArray.utf8DecodeChar?_utf8EncodeChar_append (b := bs.toByteArray) (c := c)
  have hd := ByteArray.utf8DecodeChar?_utf8EncodeChar_append (b := bs'.toByteArray) (c := d)
  rw [← List.toByteArray_append, h, List.toByteArray_append, hd] at hc
  obtain rfl := Option.some.inj hc
  exact ⟨rfl, List.append_cancel_left h⟩

/-! ## Starts of characters -/

/-- Bytes that a character begins with, and that are not all of it. -/
def IsStart (bs : Bytes) : Prop :=
  ∃ c rest, rest ≠ [] ∧ String.utf8EncodeChar c = bs ++ rest

theorem isStart_nil : IsStart [] :=
  ⟨'a', String.utf8EncodeChar 'a', String.utf8EncodeChar_ne_nil, rfl⟩

theorem IsStart.length_le {bs : Bytes} (h : IsStart bs) : bs.length ≤ 3 := by
  obtain ⟨c, rest, more, h⟩ := h
  have whole := congrArg List.length h
  rw [String.length_utf8EncodeChar, List.length_append] at whole
  have hmore := List.length_pos_iff.mpr more
  have hfour := c.utf8Size_le_four
  omega

theorem isStart_cons_iff {b : UInt8} {lead : Lead} {bs : Bytes} (hlead : lead? b = some lead) :
    IsStart (b :: bs) ↔ bs.length < lead.more ∧ lead.Takes bs := by
  constructor
  · rintro ⟨c, rest, more, h⟩
    obtain ⟨length, takes⟩ := length_and_takes_of_encode hlead h
    refine ⟨?_, takes.of_start (List.prefix_append bs rest)⟩
    rw [← length, List.append_eq, List.length_append]
    exact Nat.lt_add_of_pos_right (List.length_pos_iff.mpr more)
  · rintro ⟨short, takes⟩
    obtain ⟨rest, length, whole⟩ := takes.exists_append hlead short
    refine ⟨_, rest, ?_, encode_of_takes hlead length whole⟩
    rintro rfl
    rw [List.append_nil] at length
    exact short.ne length

theorem not_isStart_cons {b : UInt8} {bs : Bytes} (hlead : lead? b = none) :
    ¬ IsStart (b :: bs) := by
  rintro ⟨c, rest, more, h⟩
  exact more (List.append_eq_nil_iff.mp (ascii_of_encode hlead h).2).2

/-! ## Pieces

The reader follows the bytes that a first byte announces and stops at the first one
out of bounds.  There is no longer start than the bytes that it took. -/

/-- An ill-formed run in front of some bytes: no character stands there, and
the run is the longest start of one that does, or one byte if there is none. -/
structure Maximal (run rest : Bytes) : Prop where
  nonempty : run ≠ []
  unread : ∀ c, ¬ String.utf8EncodeChar c <+: run ++ rest
  start : IsStart run ∨ run.length = 1
  longest : ∀ bs, IsStart bs → bs <+: run ++ rest → bs.length ≤ run.length

theorem tails_cases (bits more : Nat) (bs : Bytes) :
    (∃ taken rest, bs = taken ++ rest ∧ taken.length = more ∧
      (∀ t ∈ taken, isTail t = true) ∧
      tails bits more bs = .char (Char.ofNat (taken.foldl append bits)) rest) ∨
    (bs.length < more ∧ (∀ t ∈ bs, isTail t = true) ∧ tails bits more bs = .cutOff) ∨
    ∃ taken b rest, bs = taken ++ b :: rest ∧ taken.length < more ∧
      (∀ t ∈ taken, isTail t = true) ∧ isTail b = false ∧
      tails bits more bs = .illFormed (b :: rest) := by
  induction more generalizing bits bs with
  | zero => exact .inl ⟨[], bs, rfl, rfl, List.forall_mem_nil _, rfl⟩
  | succ more ih =>
      cases bs with
      | nil =>
          exact .inr (.inl ⟨Nat.succ_pos more, List.forall_mem_nil _, rfl⟩)
      | cons b bs =>
          cases hb : isTail b with
          | false =>
              refine .inr (.inr ⟨[], b, bs, rfl, Nat.succ_pos more,
                List.forall_mem_nil _, hb, ?_⟩)
              rw [tails, hb]
              rfl
          | true =>
              rw [tails, if_pos hb]
              obtain ⟨taken, rest, rfl, length, all, h⟩ | ⟨length, all, h⟩ |
                ⟨taken, t, rest, rfl, length, all, ht, h⟩ := ih (append bits b) bs
              · refine .inl ⟨b :: taken, rest, rfl, congrArg (· + 1) length,
                  List.forall_mem_cons.mpr ⟨hb, all⟩, ?_⟩
                rw [List.foldl_cons]
                exact h
              · exact .inr (.inl ⟨Nat.succ_lt_succ length, List.forall_mem_cons.mpr ⟨hb, all⟩, h⟩)
              · exact .inr (.inr ⟨b :: taken, t, rest, rfl, Nat.succ_lt_succ length,
                  List.forall_mem_cons.mpr ⟨hb, all⟩, ht, h⟩)

theorem follow_cases {lead : Lead} (announces : 0 < lead.more) (bs : Bytes) :
    (∃ taken rest, bs = taken ++ rest ∧ taken.length = lead.more ∧ lead.Takes taken ∧
      follow lead bs = .char (Char.ofNat (taken.foldl append lead.bits)) rest) ∨
    (bs.length < lead.more ∧ lead.Takes bs ∧ follow lead bs = .cutOff) ∨
    ∃ taken b rest, bs = taken ++ b :: rest ∧ taken.length < lead.more ∧ lead.Takes taken ∧
      ¬ lead.Takes (taken ++ [b]) ∧ follow lead bs = .illFormed (b :: rest) := by
  cases bs with
  | nil => exact .inr (.inl ⟨announces, trivial, rfl⟩)
  | cons b bs =>
      cases hb : within lead.low lead.high b with
      | false =>
          refine .inr (.inr ⟨[], b, bs, rfl, announces, trivial, fun takes => ?_, ?_⟩)
          · rw [takes.1] at hb
            cases hb
          · rw [follow, hb]
            rfl
      | true =>
          obtain ⟨more, hmore⟩ := Nat.exists_eq_add_of_lt announces
          rw [Nat.zero_add] at hmore
          rw [follow, if_pos hb, hmore, Nat.add_sub_cancel]
          obtain ⟨taken, rest, rfl, length, all, h⟩ | ⟨length, all, h⟩ |
            ⟨taken, t, rest, rfl, length, all, ht, h⟩ := tails_cases (append lead.bits b) more bs
          · refine .inl ⟨b :: taken, rest, rfl, congrArg (· + 1) length, ⟨hb, all⟩, ?_⟩
            rw [List.foldl_cons]
            exact h
          · exact .inr (.inl ⟨Nat.succ_lt_succ length, ⟨hb, all⟩, h⟩)
          · refine .inr (.inr ⟨b :: taken, t, rest, rfl, Nat.succ_lt_succ length, ⟨hb, all⟩,
              fun takes => ?_, h⟩)
            rw [takes.2 t (List.mem_append_right _ (List.mem_singleton_self t))] at ht
            cases ht

theorem exists_of_encode_prefix {c : Char} {b : UInt8} {bs : Bytes}
    (h : String.utf8EncodeChar c <+: b :: bs) :
    ∃ taken, String.utf8EncodeChar c = b :: taken ∧ taken <+: bs := by
  obtain hnil | ⟨taken, hc, htaken⟩ := List.prefix_cons_iff.mp h
  · exact absurd hnil String.utf8EncodeChar_ne_nil
  · exact ⟨taken, hc, htaken⟩

theorem maximal_single {b : UInt8} (ascii : ¬ b.toNat < 0x80) (hlead : lead? b = none)
    (bs : Bytes) : Maximal [b] bs where
  nonempty := List.cons_ne_nil _ _
  unread c h := by
    obtain ⟨taken, hc, -⟩ := exists_of_encode_prefix h
    exact ascii (ascii_of_encode hlead hc).1
  start := .inr rfl
  longest bs' start h := by
    obtain rfl | ⟨bs'', rfl, -⟩ := List.prefix_cons_iff.mp h
    · exact Nat.zero_le 1
    · exact absurd start (not_isStart_cons hlead)

/-- Bytes that a first byte is followed by make up an ill-formed run with it if
they are too few and the next one does not belong to them. -/
theorem maximal_of_takes {b t : UInt8} {lead : Lead} {taken rest : Bytes}
    (hlead : lead? b = some lead) (short : taken.length < lead.more) (takes : lead.Takes taken)
    (stops : ¬ lead.Takes (taken ++ [t])) : Maximal (b :: taken) (t :: rest) := by
  have longest : ∀ bs, lead.Takes bs → bs <+: taken ++ t :: rest → bs.length ≤ taken.length := by
    intro bs htakes hp
    by_contra hlong
    refine stops (htakes.of_start (List.prefix_of_prefix_length_le ⟨rest, ?_⟩ hp ?_))
    · rw [List.append_assoc, List.singleton_append]
    · rw [List.length_append, List.length_singleton]
      exact Nat.lt_of_not_le hlong
  refine ⟨List.cons_ne_nil _ _, fun c h => ?_,
    .inl ((isStart_cons_iff hlead).mpr ⟨short, takes⟩), fun bs start h => ?_⟩
  · obtain ⟨bs, hc, hbs⟩ := exists_of_encode_prefix h
    obtain ⟨length, htakes⟩ := length_and_takes_of_encode hlead hc
    exact absurd (longest bs htakes hbs) (Nat.not_le_of_lt (length ▸ short))
  · obtain rfl | ⟨bs', rfl, hbs⟩ := List.prefix_cons_iff.mp h
    · exact Nat.zero_le _
    · exact Nat.succ_le_succ (longest bs' ((isStart_cons_iff hlead).mp start).2 hbs)

/-- Every piece is a character that stands there, all of the bytes where they
are a start of one, or otherwise a maximal ill-formed run. -/
theorem piece_spec (b : UInt8) (bs : Bytes) :
    (∃ c rest, piece b bs = .char c rest ∧ b :: bs = String.utf8EncodeChar c ++ rest) ∨
    (piece b bs = .cutOff ∧ IsStart (b :: bs)) ∨
    ∃ run rest, piece b bs = .illFormed rest ∧ b :: bs = run ++ rest ∧ Maximal run rest ∧
      ¬ IsStart (b :: bs) := by
  rw [piece]
  by_cases ascii : b.toNat < 0x80
  · refine .inl ⟨_, bs, if_pos ascii, ?_⟩
    rw [encode_ofNat_one (Nat.le_of_lt_succ ascii), UInt8.ofNat_toNat]
    rfl
  rw [if_neg ascii]
  cases hlead : lead? b with
  | none =>
      exact .inr (.inr ⟨[b], bs, rfl, rfl, maximal_single ascii hlead bs, not_isStart_cons hlead⟩)
  | some lead =>
      have announces : 0 < lead.more := by
        obtain ⟨-, -, -, ⟨h, -⟩ | ⟨h, -⟩ | ⟨h, -⟩⟩ := lead?_cases hlead <;> omega
      obtain ⟨taken, rest, rfl, length, takes, h⟩ | ⟨short, takes, h⟩ |
        ⟨taken, t, rest, rfl, short, takes, stops, h⟩ := follow_cases announces bs
      · refine .inl ⟨_, rest, h, ?_⟩
        rw [encode_of_takes hlead length takes]
        rfl
      · exact .inr (.inl ⟨h, (isStart_cons_iff hlead).mpr ⟨short, takes⟩⟩)
      · refine .inr (.inr ⟨b :: taken, t :: rest, h, rfl,
          maximal_of_takes hlead short takes stops, fun start => stops ?_⟩)
        refine ((isStart_cons_iff hlead).mp start).2.of_start ⟨rest, ?_⟩
        rw [List.append_assoc, List.singleton_append]

end BoardRig.Utf8
