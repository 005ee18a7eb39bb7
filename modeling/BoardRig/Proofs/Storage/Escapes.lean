/-
# `BoardRig.Proofs.Storage.Escapes` — the escapes of any field

A field of the mount table need not come from the kernel.  Behind a backslash an
escape is read exactly where three octal digits follow that name a byte (`Code`,
`escape?_encode_eq_some_iff`).  No escape goes on over a byte that is no octal
digit (`unescapeBytes_append_of_stops`), so what stands before a backslash is
read as if it stood alone: the backslash of an escape gives its byte
(`unescapeBytes_code`), and any other one is kept (`unescape_backslash`).

A field is scanned in turns that take one byte or four.  Every turn reads one
byte and leaves less ahead (`Scan.turn_spec`), so the scan comes to the end of
the field (`Scan.ends`).
-/
import BoardRig.Proofs.Storage.MountTable
import BoardRig.Proofs.Text.Numerals

namespace BoardRig.Mount

/-! ## Octal codes

Three octal digits name a byte unless their value is too large.  A character of
several bytes has no octal digit among them. -/

/-- Three octal digits that name a byte. -/
def Code (byte : UInt8) (digits : List Char) : Prop :=
  digits.length = 3 ∧ Radix.Denotes 8 digits byte.toNat

section Codes

variable {b byte : UInt8} {d : Nat} {c : Char} {digits cs rest : List Char}

theorem octalDigit?_eq_some_iff : octalDigit? b = some d ↔ b.toNat = 48 + d ∧ d < 8 := by
  rw [octalDigit?]
  split
  · rw [Option.some.injEq]
    omega
  · simp only [reduceCtorEq, false_iff]
    omega

theorem toNat_of_encode_ascii {bs : Bytes} (hbytes : String.utf8EncodeChar c = b :: bs)
    (ascii : b.toNat < 0x80) : c.toNat = b.toNat ∧ bs = [] := by
  have low : c.toNat ≤ 0x7F := by
    by_contra high
    have above := Utf8.le_of_mem_encode (by omega) b (hbytes ▸ List.mem_cons_self)
    omega
  rw [← Char.ofNat_toNat c, Utf8.encode_ofNat_one low] at hbytes
  obtain ⟨rfl, rfl⟩ := List.cons.inj hbytes
  exact ⟨(UInt8.toNat_ofNat_of_lt' (Nat.lt_of_le_of_lt low (by decide))).symm, rfl⟩

theorem digit?_of_toNat (place : c.toNat = 48 + d) (below : d < 8) :
    Radix.digit? 8 c = some d := by
  have digit : ∀ d < 8, Radix.digit? 8 (Char.ofNat (48 + d)) = some d := by decide
  rw [← Char.ofNat_toNat c, place]
  exact digit d below

theorem toNat_of_digit? (h : Radix.digit? 8 c = some d) : c.toNat = 48 + d ∧ d < 8 := by
  obtain ⟨value, below⟩ := Radix.digit?_eq_some h
  have place := Radix.alphanumeric?_eq_some value
  omega

theorem octalDigit?_of_digit? (h : Radix.digit? 8 c = some d) :
    ∃ b, String.utf8EncodeChar c = [b] ∧ octalDigit? b = some d := by
  obtain ⟨place, below⟩ := toNat_of_digit? h
  have small : c.toNat < 256 := by omega
  refine ⟨UInt8.ofNat c.toNat, ?_, octalDigit?_eq_some_iff.mpr ⟨?_, below⟩⟩
  · rw [← Utf8.encode_ofNat_one (by omega), Char.ofNat_toNat]
  · rw [UInt8.toNat_ofNat_of_lt' small, place]

theorem exists_of_encode_eq_cons {bs : Bytes} (whole : Utf8.encode cs = b :: bs)
    (h : octalDigit? b = some d) :
    ∃ c rest, cs = c :: rest ∧ Radix.digit? 8 c = some d ∧ bs = Utf8.encode rest := by
  obtain ⟨place, below⟩ := octalDigit?_eq_some_iff.mp h
  cases cs with
  | nil => cases whole
  | cons c rest =>
      rw [Utf8.encode_cons] at whole
      obtain ⟨b', bs', hbytes⟩ := List.exists_cons_of_ne_nil (String.utf8EncodeChar_ne_nil (c := c))
      rw [hbytes, List.cons_append] at whole
      obtain ⟨rfl, rfl⟩ := List.cons.inj whole
      obtain ⟨same, rfl⟩ := toNat_of_encode_ascii hbytes (by omega)
      exact ⟨c, rest, rfl, digit?_of_toNat (same.trans place) below, rfl⟩

theorem octalByte?_eq_some_iff {x y z : UInt8} :
    octalByte? x y z = some byte ↔ ∃ i j k, octalDigit? x = some i ∧ octalDigit? y = some j ∧
      octalDigit? z = some k ∧ (i * 8 + j) * 8 + k = byte.toNat := by
  rw [octalByte?]
  simp only [Option.bind_eq_bind, Option.bind_eq_some_iff, Option.ite_none_right_eq_some,
    Option.some.injEq]
  constructor
  · rintro ⟨i, hi, j, hj, k, hk, small, rfl⟩
    exact ⟨i, j, k, hi, hj, hk, (UInt8.toNat_ofNat_of_lt' small).symm⟩
  · rintro ⟨i, j, k, hi, hj, hk, value⟩
    exact ⟨i, hi, j, hj, k, hk, value ▸ byte.toNat_lt, by rw [value, UInt8.ofNat_toNat]⟩

theorem code_iff : Code byte digits ↔ ∃ a b c i j k, digits = [a, b, c] ∧
    Radix.digit? 8 a = some i ∧ Radix.digit? 8 b = some j ∧ Radix.digit? 8 c = some k ∧
      (i * 8 + j) * 8 + k = byte.toNat := by
  constructor
  · rintro ⟨length, denotes⟩
    obtain ⟨a, b, c, rfl⟩ := List.length_eq_three.mp length
    change Radix.Denotes 8 ((([] ++ [a]) ++ [b]) ++ [c]) byte.toNat at denotes
    simp only [Radix.denotes_append_iff, Radix.denotes_nil_iff] at denotes
    obtain ⟨_, k, ⟨_, j, ⟨_, i, rfl, hi, rfl⟩, hj, rfl⟩, hk, value⟩ := denotes
    rw [Nat.zero_mul, Nat.zero_add] at value
    exact ⟨a, b, c, i, j, k, rfl, hi, hj, hk, value.symm⟩
  · rintro ⟨a, b, c, i, j, k, rfl, hi, hj, hk, value⟩
    refine ⟨rfl, ?_⟩
    have denotes := ((Radix.Denotes.nil.snoc hi).snoc hj).snoc hk
    rw [Nat.zero_mul, Nat.zero_add, value] at denotes
    exact denotes

/-- Behind a backslash, an escape is read just where the text goes on with the code of
a byte. -/
theorem escape?_encode_eq_some_iff :
    escape? (92 :: Utf8.encode cs) = some byte ↔
      ∃ digits rest, Code byte digits ∧ cs = digits ++ rest := by
  constructor
  · intro h
    rw [escape?.eq_def] at h
    split at h
    · next slash x y z bs same =>
      obtain ⟨rfl, whole⟩ := List.cons.inj same
      rw [if_pos rfl] at h
      obtain ⟨i, j, k, hi, hj, hk, value⟩ := octalByte?_eq_some_iff.mp h
      obtain ⟨a, cs, rfl, ha, whole⟩ := exists_of_encode_eq_cons whole hi
      obtain ⟨b, cs, rfl, hb, whole⟩ := exists_of_encode_eq_cons whole.symm hj
      obtain ⟨c, cs, rfl, hc, -⟩ := exists_of_encode_eq_cons whole.symm hk
      exact ⟨[a, b, c], cs, code_iff.mpr ⟨a, b, c, i, j, k, rfl, ha, hb, hc, value⟩, rfl⟩
    · cases h
  · rintro ⟨digits, rest, code, rfl⟩
    obtain ⟨a, b, c, i, j, k, rfl, ha, hb, hc, value⟩ := code_iff.mp code
    obtain ⟨x, hx, hi⟩ := octalDigit?_of_digit? ha
    obtain ⟨y, hy, hj⟩ := octalDigit?_of_digit? hb
    obtain ⟨z, hz, hk⟩ := octalDigit?_of_digit? hc
    simp only [List.cons_append, List.nil_append, Utf8.encode_cons, hx, hy, hz]
    rw [escape?, if_pos rfl]
    exact octalByte?_eq_some_iff.mpr ⟨i, j, k, hi, hj, hk, value⟩

end Codes

/-! ## Fields in two parts

What stands before a backslash cannot reach over it: an escape that begins earlier
would have to take the backslash for a digit. -/

section Parts

variable {t : UInt8}

theorem octalByte?_eq_none {x y z : UInt8}
    (h : octalDigit? x = none ∨ octalDigit? y = none ∨ octalDigit? z = none) :
    octalByte? x y z = none := by
  rw [Option.eq_none_iff_forall_ne_some]
  intro byte named
  obtain ⟨i, j, k, hi, hj, hk, -⟩ := octalByte?_eq_some_iff.mp named
  rw [hi, hj, hk] at h
  simp at h

theorem length_of_escape? {b byte : UInt8} {bs : Bytes} (h : escape? (b :: bs) = some byte) :
    3 ≤ bs.length := by
  rw [escape?.eq_def] at h
  split at h
  · next same =>
    obtain ⟨-, rfl⟩ := List.cons.inj same
    simp
  · cases h

/-- What is read at the front of some bytes does not depend on what comes behind a
byte that is no octal digit. -/
theorem escape?_append (stops : octalDigit? t = none) (b : UInt8) (bs rest : Bytes) :
    escape? (b :: (bs ++ t :: rest)) = escape? (b :: bs) := by
  have stopped : ∀ {x y z more}, octalByte? x y z = none →
      escape? (b :: x :: y :: z :: more) = none := by
    intro x y z more none
    rw [escape?, none, ite_self]
  -- If there are fewer than three bytes, the one that is no digit is among the next three.
  rcases bs with _ | ⟨x, _ | ⟨y, _ | ⟨z, bs⟩⟩⟩
  · rcases rest with _ | ⟨u, _ | ⟨v, rest⟩⟩
    · rfl
    · rfl
    · exact stopped (octalByte?_eq_none (.inl stops))
  · rcases rest with _ | ⟨u, rest⟩
    · rfl
    · exact stopped (octalByte?_eq_none (.inr (.inl stops)))
  · exact stopped (octalByte?_eq_none (.inr (.inr stops)))
  · rfl

theorem unescapeBytes_append_of_stops (stops : octalDigit? t = none) (bs rest : Bytes) :
    unescapeBytes (bs ++ t :: rest) = unescapeBytes bs ++ unescapeBytes (t :: rest) := by
  fun_induction unescapeBytes bs with
  | case1 => rfl
  | case2 b bs byte h ih =>
      rw [List.cons_append, unescapeBytes, escape?_append stops, h]
      dsimp only
      rw [List.drop_append_of_le_length (length_of_escape? h), ih]
      rfl
  | case3 b bs h ih =>
      rw [List.cons_append, unescapeBytes, escape?_append stops, h]
      dsimp only
      rw [ih]
      rfl

end Parts

/-- A backslash that does not begin an escape is kept, and what stands before and
behind it is read as if it stood alone. -/
theorem unescape_backslash {before after : List Char}
    (plain : ∀ byte digits, Code byte digits → ¬ digits <+: after) :
    unescape (before ++ '\\' :: after) = unescape before ++ "\\" ++ unescape after := by
  have slash : String.utf8EncodeChar '\\' = [92] := by decide
  have none : escape? (92 :: Utf8.encode after) = none := by
    rw [Option.eq_none_iff_forall_ne_some]
    intro byte h
    obtain ⟨digits, rest, code, rfl⟩ := escape?_encode_eq_some_iff.mp h
    exact plain byte digits code (List.prefix_append digits rest)
  have kept : unescapeBytes (92 :: Utf8.encode after) =
      92 :: unescapeBytes (Utf8.encode after) := by
    rw [unescapeBytes, none]
  have whole : unescapeBytes (Utf8.encode (before ++ '\\' :: after)) =
      unescapeBytes (Utf8.encode before) ++ 92 :: unescapeBytes (Utf8.encode after) := by
    rw [Utf8.encode_append, Utf8.encode_cons, slash, List.singleton_append,
      unescapeBytes_append_of_stops (by decide), kept]
  have read : Utf8.decodeLossy (92 :: unescapeBytes (Utf8.encode after)) =
      '\\' :: Utf8.decodeLossy (unescapeBytes (Utf8.encode after)) := by
    rw [← Utf8.decodeLossy_encode_append, slash, List.singleton_append]
  rw [unescape, whole, Utf8.lossyString, Utf8.decodeLossy_append (by decide), read,
    ← List.singleton_append, String.ofList_append, String.ofList_append, String.append_assoc]
  rfl

theorem unescapeBytes_code {byte : UInt8} {digits : List Char} (code : Code byte digits)
    (before after : List Char) :
    unescapeBytes (Utf8.encode (before ++ '\\' :: (digits ++ after))) =
      unescapeBytes (Utf8.encode before) ++ byte :: unescapeBytes (Utf8.encode after) := by
  have slash : String.utf8EncodeChar '\\' = [92] := by decide
  have named : escape? (92 :: Utf8.encode (digits ++ after)) = some byte :=
    escape?_encode_eq_some_iff.mpr ⟨digits, after, code, rfl⟩
  have behind : (Utf8.encode (digits ++ after)).drop 3 = Utf8.encode after := by
    obtain ⟨a, b, c, i, j, k, rfl, ha, hb, hc, -⟩ := code_iff.mp code
    obtain ⟨x, hx, -⟩ := octalDigit?_of_digit? ha
    obtain ⟨y, hy, -⟩ := octalDigit?_of_digit? hb
    obtain ⟨z, hz, -⟩ := octalDigit?_of_digit? hc
    simp only [List.cons_append, List.nil_append, Utf8.encode_cons, hx, hy, hz, List.drop_succ_cons,
      List.drop_zero]
  rw [Utf8.encode_append, Utf8.encode_cons, slash, List.singleton_append,
    unescapeBytes_append_of_stops (by decide), unescapeBytes, named]
  dsimp only
  rw [behind]

/-! ## The scan

The reader as a machine that takes one turn at a time, so that its end is a fact
about turns. -/

/-- A scan of some bytes: those ahead of it, and what it has read. -/
structure Scan where
  ahead : Bytes
  out : Bytes

/-- One turn of the scan: it takes an escape, or a byte as it is. -/
def Scan.turn : Scan → Scan
  | ⟨[], out⟩ => ⟨[], out⟩
  | ⟨b :: rest, out⟩ =>
    match escape? (b :: rest) with
    | some byte => ⟨rest.drop 3, out ++ [byte]⟩
    | none => ⟨rest, out ++ [b]⟩

theorem Scan.turn_spec {s : Scan} (more : s.ahead ≠ []) :
    s.turn.ahead.length < s.ahead.length ∧
      ∃ byte, s.turn.out = s.out ++ [byte] ∧
        unescapeBytes s.ahead = byte :: unescapeBytes s.turn.ahead := by
  obtain ⟨ahead, out⟩ := s
  obtain ⟨b, rest, rfl⟩ := List.exists_cons_of_ne_nil more
  rw [turn]
  cases h : escape? (b :: rest) with
  | some byte =>
      refine ⟨?_, byte, rfl, ?_⟩
      · simp only [List.length_drop, List.length_cons]
        omega
      · rw [unescapeBytes, h]
  | none =>
      refine ⟨Nat.lt_succ_self _, b, rfl, ?_⟩
      rw [unescapeBytes, h]

/-- The scan comes to the end of the bytes, after one turn for each byte that is read. -/
theorem Scan.ends (s : Scan) :
    (unescapeBytes s.ahead).length ≤ s.ahead.length ∧
      Scan.turn^[(unescapeBytes s.ahead).length] s = ⟨[], s.out ++ unescapeBytes s.ahead⟩ ∧
      ∀ k < (unescapeBytes s.ahead).length, (Scan.turn^[k] s).ahead ≠ [] := by
  induction hlength : s.ahead.length using Nat.strong_induction_on generalizing s with
  | _ n ih =>
      subst hlength
      by_cases more : s.ahead = []
      · obtain ⟨ahead, out⟩ := s
        obtain rfl : ahead = [] := more
        rw [unescapeBytes, List.append_nil]
        exact ⟨Nat.le_refl _, rfl, fun k hk => absurd hk (Nat.not_lt_zero k)⟩
      · obtain ⟨shorter, byte, hout, hread⟩ := turn_spec more
        obtain ⟨short, run, busy⟩ := ih _ shorter s.turn rfl
        rw [hread, List.length_cons]
        refine ⟨by omega, ?_, fun k hk => ?_⟩
        · rw [Function.iterate_succ_apply, run, hout, List.append_assoc, List.singleton_append]
        · cases k with
          | zero => exact more
          | succ k =>
              rw [Function.iterate_succ_apply]
              exact busy k (by omega)

/-! ## Every field -/

/-- Whatever characters are escaped, if every backslash is, the text is read back; an
escape is read as its byte and any other backslash as itself, whatever stands around
it; and the scan of a field ends, wherever that ends. -/
theorem unescape_exact :
    (∀ marked : List (Char × Bool), (∀ m ∈ marked, m.1 = '\\' → m.2 = true) →
      unescape (escapeMarked marked) = String.ofList (marked.map Prod.fst)) ∧
    (∀ before after byte digits, Code byte digits →
      unescapeBytes (Utf8.encode (before ++ '\\' :: (digits ++ after))) =
        unescapeBytes (Utf8.encode before) ++ byte :: unescapeBytes (Utf8.encode after)) ∧
    (∀ before after, (∀ byte digits, Code byte digits → ¬ digits <+: after) →
      unescape (before ++ '\\' :: after) = unescape before ++ "\\" ++ unescape after) ∧
    ∀ field, ∃ n ≤ (Utf8.encode field).length,
      (∀ k < n, (Scan.turn^[k] ⟨Utf8.encode field, []⟩).ahead ≠ []) ∧
      (Scan.turn^[n] ⟨Utf8.encode field, []⟩).ahead = [] ∧
      unescape field = Utf8.lossyString (Scan.turn^[n] ⟨Utf8.encode field, []⟩).out := by
  refine ⟨fun marked slash => ?_, fun before after byte digits code => ?_,
    fun before after plain => ?_, fun field => ?_⟩
  · rw [unescape, unescapeBytes_escapeMarked slash, Utf8.lossyString, Utf8.decodeLossy_encode]
  · exact unescapeBytes_code code before after
  · exact unescape_backslash plain
  · obtain ⟨short, run, busy⟩ := Scan.ends ⟨Utf8.encode field, []⟩
    rw [List.nil_append] at run
    refine ⟨_, short, busy, congrArg Scan.ahead run, ?_⟩
    rw [run]
    rfl

/-- A character of two bytes and a backslash, both with digits behind them, and a field
that ends inside an escape. -/
theorem unescape_exact_of_cut_escape :
    let marked := [('ü', true), ('1', false), ('\\', true), ('4', false)]
    (∀ m ∈ marked, m.1 = '\\' → m.2 = true) ∧
      escapeMarked marked = "\\303\\2741\\1344".toList ∧
      unescape "\\303\\2741\\1344".toList = "ü1\\4" ∧
      (∀ byte digits, Code byte digits → ¬ digits <+: ['0', '4']) ∧
      unescape "\\040\\04".toList = " \\04" := by
  intro marked
  obtain ⟨inverse, -, literal, -⟩ := unescape_exact
  have slash : ∀ m ∈ marked, m.1 = '\\' → m.2 = true := by decide
  have written : escapeMarked marked = "\\303\\2741\\1344".toList := by decide
  have short : ∀ byte digits, Code byte digits → ¬ digits <+: ['0', '4'] :=
    fun byte digits code front => absurd (code.1 ▸ front.length_le) (by decide)
  have before : unescape "\\040".toList = " " := by decide +kernel
  have after : unescape ['0', '4'] = "04" := by decide +kernel
  have read := literal "\\040".toList ['0', '4'] short
  rw [before, after] at read
  exact ⟨slash, written, written ▸ inverse marked slash, short, read⟩

end BoardRig.Mount
