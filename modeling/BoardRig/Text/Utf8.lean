/-
Text in bytes: the encoding of characters as one to four bytes, and reading
bytes that may be ill-formed or cut off.

Reading takes one piece from the front of the bytes. A piece is a character,
or an ill-formed run (the longest start of a well-formed character that
does not go on as one, and at least one byte), or the start of a character
that the end of the bytes cuts off. Each ill-formed run reads as U+FFFD.
A whole text reads a cut-off start as U+FFFD too, while text that arrives in
parts keeps it until more bytes come.
-/
namespace BoardRig

abbrev Bytes := List UInt8

namespace Utf8

/-- The character that stands for an ill-formed run. -/
def replacement : Char := '\uFFFD'

/-! ## Encoding -/

def encode (cs : List Char) : Bytes :=
  cs.flatMap String.utf8EncodeChar

def encodeString (s : String) : Bytes :=
  encode s.toList

def size (cs : List Char) : Nat :=
  cs.foldl (fun n c => n + c.utf8Size) 0

/-! ## One piece

The first byte says how many others belong to it, and bounds the first of these more
tightly than the rest where that excludes a character with two encodings.  A piece
leaves fewer bytes than there were, which is why reading ends. -/

/-- The piece at the front of some bytes, and the bytes behind it. -/
inductive Piece where
  | char (c : Char) (rest : Bytes)
  | illFormed (rest : Bytes)
  | cutOff
deriving DecidableEq, Repr

/-- Whether a byte lies between two bounds. -/
def within (low high : Nat) (b : UInt8) : Bool :=
  low ≤ b.toNat && b.toNat ≤ high

/-- Whether a byte may stand behind the second place of a character. -/
def isTail (b : UInt8) : Bool :=
  within 0x80 0xBF b

/-- What the first byte of a character says: the bits it gives, how many
bytes follow, and the bounds of the first of them. -/
structure Lead where
  bits : Nat
  more : Nat
  low : Nat
  high : Nat
deriving DecidableEq, Repr

/-- The reading of a byte as the first of several. -/
def lead? (b : UInt8) : Option Lead :=
  let n := b.toNat
  if 0xC2 ≤ n ∧ n ≤ 0xDF then some ⟨n - 0xC0, 1, 0x80, 0xBF⟩
  else if n = 0xE0 then some ⟨0, 2, 0xA0, 0xBF⟩
  else if n = 0xED then some ⟨0xD, 2, 0x80, 0x9F⟩
  else if 0xE1 ≤ n ∧ n ≤ 0xEF then some ⟨n - 0xE0, 2, 0x80, 0xBF⟩
  else if n = 0xF0 then some ⟨0, 3, 0x90, 0xBF⟩
  else if 0xF1 ≤ n ∧ n ≤ 0xF3 then some ⟨n - 0xF0, 3, 0x80, 0xBF⟩
  else if n = 0xF4 then some ⟨4, 3, 0x80, 0x8F⟩
  else none

/-- The value of some bits followed by the six bits of a tail byte. -/
def append (bits : Nat) (b : UInt8) : Nat :=
  bits * 64 + (b.toNat - 0x80)

/-- Read `more` tail bytes behind the bits read so far. -/
def tails (bits : Nat) : (more : Nat) → Bytes → Piece
  | 0, rest => .char (Char.ofNat bits) rest
  | _ + 1, [] => .cutOff
  | more + 1, b :: rest =>
    if isTail b then tails (append bits b) more rest else .illFormed (b :: rest)

def follow (lead : Lead) : Bytes → Piece
  | [] => .cutOff
  | b :: rest =>
    if within lead.low lead.high b then tails (append lead.bits b) (lead.more - 1) rest
    else .illFormed (b :: rest)

/-- The piece that begins with byte `b`. -/
def piece (b : UInt8) (rest : Bytes) : Piece :=
  if b.toNat < 0x80 then .char (Char.ofNat b.toNat) rest
  else match lead? b with
    | some lead => follow lead rest
    | none => .illFormed rest

theorem tails_char_length {bits more : Nat} {bs rest : Bytes} {c : Char}
    (h : tails bits more bs = .char c rest) : rest.length ≤ bs.length := by
  induction more generalizing bits bs with
  | zero =>
    simp only [tails, Piece.char.injEq] at h
    exact h.2 ▸ Nat.le_refl _
  | succ more ih =>
    cases bs with
    | nil => simp [tails] at h
    | cons b bs =>
      simp only [tails] at h
      split at h
      · exact Nat.le_succ_of_le (ih h)
      · exact absurd h (by simp)

theorem tails_illFormed_length {bits more : Nat} {bs rest : Bytes}
    (h : tails bits more bs = .illFormed rest) : rest.length ≤ bs.length := by
  induction more generalizing bits bs with
  | zero => simp [tails] at h
  | succ more ih =>
    cases bs with
    | nil => simp [tails] at h
    | cons b bs =>
      simp only [tails] at h
      split at h
      · exact Nat.le_succ_of_le (ih h)
      · simp only [Piece.illFormed.injEq] at h
        exact h ▸ Nat.le_refl _

theorem piece_char_length {b : UInt8} {bs rest : Bytes} {c : Char}
    (h : piece b bs = .char c rest) : rest.length ≤ bs.length := by
  unfold piece at h
  split at h
  · simp only [Piece.char.injEq] at h
    exact h.2 ▸ Nat.le_refl _
  · split at h
    · unfold follow at h
      split at h
      · exact absurd h (by simp)
      · split at h
        · exact Nat.le_succ_of_le (tails_char_length h)
        · exact absurd h (by simp)
    · exact absurd h (by simp)

theorem piece_illFormed_length {b : UInt8} {bs rest : Bytes}
    (h : piece b bs = .illFormed rest) : rest.length ≤ bs.length := by
  unfold piece at h
  split at h
  · exact absurd h (by simp)
  · split at h
    · unfold follow at h
      split at h
      · exact absurd h (by simp)
      · split at h
        · exact Nat.le_succ_of_le (tails_illFormed_length h)
        · simp only [Piece.illFormed.injEq] at h
          exact h ▸ Nat.le_refl _
    · simp only [Piece.illFormed.injEq] at h
      exact h ▸ Nat.le_refl _

/-! ## Whole texts and texts in parts

Both go by pieces and differ in the last one alone, if the end cuts it off. -/

/-- The text read so far, in reverse, and the bytes that the end cuts off,
after reading on from `text`. -/
def readFrom (text : List Char) : Bytes → List Char × Bytes
  | [] => (text, [])
  | b :: bs =>
    match h : piece b bs with
    | .char c rest =>
      have := piece_char_length h
      readFrom (c :: text) rest
    | .illFormed rest =>
      have := piece_illFormed_length h
      readFrom (replacement :: text) rest
    | .cutOff => (text, b :: bs)
termination_by bs => bs.length
decreasing_by all_goals simp_wf; omega

/-- Read as much of a buffer as is certain. The text comes first, then what
stays in the buffer: the start of a character that may still arrive. -/
def drain (buffer : Bytes) : List Char × Bytes :=
  let (text, left) := readFrom [] buffer
  (text.reverse, left)

/-- The text of all the bytes, where a piece cut off by the end counts as
ill-formed. -/
def decodeLossy (bs : Bytes) : List Char :=
  let (text, left) := readFrom [] bs
  if left.isEmpty then text.reverse else (replacement :: text).reverse

def lossyString (bs : Bytes) : String :=
  String.ofList (decodeLossy bs)

/-- Whether every piece is a character, reading from the front. -/
def isWellFormed : Bytes → Bool
  | [] => true
  | b :: bs =>
    match h : piece b bs with
    | .char _ rest =>
      have := piece_char_length h
      isWellFormed rest
    | _ => false
termination_by bs => bs.length
decreasing_by simp_wf; omega

def decode? (bs : Bytes) : Option (List Char) :=
  if isWellFormed bs then some (decodeLossy bs) else none

end Utf8

end BoardRig
