/-
# `BoardRig.Proofs.Text.Draining` — bytes that arrive in parts

A piece that is certain stays the same whatever follows it, and only a start
that was cut off can go on (`piece_append`).  So draining a buffer, keeping
what is left and draining again when more has come gives the text of all the
bytes drained at once (`drain_append`), and the text of bytes as a whole is
what draining gives and one replacement for what it leaves
(`decodeLossy_eq_drain`).  Bytes below 128 leave nothing (`drain_ascii`).
-/
import BoardRig.Text.Utf8

namespace BoardRig.Utf8

/-! ## Pieces with more bytes behind them

More bytes can only matter to a piece that reached the end of the buffer. -/

/-- The piece with more bytes behind what is left. -/
def Piece.followedBy : Piece → Bytes → Piece
  | .char c rest, more => .char c (rest ++ more)
  | .illFormed rest, more => .illFormed (rest ++ more)
  | .cutOff, _ => .cutOff

theorem tails_append {bits more : Nat} {bs : Bytes} (behind : Bytes)
    (h : tails bits more bs ≠ .cutOff) :
    tails bits more (bs ++ behind) = (tails bits more bs).followedBy behind := by
  induction more generalizing bits bs with
  | zero => rfl
  | succ more ih =>
      cases bs with
      | nil => exact absurd rfl h
      | cons b bs =>
          rw [List.cons_append, tails, tails]
          rw [tails] at h
          split at h
          · rename_i hb
            rw [if_pos hb, if_pos hb]
            exact ih h
          · rename_i hb
            rw [if_neg hb, if_neg hb]
            rfl

theorem follow_append {lead : Lead} {bs : Bytes} (behind : Bytes) (h : follow lead bs ≠ .cutOff) :
    follow lead (bs ++ behind) = (follow lead bs).followedBy behind := by
  cases bs with
  | nil => exact absurd rfl h
  | cons b bs =>
      rw [List.cons_append, follow, follow]
      rw [follow] at h
      split at h
      · rename_i hb
        rw [if_pos hb, if_pos hb]
        exact tails_append behind h
      · rename_i hb
        rw [if_neg hb, if_neg hb]
        rfl

/-- A piece that is not cut off is the same with more bytes behind it. -/
theorem piece_append {b : UInt8} {bs : Bytes} (behind : Bytes) {p : Piece} (h : piece b bs = p)
    (hp : p ≠ .cutOff) : piece b (bs ++ behind) = p.followedBy behind := by
  subst h
  rw [piece, piece]
  rw [piece] at hp
  split at hp
  · rename_i hb
    rw [if_pos hb, if_pos hb]
    rfl
  · rename_i hb
    rw [if_neg hb, if_neg hb]
    cases hl : lead? b with
    | none => rfl
    | some lead =>
        rw [hl] at hp
        exact follow_append behind hp

/-! ## Reading on -/

theorem readFrom_nil (text : List Char) : readFrom text [] = (text, []) := by
  rw [readFrom]

theorem readFrom_char {text : List Char} {b : UInt8} {bs rest : Bytes} {c : Char}
    (h : piece b bs = .char c rest) : readFrom text (b :: bs) = readFrom (c :: text) rest := by
  rw [readFrom]
  split <;> simp_all

theorem readFrom_illFormed {text : List Char} {b : UInt8} {bs rest : Bytes}
    (h : piece b bs = .illFormed rest) :
    readFrom text (b :: bs) = readFrom (replacement :: text) rest := by
  rw [readFrom]
  split <;> simp_all

theorem readFrom_cutOff {text : List Char} {b : UInt8} {bs : Bytes}
    (h : piece b bs = .cutOff) : readFrom text (b :: bs) = (text, b :: bs) := by
  rw [readFrom]
  split <;> simp_all

/-- Reading goes on where it stopped, with what it left in front. -/
theorem readFrom_append (text : List Char) (bs behind : Bytes) :
    readFrom text (bs ++ behind)
      = readFrom (readFrom text bs).1 ((readFrom text bs).2 ++ behind) := by
  fun_induction readFrom text bs with
  | case1 text => rfl
  | case2 text b bs c rest h _ ih =>
      rw [List.cons_append, readFrom_char (piece_append behind h Piece.noConfusion)]
      exact ih
  | case3 text b bs rest h _ ih =>
      rw [List.cons_append, readFrom_illFormed (piece_append behind h Piece.noConfusion)]
      exact ih
  | case4 text b bs h => rfl

theorem readFrom_text_append (text before : List Char) (bs : Bytes) :
    readFrom (text ++ before) bs = ((readFrom text bs).1 ++ before, (readFrom text bs).2) := by
  fun_induction readFrom text bs with
  | case1 text => exact readFrom_nil _
  | case2 text b bs c rest h _ ih =>
      rw [readFrom_char h]
      exact ih
  | case3 text b bs rest h _ ih =>
      rw [readFrom_illFormed h]
      exact ih
  | case4 text b bs h => exact readFrom_cutOff h

/-! ## Draining -/

theorem drain_nil : drain [] = ([], []) := by
  rw [drain, readFrom_nil]
  rfl

theorem readFrom_ascii {bs : Bytes} (ascii : ∀ b ∈ bs, b.toNat < 0x80) (text : List Char) :
    readFrom text bs = ((bs.map fun b => Char.ofNat b.toNat).reverse ++ text, []) := by
  induction bs generalizing text with
  | nil => exact readFrom_nil text
  | cons b bs ih =>
      have one : piece b bs = .char (Char.ofNat b.toNat) bs := if_pos (ascii b List.mem_cons_self)
      rw [readFrom_char one, ih fun b hb => ascii b (List.mem_cons_of_mem _ hb), List.map_cons,
        List.reverse_cons, List.append_assoc, List.singleton_append]

theorem drain_ascii {bs : Bytes} (ascii : ∀ b ∈ bs, b.toNat < 0x80) :
    drain bs = (bs.map fun b => Char.ofNat b.toNat, []) := by
  rw [drain, readFrom_ascii ascii]
  simp

/-- Draining what arrives later together with what was left gives the rest of
the text and leaves the same. -/
theorem drain_append (bs behind : Bytes) :
    drain (bs ++ behind)
      = ((drain bs).1 ++ (drain ((drain bs).2 ++ behind)).1,
          (drain ((drain bs).2 ++ behind)).2) := by
  have h := readFrom_append [] bs behind
  have h' := readFrom_text_append [] (readFrom [] bs).1 ((readFrom [] bs).2 ++ behind)
  rw [List.nil_append] at h'
  rw [h'] at h
  simp only [drain, h, List.reverse_append]

theorem decodeLossy_eq_drain (bs : Bytes) :
    decodeLossy bs = (drain bs).1 ++ if (drain bs).2 = [] then [] else [replacement] := by
  rw [decodeLossy, drain]
  cases h : (readFrom [] bs).2 with
  | nil => simp [h]
  | cons b left => simp [h]

end BoardRig.Utf8
