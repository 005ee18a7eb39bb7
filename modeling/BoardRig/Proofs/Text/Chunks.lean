/-
# `BoardRig.Proofs.Text.Chunks` — draining chunk by chunk

What bytes read as is told without a reader: characters from the front, and
one U+FFFD for each maximal ill-formed run (`Lossy`).  Bytes have just one text
of this kind, and it is the one that decoding them as a whole gives
(`lossy_iff`).  A buffer that is drained whenever a chunk was put behind it
gives the same text, and what it is left with is never more than the start of
one character (`drainEach_eq_decodeLossy`).
-/
import BoardRig.Proofs.Text.Characters
import BoardRig.Proofs.Text.Draining

namespace BoardRig.Utf8

/-! ## The text of bytes

A relation between bytes and texts that does not mention the reader. -/

/-- The text of some bytes, where each maximal ill-formed run counts as one
U+FFFD. -/
inductive Lossy : Bytes → List Char → Prop where
  | nil : Lossy [] []
  | char {c : Char} {rest : Bytes} {text : List Char} (later : Lossy rest text) :
      Lossy (String.utf8EncodeChar c ++ rest) (c :: text)
  | illFormed {run rest : Bytes} {text : List Char} (maximal : Maximal run rest)
      (later : Lossy rest text) : Lossy (run ++ rest) (replacement :: text)

theorem Maximal.unique {run rest run' rest' : Bytes} (h : Maximal run rest)
    (h' : Maximal run' rest') (same : run ++ rest = run' ++ rest') : run = run' ∧ rest = rest' := by
  have bound : ∀ {run rest run' rest' : Bytes}, Maximal run rest → Maximal run' rest' →
      run ++ rest = run' ++ rest' → run'.length ≤ run.length := by
    intro run rest run' rest' h h' same
    obtain start | single := h'.start
    · exact h.longest run' start (same ▸ List.prefix_append run' rest')
    · exact single ▸ List.length_pos_iff.mpr h.nonempty
  exact List.append_inj same ((bound h' h same.symm).antisymm (bound h h' same))

theorem IsStart.maximal {left : Bytes} (h : IsStart left) (some : left ≠ []) :
    Maximal left [] where
  nonempty := some
  unread c := by
    rintro ⟨behind, hc⟩
    obtain ⟨d, rest, more, hd⟩ := h
    rw [List.append_nil] at hc
    have whole : String.utf8EncodeChar c ++ (behind ++ rest) = String.utf8EncodeChar d ++ [] := by
      rw [← List.append_assoc, hc, hd, List.append_nil]
    exact more (List.append_eq_nil_iff.mp (encode_append_inj whole).2).2
  start := .inl h
  longest bs _ hp := (List.append_nil left ▸ hp).length_le

/-! ## Draining piece by piece

Bytes are a character, an ill-formed run, or a start that was cut off, each with the
rest behind it; this is the induction for everything below. -/

theorem drain_of_readFrom {c : Char} {bs rest : Bytes} (h : readFrom [] bs = readFrom [c] rest) :
    drain bs = (c :: (drain rest).1, (drain rest).2) := by
  have later := readFrom_text_append [] [c] rest
  rw [List.nil_append, ← h] at later
  simp only [drain, later, List.reverse_append, List.reverse_cons, List.reverse_nil,
    List.nil_append, List.singleton_append]

theorem piece_of_encode {c : Char} {b : UInt8} {bs : Bytes}
    (hc : String.utf8EncodeChar c = b :: bs) (rest : Bytes) : piece b (bs ++ rest) = .char c rest := by
  obtain ⟨d, rest', h, same⟩ | ⟨-, d, more, some, h⟩ | ⟨run, rest', -, same, maximal, -⟩ :=
    piece_spec b (bs ++ rest)
  · rw [← List.cons_append, ← hc] at same
    obtain ⟨rfl, rfl⟩ := encode_append_inj same
    exact h
  · have whole : String.utf8EncodeChar d ++ [] = String.utf8EncodeChar c ++ (rest ++ more) := by
      rw [List.append_nil, h, hc, List.cons_append, List.cons_append, List.append_assoc]
    exact absurd (List.append_eq_nil_iff.mp (encode_append_inj whole).2.symm).2 some
  · refine absurd ⟨rest, ?_⟩ (maximal.unread c)
    rw [← same, hc, List.cons_append]

theorem drain_encode_append (c : Char) (rest : Bytes) :
    drain (String.utf8EncodeChar c ++ rest) = (c :: (drain rest).1, (drain rest).2) := by
  obtain ⟨b, bs, hc⟩ := List.exists_cons_of_ne_nil (String.utf8EncodeChar_ne_nil (c := c))
  rw [hc, List.cons_append]
  exact drain_of_readFrom (readFrom_char (piece_of_encode hc rest))

theorem drain_encode (cs : List Char) : drain (encode cs) = (cs, []) := by
  induction cs with
  | nil => exact drain_nil
  | cons c cs ih =>
      rw [encode_cons, drain_encode_append, ih]

theorem drain_maximal_append {run rest : Bytes} (h : Maximal run rest)
    (ends : ¬ IsStart (run ++ rest)) :
    drain (run ++ rest) = (replacement :: (drain rest).1, (drain rest).2) := by
  obtain ⟨b, bs, rfl⟩ := List.exists_cons_of_ne_nil h.nonempty
  rw [List.cons_append] at ends ⊢
  obtain ⟨d, rest', -, same⟩ | ⟨-, start⟩ | ⟨run', rest', hpiece, same, maximal, -⟩ :=
    piece_spec b (bs ++ rest)
  · exact absurd ⟨rest', same.symm⟩ (h.unread d)
  · exact absurd start ends
  · obtain ⟨-, rfl⟩ := h.unique maximal same
    exact drain_of_readFrom (readFrom_illFormed hpiece)

theorem drain_of_isStart {left : Bytes} (h : IsStart left) : drain left = ([], left) := by
  cases left with
  | nil => exact drain_nil
  | cons b bs =>
      obtain ⟨d, rest', -, same⟩ | ⟨hpiece, -⟩ | ⟨_, _, _, _, _, ends⟩ := piece_spec b bs
      · refine absurd ⟨rest', ?_⟩ ((h.maximal (List.cons_ne_nil b bs)).unread d)
        rw [← same, List.append_nil]
      · rw [drain, readFrom_cutOff hpiece]
        rfl
      · exact absurd h ends

/-- What holds of starts of characters, and of longer and longer bytes when a
character or an ill-formed run is put in front, holds of all bytes. -/
theorem bytes_induct {motive : Bytes → Prop} (start : ∀ left, IsStart left → motive left)
    (char : ∀ c rest, motive rest → motive (String.utf8EncodeChar c ++ rest))
    (illFormed : ∀ run rest, Maximal run rest → ¬ IsStart (run ++ rest) → motive rest →
      motive (run ++ rest)) (bs : Bytes) : motive bs := by
  induction hlength : bs.length using Nat.strong_induction_on generalizing bs with
  | _ n ih =>
      subst hlength
      cases bs with
      | nil => exact start [] isStart_nil
      | cons b bs =>
          obtain ⟨c, rest, hpiece, same⟩ | ⟨-, h⟩ | ⟨run, rest, hpiece, same, maximal, ends⟩ :=
            piece_spec b bs
          · have shorter := Nat.lt_succ_of_le (piece_char_length hpiece)
            exact same ▸ char c rest (ih _ shorter rest rfl)
          · exact start _ h
          · have shorter := Nat.lt_succ_of_le (piece_illFormed_length hpiece)
            rw [same] at ends ⊢
            exact illFormed run rest maximal ends (ih _ shorter rest rfl)

/-- What draining leaves is the start of a character, and every character of
the text took at least one byte. -/
theorem drain_leaves (bs : Bytes) :
    IsStart (drain bs).2 ∧ (drain bs).1.length + (drain bs).2.length ≤ bs.length := by
  induction bs using bytes_induct with
  | start left h =>
      rw [drain_of_isStart h]
      exact ⟨h, Nat.le_of_eq (Nat.zero_add _)⟩
  | char c rest ih =>
      have some := List.length_pos_iff.mpr (String.utf8EncodeChar_ne_nil (c := c))
      rw [drain_encode_append, List.length_append]
      refine ⟨ih.1, ?_⟩
      dsimp only [List.length_cons]
      omega
  | illFormed run rest maximal ends ih =>
      have some := List.length_pos_iff.mpr maximal.nonempty
      rw [drain_maximal_append maximal ends, List.length_append]
      refine ⟨ih.1, ?_⟩
      dsimp only [List.length_cons]
      omega

theorem eq_nil_of_drain {bs : Bytes} (h : drain bs = ([], [])) : bs = [] := by
  induction bs using bytes_induct with
  | start left start =>
      rw [drain_of_isStart start] at h
      exact congrArg Prod.snd h
  | char c rest ih =>
      rw [drain_encode_append] at h
      cases h
  | illFormed run rest maximal ends ih =>
      rw [drain_maximal_append maximal ends] at h
      cases h

/-! ## Decoding as a whole

A cut-off start becomes one replacement at the end, and may have to be joined with
what comes first in the bytes behind it. -/

theorem decodeLossy_nil : decodeLossy [] = [] := by
  rw [decodeLossy_eq_drain, drain_nil]
  rfl

theorem decodeLossy_encode_append (c : Char) (rest : Bytes) :
    decodeLossy (String.utf8EncodeChar c ++ rest) = c :: decodeLossy rest := by
  rw [decodeLossy_eq_drain, decodeLossy_eq_drain, drain_encode_append]
  rfl

theorem decodeLossy_of_isStart {left : Bytes} (h : IsStart left) (some : left ≠ []) :
    decodeLossy left = [replacement] := by
  rw [decodeLossy_eq_drain, drain_of_isStart h]
  exact if_neg some

theorem decodeLossy_maximal_append {run rest : Bytes} (h : Maximal run rest) :
    decodeLossy (run ++ rest) = replacement :: decodeLossy rest := by
  by_cases start : IsStart (run ++ rest)
  · -- The run is as long as all the bytes are, so nothing comes behind it.
    have whole := h.longest _ start (List.prefix_refl _)
    rw [List.length_append] at whole
    obtain rfl : rest = [] := List.eq_nil_of_length_eq_zero (by omega)
    rw [decodeLossy_nil, List.append_nil]
    exact decodeLossy_of_isStart (List.append_nil run ▸ start) h.nonempty
  · rw [decodeLossy_eq_drain, decodeLossy_eq_drain, drain_maximal_append h start]
    rfl

theorem IsStart.maximal_cons {left : Bytes} (h : IsStart left) (some : left ≠ []) {t : UInt8}
    (boundary : isTail t = false) (rest : Bytes) : Maximal left (t :: rest) := by
  obtain ⟨b, taken, rfl⟩ := List.exists_cons_of_ne_nil some
  cases hlead : lead? b with
  | none => exact absurd h (not_isStart_cons hlead)
  | some lead =>
      obtain ⟨short, takes⟩ := (isStart_cons_iff hlead).mp h
      refine maximal_of_takes hlead short takes fun further => ?_
      have tail : isTail t = true := by
        cases taken with
        | nil =>
            obtain ⟨low, -, high, -⟩ := lead?_cases hlead
            obtain ⟨above, below⟩ := within_iff.mp further.1
            exact isTail_iff.mpr ⟨low.trans above, below.trans high⟩
        | cons u taken => exact further.2 t (List.mem_append_right _ List.mem_cons_self)
      exact Bool.noConfusion (boundary.symm.trans tail)

/-- Bytes are read on their own up to one that is no tail. -/
theorem decodeLossy_append {t : UInt8} (boundary : isTail t = false) (bs rest : Bytes) :
    decodeLossy (bs ++ t :: rest) = decodeLossy bs ++ decodeLossy (t :: rest) := by
  obtain ⟨start, -⟩ := drain_leaves bs
  have whole : decodeLossy (bs ++ t :: rest) =
      (drain bs).1 ++ decodeLossy ((drain bs).2 ++ t :: rest) := by
    rw [decodeLossy_eq_drain, decodeLossy_eq_drain, drain_append, List.append_assoc]
  rw [whole, decodeLossy_eq_drain bs, List.append_assoc]
  split
  · next none => rw [none]; rfl
  · next some => rw [decodeLossy_maximal_append (start.maximal_cons some boundary rest)]; rfl

theorem lossy_decodeLossy (bs : Bytes) : Lossy bs (decodeLossy bs) := by
  induction bs using bytes_induct with
  | start left h =>
      by_cases some : left = []
      · rw [some, decodeLossy_nil]
        exact .nil
      · rw [decodeLossy_of_isStart h some]
        exact List.append_nil left ▸ .illFormed (h.maximal some) .nil
  | char c rest ih =>
      rw [decodeLossy_encode_append]
      exact .char ih
  | illFormed run rest maximal _ ih =>
      rw [decodeLossy_maximal_append maximal]
      exact .illFormed maximal ih

theorem lossy_iff {bs : Bytes} {text : List Char} : Lossy bs text ↔ text = decodeLossy bs := by
  constructor
  · intro h
    induction h with
    | nil => exact decodeLossy_nil.symm
    | char _ ih => rw [ih, decodeLossy_encode_append]
    | illFormed maximal _ ih => rw [ih, decodeLossy_maximal_append maximal]
  · rintro rfl
    exact lossy_decodeLossy bs

theorem decodeLossy_encode (cs : List Char) : decodeLossy (encode cs) = cs := by
  rw [decodeLossy_eq_drain, drain_encode, if_pos rfl, List.append_nil]

theorem isWellFormed_encode (cs : List Char) : isWellFormed (encode cs) = true := by
  induction cs with
  | nil => rw [encode, List.flatMap_nil, isWellFormed]
  | cons c cs ih =>
      obtain ⟨b, bs, hc⟩ := List.exists_cons_of_ne_nil (String.utf8EncodeChar_ne_nil (c := c))
      rw [encode_cons, hc, List.cons_append, isWellFormed]
      split
      · next read =>
        rw [piece_of_encode hc] at read
        cases read
        exact ih
      · next other => exact absurd (piece_of_encode hc _) (other c _)

theorem decode?_encode (cs : List Char) : decode? (encode cs) = some cs := by
  rw [decode?, isWellFormed_encode, if_pos rfl, decodeLossy_encode]

/-! ## Chunks

The buffer is drained after each chunk; what it is left with goes in front of the
next one. -/

/-- A buffer that was drained, with its text and what was left of it. -/
structure Drained where
  buffer : Bytes
  text : List Char
  left : Bytes

/-- What comes of chunks, each put behind what is left in the buffer before it
is drained. -/
def drainEach (left : Bytes) : List Bytes → List Drained
  | [] => []
  | chunk :: chunks =>
    ⟨left ++ chunk, (drain (left ++ chunk)).1, (drain (left ++ chunk)).2⟩ ::
      drainEach (drain (left ++ chunk)).2 chunks

/-- What is left in the buffer when all has been drained. -/
def leftIn (left : Bytes) (drained : List Drained) : Bytes :=
  drained.getLast?.elim left Drained.left

/-- Draining chunk by chunk goes on where draining the bytes before them
stopped. -/
theorem drain_append_flatten {before left : Bytes} {text : List Char} (chunks : List Bytes)
    (h : drain before = (text, left)) :
    drain (before ++ chunks.flatten)
      = (text ++ (drainEach left chunks).flatMap Drained.text,
          leftIn left (drainEach left chunks)) := by
  induction chunks generalizing before left text with
  | nil =>
      rw [List.flatten_nil, List.append_nil, h, drainEach, List.flatMap_nil, List.append_nil]
      rfl
  | cons chunk chunks ih =>
      have next : drain (before ++ chunk)
          = (text ++ (drain (left ++ chunk)).1, (drain (left ++ chunk)).2) := by
        rw [drain_append, h]
      rw [List.flatten_cons, ← List.append_assoc, ih next, drainEach, List.flatMap_cons,
        List.append_assoc, leftIn, leftIn, List.getLast?_cons]
      cases (drainEach (drain (left ++ chunk)).2 chunks).getLast? <;> rfl

theorem of_mem_drainEach {left : Bytes} {chunks : List Bytes} {d : Drained}
    (h : d ∈ drainEach left chunks) : drain d.buffer = (d.text, d.left) := by
  induction chunks generalizing left with
  | nil => exact absurd h List.not_mem_nil
  | cons chunk chunks ih =>
      obtain rfl | h := List.mem_cons.mp h
      · rfl
      · exact ih h

/-- However bytes are cut into chunks, the texts that draining gives chunk by
chunk, with one U+FFFD for what is left in the end, are the one text of all the
bytes. Each time the start of one character may be left, and no more. -/
theorem drainEach_eq_decodeLossy (chunks : List Bytes) :
    let drained := drainEach [] chunks
    let text := drained.flatMap Drained.text ++
      if leftIn [] drained = [] then [] else [replacement]
    text = decodeLossy chunks.flatten ∧
      (∀ other, Lossy chunks.flatten other ↔ other = text) ∧
      ∀ d ∈ drained, IsStart d.left ∧ d.left.length ≤ 3 ∧
        d.text.length + d.left.length ≤ d.buffer.length := by
  intro drained text
  have whole : text = decodeLossy chunks.flatten := by
    have h := drain_append_flatten chunks drain_nil
    rw [List.nil_append, List.nil_append] at h
    rw [decodeLossy_eq_drain, h]
  refine ⟨whole, fun other => whole ▸ lossy_iff, fun d hd => ?_⟩
  have leaves := drain_leaves d.buffer
  rw [of_mem_drainEach hd] at leaves
  exact ⟨leaves.1, leaves.1.length_le, leaves.2⟩

end BoardRig.Utf8
