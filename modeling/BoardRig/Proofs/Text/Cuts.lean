/-
# `BoardRig.Proofs.Text.Cuts` — where a text is cut

A text is cut into words at separators and into lines at line feeds, and both
kinds of cut are told for a text that goes on behind a separator
(`wordsFrom_append`, `lines_append`): the words, or the lines, of what stands
before it come first and are left as they are.  Trimming takes away the blanks
around a text (`trim_padded`, `exists_padding`) and leaves a word at its front
(`trim_append`).
-/
import BoardRig.Proofs.Path
import Mathlib.Data.List.DropRight

namespace BoardRig.Text

/-! ## Blanks -/

theorem isBlank_of_graphic {c : Char} (low : 0x20 < c.toNat) (high : c.toNat < 0x7F) :
    isBlank c = false := by
  simp only [isBlank, Bool.or_eq_false_iff, Bool.and_eq_false_iff, decide_eq_false_iff_not,
    beq_eq_false_iff_ne]
  omega

/-! ## Runs

A run and what stands behind it are told apart by the first character that is not
of the run. -/

section Runs

variable {p : Char → Bool} {run rest : List Char} (all : ∀ c ∈ run, p c = true)
  (ends : ∀ c ∈ rest.head?, p c = false)

include all ends

theorem takeWhile_append_of_head? : (run ++ rest).takeWhile p = run := by
  rw [List.takeWhile_append_of_pos all]
  cases rest with
  | nil => rw [List.takeWhile_nil, List.append_nil]
  | cons c rest =>
      rw [List.takeWhile_cons_of_neg (by rw [ends c rfl]; exact Bool.false_ne_true),
        List.append_nil]

theorem dropWhile_append_of_head? : (run ++ rest).dropWhile p = rest := by
  rw [List.dropWhile_append_of_pos all]
  cases rest with
  | nil => rfl
  | cons c rest =>
      rw [List.dropWhile_cons_of_neg (by rw [ends c rfl]; exact Bool.false_ne_true)]

end Runs

/-! ## Words

The word that grows is carried along, so the lemmas are about any beginning of it. -/

section Words

variable {p : Char → Bool}

theorem wordsFrom_cons_of_sep {c : Char} (h : p c = true) (word rest : List Char) :
    wordsFrom p word (c :: rest) = wordsFrom p word [] ++ wordsFrom p [] rest := by
  simp only [wordsFrom, if_pos h]
  split
  · rfl
  · rfl

theorem wordsFrom_cons_of_not {c : Char} (h : p c = false) (word rest : List Char) :
    wordsFrom p word (c :: rest) = wordsFrom p (c :: word) rest := by
  rw [wordsFrom, if_neg (h ▸ Bool.false_ne_true)]

theorem wordsFrom_append {sep : Char} (h : p sep = true) (word a b : List Char) :
    wordsFrom p word (a ++ sep :: b) = wordsFrom p word a ++ wordsFrom p [] b := by
  induction a generalizing word with
  | nil => exact wordsFrom_cons_of_sep h word b
  | cons c cs ih =>
      rw [List.cons_append]
      cases hc : p c with
      | true =>
          rw [wordsFrom_cons_of_sep hc, wordsFrom_cons_of_sep hc, ih, List.append_assoc]
      | false => rw [wordsFrom_cons_of_not hc, wordsFrom_cons_of_not hc, ih]

theorem wordsFrom_append_of_forall {run : List Char} (h : ∀ c ∈ run, p c = false)
    (word rest : List Char) :
    wordsFrom p word (run ++ rest) = wordsFrom p (run.reverse ++ word) rest := by
  induction run generalizing word with
  | nil => rfl
  | cons c cs ih =>
      obtain ⟨hc, hcs⟩ := List.forall_mem_cons.mp h
      rw [List.cons_append, wordsFrom_cons_of_not hc, ih hcs, List.reverse_cons,
        List.append_assoc, List.singleton_append]

theorem wordsFrom_of_forall {run : List Char} (h : ∀ c ∈ run, p c = false) (some : run ≠ []) :
    wordsFrom p [] run = [run] := by
  have whole := wordsFrom_append_of_forall h [] []
  rw [List.append_nil, List.append_nil] at whole
  rw [whole, wordsFrom, if_neg (by simpa using some), List.reverse_reverse]

theorem eq_reverse_of_mem_wordsFrom_nil {word part : List Char} (h : part ∈ wordsFrom p word []) :
    part = word.reverse := by
  rw [wordsFrom] at h
  split at h
  · exact absurd h List.not_mem_nil
  · exact List.mem_singleton.mp h

end Words

/-! ## Lines -/

theorem dropReturn_append_singleton {cs : List Char} {c : Char} (h : c ≠ '\r') :
    dropReturn (cs ++ [c]) = cs ++ [c] := by
  rw [dropReturn, List.getLast?_append, List.getLast?_singleton, if_neg (by simpa using h)]

theorem linesOfPieces_cons (piece : List Char) {rest : List (List Char)} (some : rest ≠ []) :
    linesOfPieces (piece :: rest) = dropReturn piece :: linesOfPieces rest := by
  cases rest with
  | nil => exact absurd rfl some
  | cons next rest => rfl

theorem splitFrom_eq_splitOnPPrepend (sep : Char) (piece cs : List Char) :
    splitFrom sep piece cs = cs.splitOnPPrepend (· == sep) piece := by
  induction cs generalizing piece with
  | nil => rfl
  | cons c cs ih =>
      rw [splitFrom, ih, ih, List.splitOnPPrepend_cons_eq_if]
      simp only [beq_iff_eq]
      rfl

theorem split_eq_splitOn (sep : Char) (cs : List Char) : split sep cs = cs.splitOn sep :=
  splitFrom_eq_splitOnPPrepend sep [] cs

theorem lines_append {a : List Char} (h : '\n' ∉ a) (b : List Char) :
    lines (a ++ '\n' :: b) = dropReturn a :: lines b := by
  rw [lines, split_eq_splitOn, List.splitOn_append_cons_self_of_not_mem h,
    linesOfPieces_cons a (List.splitOn_ne_nil _ _), lines, split_eq_splitOn]

/-! ## Trimming -/

theorem trimEnd_eq_rdropWhile (cs : List Char) : trimEnd cs = cs.rdropWhile isBlank := rfl

theorem trimEnd_append_of_blank {after : List Char} (h : ∀ c ∈ after, isBlank c = true)
    (cs : List Char) : trimEnd (cs ++ after) = trimEnd cs := by
  rw [trimEnd, dropEndWhile, List.reverse_append,
    List.dropWhile_append_of_pos fun c hc => h c (List.mem_reverse.mp hc)]
  rfl

/-- Where nothing is trimmed from a first part, only what follows is trimmed. -/
theorem trimEnd_append {cs : List Char} (h : trimEnd cs = cs) (rest : List Char) :
    trimEnd (cs ++ rest) = cs ++ trimEnd rest := by
  rw [trimEnd_eq_rdropWhile] at h
  rw [trimEnd_eq_rdropWhile, trimEnd_eq_rdropWhile]
  induction rest using List.reverseRecOn with
  | nil => rw [List.append_nil, h, List.rdropWhile_nil, List.append_nil]
  | append_singleton rest c ih =>
      rw [← List.append_assoc, List.rdropWhile_concat, List.rdropWhile_concat, ih]
      split
      · rfl
      · rw [List.append_assoc]

theorem trim_padded {before after : List Char} (hbefore : ∀ c ∈ before, isBlank c = true)
    (hafter : ∀ c ∈ after, isBlank c = true) (cs : List Char) :
    trim (before ++ cs ++ after) = trim cs := by
  rw [trim, trimStart, List.append_assoc, List.dropWhile_append_of_pos hbefore,
    List.dropWhile_append, trim, trimStart]
  split
  · next h => rw [List.isEmpty_iff.mp h, List.dropWhile_eq_nil_iff.mpr hafter]
  · exact trimEnd_append_of_blank hafter _

theorem trim_append {word : List Char} (h : ∀ c ∈ word, isBlank c = false) (some : word ≠ [])
    (rest : List Char) : trim (word ++ rest) = word ++ trimEnd rest := by
  have whole : trimEnd word = word :=
    List.rdropWhile_eq_self_iff.mpr fun hl => by
      rw [h _ (List.getLast_mem hl)]
      exact Bool.false_ne_true
  obtain ⟨c, cs, rfl⟩ := List.exists_cons_of_ne_nil some
  rw [trim, trimStart, List.cons_append, List.dropWhile_cons_of_neg, ← List.cons_append,
    trimEnd_append whole]
  rw [h c List.mem_cons_self]
  exact Bool.false_ne_true

theorem trim_of_forall {cs : List Char} (h : ∀ c ∈ cs, isBlank c = false) : trim cs = cs := by
  cases cs with
  | nil => rfl
  | cons c cs =>
      have whole := trim_append h (List.cons_ne_nil c cs) []
      have nothing : trimEnd [] = [] := rfl
      rwa [nothing, List.append_nil] at whole

theorem exists_padding (cs : List Char) :
    ∃ before after, (∀ c ∈ before, isBlank c = true) ∧ (∀ c ∈ after, isBlank c = true) ∧
      before ++ trim cs ++ after = cs := by
  refine ⟨cs.takeWhile isBlank, (trimStart cs).rtakeWhile isBlank,
    fun c hc => List.mem_takeWhile_imp hc, fun c hc => List.mem_rtakeWhile_imp hc, ?_⟩
  rw [trim, trimEnd_eq_rdropWhile, List.append_assoc, List.rdropWhile_append_rtakeWhile,
    trimStart, List.takeWhile_append_dropWhile]

/-! ## Cutting at the first occurrence -/

section Cutting

variable {sep : Char}

theorem cutAt?_append {before : List Char} (h : sep ∉ before) (after : List Char) :
    cutAt? sep (before ++ sep :: after) = some (before, after) := by
  have other : ∀ c ∈ before, (c != sep) = true := fun c hc =>
    bne_iff_ne.mpr fun same => h (same ▸ hc)
  rw [cutAt?, List.dropWhile_append_of_pos other, List.takeWhile_append_of_pos other]
  simp

theorem cutAt?_of_not_mem {cs : List Char} (h : sep ∉ cs) : cutAt? sep cs = none := by
  have other : ∀ c ∈ cs, (c != sep) = true := fun c hc =>
    bne_iff_ne.mpr fun same => h (same ▸ hc)
  rw [cutAt?, List.dropWhile_eq_nil_iff.mpr other]

theorem cutAt?_eq_some_iff {cs before after : List Char} :
    cutAt? sep cs = some (before, after) ↔ cs = before ++ sep :: after ∧ sep ∉ before := by
  constructor
  · intro h
    by_cases there : sep ∈ cs
    · obtain ⟨front, rest, rfl, first⟩ := List.eq_append_cons_of_mem there
      rw [cutAt?_append first] at h
      cases h
      exact ⟨rfl, first⟩
    · rw [cutAt?_of_not_mem there] at h
      cases h
  · rintro ⟨rfl, first⟩
    exact cutAt?_append first after

end Cutting

end BoardRig.Text
