/-
# `BoardRig.Proofs.Status.Diagnostics` — output and diagnostics read together

The output of a tool and its diagnostics are read as one text, with nothing
between them.  Diagnostics that name no field (`Chatter`) are left out as lines of
their own, so only their first line matters, and only for what the last line of
the output becomes with it (`ReadTogether`).  If the output has ended its last
line, or the diagnostics begin with a blank one, nothing comes of that
(`parse_combined`).  Otherwise the value on the last line goes on in the
diagnostics, and a state becomes another one.
-/
import BoardRig.Command
import BoardRig.Proofs.Status.Lines

namespace BoardRig

namespace Text

theorem filter_dropWhile_isBlank (cs : List Char) :
    (cs.dropWhile isBlank).filter (fun c => !isBlank c) = cs.filter fun c => !isBlank c := by
  induction cs with
  | nil => rfl
  | cons c cs ih =>
      cases hc : isBlank c with
      | true =>
          rw [List.dropWhile_cons_of_pos hc, ih, List.filter_cons_of_neg (by rw [hc]; decide)]
      | false => rw [List.dropWhile_cons_of_neg (by rw [hc]; decide)]

theorem filter_trim (cs : List Char) :
    (trim cs).filter (fun c => !isBlank c) = cs.filter fun c => !isBlank c := by
  rw [trim, trimEnd, dropEndWhile, List.filter_reverse, filter_dropWhile_isBlank,
    ← List.filter_reverse, List.reverse_reverse, trimStart, filter_dropWhile_isBlank]

theorem trim_append_eq_iff {cs rest : List Char} :
    trim (cs ++ rest) = trim cs ↔ ∀ c ∈ rest, isBlank c = true := by
  constructor
  · intro h
    have kept := congrArg (List.filter fun c => !isBlank c) h
    rw [filter_trim, filter_trim, List.filter_append, List.append_right_eq_self,
      List.filter_eq_nil_iff] at kept
    intro c hc
    simpa using kept c hc
  · intro blank
    have trimmed := trim_padded (List.forall_mem_nil _) blank cs
    rwa [List.nil_append] at trimmed

end Text

namespace BootloaderStatus

/-- Text without a line that names a field. -/
def Chatter (text : String) : Prop :=
  ∃ lines, Typeset text lines ∧ ∀ line ∈ lines, Foreign line

theorem Chatter.foreign {text : String} {lines : List (List Char)} (h : Chatter text)
    (typeset : Typeset text lines) : ∀ line ∈ lines, Foreign line := by
  obtain ⟨lines', typeset', foreign⟩ := h
  exact (entries_eq_nil_iff typeset).mp ((entries_eq_nil_iff typeset').mpr foreign)

theorem Chatter.of_entries {text : String} (h : entries text.toList = []) : Chatter text := by
  obtain ⟨lines, typeset⟩ := exists_typeset text
  exact ⟨lines, typeset, (entries_eq_nil_iff typeset).mp h⟩

/-- A text that can be gone on with on a new line: it is empty, or ends with a line
feed. -/
def Ended (text : String) : Prop :=
  ∀ c ∈ text.toList.getLast?, c = '\n'

instance (text : String) : Decidable (Ended text) :=
  Option.decidableForallMem text.toList.getLast?

theorem Ended.last_eq_nil {text : String} {front : List (List Char)} {last : List Char}
    (h : Ended text) (typeset : Typeset text (front ++ [last])) : last = [] := by
  by_contra some
  have cut := intercalate_append_cons ['\n'] front [] last []
  rw [List.intercalate_singleton, List.nil_append, ← typeset.toList_eq] at cut
  have inside : last.getLast some ∈ text.toList.getLast? := by
    rw [← cut, List.getLast?_append, List.getLast?_eq_some_getLast some]
    rfl
  have newline := h _ inside
  exact typeset.single last (List.mem_append_right _ List.mem_cons_self)
    (newline ▸ List.getLast_mem some)

/-- A text with nothing on its first line. -/
def StartsBlank (text : String) : Prop :=
  ∀ c ∈ text.toList.takeWhile (· != '\n'), Text.isBlank c = true

theorem StartsBlank.first {text : String} {rest : List (List Char)} {first : List Char}
    (h : StartsBlank text) (typeset : Typeset text (first :: rest)) :
    ∀ c ∈ first, Text.isBlank c = true := by
  have single : ∀ c ∈ first, (c != '\n') = true := by
    intro c hc
    exact bne_iff_ne.mpr fun same => typeset.single first List.mem_cons_self (same ▸ hc)
  have cut : text.toList.takeWhile (· != '\n') = first := by
    rw [typeset.toList_eq]
    cases rest with
    | nil => rw [List.intercalate_singleton, List.takeWhile_eq_self_iff.mpr single]
    | cons next rest =>
        rw [List.intercalate_cons_cons, List.append_assoc, List.takeWhile_append_of_pos single]
        exact List.append_nil first
  intro c hc
  exact h c (cut.symm ▸ hc)

/-- An output and diagnostics that do not meet on one line. -/
structure Apart (r : CommandResult) : Prop where
  parted : Ended r.stdout ∨ StartsBlank r.stderr
  chatter : Chatter r.stderr

/-- How a result is read whose output has the lines `front` and `last`, and whose
diagnostics begin with the line `first`. -/
structure ReadTogether (r : CommandResult) (front : List (List Char)) (last first : List Char) :
    Prop where
  /-- The last line of the output and the first one of the diagnostics are one line. -/
  joined : parse r.combined = parse (ofLines (front ++ [last ++ first]))
  apart : last = [] ∨ (∀ c ∈ first, Text.isBlank c = true) → parse r.combined = parse r.stdout
  /-- The value on a last line that has not ended goes on in the diagnostics. -/
  unended : ∀ {key value : List Char} {f : Field}, last = key ++ ':' :: value →
    normalize key = f.name →
      parse r.stdout = .ok ((empty.reported front).report f (Text.trim value)) ∧
      parse r.combined = .ok ((empty.reported front).report f (Text.trim (value ++ first)))
  /-- A state that has not ended is another one unless the diagnostics begin with a
  blank line. -/
  state : ∀ {key value : List Char}, last = key ++ ':' :: value →
    normalize key = Field.state.name →
      (parse r.combined = parse r.stdout ↔ ∀ c ∈ first, Text.isBlank c = true)

section Joining

variable {r : CommandResult} {front rest : List (List Char)} {first last : List Char}

theorem report_state_inj {s : BootloaderStatus} {a b : List Char} :
    s.report .state a = s.report .state b ↔ a = b := by
  constructor
  · intro h
    exact String.ofList_injective (Option.some.inj (congrArg BootloaderStatus.state h))
  · rintro rfl
    rfl

theorem readTogether (output : Typeset r.stdout (front ++ [last]))
    (diagnostics : Typeset r.stderr (first :: rest)) (chatter : ∀ line ∈ first :: rest, Foreign line) :
    ReadTogether r front last first := by
  obtain ⟨hfirst, hrest⟩ := List.forall_mem_cons.mp chatter
  have whole : Typeset r.combined (front ++ (last ++ first) :: rest) := output.append diagnostics
  have nothing : rest.filterMap entry? = [] :=
    List.filterMap_eq_nil_iff.mpr fun line hline => entry?_eq_none_iff.mpr (hrest line hline)
  have found : (front ++ (last ++ first) :: rest).filterMap entry?
      = (front ++ [last ++ first]).filterMap entry? := by
    rw [← List.singleton_append, ← List.append_assoc, List.filterMap_append, nothing,
      List.append_nil]
  have short : Typeset (ofLines (front ++ [last ++ first])) (front ++ [last ++ first]) := by
    refine typeset_ofLines fun line hline => whole.single line ?_
    rw [← List.singleton_append, ← List.append_assoc]
    exact List.mem_append_left rest hline
  have joined := parse_eq_of_entries whole short found
  have unended : ∀ {key value : List Char} {f : Field}, last = key ++ ':' :: value →
      normalize key = f.name →
        parse r.stdout = .ok ((empty.reported front).report f (Text.trim value)) ∧
        parse r.combined = .ok ((empty.reported front).report f (Text.trim (value ++ first))) := by
    rintro key value f rfl named
    have before := entry?_colon named value
    have after : entry? (key ++ ':' :: value ++ first) = some (f, Text.trim (value ++ first)) := by
      rw [List.append_assoc]
      exact entry?_colon named (value ++ first)
    refine ⟨?_, ?_⟩
    · rw [parse_of_mem output (List.mem_append_right _ List.mem_cons_self) before,
        reported_append, reported_cons_of_entry? before]
      rfl
    · rw [joined, parse_of_mem short (List.mem_append_right _ List.mem_cons_self) after,
        reported_append, reported_cons_of_entry? after]
      rfl
  refine ⟨joined, fun apart => ?_, unended, fun {key value} hlast named => ?_⟩
  · have same : entry? (last ++ first) = entry? last := by
      rcases apart with rfl | blank
      · rw [List.nil_append, entry?_eq_none_iff.mpr hfirst]
        rfl
      · exact entry?_append_of_blank blank last
    rw [joined]
    refine parse_eq_of_entries short output ?_
    rw [List.filterMap_append, List.filterMap_append, List.filterMap_cons, List.filterMap_cons, same]
  · obtain ⟨alone, together⟩ := unended hlast named
    rw [alone, together, Except.ok.injEq, report_state_inj, Text.trim_append_eq_iff]

theorem parse_combined (h : Apart r) : parse r.combined = parse r.stdout := by
  obtain ⟨front, last, output⟩ := exists_typeset_append r.stdout
  obtain ⟨first, rest, diagnostics⟩ := exists_typeset_cons r.stderr
  have together := readTogether output diagnostics (h.chatter.foreign diagnostics)
  rcases h.parted with ended | blank
  · exact together.apart (.inl (ended.last_eq_nil output))
  · exact together.apart (.inr (blank.first diagnostics))

end Joining

end BootloaderStatus

end BoardRig
