/-
# `BoardRig.Proofs.Status.UpdateMode` — two checks for the update mode

A state that is the update mode stands in the text that reports it, so the text
mentions the update mode (`mentions_of_parse`).  Names are compared without
fillers and in lower case, so putting fillers into the value of a state line, or
writing its letters in the other case, changes what neither of the checks says
(`update_mode_checks`).

Outside of ASCII one character has a letter as its lower-case form, and another
one has a form of two characters.  No name holds a character that is only part
of such a form, so names are compared as they would be with all lower-case forms
of Unicode (`normalizeBy_eq_iff`, `infix_normalizeBy_iff`).
-/
import BoardRig.Proofs.Occurrence
import BoardRig.Proofs.Status.Lines

namespace BoardRig.BootloaderStatus

/-! ## Texts in parts

Comparing names goes character by character, so it goes part by part. -/

theorem normalize_append (a b : List Char) : normalize (a ++ b) = normalize a ++ normalize b := by
  rw [normalize, List.filter_append, List.map_append]
  rfl

theorem normalize_of_filler {cs : List Char} (h : ∀ c ∈ cs, isFiller c = true) :
    normalize cs = [] := by
  have none : cs.filter (fun c => !isFiller c) = [] :=
    List.filter_eq_nil_iff.mpr fun c hc => by rw [h c hc]; decide
  rw [normalize, none, List.map_nil]

theorem normalize_trim (cs : List Char) : normalize (Text.trim cs) = normalize cs := by
  obtain ⟨before, after, hbefore, hafter, whole⟩ := Text.exists_padding cs
  have filler : ∀ {blanks : List Char}, (∀ c ∈ blanks, Text.isBlank c = true) →
      ∀ c ∈ blanks, isFiller c = true := fun blank c hc => by rw [isFiller, blank c hc]; rfl
  conv_rhs => rw [← whole]
  rw [normalize_append, normalize_append, normalize_of_filler (filler hbefore),
    normalize_of_filler (filler hafter), List.nil_append, List.append_nil]

theorem normalize_infix {a b : List Char} (h : a <:+: b) : normalize a <:+: normalize b :=
  (h.filter _).map _

theorem Typeset.toList_eq_around {text : String} {before after : List (List Char)}
    {line : List Char} (h : Typeset text (before ++ line :: after)) :
    text.toList =
      ['\n'].intercalate (before ++ [[]]) ++ (line ++ ['\n'].intercalate ([] :: after)) := by
  have behind := intercalate_append_cons ['\n'] [] line [] after
  have front := intercalate_append_cons ['\n'] before [] line after
  rw [List.nil_append, List.nil_append, List.append_nil, List.intercalate_singleton] at behind
  rw [List.nil_append] at front
  rw [h.toList_eq, behind, front]

/-! ## What is reported of the state

The value that was reported last for the state stands in some line of the text. -/

theorem state_report (s : BootloaderStatus) (f : Field) (value : List Char) :
    (s.report f value).state = if f = .state then some (String.ofList value) else s.state := by
  cases f with
  | version =>
      rw [report]
      split <;> rfl
  | activeBank => rfl
  | versionA => rfl
  | versionB => rfl
  | state => rfl

theorem state_foldl_report {es : List (Field × List Char)} {s : BootloaderStatus} {state : String}
    (h : (es.foldl (fun s (field, value) => s.report field value) s).state = some state) :
    s.state = some state ∨ ∃ value, (.state, value) ∈ es ∧ state = String.ofList value := by
  induction es generalizing s with
  | nil => exact .inl h
  | cons e es ih =>
      obtain ⟨f, value⟩ := e
      rw [List.foldl_cons] at h
      obtain early | ⟨late, mem, same⟩ := ih h
      · rw [state_report] at early
        split at early
        · next isState =>
          subst isState
          exact .inr ⟨value, List.mem_cons_self, (Option.some.inj early).symm⟩
        · exact .inl early
      · exact .inr ⟨late, List.mem_cons_of_mem _ mem, same⟩

theorem infix_of_counts {line value : List Char} {f : Field} (h : entry? line = some (f, value)) :
    value <:+: line := by
  rw [entry?_eq] at h
  obtain ⟨⟨key, side⟩, hsides, h⟩ := Option.bind_eq_some_iff.mp h
  obtain ⟨_, -, same⟩ := Option.map_eq_some_iff.mp h
  obtain rfl : Text.trim side = value := congrArg Prod.snd same
  have inner : Text.trim side <:+: side := by
    obtain ⟨before, after, -, -, whole⟩ := Text.exists_padding side
    exact ⟨before, after, whole⟩
  refine inner.trans ?_
  cases sides_of_sides? hsides with
  | colon first => exact ⟨key ++ [':'], [], by simp⟩
  | equals none first => exact ⟨key ++ ['='], [], by simp⟩

theorem mentions_of_parse {text : String} {s : BootloaderStatus} (h : parse text = .ok s)
    (mode : s.isUpdateMode = true) : mentionsUpdateMode text = true := by
  obtain ⟨lines, typeset⟩ := exists_typeset text
  rw [parse_eq, entries_of_typeset typeset] at h
  split at h
  · cases h
  · obtain rfl := Except.ok.inj h
    rw [isUpdateMode] at mode
    split at mode
    · next state reported =>
      obtain early | ⟨value, mem, rfl⟩ := state_foldl_report reported
      · cases early
      · obtain ⟨line, hline, counts⟩ := List.mem_filterMap.mp mem
        obtain ⟨before, after, rfl⟩ := List.append_of_mem hline
        have inText : line <:+: text.toList := by
          rw [typeset.toList_eq_around]
          exact ⟨_, _, by rw [List.append_assoc]⟩
        rw [String.toList_ofList, beq_iff_eq] at mode
        rw [mentionsUpdateMode, Text.occursIn_iff, ← mode]
        exact normalize_infix ((infix_of_counts counts).trans inText)
    · cases mode

/-! ## Respelled values

Fillers come and go, and letters change their case; no other character is touched,
and no separator comes in. -/

/-- A value with fillers put in anywhere, but no line feeds, and with letters of ASCII
in the other case. -/
inductive Respelled : (value value' : List Char) → Prop where
  | nil : Respelled [] []
  | insert {c : Char} {value value' : List Char} (filler : isFiller c = true) (line : c ≠ '\n')
      (later : Respelled value value') : Respelled value (c :: value')
  | letter {c d : Char} {value value' : List Char} (same : Text.lowerAscii c = Text.lowerAscii d)
      (later : Respelled value value') : Respelled (c :: value) (d :: value')

/-- Two spellings of a line for the state. -/
inductive StateLines : (line line' : List Char) → Prop where
  | colon {key value value' : List Char} (named : normalize key = Field.state.name)
      (respelled : Respelled value value') : StateLines (key ++ ':' :: value) (key ++ ':' :: value')
  | equals {key value value' : List Char} (named : normalize key = Field.state.name)
      (respelled : Respelled value value') : StateLines (key ++ '=' :: value) (key ++ '=' :: value')

theorem lowerAscii_cases {c d : Char} (same : Text.lowerAscii c = Text.lowerAscii d) :
    c = d ∨ ((Text.lowerAscii c).isLower = true ∧ (Text.lowerAscii d).isLower = true) := by
  have capital : ∀ e : Char, 'A' ≤ e ∧ e ≤ 'Z' → (Text.lowerAscii e).isLower = true := by
    have small : ∀ n < 91, 65 ≤ n → (Char.ofNat (n + 32)).isLower = true := by decide
    intro e he
    rw [Text.lowerAscii, if_pos he]
    exact small e.toNat (Nat.lt_succ_of_le he.2) he.1
  by_cases hc : 'A' ≤ c ∧ c ≤ 'Z'
  · exact .inr ⟨capital c hc, same ▸ capital c hc⟩
  · by_cases hd : 'A' ≤ d ∧ d ≤ 'Z'
    · exact .inr ⟨same ▸ capital d hd, capital d hd⟩
    · rw [Text.lowerAscii, Text.lowerAscii, if_neg hc, if_neg hd] at same
      exact .inl same

section Respelled

variable {value value' line line' : List Char}

theorem Respelled.normalize_eq (h : Respelled value value') :
    normalize value' = normalize value := by
  induction h with
  | nil => rfl
  | @insert c value value' filler _ _ ih =>
      rw [← List.singleton_append, normalize_append,
        normalize_of_filler (List.forall_mem_singleton.mpr filler), ih, List.nil_append]
  | @letter c d value value' same _ ih =>
      have one : normalize [d] = normalize [c] := by
        obtain rfl | ⟨hc, hd⟩ := lowerAscii_cases same
        · rfl
        · obtain ⟨partC, lowC, -⟩ := of_lowerAscii hc
          obtain ⟨partD, lowD, -⟩ := of_lowerAscii hd
          simp only [normalize, List.filter_cons, partC, partD, List.filter_nil, Bool.not_false,
            if_pos, List.map_cons, lowC, lowD, same]
      rw [← List.singleton_append, normalize_append, one, ih, ← normalize_append,
        List.singleton_append]

/-- A character that is neither a filler nor a letter is neither brought in nor lost. -/
theorem Respelled.mem_iff (h : Respelled value value') {sep : Char}
    (other : (Text.lowerAscii sep).isLower = false) (kept : sep = '\n' ∨ isFiller sep = false) :
    sep ∈ value' ↔ sep ∈ value := by
  induction h with
  | nil => rfl
  | @insert c value value' filler line _ ih =>
      rw [List.mem_cons, ih, or_iff_right]
      rintro rfl
      obtain feed | part := kept
      · exact line feed
      · rw [part] at filler
        cases filler
  | @letter c d value value' same _ ih =>
      have both : sep = d ↔ sep = c := by
        obtain rfl | ⟨hc, hd⟩ := lowerAscii_cases same
        · rfl
        · refine iff_of_false ?_ ?_
          · rintro rfl
            exact Bool.noConfusion (other.symm.trans hd)
          · rintro rfl
            exact Bool.noConfusion (other.symm.trans hc)
      rw [List.mem_cons, List.mem_cons, both, ih]

theorem StateLines.single (h : StateLines line line') (single : '\n' ∉ line) : '\n' ∉ line' := by
  have kept : ∀ {key value value' : List Char} {sep : Char}, Respelled value value' →
      '\n' ∉ key ++ sep :: value → '\n' ∉ key ++ sep :: value' := by
    intro key value value' sep respelled single
    rw [List.mem_append, List.mem_cons] at single ⊢
    rwa [respelled.mem_iff (by decide) (.inl rfl)]
  cases h with
  | colon _ respelled => exact kept respelled single
  | equals _ respelled => exact kept respelled single

/-- Both lines report a state, and the states are compared as the same, or neither
counts. -/
theorem StateLines.entries (h : StateLines line line') :
    (∃ value value', entry? line = some (.state, value) ∧ entry? line' = some (.state, value') ∧
      normalize value' = normalize value) ∨
        entry? line = none ∧ entry? line' = none := by
  have same : ∀ {value value' : List Char}, Respelled value value' →
      normalize (Text.trim value') = normalize (Text.trim value) := by
    intro value value' respelled
    rw [normalize_trim, normalize_trim, respelled.normalize_eq]
  cases h with
  | colon named respelled =>
      exact .inl ⟨_, _, entry?_colon named _, entry?_colon named _, same respelled⟩
  | @equals key value value' named respelled =>
      have colon : ':' ∈ value' ↔ ':' ∈ value := respelled.mem_iff (by decide) (.inr (by decide))
      by_cases hidden : ':' ∈ value
      · exact .inr ⟨entry?_equals_of_colon named hidden,
          entry?_equals_of_colon named (colon.mpr hidden)⟩
      · exact .inl ⟨_, _, entry?_equals named hidden, entry?_equals named (mt colon.mp hidden),
          same respelled⟩

theorem StateLines.normalize_eq (h : StateLines line line') : normalize line' = normalize line := by
  have same : ∀ {key value value' : List Char} (sep : Char), Respelled value value' →
      normalize (key ++ sep :: value') = normalize (key ++ sep :: value) := by
    intro key value value' sep respelled
    rw [List.append_cons key sep value', List.append_cons key sep value]
    simp only [normalize_append, respelled.normalize_eq]
  cases h with
  | colon _ respelled => exact same ':' respelled
  | equals _ respelled => exact same '=' respelled

end Respelled

/-! ## Both checks

A respelled line reports the same up to the spelling of the state, which neither
check looks at. -/

theorem isUpdateMode_report (s : BootloaderStatus) (f : Field) (value : List Char) :
    (s.report f value).isUpdateMode =
      if f = .state then normalize value == updateMode else s.isUpdateMode := by
  rw [isUpdateMode, state_report]
  by_cases isState : f = .state
  · simp only [if_pos isState, String.toList_ofList]
  · simp only [if_neg isState]
    rfl

theorem isUpdateMode_reported_congr {s s' : BootloaderStatus}
    (same : s'.isUpdateMode = s.isUpdateMode) (lines : List (List Char)) :
    (s'.reported lines).isUpdateMode = (s.reported lines).isUpdateMode := by
  rw [reported, reported]
  induction lines.filterMap entry? generalizing s s' with
  | nil => exact same
  | cons e es ih =>
      refine ih ?_
      rw [isUpdateMode_report, isUpdateMode_report, same]

/-- With another spelling of a line for the state, a text is read or refused as before,
and neither check says anything else. -/
theorem checks_of_respelled {text : String} {before after : List (List Char)}
    {line line' : List Char} (written : Typeset text (before ++ line :: after))
    (h : StateLines line line') :
    (parse (ofLines (before ++ line' :: after))).map isUpdateMode =
        (parse text).map isUpdateMode ∧
      mentionsUpdateMode (ofLines (before ++ line' :: after)) = mentionsUpdateMode text := by
  have mem : ∀ line : List Char, line ∈ before ++ line :: after := fun line =>
    List.mem_append_right _ List.mem_cons_self
  have written' := written.exchange (h.single (written.single line (mem line)))
  constructor
  · obtain ⟨value, value', counts, counts', same⟩ | ⟨hidden, hidden'⟩ := h.entries
    · rw [parse_of_mem written (mem line) counts, parse_of_mem written' (mem line') counts',
        Except.map, Except.map, reported_append, reported_append, reported_cons_of_entry? counts,
        reported_cons_of_entry? counts']
      refine congrArg Except.ok (isUpdateMode_reported_congr ?_ after)
      rw [isUpdateMode_report, isUpdateMode_report, if_pos rfl, if_pos rfl, same]
    · refine congrArg (Except.map isUpdateMode) (parse_eq_of_entries written' written ?_)
      rw [List.filterMap_append, List.filterMap_append, List.filterMap_cons_none hidden,
        List.filterMap_cons_none hidden']
  · rw [mentionsUpdateMode, mentionsUpdateMode, written.toList_eq_around,
      written'.toList_eq_around]
    simp only [normalize_append, h.normalize_eq]

/-! ## Lower-case forms of Unicode

All that is assumed of the forms is `Casing`.  A character has the form that it is
compared by, or one that holds something other than a small letter and shares no
character with the name of the update mode (`Casing.cases`). -/

/-- A function to lower-case forms as Unicode has it: letters of ASCII have their small
letters, the Kelvin sign has a letter of ASCII, the capital I with a dot above has two
characters, and all others have something outside of ASCII. -/
structure Casing (full : Char → List Char) : Prop where
  ascii : ∀ c, c.toNat < 0x80 → full c = [Text.lowerAscii c]
  kelvin : full '\u212A' = ['k']
  dotted : full '\u0130' = ['i', '\u0307']
  other : ∀ c, 0x80 ≤ c.toNat → c ≠ '\u212A' → c ≠ '\u0130' →
    full c ≠ [] ∧ ∀ d ∈ full c, 0x80 ≤ d.toNat

/-- A name as it is compared, with all lower-case forms. -/
def normalizeBy (full : Char → List Char) (cs : List Char) : List Char :=
  (cs.filter fun c => !isFiller c).flatMap full

section Casing

variable {full : Char → List Char} {c : Char}

theorem lower_of_ascii (ascii : c.toNat < 0x80) : lower c = Text.lowerAscii c := by
  rw [lower, if_neg]
  rintro rfl
  exact absurd ascii (by decide)

theorem lower_of_high (high : 0x80 ≤ c.toNat) (other : c ≠ '\u212A') : lower c = c := by
  rw [lower, if_neg other, Text.lowerAscii, if_neg]
  rintro ⟨-, low⟩
  have : c.toNat ≤ 90 := low
  omega

theorem isLower_of_mem_updateMode (h : c ∈ updateMode) : c.isLower = true := by
  have all : updateMode.all Char.isLower = true := by decide
  exact List.all_eq_true.mp all c h

/-- A character has the lower-case form that it is compared by, or it has another one
and is compared by itself, and nothing of either stands in a name. -/
theorem Casing.cases (h : Casing full) (c : Char) :
    full c = [lower c] ∨
      ((∃ d ∈ full c, d.isLower = false) ∧ (lower c).isLower = false ∧
        lower c ∉ updateMode ∧ full c ≠ [] ∧ ∀ d ∈ full c, d ∉ updateMode) := by
  have foreign : ∀ {d : Char}, 0x80 ≤ d.toNat → d.isLower = false ∧ d ∉ updateMode := by
    intro d high
    have outside : d.isLower = false := by
      refine Bool.eq_false_iff.mpr fun small => ?_
      have low : d.toNat ≤ 122 := of_decide_eq_true (Bool.and_eq_true_iff.mp small).2
      omega
    refine ⟨outside, fun mem => ?_⟩
    rw [isLower_of_mem_updateMode mem] at outside
    cases outside
  by_cases ascii : c.toNat < 0x80
  · left
    rw [h.ascii c ascii, lower_of_ascii ascii]
  by_cases kelvin : c = '\u212A'
  · subst kelvin
    exact .inl h.kelvin
  right
  have high : 0x80 ≤ c.toNat := Nat.le_of_not_lt ascii
  rw [lower_of_high high kelvin]
  obtain ⟨outside, absent⟩ := foreign high
  by_cases dotted : c = '\u0130'
  · subst dotted
    rw [h.dotted]
    have parts : ∀ d ∈ ['i', '\u0307'], d ∉ updateMode :=
      List.forall_mem_cons.mpr ⟨by decide, List.forall_mem_singleton.mpr (by decide)⟩
    exact ⟨⟨'\u0307', by decide, by decide⟩, outside, absent, List.cons_ne_nil _ _, parts⟩
  · obtain ⟨nonempty, all⟩ := h.other c high kelvin dotted
    obtain ⟨d, ds, whole⟩ := List.exists_cons_of_ne_nil nonempty
    have mem : d ∈ full c := whole ▸ List.mem_cons_self
    exact ⟨⟨d, mem, (foreign (all d mem)).1⟩, outside, absent, nonempty,
      fun d hd => (foreign (all d hd)).2⟩

/-- Names of small letters are compared as with all lower-case forms. -/
theorem normalizeBy_eq_iff (h : Casing full) {name : List Char}
    (small : ∀ d ∈ name, d.isLower = true) (cs : List Char) :
    normalizeBy full cs = name ↔ normalize cs = name := by
  rw [normalizeBy, normalize]
  induction cs.filter (fun c => !isFiller c) generalizing name with
  | nil => rfl
  | cons c cs ih =>
      rw [List.flatMap_cons, List.map_cons]
      obtain same | ⟨⟨d, mem, other⟩, other', -⟩ := h.cases c
      · rw [same, List.singleton_append]
        cases name with
        | nil => simp
        | cons first name =>
            rw [List.cons.injEq, List.cons.injEq, ih (List.forall_mem_cons.mp small).2]
      · constructor
        · rintro rfl
          rw [small d (List.mem_append_left _ mem)] at other
          cases other
        · rintro rfl
          rw [small _ List.mem_cons_self] at other'
          cases other'

theorem infix_append_iff {word front rest : List Char} (nonempty : word ≠ [])
    (absent : ∀ d ∈ front, d ∉ word) : word <:+: front ++ rest ↔ word <:+: rest := by
  induction front with
  | nil => rfl
  | cons d front ih =>
      obtain ⟨first, others⟩ := List.forall_mem_cons.mp absent
      rw [List.cons_append, List.infix_cons_iff, ih others, or_iff_right]
      obtain ⟨w, ws, rfl⟩ := List.exists_cons_of_ne_nil nonempty
      rintro front
      obtain ⟨rfl, -⟩ := List.cons_prefix_cons.mp front
      exact first List.mem_cons_self

theorem prefix_flatMap_iff (h : Casing full) {word : List Char}
    (part : ∀ d ∈ word, d ∈ updateMode) (cs : List Char) :
    word <+: cs.flatMap full ↔ word <+: cs.map lower := by
  induction cs generalizing word with
  | nil => rfl
  | cons c cs ih =>
      cases word with
      | nil => exact iff_of_true (List.nil_prefix) (List.nil_prefix)
      | cons w word =>
          obtain ⟨first, others⟩ := List.forall_mem_cons.mp part
          rw [List.flatMap_cons, List.map_cons, List.cons_prefix_cons]
          obtain same | ⟨-, -, absent, nonempty, foreign⟩ := h.cases c
          · rw [same, List.singleton_append, List.cons_prefix_cons, ih others]
          · obtain ⟨d, ds, whole⟩ := List.exists_cons_of_ne_nil nonempty
            rw [whole, List.cons_append, List.cons_prefix_cons]
            refine iff_of_false ?_ ?_
            · rintro ⟨rfl, -⟩
              exact foreign w (whole ▸ List.mem_cons_self) first
            · rintro ⟨rfl, -⟩
              exact absent first

/-- The update mode is mentioned just where it is with all lower-case forms. -/
theorem infix_normalizeBy_iff (h : Casing full) (cs : List Char) :
    updateMode <:+: normalizeBy full cs ↔ updateMode <:+: normalize cs := by
  rw [normalizeBy, normalize]
  have nonempty : updateMode ≠ [] := by decide
  induction cs.filter (fun c => !isFiller c) with
  | nil => rfl
  | cons c cs ih =>
      have front := prefix_flatMap_iff h (fun d hd => hd) (c :: cs)
      rw [List.flatMap_cons, List.map_cons] at front ⊢
      obtain same | ⟨-, -, absent, -, foreign⟩ := h.cases c
      · rw [same, List.singleton_append] at front ⊢
        rw [List.infix_cons_iff, List.infix_cons_iff]
        exact or_congr front ih
      · rw [infix_append_iff nonempty foreign, ← List.singleton_append,
          infix_append_iff nonempty (List.forall_mem_singleton.mpr absent)]
        exact ih

end Casing

/-- A state that is the update mode is mentioned, another spelling of a line for the
state changes neither check, and both checks, like the names of fields, are what they
are with all lower-case forms of Unicode. -/
theorem update_mode_checks :
    (∀ text s, parse text = .ok s → s.isUpdateMode = true → mentionsUpdateMode text = true) ∧
    (∀ text before after line line', Typeset text (before ++ line :: after) →
      StateLines line line' →
      (parse (ofLines (before ++ line' :: after))).map isUpdateMode =
          (parse text).map isUpdateMode ∧
        mentionsUpdateMode (ofLines (before ++ line' :: after)) = mentionsUpdateMode text) ∧
    ∀ full, Casing full → ∀ cs,
      (∀ f : Field, normalizeBy full cs = f.name ↔ normalize cs = f.name) ∧
      (normalizeBy full cs = updateMode ↔ normalize cs = updateMode) ∧
      (updateMode <:+: normalizeBy full cs ↔ mentionsUpdateMode (String.ofList cs) = true) := by
  refine ⟨fun text s h mode => mentions_of_parse h mode,
    fun text before after line line' written h => checks_of_respelled written h,
    fun full h cs => ⟨fun f => ?_, ?_, ?_⟩⟩
  · exact normalizeBy_eq_iff h (fun d => isLower_of_mem_name) cs
  · exact normalizeBy_eq_iff h (fun d => isLower_of_mem_updateMode) cs
  · rw [mentionsUpdateMode, Text.occursIn_iff, String.toList_ofList]
    exact infix_normalizeBy_iff h cs

/-- A state in two spellings, and lower-case forms that have two characters for one. -/
theorem update_mode_checks_of_two_spellings :
    let line := "State".toList ++ ':' :: " UpdateMode".toList
    let line' := "State".toList ++ ':' :: " up-DATE_ mode".toList
    let text := ofLines [line, []]
    let full := fun c => if c = '\u0130' then ['i', '\u0307'] else [lower c]
    (parse text = .ok ⟨none, none, none, none, some "UpdateMode"⟩ ∧
      mentionsUpdateMode text = true) ∧
    (Typeset text [line, []] ∧ StateLines line line' ∧
      (parse (ofLines [line', []])).map isUpdateMode = .ok true ∧
      mentionsUpdateMode (ofLines [line', []]) = true) ∧
    Casing full ∧
      (normalizeBy full ['\u0130'] = updateMode ↔ normalize ['\u0130'] = updateMode) := by
  intro line line' text full
  obtain ⟨mentioned, respelled, cased⟩ := update_mode_checks
  have read : parse text = .ok ⟨none, none, none, none, some "UpdateMode"⟩ := by
    rw [parse, show ofText? text = some ⟨none, none, none, none, some "UpdateMode"⟩ by decide]
  have typeset : Typeset text ([] ++ line :: [[]]) := typeset_ofLines (by decide)
  have spelled : StateLines line line' :=
    .colon (by decide) <| .letter rfl <| .letter rfl <| .letter rfl <|
      .insert (by decide) (by decide) <| .letter rfl <| .letter rfl <| .letter rfl <|
      .letter rfl <| .insert (by decide) (by decide) <| .insert (by decide) (by decide) <|
      .letter rfl <| .letter rfl <| .letter rfl <| .letter rfl .nil
  have casing : Casing full := by
    refine ⟨fun c ascii => ?_, by decide, by decide, fun c high kelvin dotted => ?_⟩
    · have dotless : c ≠ '\u0130' := by
        rintro rfl
        exact absurd ascii (by decide)
      exact (if_neg dotless).trans (congrArg (fun d => [d]) (lower_of_ascii ascii))
    · have same : full c = [c] :=
        (if_neg dotted).trans (congrArg (fun d => [d]) (lower_of_high high kelvin))
      rw [same]
      exact ⟨List.cons_ne_nil c [], List.forall_mem_singleton.mpr high⟩
  have holds : mentionsUpdateMode text = true := mentioned text _ read (by decide)
  obtain ⟨state, mention⟩ := respelled text [] [[]] line line' typeset spelled
  rw [read] at state
  exact ⟨⟨read, holds⟩, ⟨typeset, spelled, state, mention.trans holds⟩,
    casing, (cased full casing ['\u0130']).2.1⟩

end BoardRig.BootloaderStatus
