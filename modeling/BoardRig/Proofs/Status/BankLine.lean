/-
# `BoardRig.Proofs.Status.BankLine` — where the number of a bank stands

The number behind `Bank:` may have blanks before it, and a line feed is a blank.
So a token with nothing but blanks behind it on its line (`Bare`) takes the number
that begins the next line which is not blank.  A number that counts therefore stands
behind a token on its line (`Names`), or it and the token straddle some lines
(`named_or_straddles`).  A text without a bare token is read line by line
(`bankIn?_of_closed`), and in other texts the number below the first bare token
counts unless one counts before it (`bankIn?_of_straddles`).
-/
import BoardRig.Proofs.Status.Bank
import BoardRig.Proofs.Status.Lines

namespace BoardRig

namespace Text

variable {part cs u : List Char} {sep : Char}

theorem stripStart?_append_cons (single : sep ∉ part) (cs rest : List Char) :
    stripStart? part (cs ++ sep :: rest) = (stripStart? part cs).map (· ++ sep :: rest) := by
  induction part generalizing cs with
  | nil => rfl
  | cons s part ih =>
      obtain ⟨other, later⟩ := not_or.mp (mt List.mem_cons.mpr single)
      cases cs with
      | nil => exact if_neg (Ne.symm other)
      | cons c cs =>
          rw [List.cons_append, stripStart?, stripStart?]
          split
          · exact ih later cs
          · rfl

theorem afterEach_append_cons (some : part ≠ []) (single : sep ∉ part) (cs rest : List Char) :
    afterEach part (cs ++ sep :: rest)
      = (afterEach part cs).map (· ++ sep :: rest) ++ afterEach part rest := by
  induction cs with
  | nil =>
      have nowhere : stripStart? part [] = none := by
        cases part with
        | nil => exact absurd rfl some
        | cons s part => rfl
      have here : stripStart? part (sep :: rest) = none := by
        rw [← List.nil_append (sep :: rest), stripStart?_append_cons single, nowhere]
        rfl
      rw [List.nil_append, afterEach, afterEach, here]
      rfl
  | cons c cs ih =>
      rw [List.cons_append, afterEach, ← List.cons_append, stripStart?_append_cons single, afterEach]
      cases stripStart? part (c :: cs) with
      | none => exact ih
      | some rest' => exact congrArg (List.cons _) ih

theorem mem_afterEach_cons {c : Char} :
    u ∈ afterEach part (c :: cs) ↔ c :: cs = part ++ u ∨ u ∈ afterEach part cs := by
  rw [← stripStart?_eq_some_iff, afterEach]
  cases stripStart? part (c :: cs) with
  | none => simp
  | some rest => simp [eq_comm]

theorem mem_afterEach_iff (some : part ≠ []) :
    u ∈ afterEach part cs ↔ ∃ before, cs = before ++ part ++ u := by
  induction cs with
  | nil => simp [afterEach, some]
  | cons c cs ih =>
      rw [mem_afterEach_cons, ih]
      constructor
      · rintro (here | ⟨before, rfl⟩)
        · exact ⟨[], here⟩
        · exact ⟨c :: before, rfl⟩
      · rintro ⟨_ | ⟨b, before⟩, h⟩
        · exact .inl h
        · obtain ⟨rfl, rfl⟩ := List.cons_eq_cons.mp h
          exact .inr ⟨before, rfl⟩

end Text

namespace BootloaderStatus

/-! ## Numbers

What counts as the number behind a token: digits whose value fits a byte, behind
blanks and with leading zeros as one likes. -/

section Numbers

variable {number cs : List Char} {limit n : Nat}

theorem sub_zero_lt_ten {c : Char} (h : c.isDigit = true) : c.toNat - '0'.toNat < 10 := by
  have nine : '9'.toNat = '0'.toNat + 9 := rfl
  have high := (Char.isDigit_iff_toNat.mp h).2
  omega

theorem digitChar_of_isDigit {c : Char} (h : c.isDigit = true) :
    Nat.digitChar (c.toNat - '0'.toNat) = c := by
  have zero : '0'.toNat = 48 := rfl
  have low := (Char.isDigit_iff_toNat.mp h).1
  apply Char.toNat_inj.mp
  rw [Nat.toNat_digitChar_of_lt_ten (sub_zero_lt_ten h)]
  omega

theorem exists_zeros (some : number ≠ []) (digits : ∀ c ∈ number, c.isDigit = true) :
    ∃ zeros, number
      = List.replicate zeros '0' ++ Nat.toDigits 10 (Nat.ofDigitChars 10 number 0) := by
  induction number using List.reverseRecOn with
  | nil => exact absurd rfl some
  | append_singleton front c ih =>
      obtain ⟨hfront, hc⟩ := List.forall_mem_append.mp digits
      have digit := List.forall_mem_singleton.mp hc
      have low := sub_zero_lt_ten digit
      have last : Nat.toDigits 10 (c.toNat - '0'.toNat) = [c] := by
        rw [Nat.toDigits_of_lt_base low, digitChar_of_isDigit digit]
      rw [Nat.ofDigitChars_append, Nat.ofDigitChars_cons, Nat.ofDigitChars_nil]
      by_cases first : front = []
      · subst first
        rw [Nat.ofDigitChars_nil, Nat.mul_zero, Nat.zero_add, last]
        exact ⟨0, rfl⟩
      obtain ⟨zeros, hzeros⟩ := ih first hfront
      cases value : Nat.ofDigitChars 10 front 0 with
      | zero =>
          -- Before the last digit there are only zeros.
          rw [value] at hzeros
          refine ⟨zeros + 1, ?_⟩
          rw [Nat.mul_zero, Nat.zero_add, last, hzeros, List.replicate_succ']
          rfl
      | succ v =>
          rw [value] at hzeros
          refine ⟨zeros, ?_⟩
          rw [← Nat.toDigits_append_toDigits (by decide) v.succ_pos low, last, ← List.append_assoc,
            ← hzeros]

/-- A number with blanks before it. -/
inductive Numbered (n : Nat) : List Char → Prop where
  | padded {blanks text : List Char} (blank : ∀ c ∈ blanks, Text.isBlank c = true)
      (numeral : Numeral n text) : Numbered n (blanks ++ text)

theorem Numbered.of_digits {digits : List Char}
    (found : (Text.trimStart cs).takeWhile Char.isDigit = digits) (some : digits ≠ []) :
    Numbered (Nat.ofDigitChars 10 digits 0) cs := by
  have ends : ∀ c ∈ ((Text.trimStart cs).dropWhile Char.isDigit).head?, c.isDigit = false := by
    intro c hc
    have first := List.head?_dropWhile_not Char.isDigit (Text.trimStart cs)
    rw [Option.mem_def.mp hc] at first
    exact first
  have isDigit : ∀ c ∈ digits, c.isDigit = true := by
    intro c hc
    exact List.mem_takeWhile_imp (found ▸ hc)
  obtain ⟨zeros, hzeros⟩ := exists_zeros some isDigit
  have numeral : Numeral (Nat.ofDigitChars 10 digits 0) (Text.trimStart cs) := by
    have text := @Numeral.followed (Nat.ofDigitChars 10 digits 0) zeros _ ends
    rw [← hzeros, ← found, List.takeWhile_append_dropWhile] at text
    exact found ▸ text
  have padded : Numbered _ (cs.takeWhile Text.isBlank ++ _) :=
    .padded (fun c hc => List.mem_takeWhile_imp hc) numeral
  rwa [Text.trimStart, List.takeWhile_append_dropWhile] at padded

theorem Numbered.digits (h : Numbered n cs) :
    (Text.trimStart cs).takeWhile Char.isDigit ≠ [] ∧
      Nat.ofDigitChars 10 ((Text.trimStart cs).takeWhile Char.isDigit) 0 = n := by
  cases h with
  | @padded blanks text blank numeral =>
      obtain ⟨number, rest, rfl, some, digits, value, ends⟩ := numeral.exists_digits
      have trimmed : Text.trimStart (blanks ++ (number ++ rest)) = number ++ rest := by
        rw [Text.trimStart, List.dropWhile_append_of_pos blank]
        obtain ⟨c, later, rfl⟩ := List.exists_cons_of_ne_nil some
        have word := isBlank_of_isDigit (digits c List.mem_cons_self)
        exact List.dropWhile_cons_of_neg (by rw [word]; decide)
      rw [trimmed, Text.takeWhile_append_of_head? digits ends]
      exact ⟨some, value⟩

theorem leadingNumber?_eq_some_iff :
    leadingNumber? limit cs = some n ↔ n < limit ∧ Numbered n cs := by
  rw [leadingNumber?_eq]
  dsimp only
  generalize found : (Text.trimStart cs).takeWhile Char.isDigit = digits
  constructor
  · intro h
    obtain ⟨some, h⟩ := Option.ite_none_left_eq_some.mp h
    obtain ⟨small, h⟩ := Option.ite_none_right_eq_some.mp h
    obtain rfl := Option.some.inj h
    exact ⟨small, .of_digits found some⟩
  · rintro ⟨small, number⟩
    obtain ⟨some, value⟩ := number.digits
    rw [found] at some value
    rw [if_neg some, value, if_pos small]

theorem leadingByte?_eq_some_iff {bank : UInt8} :
    leadingByte? cs = some bank ↔ Numbered bank.toNat cs := by
  rw [leadingByte?, Option.map_eq_some_iff]
  constructor
  · rintro ⟨n, hn, rfl⟩
    obtain ⟨small, number⟩ := leadingNumber?_eq_some_iff.mp hn
    rwa [UInt8.toNat_ofNat_of_lt' small]
  · intro number
    exact ⟨bank.toNat, leadingNumber?_eq_some_iff.mpr ⟨bank.toNat_lt, number⟩, bank.ofNat_toNat⟩

end Numbers

/-! ## Line feeds

A line feed is a blank, so it ends a number but does not stop the search for one. -/

section LineFeeds

variable {u : List Char}

theorem intercalate_newline_cons (line : List Char) {rest : List (List Char)} (some : rest ≠ []) :
    ['\n'].intercalate (line :: rest) = line ++ '\n' :: ['\n'].intercalate rest := by
  rw [List.intercalate_cons_of_ne_nil some, List.append_assoc]
  rfl

theorem leadingByte?_padded {before after : List Char}
    (hbefore : ∀ c ∈ before, Text.isBlank c = true) (hafter : ∀ c ∈ after, Text.isBlank c = true)
    (cs : List Char) : leadingByte? (before ++ cs ++ after) = leadingByte? cs := by
  rw [leadingByte?, leadingNumber?, Text.trim_padded hbefore hafter]
  rfl

theorem leadingByte?_newline_of_blank (blank : ∀ c ∈ u, Text.isBlank c = true) (rest : List Char) :
    leadingByte? (u ++ '\n' :: rest) = leadingByte? rest := by
  have before : ∀ c ∈ u ++ ['\n'], Text.isBlank c = true :=
    List.forall_mem_append.mpr ⟨blank, List.forall_mem_singleton.mpr (by decide)⟩
  have padded := leadingByte?_padded before (List.forall_mem_nil _) rest
  rwa [List.append_nil, List.append_assoc] at padded

theorem leadingByte?_newline_of_not_blank (dark : ¬ ∀ c ∈ u, Text.isBlank c = true)
    (rest : List Char) : leadingByte? (u ++ '\n' :: rest) = leadingByte? u := by
  have settled : Settled (u ++ ['\n']) := by
    refine ⟨'\n', ?_, rfl⟩
    rw [Text.trimStart, List.dropWhile_append, if_neg]
    · exact List.mem_append_right _ List.mem_cons_self
    · exact fun nothing => dark (List.dropWhile_eq_nil_iff.mp (List.isEmpty_iff.mp nothing))
  have newline : ∀ c ∈ ['\n'], Text.isBlank c = true := List.forall_mem_singleton.mpr (by decide)
  have padded := leadingByte?_padded (List.forall_mem_nil _) newline u
  rw [List.nil_append] at padded
  rw [List.append_cons, leadingByte?_append settled, padded]

end LineFeeds

/-! ## Tokens

A token on a line is followed by a number, by nothing but blanks, or by something
else.  Only in the second case do later lines matter. -/

/-- What stands before the number of a bank. -/
def token : List Char := "Bank:".toList

/-- A line that has the token and, behind it, a number. -/
inductive Names (n : Nat) : List Char → Prop where
  | behind {before after : List Char} (number : Numbered n after) :
      Names n (before ++ token ++ after)

/-- A line that has the token and nothing but blanks behind it. -/
inductive Bare : List Char → Prop where
  | behind {before blanks : List Char} (blank : ∀ c ∈ blanks, Text.isBlank c = true) :
      Bare (before ++ token ++ blanks)

/-- Lines in which the token stands on one, and the number begins another; all that
is between them is blank. -/
inductive Straddles (n : Nat) : List (List Char) → Prop where
  | across {before blanks after : List (List Char)} {first last : List Char} (bare : Bare first)
      (blank : ∀ line ∈ blanks, ∀ c ∈ line, Text.isBlank c = true) (number : Numbered n last) :
      Straddles n (before ++ first :: (blanks ++ last :: after))

theorem Straddles.cons {n : Nat} {lines : List (List Char)} (h : Straddles n lines)
    (line : List Char) : Straddles n (line :: lines) := by
  cases h with
  | @across before _ _ _ _ bare blank number =>
      exact @Straddles.across n (line :: before) _ _ _ _ bare blank number

section Tokens

variable {bank : UInt8} {line u : List Char} {lines : List (List Char)} {text : String}

theorem mem_afterEach_token {cs : List Char} :
    u ∈ Text.afterEach token cs ↔ ∃ before, cs = before ++ token ++ u :=
  Text.mem_afterEach_iff (by decide)

theorem bare_iff : Bare line ↔ ∃ u ∈ Text.afterEach token line, ∀ c ∈ u, Text.isBlank c = true := by
  constructor
  · rintro ⟨blank⟩
    exact ⟨_, mem_afterEach_token.mpr ⟨_, rfl⟩, blank⟩
  · rintro ⟨u, hu, blank⟩
    obtain ⟨before, rfl⟩ := mem_afterEach_token.mp hu
    exact .behind blank

instance : Decidable (Bare line) :=
  have (u : List Char) : Decidable (∀ c ∈ u, Text.isBlank c = true) := List.decidableBAll _ u
  decidable_of_iff _ bare_iff.symm

theorem names_iff :
    Names bank.toNat line ↔ ∃ u ∈ Text.afterEach token line, leadingByte? u = some bank := by
  constructor
  · rintro ⟨number⟩
    exact ⟨_, mem_afterEach_token.mpr ⟨_, rfl⟩, leadingByte?_eq_some_iff.mpr number⟩
  · rintro ⟨u, hu, number⟩
    obtain ⟨before, rfl⟩ := mem_afterEach_token.mp hu
    exact .behind (leadingByte?_eq_some_iff.mp number)

instance : Decidable (Names bank.toNat line) := decidable_of_iff _ names_iff.symm

/-- The number behind a token at the end of its line begins the first line that is
not blank. -/
theorem exists_numbered_line (h : leadingByte? (['\n'].intercalate lines) = some bank) :
    ∃ blanks last after, lines = blanks ++ last :: after ∧
      (∀ line ∈ blanks, ∀ c ∈ line, Text.isBlank c = true) ∧ Numbered bank.toNat last := by
  induction lines with
  | nil => cases h
  | cons line rest ih =>
      cases rest with
      | nil =>
          rw [List.intercalate_singleton] at h
          exact ⟨[], line, [], rfl, List.forall_mem_nil _, leadingByte?_eq_some_iff.mp h⟩
      | cons next rest =>
          rw [intercalate_newline_cons line (List.cons_ne_nil next rest)] at h
          by_cases blank : ∀ c ∈ line, Text.isBlank c = true
          · rw [leadingByte?_newline_of_blank blank] at h
            obtain ⟨blanks, last, after, hlines, hblanks, number⟩ := ih h
            rw [hlines]
            exact ⟨line :: blanks, last, after, rfl, List.forall_mem_cons.mpr ⟨blank, hblanks⟩,
              number⟩
          · rw [leadingByte?_newline_of_not_blank blank] at h
            exact ⟨[], line, next :: rest, rfl, List.forall_mem_nil _,
              leadingByte?_eq_some_iff.mp h⟩

theorem leadingByte?_of_numbered {blanks after : List (List Char)} {last : List Char}
    (blank : ∀ line ∈ blanks, ∀ c ∈ line, Text.isBlank c = true)
    (number : Numbered bank.toNat last) :
    leadingByte? (['\n'].intercalate (blanks ++ last :: after)) = some bank := by
  induction blanks with
  | nil =>
      have first := leadingByte?_eq_some_iff.mpr number
      have dark : ¬ ∀ c ∈ last, Text.isBlank c = true := by
        intro blank
        obtain ⟨c, hc, digit⟩ := exists_digit_of_leadingByte? first
        have word := isBlank_of_isDigit digit
        rw [blank c hc] at word
        cases word
      rw [List.nil_append]
      cases after with
      | nil => rwa [List.intercalate_singleton]
      | cons next after =>
          rwa [intercalate_newline_cons last (List.cons_ne_nil next after),
            leadingByte?_newline_of_not_blank dark]
  | cons line blanks ih =>
      obtain ⟨hline, hblanks⟩ := List.forall_mem_cons.mp blank
      have some : blanks ++ last :: after ≠ [] :=
        List.append_ne_nil_of_right_ne_nil blanks (List.cons_ne_nil last after)
      rw [List.cons_append, intercalate_newline_cons line some,
        leadingByte?_newline_of_blank hline, ih hblanks]

theorem afterEach_token_cons (line : List Char) (rest : List Char) :
    Text.afterEach token (line ++ '\n' :: rest)
      = (Text.afterEach token line).map (· ++ '\n' :: rest) ++ Text.afterEach token rest :=
  Text.afterEach_append_cons (by decide) (by decide) line rest

theorem named_or_straddles (h : u ∈ Text.afterEach token (['\n'].intercalate lines))
    (number : leadingByte? u = some bank) :
    (∃ line ∈ lines, Names bank.toNat line) ∨ Straddles bank.toNat lines := by
  induction lines with
  | nil => cases h
  | cons line rest ih =>
      cases rest with
      | nil =>
          rw [List.intercalate_singleton] at h
          exact .inl ⟨line, List.mem_cons_self, names_iff.mpr ⟨u, h, number⟩⟩
      | cons next rest =>
          rw [intercalate_newline_cons line (List.cons_ne_nil next rest), afterEach_token_cons] at h
          rcases List.mem_append.mp h with here | later
          · obtain ⟨v, hv, rfl⟩ := List.mem_map.mp here
            by_cases blank : ∀ c ∈ v, Text.isBlank c = true
            · rw [leadingByte?_newline_of_blank blank] at number
              obtain ⟨blanks, last, after, hlines, hblanks, found⟩ :=
                exists_numbered_line number
              rw [hlines]
              exact .inr (@Straddles.across _ [] _ _ _ _ (bare_iff.mpr ⟨v, hv, blank⟩) hblanks found)
            · rw [leadingByte?_newline_of_not_blank blank] at number
              exact .inl ⟨line, List.mem_cons_self, names_iff.mpr ⟨v, hv, number⟩⟩
          · rcases ih later with ⟨named, hnamed, names⟩ | straddles
            · exact .inl ⟨named, List.mem_cons_of_mem line hnamed, names⟩
            · exact .inr (straddles.cons line)

/-! ### Line by line

Lines before a bare token are read by themselves; the first bare token joins its
line to the next one that is not blank. -/

def bankIn? (cs : List Char) : Option UInt8 :=
  (Text.afterEach token cs).findSome? leadingByte?

theorem bankIn?_newline_of_closed (closed : ¬ Bare line) (rest : List Char) :
    bankIn? (line ++ '\n' :: rest) = (bankIn? line).or (bankIn? rest) := by
  have same : ∀ u ∈ Text.afterEach token line,
      (leadingByte? ∘ (· ++ '\n' :: rest)) u = leadingByte? u := by
    intro u hu
    refine leadingByte?_newline_of_not_blank (fun blank => ?_) rest
    exact closed (bare_iff.mpr ⟨u, hu, blank⟩)
  rw [bankIn?, afterEach_token_cons, List.findSome?_append, List.findSome?_map,
    ← List.head?_filterMap, List.filterMap_congr same, List.head?_filterMap]
  rfl

/-- A line with a bare token, which reports no bank on its own, reports the number
below. -/
theorem bankIn?_newline_of_bare (bare : Bare line) (nothing : bankIn? line = none)
    {rest : List Char} (number : leadingByte? rest = some bank) :
    bankIn? (line ++ '\n' :: rest) = some bank := by
  rw [bankIn?, afterEach_token_cons, List.findSome?_append]
  cases found : ((Text.afterEach token line).map (· ++ '\n' :: rest)).findSome? leadingByte? with
  | none =>
      obtain ⟨u, hu, blank⟩ := bare_iff.mp bare
      have missed := List.findSome?_eq_none_iff.mp found _ (List.mem_map_of_mem hu)
      rw [leadingByte?_newline_of_blank blank, number] at missed
      cases missed
  | some other =>
      obtain ⟨_, hmem, hother⟩ := List.exists_of_findSome?_eq_some found
      obtain ⟨u, hu, rfl⟩ := List.mem_map.mp hmem
      by_cases blank : ∀ c ∈ u, Text.isBlank c = true
      · rw [leadingByte?_newline_of_blank blank, number] at hother
        rw [hother]
        rfl
      · rw [leadingByte?_newline_of_not_blank blank,
          List.findSome?_eq_none_iff.mp nothing u hu] at hother
        cases hother

theorem bankIn?_of_closed (closed : ∀ line ∈ lines, ¬ Bare line) :
    bankIn? (['\n'].intercalate lines) = lines.findSome? bankIn? := by
  induction lines with
  | nil => rfl
  | cons line rest ih =>
      obtain ⟨hline, hrest⟩ := List.forall_mem_cons.mp closed
      have first : (line :: rest).findSome? bankIn?
          = (bankIn? line).or (rest.findSome? bankIn?) := by
        rw [List.findSome?_cons]
        cases bankIn? line <;> rfl
      rw [first, ← ih hrest]
      cases rest with
      | nil =>
          rw [List.intercalate_singleton]
          exact Option.or_none.symm
      | cons next rest =>
          rw [intercalate_newline_cons line (List.cons_ne_nil next rest),
            bankIn?_newline_of_closed hline]

/-- The number of lines that straddle is reported, if nothing is reported before it. -/
theorem bankIn?_of_straddles {before blanks after : List (List Char)} {first last : List Char}
    (closed : ∀ line ∈ before, ¬ Bare line)
    (nothing : ∀ line ∈ before ++ [first], bankIn? line = none) (bare : Bare first)
    (blank : ∀ line ∈ blanks, ∀ c ∈ line, Text.isBlank c = true)
    (number : Numbered bank.toNat last) :
    bankIn? (['\n'].intercalate (before ++ first :: (blanks ++ last :: after))) = some bank := by
  induction before with
  | nil =>
      have below : leadingByte? (['\n'].intercalate (blanks ++ last :: after)) = some bank :=
        leadingByte?_of_numbered blank number
      have some : blanks ++ last :: after ≠ [] :=
        List.append_ne_nil_of_right_ne_nil blanks (List.cons_ne_nil last after)
      rw [List.nil_append, intercalate_newline_cons first some]
      exact bankIn?_newline_of_bare bare (nothing first List.mem_cons_self) below
  | cons line before ih =>
      obtain ⟨hline, hclosed⟩ := List.forall_mem_cons.mp closed
      obtain ⟨silent, later⟩ := List.forall_mem_cons.mp nothing
      rw [List.cons_append, intercalate_newline_cons line (List.append_ne_nil_of_right_ne_nil _
        (List.cons_ne_nil _ _)), bankIn?_newline_of_closed hline, silent, ih hclosed later]
      rfl

/-! ### Texts -/

theorem firmwareBank?_ofList (cs : List Char) : firmwareBank? (String.ofList cs) = bankIn? cs :=
  congrArg bankIn? String.toList_ofList

theorem Straddles.exists_bare {n : Nat} (h : Straddles n lines) : ∃ line ∈ lines, Bare line := by
  obtain ⟨bare, -, -⟩ := h
  exact ⟨_, List.mem_append_right _ List.mem_cons_self, bare⟩

/-- How the lines of a text decide on the bank that it reports. -/
structure LinesDecide (text : String) (lines : List (List Char)) : Prop where
  /-- The number stands behind a token on its line, or begins a later line. -/
  stands : ∀ {bank}, firmwareBank? text = some bank →
    (∃ line ∈ lines, Names bank.toNat line) ∨ Straddles bank.toNat lines
  /-- Without a bare token, every line is read on its own. -/
  closed : (∀ line ∈ lines, ¬ Bare line) →
    firmwareBank? text = lines.findSome? (fun line => firmwareBank? (String.ofList line)) ∧
    ∀ {bank}, firmwareBank? text = some bank → ∃ line ∈ lines, Names bank.toNat line
  /-- The first bare token takes the number of a later line, if no number stands
  behind a token before that. -/
  across : ∀ {before blanks after : List (List Char)} {first last : List Char} {bank : UInt8},
    lines = before ++ first :: (blanks ++ last :: after) → (∀ line ∈ before, ¬ Bare line) →
      (∀ line ∈ before ++ [first], firmwareBank? (String.ofList line) = none) → Bare first →
        (∀ line ∈ blanks, ∀ c ∈ line, Text.isBlank c = true) → Numbered bank.toNat last →
          firmwareBank? text = some bank

theorem linesDecide (typeset : Typeset text lines) : LinesDecide text lines := by
  have stands : ∀ {bank}, firmwareBank? text = some bank →
      (∃ line ∈ lines, Names bank.toNat line) ∨ Straddles bank.toNat lines := by
    intro bank h
    obtain ⟨u, hu, number⟩ := List.exists_of_findSome?_eq_some h
    rw [typeset.toList_eq] at hu
    exact named_or_straddles hu number
  have read : firmwareBank? text = bankIn? (['\n'].intercalate lines) :=
    congrArg bankIn? typeset.toList_eq
  refine ⟨stands, fun closed => ⟨?_, fun h => ?_⟩, ?_⟩
  · simp only [firmwareBank?_ofList]
    exact read.trans (bankIn?_of_closed closed)
  · refine (stands h).resolve_right fun straddles => ?_
    obtain ⟨line, hline, bare⟩ := straddles.exists_bare
    exact closed line hline bare
  · rintro before blanks after first last bank rfl closed nothing bare blank number
    simp only [firmwareBank?_ofList] at nothing
    exact read.trans (bankIn?_of_straddles closed nothing bare blank number)

end Tokens

end BootloaderStatus

end BoardRig
