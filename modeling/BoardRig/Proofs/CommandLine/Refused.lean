/-
# `BoardRig.Proofs.CommandLine.Refused` — values that are refused

A value is checked when the next argument shows that it is complete, and so
later than it is read.  Once a value was read that its check refuses, the reader
is doomed (`Progress.Doomed`): every further argument is refused, or leaves it
doomed (`Dooms.readArgument`), and at the end of the command line nothing is
left but to refuse the value.  So whatever else is given, the program leaves
with code 2 and the world is as it was (`run_refused`).  The options for numbers
in base sixteen are a case of this (`hex_options_exact`).
-/
import BoardRig.Program
import BoardRig.Proofs.CommandLine.Numbers
import BoardRig.Proofs.Outcome
import BoardRig.Proofs.Usb.Device

namespace BoardRig

namespace CommandLine

variable {α β : Type}

/-! ## Refusals

A value that was read waits to be settled.  Once a waiting value is bad, settling
fails, and nothing can take the value back. -/

def Refused (r : Except Refusal α) : Prop :=
  ∃ e, r = .error e ∧ e.exitCode = 2

theorem Refused.error {e : Refusal} (h : e.exitCode = 2) : Refused (.error e : Except Refusal α) :=
  ⟨e, rfl, h⟩

theorem Refused.bind {r : Except Refusal α} (h : Refused r) (f : α → Except Refusal β) :
    Refused (r >>= f) := by
  obtain ⟨e, rfl, code⟩ := h
  exact .error code

namespace Progress

variable {p q : Progress} {parameter : Parameter} {check : Check} {value : String}

/-- What is held back will be refused: a value that its check refuses, or an
option without a value where no more values can come. -/
inductive Doomed (p : Progress) : Prop where
  | value {parameter : Parameter} {check : Check} {value : String}
      (pending : p.pending = some ⟨parameter, some value⟩)
      (meaning : parameter.meaning = .value check) (refused : check value ≠ none)
  | missing {parameter : Parameter} (pending : p.pending = some ⟨parameter, none⟩)
      (ended : p.operandsOnly = true)

theorem noteValue_cases (p : Progress) (source : Source) (parameter : Parameter) (check : Check)
    (value : String) :
    Refused (p.noteValue source parameter check value) ∨
      check value = none ∧
        ∃ found, p.noteValue source parameter check value = .ok { p with findings := found } := by
  rw [noteValue]
  split
  · exact .inl (.error rfl)
  · split
    · next accepted => exact .inr ⟨accepted, _, rfl⟩
    · exact .inl (.error rfl)
    · exact .inl (.error rfl)

theorem refused_noteValue (source : Source) (parameter : Parameter) (refused : check value ≠ none) :
    Refused (p.noteValue source parameter check value) :=
  (p.noteValue_cases source parameter check value).resolve_right fun h => refused h.1

theorem settle_cases (p : Progress) :
    Refused p.settle ∨
      ∃ found, p.settle = .ok { p with findings := found, pending := none } := by
  rcases p with ⟨findings, pending, operands, operandsOnly⟩
  rw [settle]
  cases pending with
  | none => exact .inr ⟨findings, rfl⟩
  | some held =>
      dsimp only
      split
      · exact (noteValue_cases _ _ _ _ _).imp id fun h => h.2
      · exact .inl (.error rfl)

theorem refused_settle_of_awaiting (h : p.pending = some ⟨parameter, none⟩) :
    Refused p.settle := by
  rw [settle, h]
  dsimp only
  split
  · next contra => cases contra
  · exact .error rfl

theorem Doomed.settle (h : p.Doomed) : Refused p.settle := by
  cases h with
  | value pending meaning refused =>
      rw [Progress.settle, pending]
      dsimp only
      rw [meaning]
      exact refused_noteValue _ _ refused
  | missing pending _ => exact refused_settle_of_awaiting pending

end Progress

namespace Grammar

open Progress

variable {g : Grammar} {p : Progress} {parameter : Parameter} {check : Check} {value : String}

/-- Reading is refused now or later. -/
def Dooms (r : Except Refusal Progress) : Prop :=
  Refused r ∨ ∃ p, r = .ok p ∧ p.Doomed

/-! ## Options behind what cannot be settled

Every option settles what waits before it does anything else. -/

section Stuck

variable (stuck : Refused p.settle)

include stuck

theorem refused_attached : Refused (p.attached parameter check value) :=
  stuck.bind _

theorem refused_hold (value : Option String) : Refused (p.hold parameter value) :=
  stuck.bind _

theorem refused_noteOption (command : Option String) : Refused (p.noteOption command parameter) :=
  stuck.bind _

theorem refused_readLong (argument : String) (body : List Char) :
    Refused (g.readLong p argument body) := by
  rw [readLong]
  cases Text.cutAt? '=' body with
  | none =>
      dsimp only
      split
      · exact .error rfl
      · split
        · contradiction
        · exact refused_hold stuck none
        · contradiction
        · exact refused_noteOption stuck _
  | some sides =>
      dsimp only
      split
      · exact .error rfl
      · split
        · exact refused_attached stuck
        · contradiction
        · exact .error rfl
        · contradiction

theorem refused_readShort (c : Char) (body : List Char) : Refused (g.readShort (c :: body) p) := by
  rw [readShort]
  cases g.short? c with
  | none => exact .error rfl
  | some parameter =>
      dsimp only
      split
      · split
        · exact refused_hold stuck none
        · exact refused_attached stuck
      · obtain ⟨e, h, code⟩ : Refused (p.noteOption g.command parameter) :=
          refused_noteOption stuck g.command
        rw [h]
        exact .error code

end Stuck

theorem refused_misplaced (p : Progress) (argument : String) :
    (g.misplaced p argument).exitCode = 2 := by
  rw [misplaced]
  split <;> rfl

/-! ## One more argument -/

/-- Where what is held back cannot be settled, no option is read any more. -/
theorem readArgument_cases (stuck : Refused p.settle) (argument : String) :
    Refused (g.readArgument p argument) ∨
      g.readArgument p argument = g.readPlain p argument ∨
      g.readArgument p argument = .ok { p with operandsOnly := true } := by
  rw [readArgument]
  split
  · exact .inr (.inl rfl)
  · split
    · exact .inr (.inr rfl)
    · exact .inl (refused_readLong stuck _ _)
    · exact .inr (.inl rfl)
    · next body _ _ some _ =>
      obtain ⟨c, body, rfl⟩ := List.exists_cons_of_ne_nil some
      exact .inl (refused_readShort stuck c body)
    · exact .inr (.inl rfl)

theorem Dooms.readPlain (h : p.Doomed) (argument : String) : Dooms (g.readPlain p argument) := by
  rw [Grammar.readPlain]
  split
  · next parameter held =>
    cases h with
    | value pending => rw [pending] at held; cases held
    | missing pending ended =>
        rw [if_pos ended]
        split
        · exact .inl (.error (refused_misplaced p argument))
        · exact .inl (.error rfl)
  · split
    · exact .inl (.error (refused_misplaced p argument))
    · exact .inl ((refused_hold h.settle _).bind _)

theorem Dooms.readArgument (h : p.Doomed) (argument : String) :
    Dooms (g.readArgument p argument) := by
  obtain refused | plain | ended := readArgument_cases (g := g) h.settle argument
  · exact .inl refused
  · rw [plain]
    exact Dooms.readPlain h argument
  · refine .inr ⟨_, ended, ?_⟩
    cases h with
    | value pending meaning refused => exact .value pending meaning refused
    | missing pending _ => exact .missing pending rfl

/-- A refused value that comes as an argument of its own dooms the reader. -/
theorem Dooms.readArgument_of_awaiting (awaiting : p.pending = some ⟨parameter, none⟩)
    (options : p.operandsOnly = false) (meaning : parameter.meaning = .value check)
    (refused : check value ≠ none) : Dooms (g.readArgument p value) := by
  obtain refused' | plain | ended :=
    readArgument_cases (g := g) (refused_settle_of_awaiting awaiting) value
  · exact .inl refused'
  · refine .inr ⟨{ p with pending := some ⟨parameter, some value⟩ }, ?_, .value rfl meaning refused⟩
    rw [plain, Grammar.readPlain, awaiting]
    dsimp only
    rw [options]
    rfl
  · exact .inr ⟨_, ended, .missing awaiting rfl⟩

/-! ## The arguments of an option

An option can be given in four ways, two for each kind of name.  Each of them makes
its value wait, or refuses it at once. -/

/-- A short option that has no value and may stand in front of others. -/
def IsFlag (g : Grammar) (c : Char) : Prop :=
  ∃ flag, g.short? c = some flag ∧ (flag.meaning = .switch ∨ flag.meaning = .tally)

/-- Arguments that give an option a value: behind its long name or its short
one, attached or as an argument of its own. -/
inductive Gives (g : Grammar) (option : Parameter) : String → List String → Prop where
  | long {name : String} (nonempty : name.toList ≠ []) (plain : '=' ∉ name.toList)
      (named : g.long? name = option) (value : String) :
      Gives g option value ["--" ++ name, value]
  | long_attached {name : String} (plain : '=' ∉ name.toList) (named : g.long? name = option)
      (value : String) : Gives g option value ["--" ++ name ++ "=" ++ value]
  | short {flags : List Char} {c : Char} (dash : (flags ++ [c]).head? ≠ some '-')
      (plain : ∀ f ∈ flags, g.IsFlag f) (named : g.short? c = option) (value : String) :
      Gives g option value [String.ofList ('-' :: (flags ++ [c])), value]
  | short_attached {flags rest : List Char} {c : Char} (dash : (flags ++ [c]).head? ≠ some '-')
      (plain : ∀ f ∈ flags, g.IsFlag f) (named : g.short? c = option) (nonempty : rest ≠ []) :
      Gives g option (attachedValue rest) [String.ofList ('-' :: (flags ++ c :: rest))]

theorem noteOption_cases (p : Progress) (command : Option String)
    (plain : parameter.meaning = .switch ∨ parameter.meaning = .tally) :
    Refused (p.noteOption command parameter) ∨
      ∃ found, p.noteOption command parameter =
        .ok { p with findings := found, pending := none } := by
  obtain refused | ⟨found, settled⟩ := p.settle_cases
  · exact .inl (refused_noteOption refused command)
  · rw [noteOption, settled]
    obtain meaning | meaning := plain
    · simp only [bind, Except.bind, meaning]
      split
      · exact .inl (.error rfl)
      · exact .inr ⟨_, rfl⟩
    · simp only [bind, Except.bind, meaning]
      exact .inr ⟨_, rfl⟩

theorem readShort_cons_of_flag {c : Char} (named : g.short? c = some parameter)
    (plain : parameter.meaning = .switch ∨ parameter.meaning = .tally) (rest : List Char)
    (p : Progress) :
    g.readShort (c :: rest) p = p.noteOption g.command parameter >>= g.readShort rest := by
  rw [readShort, named]
  obtain meaning | meaning := plain
  · simp only [meaning]
    cases p.noteOption g.command parameter <;> rfl
  · simp only [meaning]
    cases p.noteOption g.command parameter <;> rfl

theorem readShort_flags {flags : List Char} (plain : ∀ f ∈ flags, g.IsFlag f) (rest : List Char)
    (p : Progress) :
    Refused (g.readShort (flags ++ rest) p) ∨
      ∃ q, g.readShort (flags ++ rest) p = g.readShort rest q ∧
        q.operandsOnly = p.operandsOnly := by
  induction flags generalizing p with
  | nil => exact .inr ⟨p, rfl, rfl⟩
  | cons f flags ih =>
      obtain ⟨⟨flag, named, meaning⟩, others⟩ := List.forall_mem_cons.mp plain
      rw [List.cons_append, readShort_cons_of_flag named meaning]
      obtain refused | ⟨found, noted⟩ := noteOption_cases p g.command meaning
      · exact .inl (refused.bind _)
      · rw [noted]
        exact ih others _

theorem readArgument_long {argument : String} {body : List Char}
    (options : p.operandsOnly = false) (text : argument.toList = '-' :: '-' :: body)
    (nonempty : body ≠ []) : g.readArgument p argument = g.readLong p argument body := by
  rw [readArgument, options, if_neg Bool.false_ne_true, text]
  split
  · next same => cases same; exact absurd rfl nonempty
  · next same => cases same; rfl
  · next same => cases same
  · next other _ same => cases same; exact absurd rfl (other body)
  · next other _ _ => exact absurd rfl (other body)

theorem readArgument_short {argument : String} {body : List Char}
    (options : p.operandsOnly = false) (text : argument.toList = '-' :: body)
    (nonempty : body ≠ []) (dash : body.head? ≠ some '-') :
    g.readArgument p argument = g.readShort body p := by
  rw [readArgument, options, if_neg Bool.false_ne_true, text]
  split
  · next same => cases same; exact absurd rfl dash
  · next same => cases same; exact absurd rfl dash
  · next same => cases same; exact absurd rfl nonempty
  · next same => cases same; rfl
  · next other => exact absurd rfl (other body)

section Given

variable (meaning : parameter.meaning = .value check) (refused : check value ≠ none)

include refused

theorem refused_attached_of_refused (p : Progress) (parameter : Parameter) :
    Refused (p.attached parameter check value) := by
  obtain stuck | ⟨found, settled⟩ := p.settle_cases
  · exact refused_attached stuck
  · rw [attached, settled]
    exact refused_noteValue _ _ refused

include meaning

theorem dooms_of_hold {r : Except Refusal Progress} {q : Progress}
    (options : q.operandsOnly = false) (read : r = q.hold parameter none) :
    Dooms (r >>= fun p => g.readArgument p value) := by
  rw [read]
  obtain stuck | ⟨found, settled⟩ := q.settle_cases
  · exact .inl ((refused_hold stuck none).bind _)
  · rw [hold, settled]
    exact Dooms.readArgument_of_awaiting rfl options meaning refused

end Given

/-- Whatever was read before, a refused value dooms the reader. -/
theorem Gives.dooms {arguments : List String} (h : g.Gives parameter value arguments)
    (meaning : parameter.meaning = .value check) (refused : check value ≠ none)
    (options : p.operandsOnly = false) : Dooms (arguments.foldlM g.readArgument p) := by
  cases h with
  | @long name nonempty plain named =>
      have text : ("--" ++ name).toList = '-' :: '-' :: name.toList := by
        rw [String.toList_append]
        rfl
      have read : g.readArgument p ("--" ++ name) = p.hold parameter none := by
        rw [readArgument_long options text nonempty, readLong, Text.cutAt?_of_not_mem plain]
        dsimp only
        rw [String.ofList_toList, named]
        dsimp only
        rw [meaning]
      simp only [List.foldlM_cons, List.foldlM_nil, bind_pure]
      exact dooms_of_hold meaning refused options read
  | @long_attached name plain named =>
      have text : ("--" ++ name ++ "=" ++ value).toList =
          '-' :: '-' :: (name.toList ++ '=' :: value.toList) := by
        rw [String.toList_append, String.toList_append, String.toList_append, List.append_assoc,
          List.append_assoc]
        rfl
      have read : g.readArgument p ("--" ++ name ++ "=" ++ value) =
          p.attached parameter check value := by
        rw [readArgument_long options text (List.append_ne_nil_of_right_ne_nil _
          (List.cons_ne_nil _ _)), readLong, Text.cutAt?_append plain]
        dsimp only
        rw [String.ofList_toList, String.ofList_toList, named]
        dsimp only
        rw [meaning]
      simp only [List.foldlM_cons, List.foldlM_nil, bind_pure, read]
      exact .inl (refused_attached_of_refused refused p parameter)
  | @short flags c dash plain named =>
      simp only [List.foldlM_cons, List.foldlM_nil, bind_pure]
      rw [readArgument_short options String.toList_ofList (List.append_ne_nil_of_right_ne_nil _
        (List.cons_ne_nil _ _)) dash]
      obtain refused' | ⟨q, read, same⟩ := readShort_flags plain [c] p
      · exact .inl (refused'.bind _)
      · refine dooms_of_hold meaning refused (same.trans options) (read.trans ?_)
        rw [readShort, named]
        dsimp only
        rw [meaning]
        rfl
  | @short_attached flags rest c dash plain named nonempty =>
      have first : (flags ++ c :: rest).head? ≠ some '-' := by
        rwa [List.append_cons, List.head?_append_of_ne_nil _
          (List.append_ne_nil_of_right_ne_nil _ (List.cons_ne_nil _ _))]
      simp only [List.foldlM_cons, List.foldlM_nil, bind_pure]
      rw [readArgument_short options String.toList_ofList (List.append_ne_nil_of_right_ne_nil _
        (List.cons_ne_nil _ _)) first]
      obtain refused' | ⟨q, read, -⟩ := readShort_flags plain (c :: rest) p
      · exact .inl refused'
      · rw [read, readShort, named]
        dsimp only
        rw [meaning]
        dsimp only
        rw [if_neg (by rwa [List.isEmpty_iff])]
        exact .inl (refused_attached_of_refused refused q parameter)

/-! ## The whole command line

Doom is kept from one argument to the next, by induction over the rest. -/

/-- A doomed reader refuses the command line, whatever else stands on it. -/
theorem refused_of_doomed (doomed : p.Doomed) (rest : List String)
    (environment : String → Option String) :
    Refused (rest.foldlM g.readArgument p >>= g.finish environment) := by
  induction rest generalizing p with
  | nil => exact doomed.settle.bind _
  | cons argument rest ih =>
      rw [List.foldlM_cons]
      obtain refused | ⟨q, read, doomed⟩ := Dooms.readArgument (g := g) doomed argument
      · exact (refused.bind _).bind _
      · rw [read]
        exact ih doomed

theorem readArguments_eq (leaf : g.commands = []) (arguments : List String) (p : Progress) :
    g.readArguments arguments p =
      (arguments.foldlM g.readArgument p >>= fun p => .ok (p, none)) := by
  induction arguments generalizing p with
  | nil => rfl
  | cons argument rest ih =>
      rw [readArguments, leaf, List.contains_nil, Bool.and_false, if_neg Bool.false_ne_true,
        List.foldlM_cons]
      cases g.readArgument p argument with
      | error e => rfl
      | ok p => exact ih p

theorem readAll_eq (leaf : g.commands = []) (environment : String → Option String)
    (arguments : List String) :
    g.readAll environment arguments =
      (arguments.foldlM g.readArgument { operands := g.operands } >>= g.finish environment) >>=
        fun found =>
          if (g.missing found).isEmpty then .ok found
          else .error (.missingArguments (g.missing found)) := by
  rw [readAll, readArguments_eq leaf, bind_assoc, bind_assoc]
  rfl

theorem refused_readAll (leaf : g.commands = []) {before given : List String}
    (read : g.readArguments before { operands := g.operands } = .ok (p, none))
    (options : p.operandsOnly = false) (gives : g.Gives parameter value given)
    (meaning : parameter.meaning = .value check) (refused : check value ≠ none)
    (environment : String → Option String) (after : List String) :
    Refused (g.readAll environment (before ++ given ++ after)) := by
  have start : before.foldlM g.readArgument { operands := g.operands } = .ok p := by
    rw [readArguments_eq leaf] at read
    obtain ⟨q, hq, same⟩ := bind_eq_ok_iff.mp read
    cases same
    exact hq
  have whole : (before ++ given ++ after).foldlM g.readArgument { operands := g.operands } =
      given.foldlM g.readArgument p >>= fun q => after.foldlM g.readArgument q := by
    rw [List.foldlM_append, List.foldlM_append, start]
    rfl
  rw [readAll_eq leaf, whole]
  refine Refused.bind ?_ _
  obtain refused | ⟨q, read, doomed⟩ := gives.dooms meaning refused options
  · exact (refused.bind _).bind _
  · rw [read]
    exact refused_of_doomed doomed after environment

end Grammar

/-! ## Commands -/

/-- A command line that names a command and gives an option of it a value, in a
place that is reached and where options are read. -/
inductive Offers (words : List String) (option : Parameter) (value : String) : Prop where
  | mk {c : Command} {progress p : Progress} {before given after : List String}
      (known : c ∈ commands)
      (named : programGrammar.readArguments words {} =
        .ok (progress, some (c.name, before ++ given ++ after)))
      (read : c.grammar.readArguments before { operands := c.operands } = .ok (p, none))
      (options : p.operandsOnly = false) (gives : c.grammar.Gives option value given)

theorem names_distinct : commands.Pairwise fun a b => a.name ≠ b.name := by
  decide

theorem find?_name {c : Command} (known : c ∈ commands) :
    commands.find? (·.name == c.name) = some c := by
  obtain ⟨before, after, same⟩ := List.append_of_mem known
  have distinct := names_distinct
  rw [same, List.pairwise_append] at distinct
  rw [same, List.find?_eq_some_iff_append]
  refine ⟨beq_self_eq_true c.name, before, after, rfl, fun other hother => ?_⟩
  rw [Bool.not_eq_true', beq_eq_false_iff_ne]
  exact distinct.2.2 other hother c List.mem_cons_self

theorem refused_parse {words : List String} {option : Parameter} {check : Check} {value : String}
    (offers : Offers words option value) (meaning : option.meaning = .value check)
    (refused : check value ≠ none) (environment : String → Option String) :
    Refused (parse environment words) := by
  obtain ⟨known, named, read, options, gives⟩ := offers
  rw [parse, named]
  dsimp only [bind, Except.bind]
  rw [find?_name known]
  exact (Grammar.refused_readAll rfl read options gives meaning refused environment _).bind _

end CommandLine

namespace Program

variable {σ : Type}

theorem ofRefusal_code (environment : String → Option String) (r : CommandLine.Refusal) :
    (ofRefusal environment r).code = r.exitCode := by
  cases r <;> rfl

/-- A value that the check of its option refuses ends the program with code 2,
and nothing has been done. -/
theorem run_refused (rig : Rig σ) (environment : String → Option String) {words : List String}
    {option : CommandLine.Parameter} {check : CommandLine.Check} {value : String}
    (offers : CommandLine.Offers words option value) (meaning : option.meaning = .value check)
    (refused : check value ≠ none) (w : σ) :
    (run rig environment words w).1.code = 2 ∧ (run rig environment words w).2 = w := by
  obtain ⟨e, parsed, code⟩ := CommandLine.refused_parse offers meaning refused environment
  rw [run, parsed]
  exact ⟨(ofRefusal_code environment e).trans code, rfl⟩

end Program

namespace CommandLine

open Program

variable {σ : Type}

/-- What the options in base sixteen take as a number, and where the value of one is
no number of its size, what the program does, for every behaviour of tools, ports,
storage, files and clock. -/
theorem hex_options_exact :
    Exact (Nat.pow 2 32) UInt32.toNat hexWord ∧ Exact (Nat.pow 2 16) UInt16.toNat hexHalf ∧
    ∀ (rig : Rig σ) environment words option value w, Offers words option value →
      (option.meaning = someWord ∧ (∀ v, hexWord value ≠ .ok v) ∨
        option.meaning = someHalf ∧ (∀ v, hexHalf value ≠ .ok v)) →
      (run rig environment words w).1.code = 2 ∧ (run rig environment words w).2 = w := by
  refine ⟨hexWord_exact, hexHalf_exact, fun rig environment words option value w offers h => ?_⟩
  obtain ⟨meaning, none⟩ | ⟨meaning, none⟩ := h
  · refine run_refused rig environment offers meaning ?_ w
    cases read : hexWord value with
    | ok v => exact absurd read (none v)
    | error e => exact Option.some_ne_none _
  · refine run_refused rig environment offers meaning ?_ w
    cases read : hexHalf value with
    | ok v => exact absurd read (none v)
    | error e => exact Option.some_ne_none _

/-- A family that is no number, behind the operands of a conversion: the input is
not read. -/
theorem hex_options_exact_of_bad_family :
    let words := ["bin2uf2", "in.bin", "out.uf2", "--family", "0xNOTHEX"]
    let runner : Runner Nat := ⟨fun _ calls => (.ok (.ok ""), calls + 1)⟩
    let opener : Opener Nat := ⟨fun _ calls => (.error (.serial "no port"), calls + 1)⟩
    let rig := Rig.single runner opener "/dev/ttyACM0" Profile.rp2040.bootloaderIdentity
    (∀ v, hexWord "0xNOTHEX" ≠ .ok v) ∧
      (run rig (fun _ => none) words 0).1.code = 2 ∧ (run rig (fun _ => none) words 0).2 = 0 := by
  intro words runner opener rig
  have none : ∀ v, hexWord "0xNOTHEX" ≠ .ok v := fun v h => (nomatch h)
  refine ⟨none, ?_⟩
  let family : Parameter :=
      { id := "family", about := "Family id in hex (default: target family)", valueName := "FAMILY",
        short := some 'f', long := some "family", meaning := someWord }
  let c := commands.head (by decide)
  have gives : c.grammar.Gives family "0xNOTHEX" ["--" ++ "family", "0xNOTHEX"] :=
    .long (by decide) (by decide) rfl _
  have offers : Offers words family "0xNOTHEX" :=
    @Offers.mk _ _ _ c _ _ ["in.bin", "out.uf2"] _ [] (List.head_mem _) rfl rfl rfl gives
  exact hex_options_exact.2.2 rig _ _ _ _ 0 offers (.inl ⟨rfl, none⟩)

/-- Repeated marks and a sign are taken, although no number is properly given so. -/
theorem surplus_taken :
    (hexWord "0x0x10" = .ok 0x10 ∧ ∀ n, ¬ Proper "0x0x10" n) ∧
      (hexWord "0x0X10" = .ok 0x10 ∧ ∀ n, ¬ Proper "0x0X10" n) ∧
      hexWord "+10" = .ok 0x10 ∧ ∀ n, ¬ Proper "+10" n := by
  have improper : ∀ {text : String},
      ¬ (text.toList.count 'x' + text.toList.count 'X' ≤ 1 ∧ '+' ∉ text.toList) →
        ∀ n, ¬ Proper text n := fun surplus n proper => surplus (proper_iff.mp proper).2
  exact ⟨⟨rfl, improper (by decide)⟩, ⟨rfl, improper (by decide)⟩, rfl, improper (by decide)⟩

end CommandLine

end BoardRig
