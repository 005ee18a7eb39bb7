/-
# `BoardRig.Proofs.Conduct.Fault` — the call that a run fails with

The upload utility and the serial port are fail-stop: a call on one of them
that reports a failure is the last call of the run, and what it reports is the
outcome (`EndsAtFault`).  A conduct all of whose runs end so is `Strict`, and
every way of putting strict conducts together gives a strict one.
-/
import BoardRig.Proofs.Conduct.Search

namespace BoardRig

variable {σ α β : Type}

/-- What the upload utility or a serial port reports with a call, if that is a
failure. A write that was interrupted and a read that brought nothing are
none. -/
def Event.fault? : Event σ → Option Error
  | .utility _ _ _ (.error e) => some e
  | .utility _ _ args (.ok result) =>
    if result.success then none else some (.commandFailed (args.headD "") result.combined)
  | .connect _ _ (.error e) => some e
  | .waiting _ (.error e) => some e
  | .read _ _ (.error e) => if Session.isSilence e then none else some (.io e)
  | .write _ _ (.ok 0) => some (.io .writeZero)
  | .write _ _ (.error e) => if e.kind = .interrupted then none else some (.io e)
  | .flush _ (.error e) => some (.io e)
  | _ => none

theorem Event.fault?_eq_none {e : Event σ} (h : e.channel ≠ .utility ∧ e.channel ≠ .serial) :
    e.fault? = none := by
  cases e <;> first | rfl | simp [Event.channel] at h

/-- A call that reports a failure is the last one, and the failure the outcome. -/
def EndsAtFault (es : List (Event σ)) (r : Except Error α) : Prop :=
  ∀ before e after fault, es = before ++ e :: after → e.fault? = some fault →
    after = [] ∧ r = .error fault

namespace EndsAtFault

variable {es es' : List (Event σ)} {r : Except Error α}

theorem of_forall_none (h : ∀ e ∈ es, e.fault? = none) : EndsAtFault es r := by
  rintro before e after fault rfl hfault
  have hnone := h e (List.mem_append_right _ List.mem_cons_self)
  rw [hnone] at hfault
  cases hfault

theorem nil : EndsAtFault ([] : List (Event σ)) r :=
  of_forall_none (by simp)

theorem fault?_eq_none {a : α} (h : EndsAtFault es (.ok a : Except Error α)) :
    ∀ e ∈ es, e.fault? = none := by
  intro e he
  obtain ⟨before, after, rfl⟩ := List.append_of_mem he
  by_contra hfault
  obtain ⟨fault, hfault⟩ := Option.ne_none_iff_exists'.mp hfault
  obtain ⟨-, hr⟩ := h before e after fault rfl hfault
  cases hr

theorem append (h : ∀ e ∈ es, e.fault? = none) (h' : EndsAtFault es' r) :
    EndsAtFault (es ++ es') r := by
  intro before e after fault hsplit hfault
  obtain ⟨between, rfl, -⟩ | ⟨between, -, hes'⟩ := mem_of_append_eq hsplit
  · rw [h e (List.mem_append_right _ List.mem_cons_self)] at hfault
    cases hfault
  · exact h' between e after fault hes' hfault

theorem cons {e : Event σ} (h : e.fault? = none) (h' : EndsAtFault es r) :
    EndsAtFault (e :: es) r :=
  (append (List.forall_mem_singleton.mpr h) h' : EndsAtFault ([e] ++ es) r)

theorem single {e : Event σ} (h : ∀ fault, e.fault? = some fault → r = .error fault) :
    EndsAtFault [e] r := by
  intro before e' after fault hsplit hfault
  cases before with
  | nil =>
      obtain ⟨rfl, rfl⟩ := List.cons.inj hsplit
      exact ⟨rfl, h fault hfault⟩
  | cons x before =>
      obtain ⟨-, hnil⟩ := List.cons.inj hsplit
      exact absurd hnil.symm (List.append_ne_nil_of_right_ne_nil _ (List.cons_ne_nil _ _))

theorem quiet {e : Event σ} (h : e.fault? = none) : EndsAtFault [e] r :=
  of_forall_none (List.forall_mem_singleton.mpr h)

theorem fault {e : Event σ} {cause : Error} (h : e.fault? = some cause) :
    EndsAtFault [e] (.error cause : Except Error α) :=
  single fun _ hfault => congrArg Except.error (Option.some.inj (h.symm.trans hfault))

theorem of_error {e : Error} (h : EndsAtFault es (.error e : Except Error α)) :
    EndsAtFault es (.error e : Except Error β) := by
  intro before e' after fault hsplit hfault
  obtain ⟨hafter, hr⟩ := h before e' after fault hsplit hfault
  exact ⟨hafter, congrArg Except.error (Except.error.inj hr)⟩

end EndsAtFault

namespace Conduct

/-- All runs end at a failure that is reported. -/
def Strict (P : Conduct σ (Except Error α)) : Prop := ∀ es r, P es r → EndsAtFault es r

namespace Strict

theorem yields (r : Except Error α) : Strict (Conduct.yields r : Conduct σ (Except Error α)) := by
  rintro es r ⟨rfl, rfl⟩
  exact .nil

theorem one {e : Except Error α → Event σ}
    (h : ∀ r fault, (e r).fault? = some fault → r = .error fault) : Strict (Conduct.one e) := by
  rintro es r rfl
  exact .single (h r)

theorem io {e : Except IoError α → Event σ}
    (h : ∀ answer fault, (e answer).fault? = some fault → answer.mapError .io = .error fault) :
    Strict (Conduct.one e).io := by
  rintro es r ⟨answer, rfl, rfl⟩
  exact .single (h answer)

theorem pauses (clock : Clock σ) (d : Duration) : Strict (Conduct.pauses clock d) := by
  rintro es r ⟨rfl, rfl⟩
  exact .quiet rfl

theorem andThen {P : Conduct σ (Except Error α)} {Q : α → Conduct σ (Except Error β)}
    (h : Strict P) (h' : ∀ a, Strict (Q a)) : Strict (P.andThen Q) := by
  rintro es r (first | ⟨first, rest⟩)
  · exact (h _ _ first).of_error
  · exact .append (h _ _ first).fault?_eq_none (h' _ _ _ rest)

theorem repeated {way : Channel} {P : β → Conduct σ (Except Error (β ⊕ α))}
    (h : ∀ b, Strict (P b)) (b : β) : Strict (Conduct.repeated way P b) := by
  intro es r hrepeated
  induction hrepeated with
  | fails last => exact (h _ _ _ last).of_error
  | done last => exact .of_forall_none (h _ _ _ last).fault?_eq_none
  | again step _ ih => exact .append (h _ _ _ step).fault?_eq_none ih
  | endless => exact .quiet rfl

/-- What asks neither the utility nor a port fails with none of their failures. -/
theorem of_within {P : Conduct σ (Except Error α)}
    (h : Within (fun e => e.channel ≠ .utility ∧ e.channel ≠ .serial) P) : Strict P :=
  fun es r hP => .of_forall_none fun e he => Event.fault?_eq_none (h es r hP e he)

end Strict

end Conduct

end BoardRig
