/-
# `BoardRig.Proofs.Conduct.Order` — which calls come before which

Calls of one kind are guarded by calls of another kind when each of them comes
after one of those (`Guarded`).  A call of a kind that is made only once
divides the calls into those before it and those after it
(`eq_of_append_cons_eq`).

A conduct may be confined to calls of a kind (`Conduct.Within`), and it may
guard a kind of calls in all its runs (`Conduct.Guards`).  Both follow from
the steps of a sequence.
-/
import BoardRig.Proofs.Conduct.Sequence

namespace BoardRig

variable {σ ρ α β : Type} {es es' before after : List (Event σ)} {e : Event σ}

theorem mem_of_append_eq (h : es ++ es' = before ++ e :: after) :
    (∃ between, es = before ++ e :: between ∧ after = between ++ es') ∨
      ∃ between, before = es ++ between ∧ es' = between ++ e :: after := by
  obtain ⟨between, hbefore, hes'⟩ | ⟨between, hes, hafter⟩ := List.append_eq_append_iff.mp h
  · exact .inr ⟨between, hbefore, hes'⟩
  · cases between with
    | nil => exact .inr ⟨[], by rw [hes, List.append_nil, List.append_nil], hafter.symm⟩
    | cons e' between =>
        obtain ⟨rfl, rfl⟩ := List.cons.inj hafter
        exact .inl ⟨between, hes, rfl⟩

/-- Where there is only one call of a kind, it is the one. -/
theorem eq_of_append_cons_eq {kind : Event σ → Prop} {e' : Event σ}
    {before' after' : List (Event σ)}
    (hbefore : ∀ x ∈ before, ¬ kind x) (hafter : ∀ x ∈ after, ¬ kind x) (he' : kind e')
    (h : before ++ e :: after = before' ++ e' :: after') :
    before' = before ∧ e' = e ∧ after' = after := by
  obtain ⟨between, rfl, -⟩ | ⟨between, rfl, hrest⟩ := mem_of_append_eq h
  · exact absurd he' (hbefore e' (List.mem_append_right _ List.mem_cons_self))
  · cases between with
    | nil =>
        obtain ⟨rfl, rfl⟩ := List.cons.inj hrest
        exact ⟨List.append_nil _, rfl, rfl⟩
    | cons x between =>
        obtain ⟨-, rfl⟩ := List.cons.inj hrest
        exact absurd he' (hafter e' (List.mem_append_right _ List.mem_cons_self))

/-! ## Guards

Being guarded is kept when calls are put behind others, and it need not be asked of
later calls once a guard has been called. -/

/-- Each call of the kind `guarded` comes after one of the kind `guard`. -/
def Guarded (guard guarded : Event σ → Prop) (es : List (Event σ)) : Prop :=
  ∀ before e after, es = before ++ e :: after → guarded e → ∃ g ∈ before, guard g

namespace Guarded

variable {guard guarded : Event σ → Prop}

theorem of_forall_not (h : ∀ e ∈ es, ¬ guarded e) : Guarded guard guarded es := by
  rintro before e after rfl he
  exact absurd he (h e (List.mem_append_right _ List.mem_cons_self))

theorem append (h : Guarded guard guarded es) (h' : Guarded guard guarded es') :
    Guarded guard guarded (es ++ es') := by
  intro before e after hsplit he
  obtain ⟨between, hes, -⟩ | ⟨between, rfl, hes'⟩ := mem_of_append_eq hsplit
  · exact h before e between hes he
  · obtain ⟨g, hmem, hg⟩ := h' between e after hes' he
    exact ⟨g, List.mem_append_right _ hmem, hg⟩

theorem append_of_guard (h : Guarded guard guarded es) (hguard : ∃ g ∈ es, guard g)
    (es' : List (Event σ)) : Guarded guard guarded (es ++ es') := by
  intro before e after hsplit he
  obtain ⟨between, hes, -⟩ | ⟨between, rfl, -⟩ := mem_of_append_eq hsplit
  · exact h before e between hes he
  · obtain ⟨g, hmem, hg⟩ := hguard
    exact ⟨g, List.mem_append_left _ hmem, hg⟩

end Guarded

/-! ## Conducts -/

namespace Conduct

/-- All calls of all runs are of a kind. -/
def Within (kind : Event σ → Prop) (P : Conduct σ ρ) : Prop := ∀ es r, P es r → ∀ e ∈ es, kind e

namespace Within

variable {kind : Event σ → Prop} {P : Conduct σ (Except Error α)}

theorem mono {kind' : Event σ → Prop} {P : Conduct σ ρ} (h : Within kind P)
    (weaker : ∀ e, kind e → kind' e) : Within kind' P :=
  fun es r hP e he => weaker e (h es r hP e he)

theorem one {e : ρ → Event σ} (h : ∀ r, kind (e r)) : Within kind (Conduct.one e) := by
  rintro es r rfl
  exact List.forall_mem_singleton.mpr (h r)

theorem io {P : Conduct σ (Except IoError α)} (h : Within kind P) : Within kind P.io := by
  rintro es r ⟨answer, hP, -⟩
  exact h es answer hP

theorem yields (r : Except Error α) : Within kind (Conduct.yields r) := by
  rintro es r ⟨rfl, -⟩
  exact fun e he => absurd he List.not_mem_nil

theorem pauses {clock : Clock σ} {d : Duration} (h : kind (.sleep clock d)) :
    Within kind (Conduct.pauses clock d) := by
  rintro es r ⟨rfl, -⟩
  exact List.forall_mem_singleton.mpr h

theorem andThen {Q : α → Conduct σ (Except Error β)} (h : Within kind P)
    (h' : ∀ a, Within kind (Q a)) : Within kind (P.andThen Q) := by
  rintro es r (first | ⟨first, rest⟩)
  · exact h _ _ first
  · exact List.forall_mem_append.mpr ⟨h _ _ first, h' _ _ _ rest⟩

theorem discarded (h : Within kind P) : Within kind P.discarded := by
  rintro es r ⟨r', hP, -⟩
  exact h es r' hP

theorem repeated {way : Channel} {P : β → Conduct σ (Except Error (β ⊕ α))}
    (h : ∀ b, Within kind (P b)) (endless : ∀ lasts, kind (.endless way lasts)) (b : β) :
    Within kind (Conduct.repeated way P b) := by
  intro es r hrepeated
  induction hrepeated with
  | fails last => exact h _ _ _ last
  | done last => exact h _ _ _ last
  | again step _ ih => exact List.forall_mem_append.mpr ⟨h _ _ _ step, ih⟩
  | endless => exact List.forall_mem_singleton.mpr (endless _)

end Within

/-- In all runs each call of the kind `guarded` comes after one of the kind
`guard`. -/
def Guards (guard guarded : Event σ → Prop) (P : Conduct σ ρ) : Prop :=
  ∀ es r, P es r → Guarded guard guarded es

namespace Guards

variable {guard guarded : Event σ → Prop} {P : Conduct σ (Except Error α)}
  {Q : α → Conduct σ (Except Error β)}

theorem of_within {P : Conduct σ ρ} (h : Within (fun e => ¬ guarded e) P) :
    Guards guard guarded P :=
  fun es r hP => .of_forall_not (h es r hP)

theorem andThen (h : Guards guard guarded P) (h' : ∀ a, Guards guard guarded (Q a)) :
    Guards guard guarded (P.andThen Q) := by
  rintro es r (first | ⟨first, rest⟩)
  · exact h _ _ first
  · exact (h _ _ first).append (h' _ _ _ rest)

theorem andThen_of_guard (h : Guards guard guarded P)
    (hguard : ∀ es a, P es (.ok a) → ∃ g ∈ es, guard g) : Guards guard guarded (P.andThen Q) := by
  rintro es r (first | ⟨first, rest⟩)
  · exact h _ _ first
  · exact (h _ _ first).append_of_guard (hguard _ _ first) _

end Guards

end Conduct

end BoardRig
