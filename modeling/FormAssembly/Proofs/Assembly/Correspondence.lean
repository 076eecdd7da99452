import FormAssembly.Proofs.Assembly.FreshBuffers

/-!
# Corresponding tensors

One form is assembled into two tensors that correspond to each other by some relation. If adding a
block leaves corresponding tensors, or fails on both with the same error (`Assembly.AddsAlike`), all
contributions of the form can be added with the same outcome, the same calls and the same reports,
and the tensors correspond up to the end (`Assembly.AddsAlike.addContributions`).
-/

namespace FormAssembly

variable {σ τ α β γ : Type} {R : σ → τ → Prop}

/-- Two outcomes are alike if both failed with one error or if what came out corresponds. -/
inductive Alike (R : σ → τ → Prop) : Except Error σ → Except Error τ → Prop
  | ok {s : σ} {t : τ} : R s t → Alike R (.ok s) (.ok t)
  | error (cause : Error) : Alike R (.error cause) (.error cause)

/-- Two assemblies have come to the same, in corresponding tensors. -/
structure Progress.Matches (R : σ → τ → Prop) (p : Progress σ α) (q : Progress τ α) : Prop where
  tensor : R p.tensor q.tensor
  calls : p.calls = q.calls
  events : p.events = q.events

namespace Assembly

/-- Two parts of assemblies have ended in the same way. -/
def InStep (R : σ → τ → Prop) (left : Except Error γ × Progress σ α)
    (right : Except Error γ × Progress τ α) : Prop :=
  left.1 = right.1 ∧ left.2.Matches R right.2

theorem InStep.cases {left : Except Error γ × Progress σ α} {right : Except Error γ × Progress τ α} :
    InStep R left right →
      (∃ cause p q, left = (.error cause, p) ∧ right = (.error cause, q) ∧ p.Matches R q) ∨
      ∃ result p q, left = (.ok result, p) ∧ right = (.ok result, q) ∧ p.Matches R q := by
  rcases left with ⟨outcome, p⟩
  rcases right with ⟨same, q⟩
  rintro ⟨rfl, after⟩
  cases outcome with
  | error cause => exact .inl ⟨cause, p, q, rfl, rfl, after⟩
  | ok result => exact .inr ⟨result, p, q, rfl, rfl, after⟩

variable [Tensor σ α β] [Tensor τ α β] {fits : Addend α → Prop}
  {p : Progress σ α} {q : Progress τ α}

/-- Adding a block that fits to corresponding tensors has corresponding results. -/
def AddsAlike (fits : Addend α → Prop) (R : σ → τ → Prop) : Prop :=
  ∀ s t addend, R s t → fits addend →
    Alike R (Tensor.add s addend.block addend.rows) (Tensor.add t addend.block addend.rows)

theorem AddsAlike.addContribution (alike : AddsAlike fits R) (c : Contribution α)
    (fit : fits c.addend) :
    p.Matches R q → InStep R (addContribution c p) (addContribution c q) := by
  intro before
  have sums := alike p.tensor q.tensor c.addend before.tensor fit
  -- The two sums are alike, whatever they are, so they may be named and told apart by cases.
  unfold Assembly.addContribution
  revert sums
  generalize Tensor.add p.tensor c.addend.block c.addend.rows = left
  generalize Tensor.add q.tensor c.addend.block c.addend.rows = right
  intro sums
  cases sums with
  | ok related => exact ⟨rfl, related, by simp [before.calls], before.events⟩
  | error cause => exact ⟨rfl, before.tensor, by simp [before.calls], before.events⟩

variable [Zero α]

/-- Whether all that a form contributes has a property. -/
def Contributes (form : Form α) (fits : Addend α → Prop) : Prop :=
  ∀ mesh integral visit c, contribution form mesh integral visit = .ok c → fits c.addend

variable {form : Form α}

theorem AddsAlike.addVisit (alike : AddsAlike fits R) (all : Contributes form fits)
    (mesh : Mesh α) (visit : Visit) :
    p.Matches R q → InStep R (addVisit form mesh visit p) (addVisit form mesh visit q) := by
  intro before
  unfold Assembly.addVisit
  cases integralOn (form.integrals.integrals visit.kind) visit.marker with
  | none => exact ⟨rfl, before⟩
  | some integral =>
      dsimp only
      cases contributed : contribution form mesh integral visit with
      | error cause => exact ⟨rfl, before⟩
      | ok c =>
          rcases alike.addContribution c (all mesh integral visit c contributed) before with
            ⟨outcome, after⟩
          exact ⟨congrArg (Except.map fun _ => true) outcome, after⟩

theorem AddsAlike.addVisits (alike : AddsAlike fits R) (all : Contributes form fits)
    (mesh : Mesh α) (visits : List Visit) (count : Nat) :
    p.Matches R q →
      InStep R (addVisits form mesh visits count p) (addVisits form mesh visits count q) := by
  intro before
  induction visits generalizing count p q with
  | nil => exact ⟨rfl, before⟩
  | cons visit later ih =>
      rcases (alike.addVisit all mesh visit before).cases with
        ⟨cause, p', q', left, right, after⟩ | ⟨added, p', q', left, right, after⟩
      · simp only [Assembly.addVisits, left, right]
        exact ⟨rfl, after⟩
      · simp only [Assembly.addVisits, left, right]
        exact ih _ after

theorem AddsAlike.addKind (alike : AddsAlike fits R) (all : Contributes form fits)
    (kind : IntegralKind) :
    p.Matches R q → InStep R (addKind form kind p) (addKind form kind q) := by
  intro before
  unfold Assembly.addKind
  cases form.integrals.has kind with
  | false => exact ⟨rfl, before⟩
  | true =>
      cases form.mesh with
      | error cause => exact ⟨rfl, before⟩
      | ok mesh =>
          rcases (alike.addVisits all mesh (Pass.visits form mesh kind) 0 before).cases with
            ⟨cause, p', q', left, right, after⟩ | ⟨count, p', q', left, right, after⟩
          · simp only [if_true, left, right]
            exact ⟨rfl, after⟩
          · simp only [if_true, left, right]
            exact ⟨rfl, after.tensor, after.calls, by simp [after.events]⟩

theorem AddsAlike.addKinds (alike : AddsAlike fits R) (all : Contributes form fits) :
    p.Matches R q → InStep R (addKinds form p) (addKinds form q) := by
  intro before
  -- Cells come first, and facets go on with what the cells have left.
  rcases (alike.addKind all .cell before).cases with
    ⟨cause, p', q', left, right, after⟩ | ⟨_, p', q', left, right, after⟩
  · simp only [Assembly.addKinds, left, right]
    exact ⟨rfl, after⟩
  · simp only [Assembly.addKinds, left, right]
    exact alike.addKind all .exteriorFacet after

/-- Zeroing matters only for assemblies that are reset. -/
theorem AddsAlike.addContributions (alike : AddsAlike fits R) (all : Contributes form fits)
    (options : AssemblyOptions) {s : σ} {t : τ} (rank : Tensor.rank s = Tensor.rank t)
    (reset : options.reset = true → R (Tensor.zero s) (Tensor.zero t)) :
    R s t → InStep R (addContributions options form s) (addContributions options form t) := by
  intro related
  unfold Assembly.addContributions
  simp only [rank]
  cases obstacle? form (Tensor.rank t) with
  | some cause => exact ⟨rfl, related, rfl, rfl⟩
  | none =>
      refine alike.addKinds all ⟨?_, rfl, rfl⟩
      cases whether : options.reset with
      | false => simpa using related
      | true => simpa using reset whether

end Assembly
end FormAssembly
