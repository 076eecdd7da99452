import FormAssembly.Message.Script
import FormAssembly.Proofs.Assembly.TwoForms
import FormAssembly.Proofs.Coefficient.Labels
import FormAssembly.Tensor.Dense
import FormAssembly.Tensor.Scalar

/-!
# Coefficients that no integral reads

A coefficient is looked at in two ways. Before the assembly its slot is checked for a function, and
on an entity its values are read if the integral to evaluate there has it enabled. If no integral
has, one function in the slot is as good as any other (`Assembly.assemble_with_unread_replaced`).
-/

namespace FormAssembly

/-! ## Lists with one entry changed -/

/-- If neither the old nor the new entry is wanted, those that are stay the same, in the same
places. -/
theorem filter_zipIdx_modify {σ : Type} {change : σ → σ} {wanted : σ × Nat → Bool}
    {entries : List σ} {i start : Nat}
    (unwanted : ∀ entry, entries[i]? = some entry →
      wanted (entry, start + i) = false ∧ wanted (change entry, start + i) = false) :
    ((entries.modify i change).zipIdx start).filter wanted =
      (entries.zipIdx start).filter wanted := by
  induction entries generalizing i start with
  | nil => simp
  | cons first later ih =>
      cases i with
      | zero =>
          rcases unwanted first rfl with ⟨old, new⟩
          simp only [Nat.add_zero] at old new
          simp [List.modify_zero_cons, List.zipIdx_cons, old, new]
      | succ i =>
          have behind : ((later.modify i change).zipIdx (start + 1)).filter wanted =
              (later.zipIdx (start + 1)).filter wanted := by
            refine ih fun entry there => ?_
            rw [Nat.add_right_comm, Nat.add_assoc]
            exact unwanted entry there
          simp [List.modify_succ_cons, List.zipIdx_cons, List.filter_cons, behind]

/-! ## Slots -/

namespace CoefficientSet

variable {α : Type} {set changed : CoefficientSet α} {i : Nat} {f g : CoefficientFunction α}

/-- A slot that has a function gets another one. -/
theorem slots_of_replaced (bound : set.get i = .ok (some f))
    (replaced : set.set i g = .ok changed) :
    ∃ slot, set.slots[i]? = some slot ∧ slot.function = some f ∧
      changed.slots = set.slots.modify i fun slot => { slot with function := some g } := by
  have there : ∃ slot, set.slots[i]? = some slot ∧ slot.function = some f := by
    unfold get slot at bound
    cases found : set.slots[i]? with
    | none => simp [found, Except.map] at bound
    | some slot => exact ⟨slot, rfl, by simpa [found, Except.map] using bound⟩
  rcases there with ⟨slot, there, function⟩
  rcases set.set_cases i g with ⟨_, failed⟩ | ⟨_, made⟩
  · cases failed.symm.trans replaced
  · cases made.symm.trans replaced
    exact ⟨slot, there, function, rfl⟩

theorem firstUnbound?_of_replaced (bound : set.get i = .ok (some f))
    (replaced : set.set i g = .ok changed) : changed.firstUnbound? = set.firstUnbound? := by
  rcases slots_of_replaced bound replaced with ⟨slot, there, function, slots⟩
  have same : changed.slots.zipIdx.find? (fun entry => entry.1.function.isNone) =
      set.slots.zipIdx.find? fun entry => entry.1.function.isNone := by
    rw [slots, ← List.head?_filter, ← List.head?_filter, filter_zipIdx_modify]
    intro entry here
    cases there.symm.trans here
    simp [function]
  exact congrArg (Option.map fun entry => (entry.2, entry.1.name)) same

end CoefficientSet

namespace Assembly

variable {τ α β : Type} {form : Form α} {i : Nat} {f g : CoefficientFunction α}
  {changed : CoefficientSet α}

theorem enabledValues_of_replaced {integral : Integral α}
    (unread : integral.usesCoefficient i = false) (bound : form.coefficients.get i = .ok (some f))
    (replaced : form.coefficients.set i g = .ok changed) (cell : PointId)
    (coordinates : Array α) :
    enabledValues integral cell coordinates changed.slots.zipIdx =
      enabledValues integral cell coordinates form.coefficients.slots.zipIdx := by
  rcases CoefficientSet.slots_of_replaced bound replaced with ⟨_, _, _, slots⟩
  unfold enabledValues
  rw [slots, filter_zipIdx_modify]
  intro entry _
  simp [unread]

variable [Zero α]

theorem offer_of_replaced
    (unread : ∀ kind, ∀ integral ∈ form.integrals.integrals kind,
      integral.usesCoefficient i = false)
    (bound : form.coefficients.get i = .ok (some f))
    (replaced : form.coefficients.set i g = .ok changed) (mesh : Mesh α) (visit : Visit) :
    offer (form.withCoefficients changed) mesh visit = offer form mesh visit := by
  have integrals : (form.withCoefficients changed).integrals = form.integrals := rfl
  unfold offer
  rw [integrals]
  cases chosen : integralOn (form.integrals.integrals visit.kind) visit.marker with
  | none => rfl
  | some integral =>
      have values := enabledValues_of_replaced
        (unread visit.kind integral (mem_of_integralOn chosen)) bound replaced visit.cell
      simp only [contribution, contributionAt, Form.withCoefficients, values]
      rfl

variable [Tensor τ α β]

/-- A function that no integral reads may be replaced by any other: the assembly calls the same
kernels on the same values, deals with the peers in the same way, ends in the same way, reports the
same and leaves the same tensor. A coefficient is not read if it is disabled in a mask or comes
after the end of the mask. -/
theorem assemble_with_unread_replaced (options : AssemblyOptions) (tensor : τ)
    (unread : ∀ kind, ∀ integral ∈ form.integrals.integrals kind,
      ∃ mask, integral.mask = some mask ∧ (mask[i]? = some false ∨ mask.length ≤ i))
    (bound : form.coefficients.get i = .ok (some f))
    (replaced : form.coefficients.set i g = .ok changed) :
    (assemble options (form.withCoefficients changed) tensor : Exchange β _) =
      assemble options form tensor := by
  have disabled : ∀ kind, ∀ integral ∈ form.integrals.integrals kind,
      integral.usesCoefficient i = false := by
    intro kind integral among
    rcases unread kind integral among with ⟨mask, masked, off | short⟩
    · simp [Integral.usesCoefficient, masked, List.getD_eq_getElem?_getD, off]
    · simp [Integral.usesCoefficient, masked, List.getD_eq_getElem?_getD,
        List.getElem?_eq_none short]
  have each : ∀ (mesh : Mesh α) (visits : List Visit), List.Forall₂
      (fun v w => Follows (Eq : Progress τ α → Progress τ α → Prop)
        (addVisit (form.withCoefficients changed) mesh v) (addVisit form mesh w))
      visits visits := by
    intro mesh visits
    refine List.forall₂_same.mpr fun visit _ => ?_
    rintro p _ rfl
    rw [addVisit_eq, addVisit_eq, offer_of_replaced disabled bound replaced]
    exact ⟨rfl, rfl⟩
  have ofKind (kind : IntegralKind) : Follows (Eq : Progress τ α → Progress τ α → Prop)
      (addKind (form.withCoefficients changed) kind) (addKind form kind) :=
    Follows.addKind rfl rfl (fun mesh _ => each mesh _) fun _ _ _ same => same ▸ rfl
  have obstacles (rank : Nat) : obstacle? (form.withCoefficients changed) rank =
      obstacle? form rank :=
    obstacle?_congr (form.withCoefficients changed) form rfl rfl rfl
      (CoefficientSet.firstUnbound?_of_replaced bound replaced) rfl rank
  have together : Together Eq (addContributions options (form.withCoefficients changed) tensor)
      (addContributions options form tensor) :=
    Follows.addContributions options (obstacles _) (ofKind .cell) (ofKind .exteriorFacet)
      fun _ => rfl
  have ends : Ends id (addContributions options (form.withCoefficients changed) tensor)
      (addContributions options form tensor) := by
    rcases together.cases with ⟨cause, p, _, left, right, rfl⟩ | ⟨_, p, _, left, right, rfl⟩
    · rw [left, right]
      exact .error rfl
    · rw [left, right]
      exact .ok rfl rfl fun _ => rfl
  simpa [Exchange.bind_pure] using ends.assemble (β := β)

/-- One integral has the second coefficient disabled, and the mask of the other ends before it. A
function that has no values anywhere does as well there, but not in the place of the first. -/
theorem assemble_with_unread_replaced_failing :
    let mesh : Mesh Binary64 := ⟨0, 1, 1, fun _ => 2, fun _ => .ok [0, 1], fun _ => .ok #[],
      [⟨.ofIndex 0, .ofIndex 0, 1⟩], ""⟩
    let space : ArgumentSpace Binary64 := ⟨1, 2, mesh, fun cell => .ok [cell.index], ""⟩
    let firstValue : Kernel Binary64 :=
      ⟨fun block values _ _ => block.map fun _ => values.getD 0 0⟩
    let slots : CoefficientSet Binary64 := ⟨[⟨"u", some (.constant #[⟨5⟩]), 0⟩,
      ⟨"v", some (.constant #[⟨6⟩, ⟨7⟩]), 1⟩], by decide⟩
    let form : Form Binary64 := ⟨FormDeclaration.toDescriptor ⟨1, [], []⟩, [space], none,
      .const none, slots, .put (.put .empty .cell ⟨none, firstValue, some [true]⟩) .exteriorFacet
        ⟨none, firstValue, some [true, false]⟩, none⟩
    let failing : CoefficientFunction Binary64 :=
      ⟨fun _ _ => .error (.configuration (.reported "no values")), ""⟩
    let t : DenseTensor Binary64 := .zero .serial [2]
    let outcome (form : Form Binary64) :=
      ((assemble {} form t : Exchange UInt8 _).perform .silent).1.outcome
    ∃ first second, form.coefficients.set 0 failing = .ok first ∧
      form.coefficients.set 1 failing = .ok second ∧
      (assemble {} (form.withCoefficients second) t : Exchange UInt8 _) = assemble {} form t ∧
      (outcome (form.withCoefficients second)).isOk = true ∧
      (outcome (form.withCoefficients first)).isOk = false := by
  intro mesh space firstValue slots form failing t outcome
  refine ⟨_, _, rfl, rfl, ?_, by decide +kernel, by decide +kernel⟩
  refine assemble_with_unread_replaced (i := 1) {} t ?_ rfl rfl
  rintro (_ | _ | _ | _) integral among
  · cases List.mem_singleton.mp among
    exact ⟨_, rfl, .inr (by decide)⟩
  · cases List.mem_singleton.mp among
    exact ⟨_, rfl, .inl rfl⟩
  · cases among
  · cases among

end Assembly
end FormAssembly
