import Mathlib.Data.List.Perm.Basic
import FormAssembly.Proofs.Assembly.TwoForms
import FormAssembly.Proofs.Tensor.Distribution

/-!
# Assembly in any order

What comes of an assembly is a tensor, if nothing fails. If blocks can be added in any order
(`Assembly.AnyOrder`), it is the same for entities in any order (`Assembly.product_addVisits`), so
two forms whose entities have the same to offer in different orders assemble to the same tensor
(`Assembly.OffersAlike.assemble`). With exact sums this is so for dense tensors and for scalars.
-/

namespace FormAssembly

variable {τ α β γ : Type}

/-- What comes of an assembly: the tensor, unless something failed. -/
def AssemblyReport.product (report : AssemblyReport τ α) : Option τ :=
  report.outcome.toOption.map fun _ => report.tensor

namespace Assembly

/-- What comes of a part of an assembly. -/
def product (part : Except Error γ × Progress τ α) : Option τ :=
  part.1.toOption.map fun _ => part.2.tensor

/-! ## Additions -/

section

variable [Tensor τ α β]

/-- What becomes of a tensor when an entity offers something: nothing if the entity failed. -/
def absorb (t : Option τ) (offered : Option (Option (Contribution α))) : Option τ :=
  t.bind fun t =>
    match offered with
    | none => none
    | some none => some t
    | some (some c) => (Tensor.add t c.addend.block c.addend.rows).toOption

/-- Of two blocks either may be added first. -/
def AnyOrder (τ : Type) {α β : Type} [Tensor τ α β] : Prop :=
  ∀ (t : τ) (a b : Addend α),
    ((Tensor.add t a.block a.rows).toOption.bind fun u =>
        (Tensor.add u b.block b.rows).toOption) =
      (Tensor.add t b.block b.rows).toOption.bind fun u => (Tensor.add u a.block a.rows).toOption

theorem AnyOrder.rightCommutative (anyOrder : AnyOrder τ) :
    RightCommutative (absorb : Option τ → Option (Option (Contribution α)) → Option τ) := by
  refine ⟨fun t first second => ?_⟩
  cases t with
  | none => rfl
  | some t =>
      -- Unless both entities have a block, at most one of them does anything.
      rcases first with _ | _ | c <;> rcases second with _ | _ | d
      case some.some.some.some => exact anyOrder t c.addend d.addend
      all_goals simp [absorb]

theorem foldl_absorb_none (offers : List (Option (Option (Contribution α)))) :
    offers.foldl absorb (none : Option τ) = none := by
  induction offers with
  | nil => rfl
  | cons _ _ ih => exact ih

end

/-! ## Entities in order -/

variable [Zero α] [Tensor τ α β] {form other : Form α}

/-- What the entities of a kind offer, in order, apart from the reasons of failures. -/
def offers (form : Form α) (mesh : Mesh α) (visits : List Visit) :
    List (Option (Option (Contribution α))) :=
  visits.map fun visit => (offer form mesh visit).toOption

theorem product_addVisit (form : Form α) (mesh : Mesh α) (visit : Visit) (p : Progress τ α) :
    product (addVisit form mesh visit p) =
      absorb (some p.tensor) (offer form mesh visit).toOption := by
  rw [addVisit_eq]
  rcases offer form mesh visit with _ | _ | c
  · rfl
  · rfl
  · simp only [addOffer, addContribution, absorb, Except.toOption, Option.bind_some]
    cases Tensor.add p.tensor c.addend.block c.addend.rows <;> rfl

theorem product_addVisits (form : Form α) (mesh : Mesh α) (visits : List Visit) (count : Nat)
    (p : Progress τ α) :
    product (addVisits form mesh visits count p) =
      (offers form mesh visits).foldl absorb (some p.tensor) := by
  induction visits generalizing count p with
  | nil => rfl
  | cons visit later ih =>
      have first := product_addVisit form mesh visit p
      simp only [offers, List.map_cons, List.foldl_cons, ← first, addVisits]
      rcases addVisit form mesh visit p with ⟨cause | added, q⟩
      · exact (foldl_absorb_none _).symm
      · exact ih _ q

/-- Two forms meet the same obstacles, and on their meshes their entities have the same to offer, in
one order or another. -/
structure OffersAlike (form other : Form α) (mesh twin : Mesh α) : Prop where
  mesh_eq : form.mesh = .ok mesh
  twin_eq : other.mesh = .ok twin
  obstacle? : ∀ rank, Assembly.obstacle? form rank = Assembly.obstacle? other rank
  has : ∀ kind, form.integrals.has kind = other.integrals.has kind
  perm : ∀ kind, (offers form mesh (Pass.visits form mesh kind)).Perm
    (offers other twin (Pass.visits other twin kind))

namespace OffersAlike

variable {mesh twin : Mesh α} {p q : Progress τ α}

theorem product_addKind (alike : OffersAlike form other mesh twin) (anyOrder : AnyOrder τ)
    (kind : IntegralKind) (tensors : p.tensor = q.tensor) :
    product (addKind form kind p) = product (addKind other kind q) := by
  have rightCommutative := anyOrder.rightCommutative
  have visited : product (addVisits form mesh (Pass.visits form mesh kind) 0 p) =
      product (addVisits other twin (Pass.visits other twin kind) 0 q) := by
    rw [product_addVisits, product_addVisits, tensors]
    exact (alike.perm kind).foldl_eq _
  unfold addKind
  rw [← alike.has kind, alike.mesh_eq, alike.twin_eq]
  cases form.integrals.has kind with
  | false => exact congrArg some tensors
  | true =>
      -- What is reported at the end is not part of the product.
      revert visited
      dsimp only
      rcases addVisits form mesh (Pass.visits form mesh kind) 0 p with ⟨_ | _, _⟩ <;>
        rcases addVisits other twin (Pass.visits other twin kind) 0 q with ⟨_ | _, _⟩ <;>
        exact id

theorem product_addKinds (alike : OffersAlike form other mesh twin) (anyOrder : AnyOrder τ)
    (tensors : p.tensor = q.tensor) :
    product (addKinds form p) = product (addKinds other q) := by
  have cells := alike.product_addKind anyOrder .cell tensors
  unfold addKinds
  revert cells
  rcases addKind form .cell p with ⟨_ | _, p'⟩ <;> rcases addKind other .cell q with ⟨_ | _, q'⟩
  · exact fun _ => rfl
  · exact fun cells => nomatch cells
  · exact fun cells => nomatch cells
  · exact fun cells => alike.product_addKind anyOrder .exteriorFacet (Option.some.inj cells)

theorem product_addContributions (alike : OffersAlike form other mesh twin)
    (anyOrder : AnyOrder τ) (options : AssemblyOptions) (tensor : τ) :
    product (addContributions options form tensor) =
      product (addContributions options other tensor) := by
  unfold addContributions
  rw [alike.obstacle?]
  cases Assembly.obstacle? other (Tensor.rank tensor) with
  | some cause => rfl
  | none => exact alike.product_addKinds anyOrder rfl

/-- Both forms assemble to the same tensor, or neither to any. -/
theorem assemble (alike : OffersAlike form other mesh twin) (anyOrder : AnyOrder τ)
    (options : AssemblyOptions) (tensor : τ) :
    (Assembly.assemble options form tensor >>= fun report => .done report.product :
        Exchange β _) =
      Assembly.assemble options other tensor >>= fun report => .done report.product := by
  have same := alike.product_addContributions anyOrder options tensor
  refine Ends.assemble ?_
  revert same
  rcases addContributions options form tensor with ⟨_ | _, p⟩ <;>
    rcases addContributions options other tensor with ⟨_ | _, q⟩
  · exact fun _ => .error rfl
  · exact fun same => nomatch same
  · exact fun same => nomatch same
  · intro same
    refine .ok (Option.some.inj same) same fun applied => ?_
    rcases applied with ⟨_ | _, events⟩ <;> rfl

end OffersAlike

end Assembly

/-! ## Exact sums -/

variable [ExactSum α]

namespace DenseTensor

theorem toOption_add (t : DenseTensor α) (addend : Addend α) :
    (t.add addend.block addend.rows).toOption =
      if addend.Valid t.dims then some (t.modifyBlock accumulate addend.block addend.rows)
      else none := by
  by_cases valid : addend.Valid t.dims
  · rw [add_eq_ok_iff.mpr ⟨valid.1, valid.2, rfl⟩, if_pos valid]
    rfl
  · rw [if_neg valid]
    cases added : t.add addend.block addend.rows with
    | error cause => rfl
    | ok u =>
        rcases add_eq_ok_iff.mp added with ⟨fits, length, _⟩
        exact absurd ⟨fits, length⟩ valid

/-- Each place gets what both blocks have for it, in one order or the other. -/
theorem modifyBlock_comm (t : DenseTensor α) (a b : Addend α) :
    (t.modifyBlock accumulate a.block a.rows).modifyBlock accumulate b.block b.rows =
      (t.modifyBlock accumulate b.block b.rows).modifyBlock accumulate a.block a.rows := by
  have twice (c d : Addend α) : ∀ place < t.values.size,
      ((t.modifyBlock accumulate c.block c.rows).modifyBlock accumulate d.block
        d.rows).values.getD place 0 =
        t.values.getD place 0 + c.sumAt t.dims place + d.sumAt t.dims place := by
    intro place early
    have still : place < (t.modifyBlock accumulate c.block c.rows).values.size := by
      rw [DenseTensor.size_values]
      exact t.size_values ▸ early
    rw [getD_modifyBlock d still, getD_modifyBlock c early]
    rfl
  refine eq_of_getD 0 rfl rfl fun place inside => ?_
  have early : place < t.values.size := by
    rw [DenseTensor.size_values] at inside ⊢
    exact inside
  rw [twice a b place early, twice b a place early, add_right_comm]

theorem anyOrder [Code α β] : Assembly.AnyOrder (DenseTensor α) := by
  intro t a b
  show ((t.add a.block a.rows).toOption.bind fun u => (u.add b.block b.rows).toOption) =
    (t.add b.block b.rows).toOption.bind fun u => (u.add a.block a.rows).toOption
  have dims (c : Addend α) : (t.modifyBlock accumulate c.block c.rows).dims = t.dims := rfl
  simp only [toOption_add]
  by_cases here : a.Valid t.dims <;> by_cases there : b.Valid t.dims <;>
    simp [here, there, dims, modifyBlock_comm t a b]

end DenseTensor

theorem ScalarTensor.anyOrder [Code α β] [ScalarTensor.Display α] :
    Assembly.AnyOrder (ScalarTensor α) := by
  intro t a b
  show ((t.add a.block a.rows).toOption.bind fun u => (u.add b.block b.rows).toOption) =
    (t.add b.block b.rows).toOption.bind fun u => (u.add a.block a.rows).toOption
  unfold ScalarTensor.add
  cases first a.block <;> cases first b.block <;>
    simp [Except.map, Except.toOption, assign, accumulate, add_left_comm]

end FormAssembly
