import Mathlib.Data.Option.Basic
import FormAssembly.Message.Script
import FormAssembly.Proofs.Assembly.AnyOrder
import FormAssembly.Proofs.Mesh.Renumbering

/-!
# Assembly over renumbered cells

A form keeps things cell by cell in several places: the vertices of cells, tables of degrees of
freedom, values of coefficients and markers. If all of them are put in a new order
(`Form.Renumbered`), each cell has the same to contribute under its new number, and so has each
facet on the boundary, although in another order (`Form.Renumbered.offersAlike`). With exact sums
nothing comes of the order, so the same is assembled.
-/

namespace FormAssembly

variable {α β : Type} {n : Nat} {σ : Renumbering n}

/-! ## What is kept cell by cell -/

/-- A space given by a table, and one given by the same table in the new order. -/
inductive ArgumentSpace.Renumbered (σ : Renumbering n) :
    ArgumentSpace α → ArgumentSpace α → Prop
  | table {before after : DofTable α} : after.dofsPerCell = before.dofsPerCell →
      σ.Regroups before.dofsPerCell before.table after.table →
      Renumbered σ before.toSpace after.toSpace

theorem ArgumentSpace.Renumbered.maxElementDofs_eq {space other : ArgumentSpace α}
    (renumbered : ArgumentSpace.Renumbered σ space other) :
    other.maxElementDofs = space.maxElementDofs := by
  cases renumbered with
  | table width _ => exact width

/-- A constant stays as it is, and values cell by cell are put in the new order. -/
inductive CoefficientFunction.Renumbered [Inspect α] (σ : Renumbering n) :
    CoefficientFunction α → CoefficientFunction α → Prop
  | constant (values : Array α) : Renumbered σ (.constant values) (.constant values)
  | cellwise {before after : CellwiseValues α} : after.width = before.width →
      σ.Regroups before.width before.values after.values →
      Renumbered σ before.toFunction after.toFunction

/-- A slot of the same name, unbound as before or bound to a function in the new order. -/
structure CoefficientSlot.Renumbered [Inspect α] (σ : Renumbering n)
    (before after : CoefficientSlot α) : Prop where
  name : after.name = before.name
  function : Option.Rel (CoefficientFunction.Renumbered σ) before.function after.function

theorem CoefficientSlot.Renumbered.isNone_eq [Inspect α] {before after : CoefficientSlot α}
    (renumbered : CoefficientSlot.Renumbered σ before after) :
    after.function.isNone = before.function.isNone := by
  rcases before with ⟨_, function, _⟩
  rcases after with ⟨_, renumberedFunction, _⟩
  cases renumbered.function with
  | none => rfl
  | some _ => rfl

/-- The first slot to be unbound is at the same place and has the same name. -/
theorem CoefficientSlot.Renumbered.find?_eq [Inspect α] {slots others : List (CoefficientSlot α)}
    (renumbered : List.Forall₂ (CoefficientSlot.Renumbered σ) slots others) (start : Nat) :
    ((others.zipIdx start).find? fun entry => entry.1.function.isNone).map
        (fun entry => (entry.2, entry.1.name)) =
      ((slots.zipIdx start).find? fun entry => entry.1.function.isNone).map
        fun entry => (entry.2, entry.1.name) := by
  -- By induction on the slots. The first is at place `start`.
  induction renumbered generalizing start with
  | nil => rfl
  | @cons slot other slots others first _ ih =>
      rw [List.zipIdx_cons, List.zipIdx_cons, List.find?_cons, List.find?_cons, first.isNone_eq]
      cases slot.function.isNone with
      | false => exact ih (start + 1)
      | true => exact congrArg (fun name => some (start, name)) first.name

/-- Each cell has the marker that it had under its old number. -/
structure Markers.Renumbered (σ : Renumbering n) (before after : Markers) : Prop where
  dim : after.dim = before.dim
  get? : ∀ i < n, after.get? (.ofIndex i) = before.get? (.ofIndex (σ.old i))

/-- A form over a simplex mesh whose spaces are given by tables and whose coefficients are constants
or given cell by cell, and the same form with the cells in the new order. Facets are not marked. The
connectivity is meant to be short enough for its entries to be counted by a word. -/
structure Form.Renumbered [Inspect α] (σ : Renumbering n) (mesh other : SimplexMesh α)
    (form renumbered : Form α) : Prop where
  cells : SimplexMesh.Renumbered σ mesh other
  addressable : mesh.connectivity.size < UInt64.size
  mesh_eq : ∃ label, form.mesh = .ok (mesh.toMesh label)
  other_eq : ∃ label, renumbered.mesh = .ok (other.toMesh label)
  spaces : List.Forall₂ (ArgumentSpace.Renumbered σ) form.spaces renumbered.spaces
  coefficients : List.Forall₂ (CoefficientSlot.Renumbered σ) form.coefficients.slots
    renumbered.coefficients.slots
  integrals : renumbered.integrals = form.integrals
  cellMarkers : Option.Rel (Markers.Renumbered σ) (form.markers .cell) (renumbered.markers .cell)
  otherMarkers : ∀ kind ≠ .cell, renumbered.markers kind = form.markers kind
  facetMarkers : form.markers .exteriorFacet = none

/-! ## Single cells -/

section

variable {i : Nat} (inside : i < n) (here : (PointId.ofIndex i).index = i)
  (there : (PointId.ofIndex (σ.old i)).index = σ.old i)
include inside here there

theorem ArgumentSpace.Renumbered.toOption_cellDofs {space other : ArgumentSpace α}
    (renumbered : ArgumentSpace.Renumbered σ space other) :
    (other.cellDofs (.ofIndex i)).toOption = (space.cellDofs (.ofIndex (σ.old i))).toOption := by
  cases renumbered with
  | @table before after width table =>
      show (after.cellDofs _).toOption = (before.cellDofs _).toOption
      rw [DofTable.cellDofs, DofTable.cellDofs, here, there, width, table.size_after,
        table.size_before, table.group i inside]
      -- A table without degrees of freedom knows no cells, in either order.
      by_cases flat : before.dofsPerCell = 0
      · simp [flat, Error.checkIndex, bind, Except.bind, Except.toOption]
      · have positive : 0 < before.dofsPerCell := Nat.pos_of_ne_zero flat
        simp [Nat.max_eq_left positive, Nat.mul_div_cancel _ positive, Error.checkIndex, inside,
          σ.old_lt inside]

theorem CoefficientFunction.Renumbered.restrict_eq [Inspect α] {f g : CoefficientFunction α}
    (renumbered : CoefficientFunction.Renumbered σ f g) (coordinates : Array α) :
    g.restrict (.ofIndex i) coordinates = f.restrict (.ofIndex (σ.old i)) coordinates := by
  cases renumbered with
  | constant values => rfl
  | @cellwise before after width values =>
      have count : n * before.width / before.width = n := Nat.mul_div_cancel _ before.width_pos
      show after.restrict _ = before.restrict _
      rw [CellwiseValues.restrict, CellwiseValues.restrict, CellwiseValues.numCells,
        CellwiseValues.numCells, here, there, width, values.size_after, values.size_before,
        values.group i inside, count]
      simp [Error.checkIndex, inside, σ.old_lt inside]

end

/-! ## Values on a cell -/

namespace Assembly

theorem toOption_bind {κ ω : Type} (x : Except Error κ) (f : κ → Except Error ω) :
    (x >>= f).toOption = x.toOption.bind fun value => (f value).toOption := by
  cases x <;> rfl

theorem toOption_map {κ ω : Type} (x : Except Error κ) (f : κ → ω) :
    (x.map f).toOption = x.toOption.map f := by
  cases x <;> rfl

/-- If single items have the same values or none, so have all together. -/
theorem toOption_mapM {ι ι' κ : Type} {f : ι → Except Error κ} {g : ι' → Except Error κ}
    {items : List ι} {others : List ι'}
    (same : List.Forall₂ (fun item other => (g other).toOption = (f item).toOption) items others) :
    (others.mapM g).toOption = (items.mapM f).toOption := by
  induction same with
  | nil => rfl
  | cons first _ ih => simp only [List.mapM_cons, toOption_bind, first, ih]

section

variable [Inspect α] {i : Nat} (inside : i < n) (here : (PointId.ofIndex i).index = i)
  (there : (PointId.ofIndex (σ.old i)).index = σ.old i)
include inside here there

theorem slotValues_eq {slot other : CoefficientSlot α}
    (renumbered : CoefficientSlot.Renumbered σ slot other) (coordinates : Array α) (place : Nat) :
    slotValues (.ofIndex i) coordinates (other, place) =
      slotValues (.ofIndex (σ.old i)) coordinates (slot, place) := by
  rcases slot with ⟨name, function, _⟩
  rcases other with ⟨sameName, renumberedFunction, _⟩
  cases renumbered.function with
  | none =>
      have name : sameName = name := renumbered.name
      exact name ▸ rfl
  | some functions => exact functions.restrict_eq inside here there coordinates

theorem enabledValues_eq {slots others : List (CoefficientSlot α)}
    (renumbered : List.Forall₂ (CoefficientSlot.Renumbered σ) slots others)
    (integral : Integral α) (coordinates : Array α) (start : Nat) :
    enabledValues integral (.ofIndex i) coordinates (others.zipIdx start) =
      enabledValues integral (.ofIndex (σ.old i)) coordinates (slots.zipIdx start) := by
  induction renumbered generalizing start with
  | nil => rfl
  | cons first _ ih =>
      simp only [List.zipIdx_cons, Pass.enabledValues_cons,
        slotValues_eq inside here there first, ih]

end

end Assembly

/-! ## Offers on a simplex mesh -/

namespace Assembly

variable [Zero α] [Inspect α] {mesh : SimplexMesh α} {form : Form α}

theorem offers_cells (label : Nat) :
    offers form (mesh.toMesh label) (Pass.visits form (mesh.toMesh label) .cell) =
      (List.range mesh.numCells).map fun i =>
        (offer form (mesh.toMesh label) (Pass.cellVisit form (.ofIndex i))).toOption := by
  simp only [offers, Pass.visits, Mesh.cells, SimplexMesh.numCells_toMesh, List.map_map]
  rfl

/-- Without markers the numbers of facets do not matter. -/
theorem offers_boundary (unmarked : form.markers .exteriorFacet = none) (label : Nat) :
    offers form (mesh.toMesh label) (Pass.visits form (mesh.toMesh label) .exteriorFacet) =
      (FacetCensus.boundary mesh.cellWidth mesh.connectivity).map fun place =>
        (offer form (mesh.toMesh label)
          ⟨.exteriorFacet, .ofIndex place.1, some place.2, none⟩).toOption := by
  have exterior : (mesh.toMesh label).exteriorFacets = mesh.census.exterior := rfl
  rw [offers, Pass.visits, exterior, mesh.census_eq_ofCells, FacetCensus.exterior_ofCells,
    List.map_map, List.map_map]
  refine List.map_congr_left fun place _ => ?_
  simp only [Function.comp, Pass.facetVisit, Form.marker, unmarked, Option.bind_none]

end Assembly

/-! ## Obstacles -/

theorem bind_eq_of_rel {ι ι' κ : Type} {r : ι → ι' → Prop} {o : Option ι} {o' : Option ι'}
    {f : ι → Option κ} {g : ι' → Option κ} (related : Option.Rel r o o')
    (same : ∀ a b, r a b → g b = f a) : o'.bind g = o.bind f := by
  cases related with
  | some related => exact same _ _ related
  | none => rfl

namespace Form.Renumbered

open Assembly

variable [Inspect α] {mesh other : SimplexMesh α} {form renumbered : Form α}
  (same : Form.Renumbered σ mesh other form renumbered)
include same

/-- The same markers are on entities of the wrong dimension. -/
theorem misplacedMarkers?_eq : misplacedMarkers? renumbered = misplacedMarkers? form := by
  rcases same.mesh_eq with ⟨label, known⟩
  rcases same.other_eq with ⟨otherLabel, otherKnown⟩
  have installed : installedMarkers renumbered = installedMarkers form := by
    refine List.filterMap_congr fun kind _ => ?_
    by_cases onCells : kind = .cell
    · subst onCells
      rw [Option.map_eq_bind, Option.map_eq_bind]
      exact bind_eq_of_rel same.cellMarkers fun _ _ marked =>
        congrArg (fun dim => some (IntegralKind.cell, dim)) marked.dim
    · rw [same.otherMarkers kind onCells]
  have dims : (other.toMesh otherLabel).topologicalDim = (mesh.toMesh label).topologicalDim :=
    same.cells.topologicalDim
  simp only [misplacedMarkers?, installed, known, otherKnown, dims]

theorem obstacle?_eq (rank : Nat) : obstacle? renumbered rank = obstacle? form rank := by
  have has (kind : IntegralKind) : renumbered.integrals.has kind = form.integrals.has kind :=
    congrArg (·.has kind) same.integrals
  exact obstacle?_congr renumbered form same.spaces.length_eq.symm (has _) (has _)
    (CoefficientSlot.Renumbered.find?_eq same.coefficients 0) same.misplacedMarkers?_eq rank

/-! ## Contributions -/

theorem maxElementTensorSize_eq : renumbered.maxElementTensorSize = form.maxElementTensorSize := by
  have widths : renumbered.maxElementDofs = form.maxElementDofs :=
    List.forall₂_eq_eq_eq ▸ List.forall₂_map_left_iff.mpr
      (List.forall₂_map_right_iff.mpr
        (same.spaces.flip.imp fun _ _ space => space.maxElementDofs_eq))
  rw [Form.maxElementTensorSize, Form.maxElementTensorSize, widths]

variable [Zero α]

section

variable {i : Nat} (inside : i < n)
include inside

/-- A cell has the same to contribute under both of its numbers, and so has a facet of it. -/
theorem toOption_contribution (label otherLabel : Nat) (integral : Integral α)
    (kind : IntegralKind) (localFacet marker : Option Nat) :
    (contribution renumbered (other.toMesh otherLabel) integral
      ⟨kind, .ofIndex i, localFacet, marker⟩).toOption =
      (contribution form (mesh.toMesh label) integral
        ⟨kind, .ofIndex (σ.old i), localFacet, marker⟩).toOption := by
  have here := same.cells.index_ofIndex same.addressable inside
  have there := same.cells.index_ofIndex same.addressable (σ.old_lt inside)
  have rows :
      (renumbered.spaces.mapM fun space : ArgumentSpace α => space.cellDofs (.ofIndex i)).toOption =
        (form.spaces.mapM fun space : ArgumentSpace α =>
          space.cellDofs (.ofIndex (σ.old i))).toOption :=
    toOption_mapM (same.spaces.imp fun _ _ space => space.toOption_cellDofs inside here there)
  have coordinates : (other.toMesh otherLabel).cellCoordinates (.ofIndex i) =
      (mesh.toMesh label).cellCoordinates (.ofIndex (σ.old i)) :=
    same.cells.cellCoordinates_eq same.addressable inside
  have values := enabledValues_eq inside here there same.coefficients integral
  -- These are all the places where the number of the cell is used. Rows are the only ones that can
  -- fail with it in the reason.
  simp only [contribution, contributionAt, toOption_bind, rows, coordinates, values,
    same.maxElementTensorSize_eq]
  rfl

theorem toOption_offer (label otherLabel : Nat) (kind : IntegralKind)
    (localFacet marker : Option Nat) :
    (offer renumbered (other.toMesh otherLabel) ⟨kind, .ofIndex i, localFacet, marker⟩).toOption =
      (offer form (mesh.toMesh label) ⟨kind, .ofIndex (σ.old i), localFacet, marker⟩).toOption := by
  unfold offer
  rw [same.integrals]
  cases integralOn (form.integrals.integrals kind) marker with
  | none => rfl
  | some integral =>
      exact (toOption_map _ _).trans (congrArg (Option.map some)
        (same.toOption_contribution inside label otherLabel integral kind localFacet marker)
          |>.trans (toOption_map _ _).symm)

end

theorem offers_cell (label otherLabel : Nat) :
    (offers renumbered (other.toMesh otherLabel)
      (Pass.visits renumbered (other.toMesh otherLabel) .cell)).Perm
      (offers form (mesh.toMesh label) (Pass.visits form (mesh.toMesh label) .cell)) := by
  have moved : ∀ i ∈ List.range n,
      (offer renumbered (other.toMesh otherLabel)
        (Pass.cellVisit renumbered (.ofIndex i))).toOption =
        (offer form (mesh.toMesh label) (Pass.cellVisit form (.ofIndex (σ.old i)))).toOption := by
    intro i among
    have inside := List.mem_range.mp among
    have marker : renumbered.marker .cell (.ofIndex i) = form.marker .cell (.ofIndex (σ.old i)) :=
      bind_eq_of_rel same.cellMarkers fun _ _ marked => marked.get? i inside
    unfold Pass.cellVisit
    rw [marker]
    exact same.toOption_offer inside label otherLabel .cell none _
  rw [offers_cells, offers_cells, same.cells.numCells_before, same.cells.numCells_after,
    List.map_congr_left moved]
  have permuted := σ.perm_range.map fun i =>
    (offer form (mesh.toMesh label) (Pass.cellVisit form (.ofIndex i))).toOption
  rwa [List.map_map] at permuted

/-- The boundary has the same facets in another order and under other numbers. -/
theorem offers_exteriorFacet (label otherLabel : Nat) :
    (offers renumbered (other.toMesh otherLabel)
      (Pass.visits renumbered (other.toMesh otherLabel) .exteriorFacet)).Perm
      (offers form (mesh.toMesh label)
        (Pass.visits form (mesh.toMesh label) .exteriorFacet)) := by
  have unmarked : renumbered.markers .exteriorFacet = none :=
    (same.otherMarkers .exteriorFacet (by decide)).trans same.facetMarkers
  have moved : ∀ place ∈ FacetCensus.boundary other.cellWidth other.connectivity,
      (offer renumbered (other.toMesh otherLabel)
        ⟨.exteriorFacet, .ofIndex place.1, some place.2, none⟩).toOption =
        (offer form (mesh.toMesh label)
          ⟨.exteriorFacet, .ofIndex (σ.old place.1), some place.2, none⟩).toOption := by
    intro place among
    have listed := (FacetCensus.mem_boundary.mp among).1
    exact same.toOption_offer (same.cells.mem_places_after.mp listed).1 label otherLabel
      .exteriorFacet _ none
  rw [offers_boundary unmarked, offers_boundary same.facetMarkers,
    List.map_congr_left moved]
  -- The order of the boundary follows the new numbers of facets, which matter no further.
  have permuted := same.cells.boundary_perm.map fun place =>
    (offer form (mesh.toMesh label)
      ⟨.exteriorFacet, .ofIndex place.1, some place.2, none⟩).toOption
  rwa [List.map_map] at permuted

/-- The same obstacles are met, and cells and facets have the same to offer, in another order. -/
theorem offersAlike : ∃ twin known, OffersAlike renumbered form twin known := by
  rcases same.mesh_eq with ⟨label, known⟩
  rcases same.other_eq with ⟨otherLabel, otherKnown⟩
  refine ⟨_, _, otherKnown, known, same.obstacle?_eq, fun kind => ?_, fun kind => ?_⟩
  · exact congrArg (·.has kind) same.integrals
  · cases kind with
    | cell => exact same.offers_cell label otherLabel
    | exteriorFacet => exact same.offers_exteriorFacet label otherLabel
    | interiorFacet => exact .refl _
    | vertex => exact .refl _

end Form.Renumbered

/-! ## The whole -/

namespace Assembly

/-- The number of a cell does not matter. If everything that is kept cell by cell is put in another
order, the assembly into any dense tensor or scalar succeeds iff it does in the first order, and
then leaves the same tensor. -/
theorem assemble_renumbered [Inspect α] [ExactSum α] [Code α β] [ScalarTensor.Display α]
    {mesh other : SimplexMesh α} {form renumbered : Form α}
    (same : Form.Renumbered σ mesh other form renumbered) (options : AssemblyOptions) :
    (∀ t : DenseTensor α,
      (assemble options renumbered t >>= fun report => .done report.product : Exchange β _) =
        assemble options form t >>= fun report => .done report.product) ∧
      ∀ t : ScalarTensor α,
        (assemble options renumbered t >>= fun report => .done report.product : Exchange β _) =
          assemble options form t >>= fun report => .done report.product := by
  rcases same.offersAlike with ⟨_, _, alike⟩
  exact ⟨alike.assemble DenseTensor.anyOrder options, alike.assemble ScalarTensor.anyOrder options⟩

/-- Two segments change places, with their degrees of freedom, their values and the marker of the
first. -/
theorem assemble_renumbered_two_segments :
    let _ : ExactSum Nat := .ofMonoid Nat
    let _ : Code Nat Nat := .plain Nat
    let _ : ScalarTensor.Display Nat := ⟨fun value => toString value⟩
    let mesh : SimplexMesh Nat := ⟨1, 1, #[0, 1, 3], #[0, 1, 1, 2], .ofCells 2 #[0, 1, 1, 2],
      by decide, by decide, rfl, rfl, by decide, rfl⟩
    let other : SimplexMesh Nat := ⟨1, 1, #[0, 1, 3], #[1, 2, 0, 1], .ofCells 2 #[1, 2, 0, 1],
      by decide, by decide, rfl, rfl, by decide, rfl⟩
    let table : DofTable Nat := ⟨mesh.toMesh 0, 2, #[0, 1, 1, 2], 3, by decide⟩
    let moved : DofTable Nat := ⟨other.toMesh 0, 2, #[1, 2, 0, 1], 3, by decide⟩
    let kernel (weight : Nat) : Kernel Nat := ⟨fun block values geometry marker =>
      block.map fun value => value + weight * geometry.coordinates.toList.sum +
        values.toList.sum + marker.getD 0⟩
    let form (table : DofTable Nat) (values : CellwiseValues Nat) (marked : PointId) : Form Nat :=
      ⟨FormDeclaration.toDescriptor ⟨1, [], []⟩, [table.toSpace], none,
        (PerKind.const none).set .cell (some ((Markers.empty 1).mark marked 500)),
        ⟨[⟨"c", some (.constant #[7]), 0⟩, ⟨"v", some values.toFunction, 1⟩], by simp⟩,
        .put (.put .empty .cell ⟨none, kernel 1, none⟩) .exteriorFacet ⟨none, kernel 1000, none⟩,
        none⟩
    let before := form table ⟨1, #[10, 20], by decide, by decide⟩ (.ofIndex 0)
    let after := form moved ⟨1, #[20, 10], by decide, by decide⟩ (.ofIndex 1)
    let t : DenseTensor Nat := .zero .serial [3]
    let result (form : Form Nat) : Exchange Nat (Option (DenseTensor Nat)) :=
      assemble {} form t >>= fun report => .done report.product
    result after = result before ∧
      ((result before).perform .silent).1.map (·.values) = some #[1535, 5593, 4058] := by
  intro _ _ _ mesh other table moved kernel form before after t result
  let swap : Renumbering 2 :=
    { old := fun i => 1 - i
      bijOn := by
        refine ⟨fun i _ => ?_, fun i here j there same => ?_, fun j inside => ⟨1 - j, ?_, ?_⟩⟩
        all_goals simp only [Set.mem_Iio] at *
        all_goals omega }
  have each {p : Nat → Prop} (first : p 0) (second : p 1) : ∀ i < 2, p i := by
    rintro (_ | _ | i) inside
    · exact first
    · exact second
    · omega
  have same : Form.Renumbered swap mesh other before after :=
    { cells := ⟨rfl, rfl, rfl, rfl, rfl, each rfl rfl⟩
      addressable := by decide
      mesh_eq := ⟨0, rfl⟩
      other_eq := ⟨0, rfl⟩
      spaces := .cons (.table rfl ⟨rfl, rfl, each rfl rfl⟩) .nil
      coefficients := .cons ⟨rfl, .some (.constant _)⟩
        (.cons ⟨rfl, .some (.cellwise rfl ⟨rfl, rfl, each rfl rfl⟩)⟩ .nil)
      integrals := rfl
      cellMarkers := .some ⟨rfl, each (by decide) (by decide)⟩
      otherMarkers := by
        rintro (_ | _ | _ | _) apart
        · exact absurd rfl apart
        all_goals rfl
      facetMarkers := rfl }
  exact ⟨(assemble_renumbered same {}).1 t, by decide +kernel⟩

end Assembly
end FormAssembly
