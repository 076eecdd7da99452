import Mathlib.Tactic.Choose
import FormAssembly.Proofs.Assembly.Discarded
import FormAssembly.Proofs.Space.Tables
import FormAssembly.Proofs.Tensor.Finalize
import FormAssembly.Proofs.Tensor.Targets

/-!
# Complete forms assemble

A form on a simplex mesh is complete (`Form.Complete`) if its spaces were made on that mesh, it has
integrals over cells and facets on the boundary only, its coefficients have values on all cells and
its markers are on the right entities. Then nothing can go wrong: every entity has a contribution
that fits the tensor (`Form.Complete.exists_contribution`), and assembly into a new tensor succeeds
(`complete_form_assembles`).
-/

namespace FormAssembly

variable {α β : Type}

theorem mapM_eq_ok {ι γ ε : Type} {f : ι → Except ε γ} {value : ι → γ} {items : List ι}
    (each : ∀ item ∈ items, f item = .ok (value item)) :
    items.mapM f = .ok (items.map value) := by
  induction items with
  | nil => rfl
  | cons item later ih =>
      have onward : later.mapM f = .ok (later.map value) :=
        ih fun item among => each item (List.mem_cons_of_mem _ among)
      rw [List.mapM_cons, each item List.mem_cons_self, onward]
      rfl

/-- The coefficient functions of the library, with values on the first `cells` cells. -/
inductive CoefficientFunction.HasValuesOn [Inspect α] (cells : Nat) : CoefficientFunction α → Prop
  | constant (values : Array α) : HasValuesOn cells (.constant values)
  | cellwise {f : CellwiseValues α} : cells ≤ f.numCells → HasValuesOn cells f.toFunction

theorem CoefficientFunction.HasValuesOn.exists_restrict [Inspect α] {cells : Nat}
    {f : CoefficientFunction α} (has : f.HasValuesOn cells) {cell : PointId}
    (inside : cell.index < cells) (coordinates : Array α) :
    ∃ values, f.restrict cell coordinates = .ok values := by
  cases has with
  | constant values => exact ⟨values, rfl⟩
  | @cellwise f enough =>
      have known : Error.checkIndex .cell cell.index f.numCells = .ok () :=
        Error.checkIndex_eq_ok_iff.mpr (Nat.lt_of_lt_of_le inside enough)
      exact ⟨_, by show f.restrict cell = _; rw [CellwiseValues.restrict, known]; rfl⟩

/-- A form on a mesh with all that assembly needs, over spaces given by tables. -/
structure Form.Complete [Inspect α] (mesh : Mesh α) (tables : List (DofTable α)) (form : Form α) :
    Prop where
  spaces_eq : form.spaces = tables.map DofTable.toSpace
  made : ∀ space ∈ tables, space.MadeOn mesh
  -- A form without spaces has its mesh from nowhere else.
  ownMesh : form.ownMesh = some mesh ∨ form.ownMesh = none ∧ tables ≠ []
  no_interiorFacet : form.integrals.has .interiorFacet = false
  no_vertex : form.integrals.has .vertex = false
  bound : ∀ slot ∈ form.coefficients.slots, ∃ f, slot.function = some f ∧
    f.HasValuesOn mesh.numCells
  markers_dim : ∀ kind markers, form.markers kind = some markers →
    markers.dim = kind.entityDim mesh.topologicalDim

namespace Form.Complete

variable [Inspect α] {simplex : SimplexMesh α} {label : Nat} {tables : List (DofTable α)}
  {form : Form α} {cell : PointId}

theorem sound (complete : form.Complete (simplex.toMesh label) tables) :
    ∀ space ∈ tables, space.Sound (simplex.toMesh label) :=
  fun space among => (complete.made space among).sound

theorem mesh_eq (complete : form.Complete (simplex.toMesh label) tables) :
    form.mesh = .ok (simplex.toMesh label) := by
  rcases complete.ownMesh with own | ⟨none, some⟩
  · rw [Form.mesh, own]
  · cases tables with
    | nil => exact absurd rfl some
    | cons first others =>
        have spaces : form.spaces = first.toSpace :: others.map DofTable.toSpace :=
          complete.spaces_eq
        have onMesh : first.mesh = simplex.toMesh label :=
          (complete.sound first List.mem_cons_self).mesh_eq
        rw [Form.mesh, none, spaces, ← onMesh]
        rfl

/-! ## No obstacle -/

theorem obstacle?_eq_none (complete : form.Complete (simplex.toMesh label) tables) :
    Assembly.obstacle? form form.rank = none := by
  have bound : form.coefficients.firstUnbound? = none := by
    rw [CoefficientSet.firstUnbound?, Option.map_eq_none_iff, List.find?_eq_none]
    intro entry among
    rcases complete.bound entry.1 (List.fst_mem_of_mem_zipIdx among) with ⟨f, holds, _⟩
    simp [holds]
  have placed : Assembly.misplacedMarkers? form = none := by
    unfold Assembly.misplacedMarkers?
    -- Without any markers the mesh is not even looked at.
    cases installed : Assembly.installedMarkers form with
    | nil => rfl
    | cons first others =>
        rw [complete.mesh_eq, Option.map_eq_none_iff, List.find?_eq_none, ← installed]
        intro entry among
        rcases List.mem_filterMap.mp among with ⟨kind, _, found⟩
        rcases Option.map_eq_some_iff.mp found with ⟨markers, there, rfl⟩
        simp [complete.markers_dim kind markers there]
  simp [Assembly.obstacle?, complete.no_interiorFacet, complete.no_vertex, bound, placed]

/-! ## One entity -/

theorem cellDofs_eq (complete : form.Complete (simplex.toMesh label) tables)
    (inside : cell.index < simplex.numCells) :
    (form.spaces.mapM fun space => space.cellDofs cell) =
      .ok (tables.map fun space => space.row cell) := by
  rw [complete.spaces_eq, List.mapM_map]
  refine mapM_eq_ok fun space among => ?_
  have below : cell.index < (simplex.toMesh label).numCells :=
    (simplex.numCells_toMesh label).symm ▸ inside
  exact (complete.sound space among).cellDofs_eq below

/-- Blocks of cells are exactly as large as there is room for. -/
theorem size_rows (complete : form.Complete (simplex.toMesh label) tables)
    (inside : cell.index < simplex.numCells) :
    Block.size (tables.map fun space => space.row cell) = form.maxElementTensorSize := by
  have below : cell.index < (simplex.toMesh label).numCells :=
    (simplex.numCells_toMesh label).symm ▸ inside
  have lengths : (tables.map fun space => (space.row cell).length) =
      tables.map DofTable.dofsPerCell :=
    List.map_congr_left fun space among => (complete.sound space among).length_row below
  rw [Block.size, Form.maxElementTensorSize, Form.maxElementDofs, complete.spaces_eq,
    List.map_map, List.map_map]
  exact congrArg Block.volume lengths

theorem fits_rows (complete : form.Complete (simplex.toMesh label) tables) :
    Block.Fits form.tensorDims (tables.map fun space => space.row cell) := by
  have dims : form.tensorDims = tables.map DofTable.dim := by
    rw [Form.tensorDims, complete.spaces_eq, List.map_map]
    rfl
  rw [dims]
  refine ⟨by simp, fun entry among => ?_⟩
  rw [List.zip_map'] at among
  rcases List.mem_map.mp among with ⟨space, listed, rfl⟩
  exact (complete.sound space listed).lt_dim_of_mem_row

theorem exists_enabledValues (complete : form.Complete (simplex.toMesh label) tables)
    (inside : cell.index < simplex.numCells) (integral : Integral α) (coordinates : Array α) :
    ∃ values, Assembly.enabledValues integral cell coordinates form.coefficients.slots.zipIdx =
      .ok values := by
  have each : ∀ entry ∈ form.coefficients.slots.zipIdx.filter
      (fun entry => integral.usesCoefficient entry.2),
      ∃ values, Assembly.slotValues cell coordinates entry = .ok values := by
    intro entry among
    have listed := List.fst_mem_of_mem_zipIdx (List.mem_of_mem_filter among)
    rcases complete.bound entry.1 listed with ⟨f, holds, has⟩
    rw [simplex.numCells_toMesh] at has
    rw [Assembly.slotValues, holds]
    exact has.exists_restrict inside coordinates
  choose! values known using each
  exact ⟨_, by rw [Assembly.enabledValues, mapM_eq_ok known]; rfl⟩

/-- Every integral has a contribution on every entity of a cell, and it fits the tensor. -/
theorem exists_contribution [Zero α] (complete : form.Complete (simplex.toMesh label) tables)
    (integral : Integral α) {visit : Visit} (inside : visit.cell.index < simplex.numCells) :
    ∃ c, Assembly.contribution form (simplex.toMesh label) integral visit = .ok c ∧
      c.addend.Valid form.tensorDims := by
  rcases simplex.exists_cellCoordinates inside with ⟨coordinates, found⟩
  rcases complete.exists_enabledValues inside integral coordinates with ⟨values, enabled⟩
  let rows : List (List Nat) := tables.map fun space => space.row visit.cell
  -- All that was read is there, so the guard on the size of the block is the last that could fail.
  have room : ¬ form.maxElementTensorSize < Block.size rows := by
    rw [complete.size_rows inside]
    exact Nat.lt_irrefl _
  have whole : Assembly.contribution form (simplex.toMesh label) integral visit =
      .ok (Assembly.evaluate integral visit coordinates values rows) := by
    have read : (simplex.toMesh label).cellCoordinates visit.cell = .ok coordinates := found
    simp only [Assembly.contribution, Assembly.contributionAt, read, complete.cellDofs_eq inside,
      enabled, bind, Except.bind]
    rw [if_neg room]
    rfl
  refine ⟨_, whole, complete.fits_rows, ?_⟩
  simp [Assembly.evaluate, rows]

end Form.Complete

/-! ## All entities -/

namespace Assembly

variable [Zero α] [Add α] [SumStart α] [Code α β] {form : Form α} {mesh : Mesh α}
  {dims : List Nat} {p : Progress (DenseTensor α) α}

theorem exists_addVisit {visit : Visit}
    (fits : ∀ integral, ∃ c, contribution form mesh integral visit = .ok c ∧ c.addend.Valid dims)
    (shape : p.tensor.dims = dims) :
    ∃ added q, addVisit form mesh visit p = (.ok added, q) ∧ q.tensor.dims = dims := by
  unfold addVisit
  cases integralOn (form.integrals.integrals visit.kind) visit.marker with
  | none => exact ⟨false, p, rfl, shape⟩
  | some integral =>
      rcases fits integral with ⟨c, known, inRange, length⟩
      let sum : DenseTensor α := p.tensor.modifyBlock accumulate c.addend.block c.addend.rows
      have added : Tensor.add p.tensor c.addend.block c.addend.rows = .ok sum :=
        DenseTensor.add_eq_ok_iff.mpr ⟨shape.symm ▸ inRange, length, rfl⟩
      refine ⟨true, ⟨sum, p.calls ++ [c.call], p.events⟩, ?_, shape⟩
      simp only [known, addContribution, added]
      rfl

theorem exists_addVisits {visits : List Visit}
    (fits : ∀ visit ∈ visits, ∀ integral,
      ∃ c, contribution form mesh integral visit = .ok c ∧ c.addend.Valid dims)
    (count : Nat) (shape : p.tensor.dims = dims) :
    ∃ total q, addVisits form mesh visits count p = (.ok total, q) ∧ q.tensor.dims = dims := by
  induction visits generalizing count p with
  | nil => exact ⟨count, p, rfl, shape⟩
  | cons visit later ih =>
      rcases exists_addVisit (fits visit List.mem_cons_self) shape with ⟨added, q, visited, kept⟩
      rcases ih (fun other among => fits other (List.mem_cons_of_mem _ among))
        (if added then count + 1 else count) kept with ⟨total, r, onward, same⟩
      exact ⟨total, r, by simp only [addVisits, visited, onward], same⟩

theorem exists_addKind (known : form.mesh = .ok mesh) {kind : IntegralKind}
    (fits : ∀ visit ∈ Pass.visits form mesh kind, ∀ integral,
      ∃ c, contribution form mesh integral visit = .ok c ∧ c.addend.Valid dims)
    (shape : p.tensor.dims = dims) :
    ∃ q, addKind form kind p = (.ok (), q) ∧ q.tensor.dims = dims := by
  unfold addKind
  cases form.integrals.has kind with
  | false => exact ⟨p, rfl, shape⟩
  | true =>
      rcases exists_addVisits fits 0 shape with ⟨total, q, visited, kept⟩
      refine ⟨⟨q.tensor, q.calls, q.events ++ [.assembled kind total]⟩, ?_, kept⟩
      simp only [known, visited, if_true]

theorem exists_addContributions {t : DenseTensor α} (options : AssemblyOptions)
    (free : obstacle? form t.rank = none) (known : form.mesh = .ok mesh)
    (fits : ∀ kind, ∀ visit ∈ Pass.visits form mesh kind, ∀ integral,
      ∃ c, contribution form mesh integral visit = .ok c ∧ c.addend.Valid t.dims) :
    ∃ q, addContributions options form t = (.ok (), q) := by
  let first : DenseTensor α := if options.reset then Tensor.zero t else t
  have shape : first.dims = t.dims := by
    show (if options.reset then Tensor.zero t else t).dims = t.dims
    cases options.reset <;> rfl
  -- Cells come first, and facets go on with the tensor that cells have left.
  rcases exists_addKind (p := ⟨first, [], []⟩) known (fits .cell) shape with ⟨q, cells, same⟩
  rcases exists_addKind known (fits .exteriorFacet) same with ⟨r, facets, _⟩
  refine ⟨r, ?_⟩
  have ready : obstacle? form (Tensor.rank t) = none := free
  rw [addContributions, ready]
  show addKinds form ⟨first, [], []⟩ = _
  rw [addKinds, cells]
  exact facets

/-- A tensor of a process by itself is finalized at once, so nothing can go wrong after that. -/
theorem exists_assemble {t : DenseTensor α} (options : AssemblyOptions)
    (single : t.member.alone = true) {q : Progress (DenseTensor α) α}
    (added : addContributions options form t = (.ok (), q)) :
    ∃ u calls events, (assemble options form t : Exchange β _) = .done ⟨u, .ok (), calls, events⟩ ∧
      u.dims = t.dims := by
  have kept : Kept fun u : DenseTensor α => u.dims = t.dims ∧ u.member = t.member :=
    DenseTensor.kept_shape DenseTensor.apply t.dims t.member
  have last : q.tensor.dims = t.dims ∧ q.tensor.member = t.member := by
    have after := kept.addContributions options form ⟨rfl, rfl⟩
    rw [added] at after
    exact after
  rw [assemble_of_ok added]
  cases options.finalize with
  | false => exact ⟨q.tensor, q.calls, q.events, rfl, last.1⟩
  | true =>
      have alone : q.tensor.member.alone = true := last.2 ▸ single
      have applied : (Tensor.apply q.tensor options.mode : Exchange β _) = _ :=
        DenseTensor.apply_of_single options.mode (Or.inl alone)
      refine ⟨q.tensor, q.calls, q.events ++ [.denseApply options.mode.name q.tensor.values.size
        q.tensor.member.size], ?_, last.1⟩
      rw [applied]
      rfl

end Assembly

/-- What is read on an entity lies inside the arrays that it is read from, and what is written
inside those that it is written to. -/
structure Visit.InRange [Inspect α] (mesh : SimplexMesh α) (tables : List (DofTable α))
    (form : Form α) (visit : Visit) : Prop where
  cell_lt : visit.cell.index < mesh.numCells
  connectivity_le : (visit.cell.index + 1) * mesh.cellWidth ≤ mesh.connectivity.size
  coordinates_le :
    ∀ v ∈ FacetCensus.cellSlice mesh.cellWidth mesh.connectivity visit.cell.index,
      (v + 1) * mesh.geometricDim ≤ mesh.coordinates.size
  dofs_le : ∀ space ∈ tables, (visit.cell.index + 1) * space.dofsPerCell ≤ space.table.size
  values_le : ∀ slot ∈ form.coefficients.slots,
    (∃ values, slot.function = some (.constant values)) ∨
    ∃ f : CellwiseValues α, slot.function = some f.toFunction ∧
      (visit.cell.index + 1) * f.width ≤ f.values.size
  block_le : Block.size (tables.map fun space => space.row visit.cell) ≤ form.maxElementTensorSize
  target_lt :
    ∀ place ∈ Block.targets form.tensorDims (tables.map fun space => space.row visit.cell),
      place < Block.volume form.tensorDims

namespace Form.Complete

variable [Inspect α] {simplex : SimplexMesh α} {label : Nat} {tables : List (DofTable α)}
  {form : Form α}

/-- Every entity that is visited is or belongs to a cell of the mesh. -/
theorem cell_lt_of_mem_visits {kind : IntegralKind} {visit : Visit}
    (among : visit ∈ Pass.visits form (simplex.toMesh label) kind) :
    visit.cell.index < simplex.numCells := by
  -- Interior facets and vertices are never visited.
  cases kind with
  | cell =>
      rcases List.mem_map.mp among with ⟨cell, listed, rfl⟩
      exact SimplexMesh.index_lt_of_mem_cells listed
  | exteriorFacet =>
      rcases List.mem_map.mp among with ⟨f, listed, rfl⟩
      exact SimplexMesh.index_lt_of_mem_exterior listed
  | interiorFacet => cases among
  | vertex => cases among

theorem inRange (complete : form.Complete (simplex.toMesh label) tables) {visit : Visit}
    (inside : visit.cell.index < simplex.numCells) : visit.InRange simplex tables form where
  cell_lt := inside
  connectivity_le := group_le inside
  coordinates_le v among := group_le (SimplexMesh.lt_numVertices_of_mem_cellSlice among)
  dofs_le space among :=
    (complete.sound space among).row_le ((simplex.numCells_toMesh label).symm ▸ inside)
  values_le slot among := by
    rcases complete.bound slot among with ⟨f, holds, has⟩
    rw [simplex.numCells_toMesh] at has
    cases has with
    | constant values => exact Or.inl ⟨values, holds⟩
    | @cellwise f enough => exact Or.inr ⟨f, holds, group_le (Nat.lt_of_lt_of_le inside enough)⟩
  block_le := Nat.le_of_eq (complete.size_rows inside)
  target_lt := Block.lt_volume_of_mem_targets complete.fits_rows

end Form.Complete

/-- A complete form on a simplex mesh is assembled into a new dense tensor of a process by itself,
whatever its kernels do and whatever the options are, and on every entity all reads and writes are
in range. -/
theorem complete_form_assembles [Inspect α] [Zero α] [Add α] [SumStart α] [Code α β]
    {simplex : SimplexMesh α} {label : Nat} {tables : List (DofTable α)} {form : Form α}
    (complete : form.Complete (simplex.toMesh label) tables) (options : AssemblyOptions) :
    (∃ (t : DenseTensor α) (calls : List (KernelCall α)) (events : List Event),
      (Assembly.assembleNew options form (DenseTensor.factory .serial) : Exchange β _) =
        .done ⟨.ok t, calls, events⟩ ∧ t.dims = form.tensorDims) ∧
    ∀ kind, ∀ visit ∈ Pass.visits form (simplex.toMesh label) kind,
      visit.InRange simplex tables form := by
  constructor
  · -- A tensor is created, nothing stands in the way, and all contributions fit its dimensions.
    let zeros : DenseTensor α := DenseTensor.zero .serial form.tensorDims
    have ranks : form.tensorDims.length = form.rank := List.length_map _
    have created : (DenseTensor.factory .serial : TensorFactory (DenseTensor α)).create form.rank
        form.tensorDims = .ok zeros := by
      show DenseTensor.resize _ _ _ = _
      rw [DenseTensor.resize, if_pos ranks]
      rfl
    have free : Assembly.obstacle? form zeros.rank = none := by
      show Assembly.obstacle? form form.tensorDims.length = none
      rw [ranks]
      exact complete.obstacle?_eq_none
    rcases Assembly.exists_addContributions options free complete.mesh_eq
      (fun kind visit among integral => complete.exists_contribution integral
        (Form.Complete.cell_lt_of_mem_visits among)) with ⟨q, added⟩
    rcases Assembly.exists_assemble (β := β) options rfl added with
      ⟨t, calls, events, assembled, dims⟩
    refine ⟨t, calls, events, ?_, dims⟩
    rw [Assembly.assembleNew, created]
    show _ >>= _ = _
    rw [assembled]
    rfl
  · intro kind visit among
    exact complete.inRange (Form.Complete.cell_lt_of_mem_visits among)

/-- On two cells of an interval, with linear functions for the rows and constants for the columns, a
coefficient with a value for each cell, and markers on the boundary. -/
theorem complete_form_assembles_interval :
    ∃ (simplex : SimplexMesh Binary64) (linear flat : DofTable Binary64) (base : Form Binary64)
      (values : CellwiseValues Binary64),
      SimplexMesh.build 1 1 #[⟨0⟩, ⟨1⟩, ⟨2⟩] #[0, 1, 1, 2] = .ok simplex ∧
      DofTable.linear (simplex.toMesh 0) = .ok linear ∧
      DofTable.piecewiseConstant (simplex.toMesh 0) = .ok flat ∧
      (Form.build (FormDeclaration.toDescriptor ⟨2, [("w", 0)],
        [⟨.cell, none, ⟨fun block _ _ _ => block⟩, none⟩,
          ⟨.exteriorFacet, some 3, ⟨fun block _ _ _ => block.reverse⟩, some [true]⟩]⟩)
        [linear.toSpace, flat.toSpace]).value = .ok base ∧
      CellwiseValues.build 1 #[⟨5⟩, ⟨7⟩] = .ok values ∧
      let marked := (base.setMarkers .exteriorFacet (some (.mark (.empty 0) (.ofIndex 1) 3))).value
      let form := marked.withCoefficients (base.coefficients.bind 0 values.toFunction)
      ∃ (t : DenseTensor Binary64) (calls : List (KernelCall Binary64)) (events : List Event),
        (Assembly.assembleNew {} form (DenseTensor.factory .serial) : Exchange UInt8 _) =
          .done ⟨.ok t, calls, events⟩ ∧ t.dims = [3, 2] := by
  have onInterval : ∃ simplex : SimplexMesh Binary64,
      SimplexMesh.build 1 1 #[⟨0⟩, ⟨1⟩, ⟨2⟩] #[0, 1, 1, 2] = .ok simplex ∧ simplex.numCells = 2 ∧
      simplex.topologicalDim = 1 ∧
      ∃ linear, DofTable.linear (simplex.toMesh 0) = .ok linear ∧ linear.dim = 3 ∧
      ∃ flat, DofTable.piecewiseConstant (simplex.toMesh 0) = .ok flat ∧ flat.dim = 2 := by
    exact ⟨_, SimplexMesh.build_eq (⟨1, 1, #[⟨0⟩, ⟨1⟩, ⟨2⟩], #[0, 1, 1, 2],
      .ofCells 2 #[0, 1, 1, 2], by decide, by decide, rfl, rfl, by decide, rfl⟩ :
        SimplexMesh Binary64), rfl, rfl, _, rfl, rfl, _, rfl, rfl⟩
  rcases onInterval with ⟨simplex, built, cells, tdim, linear, madeLinear, vertices, flat,
    madeFlat, constants⟩
  -- From here on the mesh and the spaces are known by these facts only.
  have onLinear : linear.MadeOn (simplex.toMesh 0) := .linear madeLinear
  have onFlat : flat.MadeOn (simplex.toMesh 0) := .piecewiseConstant madeFlat
  have oneMesh : Form.onOneMesh [linear.toSpace, flat.toSpace] = true := by
    have left : linear.toSpace.mesh = simplex.toMesh 0 := onLinear.sound.mesh_eq
    have right : flat.toSpace.mesh = simplex.toMesh 0 := onFlat.sound.mesh_eq
    simp [Form.onOneMesh, left, right, Mesh.same]
  have formed : ∃ base : Form Binary64,
      (Form.build (FormDeclaration.toDescriptor ⟨2, [("w", 0)],
        [⟨.cell, none, ⟨fun block _ _ _ => block⟩, none⟩,
          ⟨.exteriorFacet, some 3, ⟨fun block _ _ _ => block.reverse⟩, some [true]⟩]⟩)
        [linear.toSpace, flat.toSpace]).value = .ok base ∧
      base.spaces = [linear.toSpace, flat.toSpace] ∧ base.ownMesh = none ∧
      base.markersByKind = .const none ∧ base.integrals.has .interiorFacet = false ∧
      base.integrals.has .vertex = false ∧ base.coefficients.slots = [⟨"w", none, 0⟩] := by
    unfold Form.build
    rw [oneMesh]
    exact ⟨_, rfl, rfl, rfl, rfl, rfl, rfl, rfl⟩
  rcases formed with ⟨base, formBuilt, spaces, ownMesh, unmarked, noInterior, noVertex, slots⟩
  have grouped : ∃ values : CellwiseValues Binary64,
      CellwiseValues.build 1 #[⟨5⟩, ⟨7⟩] = .ok values ∧ values.numCells = 2 :=
    ⟨_, rfl, rfl⟩
  rcases grouped with ⟨values, valuesBuilt, enough⟩
  refine ⟨simplex, linear, flat, base, values, built, madeLinear, madeFlat, formBuilt, valuesBuilt,
    ?_⟩
  intro marked form
  have known : (simplex.toMesh 0).numCells = 2 := (simplex.numCells_toMesh 0).trans cells
  have bindings : form.coefficients.slots = [⟨"w", some values.toFunction, 0⟩] := by
    show base.coefficients.slots.modify 0 _ = _
    rw [slots]
    rfl
  have marks : form.markersByKind = (PerKind.const none).set .exteriorFacet
      (some (.mark (.empty 0) (.ofIndex 1) 3)) :=
    congrArg (fun old : PerKind (Option Markers) => old.set .exteriorFacet _) unmarked
  have complete : form.Complete (simplex.toMesh 0) [linear, flat] :=
    { spaces_eq := spaces
      made := by
        intro space among
        rcases List.mem_pair.mp among with rfl | rfl
        · exact onLinear
        · exact onFlat
      ownMesh := Or.inr ⟨ownMesh, List.cons_ne_nil _ _⟩
      no_interiorFacet := noInterior
      no_vertex := noVertex
      bound := by
        intro slot among
        rw [bindings] at among
        cases List.mem_singleton.mp among
        exact ⟨_, rfl, .cellwise (Nat.le_of_eq (known.trans enough.symm))⟩
      markers_dim := by
        intro kind markers installed
        have here : (simplex.toMesh 0).topologicalDim = 1 := tdim
        rw [Form.markers, marks] at installed
        cases kind <;> cases installed
        rw [here]
        rfl }
  rcases (complete_form_assembles (β := UInt8) complete {}).1 with ⟨t, calls, events, done, dims⟩
  refine ⟨t, calls, events, done, ?_⟩
  have sizes : form.tensorDims = [linear.dim, flat.dim] := by
    show base.spaces.map _ = _
    rw [spaces]
    rfl
  rw [dims, sizes, vertices, constants]

end FormAssembly
