import Mathlib.Algebra.Group.Nat.Defs
import Mathlib.Data.List.Forall2
import FormAssembly.Proofs.Assembly.Reached
import FormAssembly.Proofs.Assembly.Room
import FormAssembly.Tensor.Dense
import FormAssembly.Tensor.Scalar

/-!
# Bounds on blocks

A space promises that no cell has more degrees of freedom than its maximum. If all argument spaces
keep their promise on a cell (`Form.KeepsMaxima`), the block of the cell is no larger than the
product of the maxima, for which the workspace has room. A space may break its promise, though, so
each block is checked. Only the product matters: an argument may be over its maximum if another
makes up for it (`Assembly.block_bounds`).
-/

namespace FormAssembly

variable {τ α β : Type}

/-! ## Sizes -/

namespace Block

theorem volume_le_volume {dims bounds : List Nat} :
    List.Forall₂ (· ≤ ·) dims bounds → volume dims ≤ volume bounds := by
  intro below
  induction below with
  | nil => exact Nat.le_refl 1
  | cons first _ ih => exact Nat.mul_le_mul first ih

/-- With every dimension `n` times as long, there is room for `n` to the power of the rank as many
values. -/
theorem volume_map_mul (dims : List Nat) (n : Nat) :
    volume (dims.map (· * n)) = n ^ dims.length * volume dims := by
  induction dims with
  | nil => rfl
  | cons first later ih =>
      simp only [List.map_cons, volume_cons, ih, List.length_cons, Nat.pow_succ]
      ac_rfl

/-- Two lists of at most `n` indices make one of at most twice `n`. -/
theorem forall₂_length_pairs {rows others : List (List Nat)} {bounds : List Nat}
    (here : List.Forall₂ (· ≤ ·) (rows.map List.length) bounds)
    (there : List.Forall₂ (· ≤ ·) (others.map List.length) bounds) :
    List.Forall₂ (· ≤ ·) ((List.zipWith (· ++ ·) rows others).map List.length)
      (bounds.map (· * 2)) := by
  induction rows generalizing others bounds with
  | nil =>
      cases here
      exact .nil
  | cons first later ih =>
      cases here with
      | cons below rest =>
          cases others with
          | nil => cases there
          | cons second more =>
              cases there with
              | cons alsoBelow alsoRest =>
                  refine .cons ?_ (ih rest alsoRest)
                  simp only [List.length_append]
                  omega

end Block

/-- A number for each of several items is found if one is found for every single item. -/
theorem mapM_eq_ok_iff {ι κ : Type} {f : ι → Except Error κ} {items : List ι} {values : List κ} :
    items.mapM f = .ok values ↔ List.Forall₂ (fun i value => f i = .ok value) items values := by
  induction items generalizing values with
  | nil => cases values <;> simp [pure, Except.pure]
  | cons item later ih =>
      rw [List.mapM_cons]
      cases first : f item with
      | error cause => cases values <;> simp [first, bind, Except.bind]
      | ok value =>
          cases rest : later.mapM f <;> cases values <;>
            simp [first, rest, ← ih, bind, Except.bind, pure, Except.pure]

namespace Form

/-- Degrees of freedom of a cell, for each argument. -/
def rowsOn (form : Form α) (cell : PointId) : Except Error (List (List Nat)) :=
  form.spaces.mapM fun space => space.cellDofs cell

/-- On a cell, no argument has more degrees of freedom than its space promises. -/
def KeepsMaxima (form : Form α) (cell : PointId) : Prop :=
  ∀ space ∈ form.spaces, ∀ dofs, space.cellDofs cell = .ok dofs →
    dofs.length ≤ space.maxElementDofs

/-- On a cell, every argument has as many degrees of freedom as its space promises at most. -/
def AttainsMaxima (form : Form α) (cell : PointId) : Prop :=
  ∀ space ∈ form.spaces, ∀ dofs, space.cellDofs cell = .ok dofs →
    dofs.length = space.maxElementDofs

variable {form : Form α} {cell other : PointId} {rows others : List (List Nat)}

/-- What relates the degrees of freedom of each argument to its space relates those of all. -/
theorem forall₂_rowsOn {R : Nat → Nat → Prop} (found : form.rowsOn cell = .ok rows)
    (each : ∀ space ∈ form.spaces, ∀ dofs, space.cellDofs cell = .ok dofs →
      R dofs.length space.maxElementDofs) :
    List.Forall₂ R (rows.map List.length) form.maxElementDofs := by
  replace found := mapM_eq_ok_iff.mp found
  unfold maxElementDofs
  generalize form.spaces = spaces at found each
  induction found with
  | nil => exact .nil
  | cons first _ ih =>
      exact .cons (each _ List.mem_cons_self _ first)
        (ih fun space among => each space (List.mem_cons_of_mem _ among))

theorem size_le_of_keepsMaxima (found : form.rowsOn cell = .ok rows)
    (keeps : form.KeepsMaxima cell) : Block.size rows ≤ form.maxElementTensorSize :=
  Block.volume_le_volume (forall₂_rowsOn found keeps)

theorem size_of_attainsMaxima (found : form.rowsOn cell = .ok rows)
    (attains : form.AttainsMaxima cell) : Block.size rows = form.maxElementTensorSize := by
  have same : rows.map List.length = form.maxElementDofs :=
    List.forall₂_eq_eq_eq ▸ forall₂_rowsOn found attains
  exact congrArg Block.volume same

theorem maxElementTensorSizeFor_eq (form : Form α) (kind : IntegralKind) :
    form.maxElementTensorSizeFor kind =
      if form.integrals.has kind then kind.cellsPerEntity ^ form.rank * form.maxElementTensorSize
      else 0 := by
  have length : form.maxElementDofs.length = form.rank := List.length_map _
  simp only [maxElementTensorSizeFor, IntegralSet.maxBlockSize, Block.volume_map_mul, length,
    maxElementTensorSize]

/-- A facet between two cells has the degrees of freedom of both, argument by argument. -/
theorem size_pair_le (found : form.rowsOn cell = .ok rows)
    (alsoFound : form.rowsOn other = .ok others) (keeps : form.KeepsMaxima cell)
    (alsoKeeps : form.KeepsMaxima other) :
    Block.size (List.zipWith (· ++ ·) rows others) ≤ 2 ^ form.rank * form.maxElementTensorSize := by
  have length : form.maxElementDofs.length = form.rank := List.length_map _
  rw [← length, maxElementTensorSize, ← Block.volume_map_mul]
  exact Block.volume_le_volume
    (Block.forall₂_length_pairs (forall₂_rowsOn found keeps) (forall₂_rowsOn alsoFound alsoKeeps))

end Form

/-! ## The check of a block -/

namespace Assembly

variable [Zero α] [Tensor τ α β] {options : AssemblyOptions} {form : Form α} {tensor : τ}
  {mesh : Mesh α} {visit : Visit} {integral : Integral α} {coordinates : Array α}
  {rows : List (List Nat)} {p : Progress τ α}

/-- On an entity there is an integral to evaluate, and the coordinates and the degrees of freedom of
its cell are found. -/
structure LookedUp (form : Form α) (mesh : Mesh α) (visit : Visit) (integral : Integral α)
    (coordinates : Array α) (rows : List (List Nat)) : Prop where
  integral : form.integrals.integralFor visit.kind visit.marker = some integral
  coordinates : mesh.cellCoordinates visit.cell = .ok coordinates
  rows : form.rowsOn visit.cell = .ok rows

/-- What is left to do on an entity when all has been looked up. -/
theorem LookedUp.addVisit_eq (found : LookedUp form mesh visit integral coordinates rows)
    (p : Progress τ α) :
    addVisit form mesh visit p =
      if form.maxElementTensorSize < Block.size rows then
        (.error (.blockShape form.maxElementTensorSize (Block.size rows)), p)
      else
        match enabledValues integral visit.cell coordinates form.coefficients.slots.zipIdx with
        | .error cause => (.error cause, p)
        | .ok coefficients =>
            let c := evaluate integral visit coordinates coefficients rows
            ((addContribution c p).1.map fun _ => true, (addContribution c p).2) := by
  have chosen : integralOn (form.integrals.integrals visit.kind) visit.marker = some integral := by
    rw [← IntegralSet.integralFor_eq]
    exact found.integral
  have numbered : form.spaces.mapM (fun space => space.cellDofs visit.cell) = .ok rows :=
    found.rows
  unfold addVisit
  simp only [chosen, contribution, contributionAt, found.coordinates, numbered, bind, Except.bind]
  by_cases large : form.maxElementTensorSize < Block.size rows
  · simp [large, throw, throwThe, MonadExceptOf.throw]
  · simp only [large, if_false]
    cases enabledValues integral visit.cell coordinates form.coefficients.slots.zipIdx <;> rfl

theorem Reaches.assemble_of_large (reached : Reaches options form tensor mesh visit p)
    (found : LookedUp form mesh visit integral coordinates rows)
    (large : form.maxElementTensorSize < Block.size rows) :
    (assemble options form tensor : Exchange β _) =
      .done (p.report (.error (.blockShape form.maxElementTensorSize (Block.size rows)))) := by
  refine reached.assemble_of_error ?_
  rw [found.addVisit_eq, if_pos large]

theorem Reaches.assemble_of_coefficient (reached : Reaches options form tensor mesh visit p)
    (found : LookedUp form mesh visit integral coordinates rows)
    (fits : ¬ form.maxElementTensorSize < Block.size rows) {cause : Error}
    (failed : enabledValues integral visit.cell coordinates form.coefficients.slots.zipIdx =
      .error cause) :
    (assemble options form tensor : Exchange β _) = .done (p.report (.error cause)) := by
  refine reached.assemble_of_error ?_
  rw [found.addVisit_eq, if_neg fits, failed]

/-- The kernel is called if there is room for its block and the coefficients have values. -/
theorem Reaches.call_prefix (reached : Reaches options form tensor mesh visit p)
    (found : LookedUp form mesh visit integral coordinates rows)
    (fits : ¬ form.maxElementTensorSize < Block.size rows) {coefficients : Array α}
    (values : enabledValues integral visit.cell coordinates form.coefficients.slots.zipIdx =
      .ok coefficients) (script : Script β) :
    p.calls ++ [(evaluate integral visit coordinates coefficients rows).call] <+:
      ((assemble options form tensor : Exchange β _).perform script).1.calls := by
  have calls := reached.calls_prefix script
  rw [found.addVisit_eq, if_neg fits, values] at calls
  simpa only [calls_addContribution] using calls

/-- If there is room for the block, only a coefficient can end an assembly before the kernel is
called. -/
theorem Reaches.coefficient_of_ended (reached : Reaches options form tensor mesh visit p)
    (found : LookedUp form mesh visit integral coordinates rows)
    (fits : ¬ form.maxElementTensorSize < Block.size rows) {cause : Error}
    (ended : (assemble options form tensor : Exchange β _) = .done (p.report (.error cause))) :
    enabledValues integral visit.cell coordinates form.coefficients.slots.zipIdx =
      .error cause := by
  cases values : enabledValues integral visit.cell coordinates form.coefficients.slots.zipIdx with
  | error reason =>
      have same := (reached.assemble_of_coefficient found fits values).symm.trans ended
      have causes : (.error reason : Except Error Unit) = .error cause :=
        congrArg AssemblyReport.outcome (Exchange.done.inj same)
      rw [Except.error.inj causes]
  | ok coefficients =>
      -- There is one more call than had been made on the way to the entity.
      have calls := reached.call_prefix found fits values Script.silent
      rw [ended] at calls
      have more : (p.calls ++ [_]).length ≤ p.calls.length := calls.length_le
      rw [List.length_append] at more
      exact absurd more (Nat.not_succ_le_self _)

/-- An assembly ends at an entity, before the kernel is called, with the error of a block that is
too large iff it is too large or a coefficient itself answers with such an error. -/
theorem Reaches.ends_with_blockShape_iff (reached : Reaches options form tensor mesh visit p)
    (found : LookedUp form mesh visit integral coordinates rows) :
    (∃ expected length, (assemble options form tensor : Exchange β _) =
        .done (p.report (.error (.blockShape expected length)))) ↔
      form.maxElementTensorSize < Block.size rows ∨ ∃ expected length,
        enabledValues integral visit.cell coordinates form.coefficients.slots.zipIdx =
          .error (.blockShape expected length) := by
  by_cases large : form.maxElementTensorSize < Block.size rows
  · exact iff_of_true ⟨_, _, reached.assemble_of_large found large⟩ (.inl large)
  · constructor
    · rintro ⟨expected, length, ended⟩
      exact .inr ⟨expected, length, reached.coefficient_of_ended found large ended⟩
    · rintro (itself | ⟨expected, length, failed⟩)
      · exact absurd itself large
      · exact ⟨expected, length, reached.assemble_of_coefficient found large failed⟩

/-! ## Together -/

/-- On a cell where no space exceeds its maximum, the block is no larger than the product of the
maxima, and as large if all maxima are attained. The bound for a kind of integrals is this product,
for facets between two cells with both cells counted for each argument, and nothing if there are no
integrals of the kind.

When an assembly comes to an entity and has looked up what it needs, it ends there without calling
the kernel if the block is larger than the product, whatever single arguments have; it never does so
where the maxima are kept. Otherwise the kernel is called unless a coefficient fails. Wherever an
assembly ends, it has stayed within its workspace, and so have the kernels. -/
theorem block_bounds (form : Form α) :
    (∀ cell rows, form.rowsOn cell = .ok rows →
      (form.KeepsMaxima cell → Block.size rows ≤ form.maxElementTensorSize) ∧
      (form.AttainsMaxima cell → Block.size rows = form.maxElementTensorSize)) ∧
    (∀ kind, form.maxElementTensorSizeFor kind =
      if form.integrals.has kind then
        if kind = .interiorFacet then 2 ^ form.rank * form.maxElementTensorSize
        else form.maxElementTensorSize
      else 0) ∧
    (∀ cell other rows others, form.rowsOn cell = .ok rows → form.rowsOn other = .ok others →
      form.KeepsMaxima cell → form.KeepsMaxima other →
        form.integrals.has .interiorFacet = true →
          Block.size (List.zipWith (· ++ ·) rows others) ≤
            form.maxElementTensorSizeFor .interiorFacet) ∧
    ∀ (options : AssemblyOptions) (tensor : τ),
      (∀ (mesh : Mesh α) (visit : Visit) (p : Progress τ α) (integral : Integral α)
          (coordinates : Array α) (rows : List (List Nat)),
        let ends (cause : Error) : Prop :=
          (assemble options form tensor : Exchange β _) = .done (p.report (.error cause))
        let values := enabledValues integral visit.cell coordinates form.coefficients.slots.zipIdx
        Reaches options form tensor mesh visit p →
        LookedUp form mesh visit integral coordinates rows →
          (form.maxElementTensorSize < Block.size rows →
            ends (.blockShape form.maxElementTensorSize (Block.size rows))) ∧
          ((∃ expected length, ends (.blockShape expected length)) ↔
            form.maxElementTensorSize < Block.size rows ∨
              ∃ expected length, values = .error (.blockShape expected length)) ∧
          (form.KeepsMaxima visit.cell → ∀ cause, ends cause ↔ values = .error cause) ∧
          (Block.size rows ≤ form.maxElementTensorSize → ∀ coefficients,
            values = .ok coefficients → ∀ script : Script β,
              p.calls ++ [(evaluate integral visit coordinates coefficients rows).call] <+:
                ((assemble options form tensor : Exchange β _).perform script).1.calls)) ∧
      Pass.InRoom form.maxElementTensorSize
        (Pass.runFrom (contribute options form : Pass τ α Unit) ⟨tensor, .ofRoom 0, [], []⟩).2 := by
  refine ⟨?_, ?_, ?_, fun options tensor => ⟨?_, ?_⟩⟩
  · intro cell rows found
    exact ⟨Form.size_le_of_keepsMaxima found, Form.size_of_attainsMaxima found⟩
  · intro kind
    rw [form.maxElementTensorSizeFor_eq]
    cases kind <;> simp [IntegralKind.cellsPerEntity]
  · intro cell other rows others found alsoFound keeps alsoKeeps has
    rw [form.maxElementTensorSizeFor_eq, if_pos has]
    exact Form.size_pair_le found alsoFound keeps alsoKeeps
  · intro mesh visit p integral coordinates rows ends values reached found
    refine ⟨reached.assemble_of_large found, reached.ends_with_blockShape_iff found, ?_, ?_⟩
    · intro keeps cause
      have fits : ¬ form.maxElementTensorSize < Block.size rows :=
        Nat.not_lt.mpr (Form.size_le_of_keepsMaxima found.rows keeps)
      exact ⟨reached.coefficient_of_ended found fits, reached.assemble_of_coefficient found fits⟩
    · intro fits coefficients read script
      exact reached.call_prefix found (Nat.not_lt.mpr fits) read script
  · exact Pass.inRoom_contribute options form _ ⟨Nat.le_refl 0, Nat.zero_le _, by simp⟩

/-- Two rows and three columns at most. The first cell has more columns, but only one row, so there
is room for its block. On the second cell there is not, and the kernel is not called again. -/
theorem block_bounds_one_argument_over :
    let mesh : Mesh Binary64 := ⟨0, 1, 1, fun _ => 2, fun _ => .ok [0, 1], fun _ => .ok #[], [], ""⟩
    let space (most first second : Nat) : ArgumentSpace Binary64 :=
      ⟨most, 1, mesh, fun cell => .ok (List.replicate (if cell.index = 0 then first else second) 0),
        ""⟩
    let zeros : Kernel Binary64 := ⟨fun block _ _ _ => block⟩
    let form : Form Binary64 := ⟨FormDeclaration.toDescriptor ⟨2, [], []⟩,
      [space 2 1 3, space 3 4 3], none, .const none, .empty, .put .empty .cell ⟨none, zeros, none⟩,
      none⟩
    let t : DenseTensor Binary64 := .zero .serial [1, 1]
    let p := (addVisit form mesh (Pass.cellVisit form (.ofIndex 0)) (outset {} t)).2
    form.maxElementTensorSize = 6 ∧ p.calls.length = 1 ∧
      (assemble {} form t : Exchange UInt8 _) = .done (p.report (.error (.blockShape 6 9))) := by
  intro mesh space zeros form t p
  rcases block_bounds (τ := DenseTensor Binary64) (β := UInt8) form with ⟨_, _, _, entities⟩
  have reached : Reaches {} form t mesh (Pass.cellVisit form (.ofIndex 1)) p :=
    .cell rfl ⟨rfl, rfl, [Pass.cellVisit form (.ofIndex 0)], [], 1, rfl, rfl⟩
  have found : LookedUp form mesh (Pass.cellVisit form (.ofIndex 1)) ⟨none, zeros, none⟩ #[]
      [[0, 0, 0], [0, 0, 0]] := ⟨rfl, rfl, rfl⟩
  exact ⟨rfl, rfl, ((entities {} t).1 _ _ _ _ _ _ reached found).1 (by decide)⟩

end Assembly
end FormAssembly
