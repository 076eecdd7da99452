import FormAssembly.Assembly.Basic
import FormAssembly.Proofs.Tensor.Blocks

/-!
# Assembly with fresh buffers

Assembly as it is meant. What an integral contributes on an entity (`Assembly.contribution`) is
computed from the form, the mesh and the entity alone, with a block of zeros of its own, so nothing
that happened before can have an influence on it. A pass adds these contributions in the order of
the entities. The first failure ends it.
-/

namespace FormAssembly

/-- What an integral contributes on an entity, with the call of its kernel. -/
structure Contribution (α : Type) where
  call : KernelCall α
  addend : Addend α

/-- What has come of an assembly so far. -/
structure Progress (τ α : Type) where
  tensor : τ
  /-- Kernel calls, oldest first. -/
  calls : List (KernelCall α) := []
  /-- What was reported, oldest first. -/
  events : List Event := []

/-- The report of an assembly that ended here. After a failure the tensor is zeroed. -/
def Progress.report {τ α β : Type} [Tensor τ α β] (p : Progress τ α) :
    Except Error Unit → AssemblyReport τ α
  | .ok () => ⟨p.tensor, .ok (), p.calls, p.events⟩
  | .error cause => ⟨Tensor.zero p.tensor, .error cause, p.calls, p.events ++ [.discarded cause]⟩

/-- The report of an assembly whose tensor was finalized here, given what became of it. -/
def Progress.conclude {τ α β : Type} [Tensor τ α β] (p : Progress τ α)
    (applied : Reported (Except Error τ)) : AssemblyReport τ α :=
  let p := { p with events := p.events ++ applied.events }
  match applied.value with
  | .error cause => p.report (.error cause)
  | .ok tensor => Progress.report { p with tensor } (.ok ())

namespace Assembly

variable {τ α β : Type}

/-! ## Obstacles -/

/-- The first markers that are not on entities of the dimension that their integrals run over. A
mesh is needed only if there are markers. -/
def misplacedMarkers? (form : Form α) : Option Error :=
  match installedMarkers form with
  | [] => none
  | installed =>
      match form.mesh with
      | .error cause => some cause
      | .ok mesh =>
          let expected (kind : IntegralKind) : Nat := kind.entityDim mesh.topologicalDim
          (installed.find? fun (kind, dim) => dim ≠ expected kind).map fun (kind, dim) =>
            .configuration (.markerDimension kind dim (expected kind))

/-- The first reason not to assemble a form into a tensor of rank `rank`. -/
def obstacle? (form : Form α) (rank : Nat) : Option Error :=
  if rank ≠ form.rank then some (.unsupportedRank form.rank rank)
  else if form.integrals.has .interiorFacet then
    some (.unsupportedOperation .interiorFacetIntegrals)
  else if form.integrals.has .vertex then some (.unsupportedOperation .vertexIntegrals)
  else
    match form.coefficients.firstUnbound? with
    | some (i, name) => some (.configuration (.unboundCoefficient i name))
    | none => misplacedMarkers? form

/-! ## One entity -/

/-- The integral to evaluate on an entity: the one for its marker, or else the one that is for no
marker in particular. -/
def integralOn (integrals : List (Integral α)) (marker : Option Nat) : Option (Integral α) :=
  match marker.bind fun m => integrals.find? fun integral => integral.subdomain = some m with
  | some integral => some integral
  | none => integrals.find? fun integral => integral.subdomain = none

/-- The values on a cell of the coefficient in a slot. -/
def slotValues (cell : PointId) (coordinates : Array α) (entry : CoefficientSlot α × Nat) :
    Except Error (Array α) :=
  match entry.1.function with
  | none => .error (.configuration (.unboundCoefficient entry.2 entry.1.name))
  | some f => f.restrict cell coordinates

/-- The values on a cell of the coefficients that an integral reads, in the order of their slots. -/
def enabledValues (integral : Integral α) (cell : PointId) (coordinates : Array α)
    (entries : List (CoefficientSlot α × Nat)) : Except Error (Array α) := do
  let enabled := entries.filter fun entry => integral.usesCoefficient entry.2
  let values ← enabled.mapM (slotValues cell coordinates)
  return (values.flatMap Array.toList).toArray

variable [Zero α]

/-- Evaluates the kernel of an integral on a block of zeros. -/
def evaluate (integral : Integral α) (visit : Visit) (coordinates coefficients : Array α)
    (rows : List (List Nat)) : Contribution α :=
  let zeros : Vector α (Block.size rows) := .replicate _ 0
  let block := integral.kernel.tabulate zeros coefficients ⟨coordinates, visit.localFacet⟩
    visit.marker
  { call := ⟨zeros.toList, coefficients.toList, coordinates.toList, visit.localFacet, visit.marker⟩
    addend := ⟨block.toList, rows⟩ }

/-- What an integral contributes on an entity of a cell with given coordinates. -/
def contributionAt (form : Form α) (integral : Integral α) (visit : Visit)
    (coordinates : Array α) : Except Error (Contribution α) := do
  let rows ← form.spaces.mapM fun space => space.cellDofs visit.cell
  if form.maxElementTensorSize < Block.size rows then
    throw (.blockShape form.maxElementTensorSize (Block.size rows))
  let coefficients ←
    enabledValues integral visit.cell coordinates form.coefficients.slots.zipIdx
  return evaluate integral visit coordinates coefficients rows

/-- What an integral contributes on an entity. -/
def contribution (form : Form α) (mesh : Mesh α) (integral : Integral α) (visit : Visit) :
    Except Error (Contribution α) := do
  let coordinates ← mesh.cellCoordinates visit.cell
  contributionAt form integral visit coordinates

/-- A contribution is a block at the degrees of freedom of its cell. -/
theorem block_of_contribution {form : Form α} {mesh : Mesh α}
    {integral : Integral α} {visit : Visit} {c : Contribution α} :
    contribution form mesh integral visit = .ok c →
      (form.spaces.mapM fun space => space.cellDofs visit.cell) = .ok c.addend.rows ∧
        c.addend.block.length = Block.size c.addend.rows := by
  intro contributed
  unfold contribution contributionAt at contributed
  cases located : mesh.cellCoordinates visit.cell with
  | error cause => simp [located, bind, Except.bind] at contributed
  | ok coordinates =>
      cases numbered : form.spaces.mapM fun space => space.cellDofs visit.cell with
      | error cause => simp [located, numbered, bind, Except.bind] at contributed
      | ok rows =>
          by_cases room : form.maxElementTensorSize < Block.size rows
          · simp [located, numbered, room, bind, Except.bind, throw, throwThe,
              MonadExceptOf.throw] at contributed
          · cases read : enabledValues integral visit.cell coordinates
                form.coefficients.slots.zipIdx with
            | error cause =>
                simp [located, numbered, room, read, bind, Except.bind] at contributed
            | ok coefficients =>
                have made : c = evaluate integral visit coordinates coefficients rows := by
                  simpa [located, numbered, room, read, bind, Except.bind, pure,
                    Except.pure] using contributed.symm
                simp [made, evaluate]

/-! ## All entities -/

variable [Tensor τ α β]

/-- Adds a contribution. -/
def addContribution (c : Contribution α) (p : Progress τ α) : Except Error Unit × Progress τ α :=
  let evaluated := { p with calls := p.calls ++ [c.call] }
  match Tensor.add p.tensor c.addend.block c.addend.rows with
  | .error cause => (.error cause, evaluated)
  | .ok sum => (.ok (), { evaluated with tensor := sum })

/-- Adds what an entity contributes, if there is an integral for it. The result tells whether there
is one. -/
def addVisit (form : Form α) (mesh : Mesh α) (visit : Visit) (p : Progress τ α) :
    Except Error Bool × Progress τ α :=
  match integralOn (form.integrals.integrals visit.kind) visit.marker with
  | none => (.ok false, p)
  | some integral =>
      match contribution form mesh integral visit with
      | .error cause => (.error cause, p)
      | .ok c =>
          let (outcome, p) := addContribution c p
          (outcome.map fun _ => true, p)

/-- Adds what some entities contribute in turn, and brings a number of blocks up to date. -/
def addVisits (form : Form α) (mesh : Mesh α) :
    List Visit → (count : Nat) → Progress τ α → Except Error Nat × Progress τ α
  | [], count, p => (.ok count, p)
  | visit :: later, count, p =>
      match addVisit form mesh visit p with
      | (.error cause, p) => (.error cause, p)
      | (.ok added, p) => addVisits form mesh later (if added then count + 1 else count) p

/-- Adds what the entities of a kind contribute, if the form has integrals of that kind. -/
def addKind (form : Form α) (kind : IntegralKind) (p : Progress τ α) :
    Except Error Unit × Progress τ α :=
  if form.integrals.has kind then
    match form.mesh with
    | .error cause => (.error cause, p)
    | .ok mesh =>
        match addVisits form mesh (Pass.visits form mesh kind) 0 p with
        | (.error cause, p) => (.error cause, p)
        | (.ok count, p) => (.ok (), { p with events := p.events ++ [.assembled kind count] })
  else
    (.ok (), p)

/-- Adds what all entities contribute: cells first, then facets on the boundary. -/
def addKinds (form : Form α) (p : Progress τ α) : Except Error Unit × Progress τ α :=
  match addKind form .cell p with
  | (.error cause, p) => (.error cause, p)
  | (.ok (), p) => addKind form .exteriorFacet p

/-- Checks a form and adds all that one process contributes to a tensor. -/
def addContributions (options : AssemblyOptions) (form : Form α) (tensor : τ) :
    Except Error Unit × Progress τ α :=
  match obstacle? form (Tensor.rank tensor) with
  | some cause => (.error cause, ⟨tensor, [], []⟩)
  | none => addKinds form ⟨if options.reset then Tensor.zero tensor else tensor, [], []⟩

/-! ## The whole -/

/-- Assembles a form into a tensor, with fresh buffers for every entity. -/
def assembleFresh (options : AssemblyOptions) (form : Form α) (tensor : τ) :
    Exchange β (AssemblyReport τ α) :=
  match addContributions options form tensor with
  | (.error cause, p) => .done (p.report (.error cause))
  | (.ok (), p) =>
      if options.finalize then do
        let applied ← Tensor.apply p.tensor options.mode
        let p := { p with events := p.events ++ applied.events }
        match applied.value with
        | .error cause => .done (p.report (.error cause))
        | .ok tensor => .done (Progress.report { p with tensor } (.ok ()))
      else
        .done (p.report (.ok ()))

end Assembly
end FormAssembly
