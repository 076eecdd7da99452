import FormAssembly.Form.Basic
import FormAssembly.Tensor.Basic

/-!
# One pass over a mesh

A pass visits the entities of a mesh, evaluates on each the kernel of the integral that is to be
used there, and adds the block to a tensor. It deals with this process alone and sends nothing.

All entities share one workspace, whose room is fixed once for the largest block. What an entity
leaves there is not seen by the next: coordinates and coefficient values are replaced, and the part
of the block that is used is zeroed (`Workspace.toList_zeroedBlock`).
-/

namespace FormAssembly

/-! ## Workspace -/

/-- Buffers that are used again for every entity. -/
structure Workspace (α : Type) where
  /-- Number of values of the largest block there is room for. -/
  room : Nat
  /-- The front of the block, as far as entities have filled it. Behind it there are zeros. -/
  block : Array α
  /-- Coordinates of the vertices of a cell. -/
  coordinates : Array α
  /-- Values of the coefficients that a kernel reads. -/
  coefficients : Array α

namespace Workspace

variable {α : Type}

/-- Buffers for blocks of at most `room` values. -/
def ofRoom (room : Nat) : Workspace α :=
  ⟨room, #[], #[], #[]⟩

/-- The first `n` places of the block: those that have been filled are zeroed. -/
def zeroedBlock [Zero α] (ws : Workspace α) (n : Nat) : Vector α n :=
  ⟨((ws.block.take n).map fun _ => 0) ++ Array.replicate (n - ws.block.size) 0, by
    simp only [Array.size_append, Array.size_map, Array.take_eq_extract, Array.size_extract,
      Array.size_replicate]
    omega⟩

/-- Writes a block over the front of the buffer. -/
def storeBlock {n : Nat} (ws : Workspace α) (block : Vector α n) : Workspace α :=
  { ws with block := block.toArray ++ ws.block.drop n }

/-- Whatever earlier entities left behind, the next one starts from zeros. -/
theorem toList_zeroedBlock [Zero α] (ws : Workspace α) (n : Nat) :
    (ws.zeroedBlock n).toList = List.replicate n 0 := by
  refine List.eq_replicate_iff.mpr ⟨by simp, fun value inside => ?_⟩
  simp only [zeroedBlock, Vector.toList_mk, Array.toList_append, List.mem_append] at inside
  rcases inside with filled | fresh
  · simp only [Array.toList_map, List.mem_map] at filled
    obtain ⟨_, _, rfl⟩ := filled
    rfl
  · simpa using (List.mem_replicate.mp (by simpa using fresh)).2

end Workspace

/-! ## State of a pass -/

/-- What a kernel was called with. -/
structure KernelCall (α : Type) where
  /-- The block it was handed. -/
  block : List α
  coefficients : List α
  coordinates : List α
  localFacet : Option Nat
  marker : Option Nat
  deriving DecidableEq

/-- What a pass works on, and what it has done. -/
structure PassState (τ α : Type) where
  tensor : τ
  workspace : Workspace α
  /-- Kernel calls so far, newest first. -/
  calls : List (KernelCall α) := []
  events : List Event := []

/-- Part of a pass. If it fails, what it did before remains visible. -/
abbrev Pass (τ α : Type) := ExceptT Error (StateM (PassState τ α))

/-- An entity that a pass visits. -/
structure Visit where
  kind : IntegralKind
  /-- The cell that the entity is or belongs to. -/
  cell : PointId
  localFacet : Option Nat
  marker : Option Nat
  deriving DecidableEq

namespace Pass

variable {τ α β : Type}

/-- Carries on with a workspace computation, keeping what it leaves in the workspace. -/
def onWorkspace (f : Workspace α → Except Error Unit × Workspace α) : Pass τ α Unit := do
  let (outcome, workspace) := f (← get).workspace
  modify fun s => { s with workspace }
  liftM outcome

/-! ## Coefficients -/

/-- Adds to `buffer` the values on a cell of the coefficients that an integral reads, in the order
of their slots. The first that is unbound or has no values there ends it. -/
def gatherFrom (integral : Integral α) (cell : PointId) (coordinates : Array α) :
    List (CoefficientSlot α × Nat) → Array α → Except Error Unit × Array α
  | [], buffer => (.ok (), buffer)
  | (slot, i) :: rest, buffer =>
      if integral.usesCoefficient i then
        match slot.function with
        | none => (.error (.configuration (.unboundCoefficient i slot.name)), buffer)
        | some f =>
            match f.appendTo cell coordinates buffer with
            | (.ok (), longer) => gatherFrom integral cell coordinates rest longer
            | (.error e, same) => (.error e, same)
      else
        gatherFrom integral cell coordinates rest buffer

/-- Fills the workspace with the values of the coefficients that an integral reads on a cell. -/
def gather (coefficients : CoefficientSet α) (integral : Integral α) (cell : PointId)
    (ws : Workspace α) : Except Error Unit × Workspace α :=
  let (outcome, buffer) :=
    gatherFrom integral cell ws.coordinates coefficients.slots.zipIdx (ws.coefficients.take 0)
  (outcome, { ws with coefficients := buffer })

/-! ## One entity -/

variable [Zero α] [Tensor τ α β]

/-- Evaluates an integral on an entity and adds the block to the tensor. The coordinates of the
cell are in the workspace. -/
def addEntity (form : Form α) (integral : Integral α) (visit : Visit) : Pass τ α Unit := do
  let rows ← form.spaces.mapM fun space => liftM (space.cellDofs visit.cell)
  let n := Block.size rows
  let room := (← get).workspace.room
  if room < n then
    throw (.blockShape room n)
  onWorkspace (gather form.coefficients integral visit.cell)
  let ws := (← get).workspace
  let entry := ws.zeroedBlock n
  let block := integral.kernel.tabulate entry ws.coefficients
    ⟨ws.coordinates, visit.localFacet⟩ visit.marker
  let call : KernelCall α :=
    ⟨entry.toList, ws.coefficients.toList, ws.coordinates.toList, visit.localFacet, visit.marker⟩
  modify fun s => { s with workspace := ws.storeBlock block, calls := call :: s.calls }
  let sum ← liftM (Tensor.add (← get).tensor block.toList rows)
  modify fun s => { s with tensor := sum }

/-- Visits an entity: passes it by if no integral is for it. The result tells whether one was. -/
def visitEntity (form : Form α) (mesh : Mesh α) (visit : Visit) : Pass τ α Bool := do
  match form.integrals.integralFor visit.kind visit.marker with
  | none => return false
  | some integral =>
      onWorkspace fun ws =>
        let (outcome, coordinates) := mesh.readCoordinates visit.cell ws.coordinates
        (outcome, { ws with coordinates })
      addEntity form integral visit
      return true

/-- Visits an entity and brings the number of blocks added up to date. -/
def countVisit (form : Form α) (mesh : Mesh α) (count : Nat) (visit : Visit) : Pass τ α Nat := do
  let added ← visitEntity form mesh visit
  return if added then count + 1 else count

/-! ## All entities -/

/-- The visit to a cell. -/
def cellVisit (form : Form α) (cell : PointId) : Visit :=
  ⟨.cell, cell, none, form.marker .cell cell⟩

/-- The visit to a facet on the boundary. -/
def facetVisit (form : Form α) (f : ExteriorFacet) : Visit :=
  ⟨.exteriorFacet, f.cell, some f.localFacet, form.marker .exteriorFacet f.facet⟩

/-- The entities of a kind, in the order of assembly. -/
def visits (form : Form α) (mesh : Mesh α) : IntegralKind → List Visit
  | .cell => mesh.cells.map (cellVisit form)
  | .exteriorFacet => mesh.exteriorFacets.map (facetVisit form)
  | .interiorFacet | .vertex => []

/-- Visits all entities of a kind; the result is the number of blocks added. -/
def visitAll (form : Form α) (mesh : Mesh α) : IntegralKind → Pass τ α Nat
  | .cell => mesh.foldCells (fun count cell => countVisit form mesh count (cellVisit form cell)) 0
  | .exteriorFacet =>
      mesh.exteriorFacets.foldlM (fun count f => countVisit form mesh count (facetVisit form f)) 0
  | .interiorFacet | .vertex => return 0

theorem visitAll_eq_foldlM (form : Form α) (mesh : Mesh α) (kind : IntegralKind) :
    (visitAll form mesh kind : Pass τ α Nat) =
      (visits form mesh kind).foldlM (countVisit form mesh) 0 := by
  cases kind with
  | cell => simp only [visitAll, visits, Mesh.foldCells_eq_foldlM, List.foldlM_map]
  | exteriorFacet => simp only [visitAll, visits, List.foldlM_map]
  | interiorFacet => rfl
  | vertex => rfl

/-- Assembles the integrals of a kind, if the form has any. -/
def assembleKind (form : Form α) (kind : IntegralKind) : Pass τ α Unit := do
  if form.integrals.has kind then
    let mesh ← liftM form.mesh
    let count ← visitAll form mesh kind
    modify fun s => { s with events := s.events ++ [.assembled kind count] }

end Pass
end FormAssembly
