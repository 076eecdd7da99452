import FormAssembly.Mesh.Point

/-!
# Meshes

`Mesh α` lists what assembly asks of a mesh whose coordinates are numbers of type `α`. It is an
open interface: any functions of these types make a mesh.
-/

namespace FormAssembly

/-- A facet on the boundary, seen from the one cell that has it. -/
structure ExteriorFacet where
  facet : PointId
  cell : PointId
  /-- Number of the facet within its cell. -/
  localFacet : Nat
  deriving DecidableEq

instance : Inspect ExteriorFacet :=
  ⟨fun f => Inspect.record "ExteriorFacet"
    [("facet", inspect f.facet), ("cell", inspect f.cell),
     ("local_facet", inspect f.localFacet)]⟩

/-- A mesh, as far as assembly looks at it. -/
structure Mesh (α : Type) where
  /-- What tells one mesh from another: meshes with one label are the same mesh. -/
  label : Nat
  /-- Dimension of the cells. -/
  topologicalDim : Nat
  /-- Number of coordinates of a vertex. -/
  geometricDim : Nat
  /-- Number of entities of a dimension. -/
  numEntities : Nat → Nat
  /-- Vertices of a cell, in the cell's own order. -/
  cellVertices : PointId → Except Error (List Nat)
  /-- Coordinates of the vertices of a cell, vertex after vertex. -/
  cellCoordinates : PointId → Except Error (Array α)
  /-- Facets on the boundary, in the order of assembly. -/
  exteriorFacets : List ExteriorFacet
  /-- Text for inspection, which is written when it is first asked for. -/
  inspection : Thunk String

namespace Mesh

variable {α : Type}

/-- Number of cells. -/
def numCells (mesh : Mesh α) : Nat :=
  mesh.numEntities mesh.topologicalDim

/-- Cells, in the order of assembly. -/
def cells (mesh : Mesh α) : List PointId :=
  (List.range mesh.numCells).map PointId.ofIndex

/-- Whether two values stand for the same mesh. -/
def same (left right : Mesh α) : Bool :=
  left.label = right.label

/-- Puts the coordinates of a cell into `buffer`, in place of all it held. If they cannot be had,
the buffer is left empty. -/
def readCoordinates (mesh : Mesh α) (cell : PointId) (buffer : Array α) :
    Except Error Unit × Array α :=
  let cleared := buffer.take 0
  match mesh.cellCoordinates cell with
  | .ok coordinates => (.ok (), cleared ++ coordinates)
  | .error e => (.error e, cleared)

theorem readCoordinates_eq (mesh : Mesh α) (cell : PointId) (buffer : Array α) :
    mesh.readCoordinates cell buffer =
      match mesh.cellCoordinates cell with
      | .ok coordinates => (.ok (), coordinates)
      | .error e => (.error e, #[]) := by
  unfold readCoordinates
  cases mesh.cellCoordinates cell <;> simp

instance : Inspect (Mesh α) := ⟨fun mesh => mesh.inspection.get⟩

/-! ## One cell after another -/

variable {σ : Type} {m : Type → Type} [Monad m]

/-- Goes on with `number` cells, of which `first` is the first. -/
@[specialize] def foldCellsFrom (f : σ → PointId → m σ) : (number first : Nat) → σ → m σ
  | 0, _, state => pure state
  | number + 1, first, state => do
      let state ← f state (PointId.ofIndex first)
      foldCellsFrom f number (first + 1) state

/-- Passes a state from cell to cell. The list of cells is never made, so a mesh may be much larger
than the part of it that `f` gets to see. -/
@[inline] def foldCells (mesh : Mesh α) (f : σ → PointId → m σ) (state : σ) : m σ :=
  foldCellsFrom f mesh.numCells 0 state

theorem foldCellsFrom_eq_foldlM (f : σ → PointId → m σ) (number first : Nat) (state : σ) :
    foldCellsFrom f number first state =
      ((List.range' first number).map PointId.ofIndex).foldlM f state := by
  induction number generalizing first state with
  | zero => rfl
  | succ number ih =>
      simp only [foldCellsFrom, List.range'_succ, List.map_cons, List.foldlM_cons, ih]

theorem foldCells_eq_foldlM (mesh : Mesh α) (f : σ → PointId → m σ) (state : σ) :
    mesh.foldCells f state = mesh.cells.foldlM f state := by
  rw [foldCells, foldCellsFrom_eq_foldlM, cells, List.range_eq_range']

end Mesh
end FormAssembly
