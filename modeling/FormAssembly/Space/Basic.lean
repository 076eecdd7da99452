import FormAssembly.Mesh.Simplex

/-!
# Argument spaces

The arguments of a form range over function spaces. Assembly asks a space only for the degrees of
freedom of a cell, for a bound on their number and for the mesh. `ArgumentSpace α` is an open
interface; `DofTable` realizes it by a table.
-/

namespace FormAssembly

/-- A function space on a mesh, as far as assembly looks at it. -/
structure ArgumentSpace (α : Type) where
  /-- Largest number of degrees of freedom of a cell. -/
  maxElementDofs : Nat
  /-- Number of all degrees of freedom. -/
  dim : Nat
  mesh : Mesh α
  /-- Degrees of freedom of a cell. -/
  cellDofs : PointId → Except Error (List Nat)
  /-- Text for inspection, which is written when it is first asked for. -/
  inspection : Thunk String

instance {α : Type} : Inspect (ArgumentSpace α) := ⟨fun space => space.inspection.get⟩

/-! ## Tables of degrees of freedom -/

/-- A space whose cells all have the same number of degrees of freedom, listed cell after cell. -/
structure DofTable (α : Type) where
  mesh : Mesh α
  dofsPerCell : Nat
  table : Array Nat
  dim : Nat
  size_table : table.size = mesh.numCells * dofsPerCell

namespace DofTable

variable {α : Type}

/-- The space with a given table. Its degrees of freedom are numbered up to the largest in the
table. -/
def build (mesh : Mesh α) (dofsPerCell : Nat) (table : Array Nat) : Except Error (DofTable α) :=
  if h : table.size = mesh.numCells * dofsPerCell then
    .ok
      { mesh, dofsPerCell, table
        dim := table.foldl (fun bound dof => max bound (dof + 1)) 0
        size_table := h }
  else
    .error (.configuration (.dofTableSize table.size mesh.numCells dofsPerCell))

/-- Vertices of all cells of a mesh, cell after cell. -/
def vertexTable (mesh : Mesh α) : Except Error (Array Nat) :=
  mesh.foldCells
    (fun table cell => do
      let vertices ← mesh.cellVertices cell
      return table ++ vertices.toArray)
    #[]

/-- The piecewise linear continuous functions: one degree of freedom for each vertex. -/
def linear (mesh : Mesh α) : Except Error (DofTable α) := do
  let table ← vertexTable mesh
  let space ← build mesh (mesh.topologicalDim + 1) table
  return { space with dim := mesh.numEntities 0 }

/-- The piecewise constant functions: one degree of freedom for each cell. -/
def piecewiseConstant (mesh : Mesh α) : Except Error (DofTable α) :=
  build mesh 1 (Array.range mesh.numCells)

/-- Degrees of freedom of a cell. The cells are counted by the table; a table without degrees of
freedom knows no cells. -/
def cellDofs (space : DofTable α) (cell : PointId) : Except Error (List Nat) := do
  Error.checkIndex .cell cell.index (space.table.size / max space.dofsPerCell 1)
  return (space.table.extract (cell.index * space.dofsPerCell)
    ((cell.index + 1) * space.dofsPerCell)).toList

instance : Inspect (DofTable α) :=
  ⟨fun space => Inspect.record "DofMapSpace"
    [("mesh", inspect space.mesh), ("dofs_per_cell", inspect space.dofsPerCell),
     ("table", inspect space.table), ("dim", inspect space.dim)]⟩

/-- The space as assembly sees it. -/
def toSpace (space : DofTable α) : ArgumentSpace α where
  maxElementDofs := space.dofsPerCell
  dim := space.dim
  mesh := space.mesh
  cellDofs := space.cellDofs
  inspection := inspect space

end DofTable
end FormAssembly
