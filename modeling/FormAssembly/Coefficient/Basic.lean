import FormAssembly.Mesh.Point

/-!
# Coefficient functions

A coefficient function is asked for its values on one cell at a time. `CoefficientFunction α` is
an open interface; the library provides constants and values given cell by cell.
-/

namespace FormAssembly

/-- A function that can be restricted to a cell. -/
structure CoefficientFunction (α : Type) where
  /-- The values that a kernel reads on a cell, given the coordinates of its vertices. -/
  restrict : (cell : PointId) → (coordinates : Array α) → Except Error (Array α)
  /-- Text for inspection, which is written when it is first asked for. -/
  inspection : Thunk String

namespace CoefficientFunction

variable {α : Type}

/-- Adds the values on a cell at the end of `buffer`, which stays as it is if there are none. -/
def appendTo (f : CoefficientFunction α) (cell : PointId) (coordinates buffer : Array α) :
    Except Error Unit × Array α :=
  match f.restrict cell coordinates with
  | .ok values => (.ok (), buffer ++ values)
  | .error e => (.error e, buffer)

instance : Inspect (CoefficientFunction α) := ⟨fun f => f.inspection.get⟩

/-- The function with the same values on every cell. -/
def constant [Inspect α] (values : Array α) : CoefficientFunction α where
  restrict := fun _ _ => .ok values
  inspection := Inspect.wrapped "Constant" (inspect values)

end CoefficientFunction

/-! ## Values cell by cell -/

/-- Values of a function, in equal groups for the cells in turn. -/
structure CellwiseValues (α : Type) where
  /-- Number of values of a cell. -/
  width : Nat
  values : Array α
  width_pos : 0 < width
  split : values.size % width = 0

namespace CellwiseValues

variable {α : Type}

/-- Groups of `width` values, if they come out even. -/
def build (width : Nat) (values : Array α) : Except Error (CellwiseValues α) :=
  if h : width = 0 ∨ values.size % width ≠ 0 then
    .error (.configuration .cellwiseWidth)
  else
    .ok ⟨width, values, by omega, by omega⟩

/-- Number of cells that have values. -/
def numCells (f : CellwiseValues α) : Nat :=
  f.values.size / f.width

/-- The group of one cell. -/
def restrict (f : CellwiseValues α) (cell : PointId) : Except Error (Array α) := do
  Error.checkIndex .cell cell.index f.numCells
  return f.values.extract (cell.index * f.width) ((cell.index + 1) * f.width)

instance [Inspect α] : Inspect (CellwiseValues α) :=
  ⟨fun f => Inspect.record "CellwiseValues"
    [("values_per_cell", inspect f.width), ("values", inspect f.values)]⟩

/-- The coefficient function with these values. -/
def toFunction [Inspect α] (f : CellwiseValues α) : CoefficientFunction α where
  restrict := fun cell _ => f.restrict cell
  inspection := inspect f

end CellwiseValues
end FormAssembly
