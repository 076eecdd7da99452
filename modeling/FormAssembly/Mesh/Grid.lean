import FormAssembly.Mesh.Simplex

/-!
# Uniform grids

The interval cut into equal cells, and the unit square cut into rectangles, each of which is cut
into two triangles along its rising diagonal.
-/

namespace FormAssembly
namespace SimplexMesh

/-! ## The interval -/

/-- Cells of an interval of `n` cells, each with its left vertex first. -/
def intervalCells (n : Nat) : List Nat :=
  (List.range n).flatMap fun i => [i, i + 1]

/-- The interval from `a` to `b` in `n` equal cells. -/
def interval (n : Nat) (a b : Binary64) : Except Error (SimplexMesh Binary64) :=
  if n = 0 then .error (.configuration .emptyInterval)
  else
    let h := (b - a) / Binary64.ofNat n
    let points := (List.range (n + 1)).map fun i => a + h * Binary64.ofNat i
    build 1 1 points.toArray (intervalCells n).toArray

/-! ## The unit square -/

/-- Number of the vertex in column `i` and row `j` of a grid of `nx` columns of cells. -/
def gridVertex (nx i j : Nat) : Nat :=
  j * (nx + 1) + i

/-- Triangles of a grid of `nx` columns and `ny` rows: row after row, and of each rectangle first
the triangle below its diagonal. -/
def squareCells (nx ny : Nat) : List Nat :=
  (List.range ny).flatMap fun j =>
    (List.range nx).flatMap fun i =>
      [gridVertex nx i j, gridVertex nx (i + 1) j, gridVertex nx (i + 1) (j + 1),
       gridVertex nx i j, gridVertex nx (i + 1) (j + 1), gridVertex nx i (j + 1)]

/-- Coordinates of the vertices of the grid, row after row. -/
def squarePoints (nx ny : Nat) : List Binary64 :=
  (List.range (ny + 1)).flatMap fun j =>
    (List.range (nx + 1)).flatMap fun i =>
      [Binary64.ofNat i / Binary64.ofNat nx, Binary64.ofNat j / Binary64.ofNat ny]

/-- The unit square in `nx` columns and `ny` rows. -/
def unitSquare (nx ny : Nat) : Except Error (SimplexMesh Binary64) :=
  if nx = 0 ∨ ny = 0 then .error (.configuration .emptySquare)
  else build 2 2 (squarePoints nx ny).toArray (squareCells nx ny).toArray

end SimplexMesh
end FormAssembly
