import Mathlib.Tactic.Ring
import FormAssembly.Mesh.Grid
import FormAssembly.Proofs.Mesh.FacetNumbers
import FormAssembly.Proofs.Message.RankOrder
import FormAssembly.Proofs.Tensor.RowMajor

/-!
# Edges of the unit square

The facets of the triangles of the unit square are edges of the grid: horizontal and vertical ones
and the diagonals of the rectangles. Walking through the rectangles one comes across every edge
once for each triangle that has it (`SquareGrid.places_eq`, `SquareGrid.keyAt_eq`).
-/

namespace FormAssembly

/-! ## Reading tables -/

/-- What lies within one of several equally long pieces. -/
theorem take_drop_flatMap {α : Type} {piece : Nat → List α} {count width i skipped taken : Nat}
    (equal : ∀ i < count, (piece i).length = width) (inside : i < count)
    (room : skipped + taken ≤ width) :
    (((List.range count).flatMap piece).drop (i * width + skipped)).take taken =
      ((piece i).drop skipped).take taken := by
  refine List.ext_getElem? ?_
  intro k
  by_cases early : k < taken
  · have found : (inRankOrder count piece)[i * width + (skipped + k)]? = (piece i)[skipped + k]? :=
      getElem?_inRankOrder inside (by omega) equal
    simpa [early, Nat.add_assoc, inRankOrder] using found
  · simp [early]

theorem FacetCensus.cellSlice_toArray (width : Nat) (vertices : List Nat) (cell : Nat) :
    cellSlice width vertices.toArray cell = (vertices.drop (cell * width)).take width := by
  simp [cellSlice, Nat.succ_mul]

/-- An edge of a grid. -/
inductive GridEdge where
  /-- From column `i` to the next one, in row `j`. -/
  | horizontal (i j : Nat)
  /-- From row `j` to the next one, in column `i`. -/
  | vertical (i j : Nat)
  /-- From column `i` and row `j` to the next column and row. -/
  | diagonal (i j : Nat)
  deriving DecidableEq

namespace GridEdge

open SimplexMesh

/-- Columns and rows of the two vertices. -/
def ends : GridEdge → List (Nat × Nat)
  | horizontal i j => [(i, j), (i + 1, j)]
  | vertical i j => [(i, j), (i, j + 1)]
  | diagonal i j => [(i, j), (i + 1, j + 1)]

/-- Numbers of the two vertices, in ascending order. -/
def vertices (nx : Nat) (e : GridEdge) : List Nat :=
  e.ends.map fun (i, j) => gridVertex nx i j

/-- The edge belongs to a grid of `nx` columns and `ny` rows of rectangles. -/
def Inside (nx ny : Nat) : GridEdge → Prop
  | horizontal i j => i < nx ∧ j ≤ ny
  | vertical i j => i ≤ nx ∧ j < ny
  | diagonal i j => i < nx ∧ j < ny

/-- The edge lies on a side of the square. -/
def OnSide (nx ny : Nat) : GridEdge → Prop
  | horizontal _ j => j = 0 ∨ j = ny
  | vertical i _ => i = 0 ∨ i = nx
  | diagonal _ _ => False

instance (nx ny : Nat) : DecidablePred (OnSide nx ny)
  | horizontal _ _ => inferInstanceAs (Decidable (_ ∨ _))
  | vertical _ _ => inferInstanceAs (Decidable (_ ∨ _))
  | diagonal _ _ => inferInstanceAs (Decidable False)

end GridEdge

/-! ## Triangles -/

namespace SquareGrid

open SimplexMesh FacetCensus

variable {nx ny i j : Nat} {e other : GridEdge} {place : Nat × Nat}

theorem column_of_vertex (inside : i ≤ nx) : gridVertex nx i j % (nx + 1) = i := by
  simp [gridVertex, Nat.mod_eq_of_lt (Nat.lt_succ_of_le inside)]

theorem row_of_vertex (inside : i ≤ nx) : gridVertex nx i j / (nx + 1) = j := by
  have below : i < nx + 1 := Nat.lt_succ_of_le inside
  exact ((Nat.div_mod_unique (Nat.succ_pos nx)).mpr ⟨by simp [gridVertex]; ring, below⟩).1

theorem gridVertex_le {column row : Nat} (right : i ≤ column) (up : j ≤ row) :
    gridVertex nx i j ≤ gridVertex nx column row := by
  have below : j * (nx + 1) ≤ row * (nx + 1) := Nat.mul_le_mul_right (nx + 1) up
  simp only [gridVertex]
  omega

/-- Number of the triangle below (`half = 0`) or above (`half = 1`) the diagonal of a rectangle. -/
def triangle (nx i j half : Nat) : Nat :=
  j * (nx * 2) + (i * 2 + half)

/-- Vertices of a triangle. -/
def corners (nx i j : Nat) : (half : Nat) → List Nat
  | 0 => [gridVertex nx i j, gridVertex nx (i + 1) j, gridVertex nx (i + 1) (j + 1)]
  | _ => [gridVertex nx i j, gridVertex nx (i + 1) (j + 1), gridVertex nx i (j + 1)]

theorem length_row (nx j : Nat) :
    ((List.range nx).flatMap fun i => corners nx i j 0 ++ corners nx i j 1).length = nx * 6 :=
  length_inRankOrder fun _ _ => rfl

theorem length_squareCells (nx ny : Nat) : (squareCells nx ny).length = ny * (nx * 6) :=
  length_inRankOrder fun j _ => length_row nx j

theorem cellSlice_triangle (column : i < nx) (row : j < ny) {half : Nat} (one : half < 2) :
    cellSlice 3 (squareCells nx ny).toArray (triangle nx i j half) = corners nx i j half := by
  have place : triangle nx i j half * 3 = j * (nx * 6) + (i * 6 + half * 3) := by
    simp only [triangle]
    ring
  have inRow : i * 6 + half * 3 + 3 ≤ nx * 6 := by
    omega
  calc cellSlice 3 (squareCells nx ny).toArray (triangle nx i j half)
      = ((squareCells nx ny).drop (j * (nx * 6) + (i * 6 + half * 3))).take 3 := by
        simp [cellSlice_toArray, place]
    _ = (((List.range nx).flatMap fun i => corners nx i j 0 ++ corners nx i j 1).drop
          (i * 6 + half * 3)).take 3 :=
        take_drop_flatMap (fun j _ => length_row nx j) row inRow
    _ = ((corners nx i j 0 ++ corners nx i j 1).drop (half * 3)).take 3 :=
        take_drop_flatMap (fun _ _ => rfl) column (by omega)
    _ = corners nx i j half := by
        match half, one with
        | 0, _ => rfl
        | 1, _ => rfl

/-! ## Sides of triangles -/

/-- Edges of the triangles of a rectangle. With each comes the cell that it belongs to and its
number there. -/
def sidesOf (nx i j : Nat) : List (GridEdge × Nat × Nat) :=
  [(.vertical (i + 1) j, triangle nx i j 0, 0), (.diagonal i j, triangle nx i j 0, 1),
   (.horizontal i j, triangle nx i j 0, 2), (.horizontal i (j + 1), triangle nx i j 1, 0),
   (.vertical i j, triangle nx i j 1, 1), (.diagonal i j, triangle nx i j 1, 2)]

/-- Edges of all triangles, cell after cell. -/
def sides (nx ny : Nat) : List (GridEdge × Nat × Nat) :=
  (List.range ny).flatMap fun j => (List.range nx).flatMap fun i => sidesOf nx i j

/-- Every (cell, local facet) is met once, and in the order of the census. -/
theorem places_eq (nx ny : Nat) :
    places 3 (squareCells nx ny).toArray = (sides nx ny).map (·.2) := by
  have cells : (squareCells nx ny).length / 3 = ny * (nx * 2) := by
    have total : (squareCells nx ny).length = ny * (nx * 2) * 3 := by
      simp only [length_squareCells]
      ring
    simp [total]
  have halves : List.range 2 = [0, 1] := rfl
  have facets : List.range 3 = [0, 1, 2] := rfl
  simp [places, cells, Block.range_mul, halves, facets, sides, sidesOf, triangle, SProd.sprod,
    List.product, List.map_flatMap, List.flatMap_assoc]

theorem mem_sidesOf :
    (e, place) ∈ sidesOf nx i j ↔
      (e = .vertical (i + 1) j ∧ place = (triangle nx i j 0, 0)) ∨
      (e = .diagonal i j ∧ place = (triangle nx i j 0, 1)) ∨
      (e = .horizontal i j ∧ place = (triangle nx i j 0, 2)) ∨
      (e = .horizontal i (j + 1) ∧ place = (triangle nx i j 1, 0)) ∨
      (e = .vertical i j ∧ place = (triangle nx i j 1, 1)) ∨
      (e = .diagonal i j ∧ place = (triangle nx i j 1, 2)) := by
  simp only [sidesOf, List.mem_cons, List.not_mem_nil, or_false, Prod.mk.injEq]

theorem mem_sides :
    (e, place) ∈ sides nx ny ↔ ∃ j < ny, ∃ i < nx, (e, place) ∈ sidesOf nx i j := by
  simp [sides]

theorem insertionSort_pair {v w : Nat} (ascending : v ≤ w) :
    [v, w].insertionSort (· ≤ ·) = [v, w] ∧ [w, v].insertionSort (· ≤ ·) = [v, w] := by
  by_cases same : v = w
  · simp [same]
  · have swapped : ¬ w ≤ v := by
      omega
    simp [ascending, swapped]

/-- The vertex set of a facet is that of the edge. -/
theorem keyAt_eq :
    (e, place) ∈ sides nx ny → keyAt 3 (squareCells nx ny).toArray place = e.vertices nx := by
  intro listed
  rcases mem_sides.mp listed with ⟨j, row, i, column, among⟩
  have facet : ∀ half < 2, ∀ localFacet,
      keyAt 3 (squareCells nx ny).toArray (triangle nx i j half, localFacet) =
        ((corners nx i j half).eraseIdx localFacet).insertionSort (· ≤ ·) := by
    intro half one localFacet
    simp only [keyAt, cellSlice_triangle column row one]
  have right : i ≤ i + 1 := Nat.le_succ i
  have up : j ≤ j + 1 := Nat.le_succ j
  -- Only the upper side of the rectangle has its vertices in the other order.
  rcases mem_sidesOf.mp among with
    ⟨rfl, rfl⟩ | ⟨rfl, rfl⟩ | ⟨rfl, rfl⟩ | ⟨rfl, rfl⟩ | ⟨rfl, rfl⟩ | ⟨rfl, rfl⟩
  · exact (facet 0 (by decide) 0).trans (insertionSort_pair (gridVertex_le (Nat.le_refl _) up)).1
  · exact (facet 0 (by decide) 1).trans (insertionSort_pair (gridVertex_le right up)).1
  · exact (facet 0 (by decide) 2).trans (insertionSort_pair (gridVertex_le right (Nat.le_refl _))).1
  · exact (facet 1 (by decide) 0).trans (insertionSort_pair (gridVertex_le right (Nat.le_refl _))).2
  · exact (facet 1 (by decide) 1).trans (insertionSort_pair (gridVertex_le (Nat.le_refl _) up)).1
  · exact (facet 1 (by decide) 2).trans (insertionSort_pair (gridVertex_le right up)).1

/-! ## Edges inside a grid -/

theorem inside_of_mem : (e, place) ∈ sides nx ny → e.Inside nx ny := by
  intro listed
  rcases mem_sides.mp listed with ⟨j, row, i, column, among⟩
  rcases mem_sidesOf.mp among with
    ⟨rfl, rfl⟩ | ⟨rfl, rfl⟩ | ⟨rfl, rfl⟩ | ⟨rfl, rfl⟩ | ⟨rfl, rfl⟩ | ⟨rfl, rfl⟩ <;>
    simp [GridEdge.Inside] <;> omega

theorem column_le_of_mem_ends {p : Nat × Nat} (inside : e.Inside nx ny) :
    p ∈ e.ends → p.1 ≤ nx := by
  intro among
  cases e <;> simp [GridEdge.Inside, GridEdge.ends] at inside among <;> grind

/-- The numbers of its vertices tell where an edge is. -/
theorem map_vertices (inside : e.Inside nx ny) :
    ((e.vertices nx).map fun v => (v % (nx + 1), v / (nx + 1))) = e.ends := by
  have found : ∀ p ∈ e.ends,
      (gridVertex nx p.1 p.2 % (nx + 1), gridVertex nx p.1 p.2 / (nx + 1)) = p := by
    intro p among
    have column := column_le_of_mem_ends inside among
    simp [column_of_vertex column, row_of_vertex column]
  simpa [GridEdge.vertices, Function.comp_def] using List.map_congr_left found

theorem ends_inj : e.ends = other.ends → e = other := by
  intro same
  cases e <;> cases other <;> simp [GridEdge.ends] at same <;> simp <;> omega

/-- Different edges of a grid have different vertices. -/
theorem vertices_inj (here : e.Inside nx ny) (there : other.Inside nx ny) :
    e.vertices nx = other.vertices nx ↔ e = other := by
  constructor
  · intro same
    refine ends_inj ?_
    simpa only [map_vertices here, map_vertices there] using
      congrArg (List.map fun v => (v % (nx + 1), v / (nx + 1))) same
  · rintro rfl
    rfl

/-- All vertices lie on one of the four sides of the square, where a vertex lies in the column and
the row that its number tells. -/
def OnOneSide (nx ny : Nat) (vertices : List Nat) : Prop :=
  (∀ v ∈ vertices, v % (nx + 1) = 0) ∨ (∀ v ∈ vertices, v % (nx + 1) = nx) ∨
    (∀ v ∈ vertices, v / (nx + 1) = 0) ∨ ∀ v ∈ vertices, v / (nx + 1) = ny

instance (nx ny : Nat) : DecidablePred (OnOneSide nx ny) :=
  fun _ => inferInstanceAs (Decidable (_ ∨ _))

theorem onOneSide_vertices (inside : e.Inside nx ny) :
    OnOneSide nx ny (e.vertices nx) ↔ e.OnSide nx ny := by
  have placed : ∀ P : Nat × Nat → Prop,
      (∀ v ∈ e.vertices nx, P (v % (nx + 1), v / (nx + 1))) ↔ ∀ p ∈ e.ends, P p := by
    intro P
    simp [← map_vertices inside]
  have column : ∀ k, (∀ v ∈ e.vertices nx, v % (nx + 1) = k) ↔ ∀ p ∈ e.ends, p.1 = k :=
    fun k => placed fun p => p.1 = k
  have row : ∀ k, (∀ v ∈ e.vertices nx, v / (nx + 1) = k) ↔ ∀ p ∈ e.ends, p.2 = k :=
    fun k => placed fun p => p.2 = k
  simp only [OnOneSide, column, row]
  cases e <;> simp [GridEdge.ends, GridEdge.OnSide] <;> omega

end SquareGrid
end FormAssembly
