import Mathlib.Algebra.BigOperators.Ring.Finset
import Mathlib.Data.Nat.SuccPred
import FormAssembly.Proofs.Mesh.GridEdges

/-!
# Facets of grids

An edge of the unit square has one cell if it lies on a side of the square, and two cells otherwise
(`SquareGrid.length_owners`). From this follows how many edges there are and which of them make the
boundary. The interval has no facets but its vertices, and only the two outermost of them belong to
one cell (`IntervalGrid.unshared_iff`). `SimplexMesh.boundary_of_grids` says so of the meshes.
-/

namespace FormAssembly

open SimplexMesh FacetCensus

namespace SquareGrid

variable {nx ny : Nat} {e : GridEdge} {place : Nat × Nat}

/-! ## Cells at an edge -/

/-- The (cell, local facet) at which an edge appears. -/
def owners (nx ny : Nat) : GridEdge → List (Nat × Nat)
  | .horizontal i j => (if j < ny then [(triangle nx i j 0, 2)] else []) ++
      if 0 < j then [(triangle nx i (j - 1) 1, 0)] else []
  | .vertical i j => (if i < nx then [(triangle nx i j 1, 1)] else []) ++
      if 0 < i then [(triangle nx (i - 1) j 0, 0)] else []
  | .diagonal i j => [(triangle nx i j 0, 1), (triangle nx i j 1, 2)]

theorem mem_owners_of_mem_sides : (e, place) ∈ sides nx ny → place ∈ owners nx ny e := by
  intro listed
  rcases mem_sides.mp listed with ⟨j, row, i, column, among⟩
  rcases mem_sidesOf.mp among with
    ⟨rfl, rfl⟩ | ⟨rfl, rfl⟩ | ⟨rfl, rfl⟩ | ⟨rfl, rfl⟩ | ⟨rfl, rfl⟩ | ⟨rfl, rfl⟩ <;>
    simp [owners, row, column]

theorem mem_sides_of_mem_owners (inside : e.Inside nx ny) :
    place ∈ owners nx ny e → (e, place) ∈ sides nx ny := by
  intro among
  -- An edge belongs to the rectangle after it, unless there is none, and to the one before it.
  cases e with
  | horizontal i j =>
      have column : i < nx := inside.1
      simp [owners] at among
      rcases among with ⟨row, rfl⟩ | ⟨positive, rfl⟩
      · exact mem_sides.mpr ⟨j, row, i, column, by simp [sidesOf]⟩
      · have below : j - 1 < ny := Nat.sub_one_lt_of_le positive inside.2
        exact mem_sides.mpr
          ⟨j - 1, below, i, column, by simp [sidesOf, Nat.sub_add_cancel positive]⟩
  | vertical i j =>
      have row : j < ny := inside.2
      simp [owners] at among
      rcases among with ⟨column, rfl⟩ | ⟨positive, rfl⟩
      · exact mem_sides.mpr ⟨j, row, i, column, by simp [sidesOf]⟩
      · have left : i - 1 < nx := Nat.sub_one_lt_of_le positive inside.1
        exact mem_sides.mpr
          ⟨j, row, i - 1, left, by simp [sidesOf, Nat.sub_add_cancel positive]⟩
  | diagonal i j =>
      simp [owners] at among
      rcases among with rfl | rfl
      · exact mem_sides.mpr ⟨j, inside.2, i, inside.1, by simp [sidesOf]⟩
      · exact mem_sides.mpr ⟨j, inside.2, i, inside.1, by simp [sidesOf]⟩

theorem length_owners (wide : 0 < nx) (high : 0 < ny) (inside : e.Inside nx ny) :
    (owners nx ny e).length = if e.OnSide nx ny then 1 else 2 := by
  cases e <;> simp only [GridEdge.Inside, GridEdge.OnSide, owners] at inside ⊢ <;> grind

/-- One of the two triangles at an edge is below a diagonal and the other one above. -/
theorem pairwise_owners (nx ny : Nat) (e : GridEdge) :
    (owners nx ny e).Pairwise fun p q => p.1 ≠ q.1 := by
  have parity : ∀ i j half, triangle nx i j half = 2 * (j * nx + i) + half := by
    intro i j half
    simp only [triangle]
    ring
  cases e <;> simp [owners, parity] <;> grind

theorem mem_places_iff :
    place ∈ places 3 (squareCells nx ny).toArray ↔ ∃ e, (e, place) ∈ sides nx ny := by
  simp [places_eq]

/-- The (cell, local facet) with the vertices of an edge are those at which the edge appears. -/
theorem mem_owners_iff {other : Nat × Nat} (listed : (e, place) ∈ sides nx ny) :
    other ∈ owners nx ny e ↔ other ∈ places 3 (squareCells nx ny).toArray ∧
      keyAt 3 (squareCells nx ny).toArray other = keyAt 3 (squareCells nx ny).toArray place := by
  have here : e.Inside nx ny := inside_of_mem listed
  constructor
  · intro among
    have there : (e, other) ∈ sides nx ny := mem_sides_of_mem_owners here among
    exact ⟨mem_places_iff.mpr ⟨e, there⟩, (keyAt_eq there).trans (keyAt_eq listed).symm⟩
  · rintro ⟨among, same⟩
    rcases mem_places_iff.mp among with ⟨e', there⟩
    have vertices : e'.vertices nx = e.vertices nx :=
      (keyAt_eq there).symm.trans (same.trans (keyAt_eq listed))
    obtain rfl := (vertices_inj (inside_of_mem there) here).mp vertices
    exact mem_owners_of_mem_sides there

theorem owners_of_onSide (wide : 0 < nx) (high : 0 < ny) (listed : (e, place) ∈ sides nx ny) :
    e.OnSide nx ny → owners nx ny e = [place] := by
  intro onSide
  have one : (owners nx ny e).length = 1 := by
    simpa [onSide] using length_owners wide high (inside_of_mem listed)
  rcases List.length_eq_one_iff.mp one with ⟨p, single⟩
  have among : place ∈ owners nx ny e := mem_owners_of_mem_sides listed
  obtain rfl : place = p := by simpa [single] using among
  exact single

theorem owners_of_not_onSide (wide : 0 < nx) (high : 0 < ny) (inside : e.Inside nx ny) :
    ¬ e.OnSide nx ny → ∃ p q, p.1 ≠ q.1 ∧ owners nx ny e = [p, q] := by
  intro within
  have two : (owners nx ny e).length = 2 := by
    simpa [within] using length_owners wide high inside
  rcases List.length_eq_two.mp two with ⟨p, q, pair⟩
  have apart : p.1 ≠ q.1 := by
    simpa [pair] using pairwise_owners nx ny e
  exact ⟨p, q, apart, pair⟩

theorem unshared_iff (wide : 0 < nx) (high : 0 < ny) (listed : (e, place) ∈ sides nx ny) :
    Unshared 3 (squareCells nx ny).toArray place ↔ e.OnSide nx ny := by
  have alone : Unshared 3 (squareCells nx ny).toArray place ↔
      ∀ other ∈ owners nx ny e, other = place := by
    simp only [Unshared, mem_owners_iff listed, and_imp]
  refine alone.trans ?_
  by_cases onSide : e.OnSide nx ny
  · simp [owners_of_onSide wide high listed onSide, onSide]
  · -- There are two owners, so one of them is another place.
    rcases owners_of_not_onSide wide high (inside_of_mem listed) onSide with ⟨p, q, apart, pair⟩
    have different : p ≠ q := fun same => apart (congrArg Prod.fst same)
    simp [pair, onSide]
    rintro rfl
    exact different.symm

theorem onOneSide_keyAt (listed : (e, place) ∈ sides nx ny) :
    OnOneSide nx ny (keyAt 3 (squareCells nx ny).toArray place) ↔ e.OnSide nx ny := by
  simp only [keyAt_eq listed, onOneSide_vertices (inside_of_mem listed)]

/-! ## Counting edges -/

theorem boundary_eq_filter (wide : 0 < nx) (high : 0 < ny) :
    boundary 3 (squareCells nx ny).toArray = (places 3 (squareCells nx ny).toArray).filter
      fun place => OnOneSide nx ny (keyAt 3 (squareCells nx ny).toArray place) := by
  refine List.filter_congr ?_
  intro place among
  rcases mem_places_iff.mp among with ⟨e, listed⟩
  simp only [unshared_iff wide high listed, onOneSide_keyAt listed]

/-- The boundary are the edges on the sides, as they appear cell after cell. -/
theorem boundary_eq_map (wide : 0 < nx) (high : 0 < ny) :
    boundary 3 (squareCells nx ny).toArray =
      ((sides nx ny).filter fun side => side.1.OnSide nx ny).map (·.2) := by
  have same : ∀ side ∈ sides nx ny,
      decide (Unshared 3 (squareCells nx ny).toArray side.2) = decide (side.1.OnSide nx ny) := by
    intro side listed
    simp only [unshared_iff wide high listed]
  simp [boundary, places_eq, List.filter_map, Function.comp_def, List.filter_congr same]

/-- The first and the last of several numbers are counted. -/
theorem sum_outermost {n : Nat} (positive : 0 < n) :
    ∑ i ∈ Finset.range n, ((if i = 0 then 1 else 0) + if i + 1 = n then 1 else 0) = 2 := by
  have last : ∀ i, i + 1 = n ↔ i = n - 1 := by
    omega
  have inside : n - 1 < n := Nat.sub_one_lt_of_lt positive
  simp [Finset.sum_add_distrib, last, positive, inside]

theorem length_boundary (wide : 0 < nx) (high : 0 < ny) :
    (boundary 3 (squareCells nx ny).toArray).length = 2 * (nx + ny) := by
  let outer (n i : Nat) : Nat := (if i = 0 then 1 else 0) + if i + 1 = n then 1 else 0
  let onSide (side : GridEdge × Nat × Nat) : Bool := side.1.OnSide nx ny
  -- A rectangle has as many of these edges as there are sides of the square next to it.
  have ofRectangle : ∀ j ∈ List.range ny, ∀ i ∈ List.range nx,
      (sidesOf nx i j).countP onSide = outer ny j + outer nx i := by
    intro j row i column
    simp [sidesOf, GridEdge.OnSide, onSide, outer] at row column ⊢
    grind
  have ofRow : ∀ j ∈ List.range ny,
      ((List.range nx).flatMap fun i => sidesOf nx i j).countP onSide = nx * outer ny j + 2 := by
    intro j row
    calc ((List.range nx).flatMap fun i => sidesOf nx i j).countP onSide
        = ((List.range nx).map fun i => outer ny j + outer nx i).sum := by
          rw [List.countP_flatMap]
          exact congrArg List.sum (List.map_congr_left (ofRectangle j row))
      _ = ∑ i ∈ Finset.range nx, (outer ny j + outer nx i) := rfl
      _ = nx * outer ny j + 2 := by
          simp [Finset.sum_add_distrib, sum_outermost wide, outer]
  calc (boundary 3 (squareCells nx ny).toArray).length
      = (sides nx ny).countP onSide := by
        simp [boundary_eq_map wide high, List.countP_eq_length_filter, onSide]
    _ = ((List.range ny).map fun j => nx * outer ny j + 2).sum := by
        rw [sides, List.countP_flatMap]
        exact congrArg List.sum (List.map_congr_left ofRow)
    _ = ∑ j ∈ Finset.range ny, (nx * outer ny j + 2) := rfl
    _ = 2 * (nx + ny) := by
        simp only [Finset.sum_add_distrib, ← Finset.mul_sum, sum_outermost high, outer]
        simp
        ring

/-- All edges, by their kinds. -/
def edges (nx ny : Nat) : Finset GridEdge :=
  ((Finset.range nx ×ˢ Finset.range (ny + 1)).image fun (i, j) => .horizontal i j) ∪
    (((Finset.range (nx + 1) ×ˢ Finset.range ny).image fun (i, j) => .vertical i j) ∪
      (Finset.range nx ×ˢ Finset.range ny).image fun (i, j) => .diagonal i j)

theorem mem_edges : e ∈ edges nx ny ↔ e.Inside nx ny := by
  cases e <;> simp [edges, GridEdge.Inside]

theorem card_edges (nx ny : Nat) : (edges nx ny).card = 3 * nx * ny + nx + ny := by
  have ofKind : ∀ kind : Nat → Nat → GridEdge, Function.Injective2 kind → ∀ m n,
      ((Finset.range m ×ˢ Finset.range n).image fun (i, j) => kind i j).card = m * n := by
    intro kind distinct m n
    exact (Finset.card_image_of_injective _ distinct.uncurry).trans (by simp)
  rw [edges, Finset.card_union_of_disjoint, Finset.card_union_of_disjoint,
    ofKind .horizontal (by simp [Function.Injective2]),
    ofKind .vertical (by simp [Function.Injective2]),
    ofKind .diagonal (by simp [Function.Injective2])]
  · ring
  · refine Finset.disjoint_left.mpr ?_
    intro e here there
    cases e <;> simp at here there
  · refine Finset.disjoint_left.mpr ?_
    intro e here there
    cases e <;> simp at here there

/-- Every edge is the side of a triangle. -/
theorem exists_mem_sides_iff (wide : 0 < nx) (high : 0 < ny) :
    (∃ place, (e, place) ∈ sides nx ny) ↔ e.Inside nx ny := by
  constructor
  · rintro ⟨place, listed⟩
    exact inside_of_mem listed
  · intro inside
    have some : 0 < (owners nx ny e).length := by
      simp only [length_owners wide high inside]
      split <;> decide
    rcases List.exists_mem_of_length_pos some with ⟨place, among⟩
    exact ⟨place, mem_sides_of_mem_owners inside among⟩

/-- There are as many vertex sets of facets as there are edges. -/
theorem card_keys (wide : 0 < nx) (high : 0 < ny) :
    ((places 3 (squareCells nx ny).toArray).map
      (keyAt 3 (squareCells nx ny).toArray)).toFinset.card = 3 * nx * ny + nx + ny := by
  have keys : ((places 3 (squareCells nx ny).toArray).map
      (keyAt 3 (squareCells nx ny).toArray)).toFinset = (edges nx ny).image (·.vertices nx) := by
    ext key
    simp only [List.mem_toFinset, List.mem_map, Finset.mem_image, mem_edges, mem_places_iff,
      ← exists_mem_sides_iff wide high]
    constructor
    · rintro ⟨place, ⟨e, listed⟩, rfl⟩
      exact ⟨e, ⟨place, listed⟩, (keyAt_eq listed).symm⟩
    · rintro ⟨e, ⟨place, listed⟩, rfl⟩
      exact ⟨place, ⟨e, listed⟩, keyAt_eq listed⟩
  have distinct : Set.InjOn (GridEdge.vertices nx) (edges nx ny) := by
    intro e here other there same
    exact (vertices_inj (mem_edges.mp here) (mem_edges.mp there)).mp same
  simp only [keys, Finset.card_image_of_injOn distinct, card_edges]

theorem two_cells (wide : 0 < nx) (high : 0 < ny) (listed : (e, place) ∈ sides nx ny) :
    ¬ e.OnSide nx ny →
      ∃ p q, p.1 ≠ q.1 ∧ ∀ other, (other ∈ places 3 (squareCells nx ny).toArray ∧
        keyAt 3 (squareCells nx ny).toArray other = keyAt 3 (squareCells nx ny).toArray place) ↔
          other = p ∨ other = q := by
  intro within
  rcases owners_of_not_onSide wide high (inside_of_mem listed) within with ⟨p, q, apart, pair⟩
  refine ⟨p, q, apart, ?_⟩
  intro other
  simp [← mem_owners_iff listed, pair]

/-! ## Vertices -/

theorem length_squarePoints (nx ny : Nat) :
    (squarePoints nx ny).length = (nx + 1) * (ny + 1) * 2 := by
  have ofRow : ∀ j : Nat, ((List.range (nx + 1)).flatMap fun i =>
      [Binary64.ofNat i / Binary64.ofNat nx, Binary64.ofNat j / Binary64.ofNat ny]).length =
        (nx + 1) * 2 :=
    fun _ => length_inRankOrder fun _ _ => rfl
  calc (squarePoints nx ny).length
      = (ny + 1) * ((nx + 1) * 2) := length_inRankOrder fun j _ => ofRow j
    _ = (nx + 1) * (ny + 1) * 2 := by ring

theorem lt_of_mem_squareCells {v : Nat} : v ∈ squareCells nx ny → v < (nx + 1) * (ny + 1) := by
  intro among
  have last : gridVertex nx nx ny + 1 = (nx + 1) * (ny + 1) := by
    simp only [gridVertex]
    ring
  have below : v ≤ gridVertex nx nx ny := by
    simp only [squareCells, List.mem_flatMap, List.mem_range] at among
    rcases among with ⟨j, row, i, column, among⟩
    simp only [List.mem_cons, List.not_mem_nil, or_false] at among
    rcases among with rfl | rfl | rfl | rfl | rfl | rfl <;>
      exact gridVertex_le (by omega) (by omega)
  exact Nat.lt_of_lt_of_eq (Nat.lt_succ_of_le below) last

end SquareGrid

/-! ## Cells of an interval -/

namespace IntervalGrid

variable {n : Nat} {place : Nat × Nat}

theorem length_intervalCells (n : Nat) : (intervalCells n).length = n * 2 :=
  length_inRankOrder fun _ _ => rfl

theorem lt_of_mem_intervalCells {v : Nat} : v ∈ intervalCells n → v < n + 1 := by
  intro among
  simp only [intervalCells, List.mem_flatMap, List.mem_range] at among
  rcases among with ⟨i, inside, among⟩
  simp at among
  omega

theorem mem_places_iff :
    place ∈ places 2 (intervalCells n).toArray ↔ place.1 < n ∧ place.2 < 2 := by
  simp [mem_places, length_intervalCells]

/-- The facet opposite to the left vertex is the right one. -/
theorem keyAt_eq :
    place ∈ places 2 (intervalCells n).toArray →
      keyAt 2 (intervalCells n).toArray place = [place.1 + (1 - place.2)] := by
  intro among
  rcases place with ⟨cell, localFacet⟩
  rcases mem_places_iff.mp among with ⟨inside, one⟩
  have slice : cellSlice 2 (intervalCells n).toArray cell = [cell, cell + 1] := by
    calc cellSlice 2 (intervalCells n).toArray cell
        = ((intervalCells n).drop (cell * 2 + 0)).take 2 := cellSlice_toArray 2 _ cell
      _ = [cell, cell + 1] := take_drop_flatMap (fun _ _ => rfl) inside (Nat.le_refl 2)
  match localFacet, one with
  | 0, _ => simp [keyAt, slice]
  | 1, _ => simp [keyAt, slice]

theorem unshared_iff (among : place ∈ places 2 (intervalCells n).toArray) :
    Unshared 2 (intervalCells n).toArray place ↔ place = (0, 1) ∨ place = (n - 1, 0) := by
  rcases place with ⟨cell, localFacet⟩
  have alone : Unshared 2 (intervalCells n).toArray (cell, localFacet) ↔
      ∀ c l, c < n → l < 2 → c + (1 - l) = cell + (1 - localFacet) →
        c = cell ∧ l = localFacet := by
    constructor
    · intro unshared c l inside one same
      have there : (c, l) ∈ places 2 (intervalCells n).toArray := mem_places_iff.mpr ⟨inside, one⟩
      have key := unshared (c, l) there (by simp [keyAt_eq there, keyAt_eq among, same])
      simpa using key
    · rintro unshared ⟨c, l⟩ there same
      rcases mem_places_iff.mp there with ⟨inside, one⟩
      have vertex : c + (1 - l) = cell + (1 - localFacet) := by
        simpa [keyAt_eq there, keyAt_eq among] using same
      simpa using unshared c l inside one vertex
  rcases mem_places_iff.mp among with ⟨inside, one⟩
  simp only [alone, Prod.mk.injEq] at inside one ⊢
  constructor
  · -- A vertex between two cells is a facet of the next cell or of the previous one, too.
    intro unshared
    have ofRight := unshared (cell + 1) 1
    have ofLeft := unshared (cell - 1) 0
    omega
  · intro ends c l
    omega

theorem mem_boundary_iff (positive : 0 < n) :
    place ∈ boundary 2 (intervalCells n).toArray ↔ place = (0, 1) ∨ place = (n - 1, 0) := by
  simp only [mem_boundary]
  constructor
  · rintro ⟨among, unshared⟩
    exact (unshared_iff among).mp unshared
  · intro ends
    have among : place ∈ places 2 (intervalCells n).toArray := by
      rcases ends with rfl | rfl <;> simp [mem_places_iff, positive]
    exact ⟨among, (unshared_iff among).mpr ends⟩

theorem boundary_perm (positive : 0 < n) :
    (boundary 2 (intervalCells n).toArray).Perm [(0, 1), (n - 1, 0)] := by
  have distinct : (boundary 2 (intervalCells n).toArray).Nodup := (nodup_places _ _).filter _
  refine (List.perm_ext_iff_of_nodup distinct (by simp)).mpr ?_
  intro place
  simp [mem_boundary_iff positive]

end IntervalGrid

/-! ## Grids as meshes -/

namespace SimplexMesh

open SquareGrid

variable {α : Type}

/-- A mesh can be built of cells with vertices that have coordinates. -/
theorem exists_build {geometricDim topologicalDim vertices cells : Nat} {coordinates : Array α}
    {connectivity : Array Nat} (positive : 0 < topologicalDim)
    (room : topologicalDim ≤ geometricDim) (points : coordinates.size = vertices * geometricDim)
    (groups : connectivity.size = cells * (topologicalDim + 1))
    (inRange : ∀ v ∈ connectivity, v < vertices) :
    ∃ mesh, build geometricDim topologicalDim coordinates connectivity = .ok mesh ∧
      mesh.topologicalDim = topologicalDim ∧ mesh.connectivity = connectivity ∧
      mesh.numVertices = vertices ∧ mesh.numCells = cells := by
  have pointCount : coordinates.size / geometricDim = vertices := by
    simp [points, Nat.mul_div_cancel _ (Nat.lt_of_lt_of_le positive room)]
  have cellCount : connectivity.size / (topologicalDim + 1) = cells := by
    simp [groups, Nat.mul_div_cancel _ (Nat.succ_pos topologicalDim)]
  let mesh : SimplexMesh α :=
    { geometricDim, topologicalDim, coordinates, connectivity
      census := .ofCells (topologicalDim + 1) connectivity
      dim_pos := positive
      dim_le := room
      coordinates_split := by simp [points]
      connectivity_split := by simp [groups]
      vertex_lt := by simpa only [pointCount] using inRange
      census_eq := rfl }
  exact ⟨mesh, mesh.build_eq, rfl, rfl, pointCount, cellCount⟩

/-- The boundary as it lists (cell, local facet). -/
theorem places_exterior {mesh : SimplexMesh α}
    (addressable : mesh.connectivity.size < UInt64.size) :
    (mesh.census.exterior.map fun f => (f.cell.index, f.localFacet)) =
      boundary mesh.cellWidth mesh.connectivity := by
  simpa [Function.comp_def] using congrArg (List.map Prod.snd) (map_exterior addressable)

theorem exists_unitSquare {nx ny : Nat} (wide : 0 < nx) (high : 0 < ny) :
    ∃ mesh, unitSquare nx ny = .ok mesh ∧ mesh.topologicalDim = 2 ∧
      mesh.connectivity = (squareCells nx ny).toArray ∧
      mesh.numVertices = (nx + 1) * (ny + 1) ∧ mesh.numCells = 2 * nx * ny := by
  have nonempty : ¬ (nx = 0 ∨ ny = 0) := by
    omega
  have groups : (squareCells nx ny).toArray.size = 2 * nx * ny * 3 := by
    simp only [List.size_toArray, length_squareCells]
    ring
  simp only [unitSquare, if_neg nonempty]
  refine exists_build (by decide) (by decide) ?_ groups ?_
  · simpa using length_squarePoints nx ny
  · intro v among
    exact lt_of_mem_squareCells (List.mem_toArray.mp among)

theorem exists_interval {n : Nat} (positive : 0 < n) (a b : Binary64) :
    ∃ mesh, interval n a b = .ok mesh ∧ mesh.topologicalDim = 1 ∧
      mesh.connectivity = (intervalCells n).toArray ∧
      mesh.numVertices = n + 1 ∧ mesh.numCells = n := by
  simp only [interval, if_neg (Nat.ne_of_gt positive)]
  refine exists_build (by decide) (by decide) ?_ ?_ ?_
  · simp
  · simp [IntervalGrid.length_intervalCells]
  · intro v among
    exact IntervalGrid.lt_of_mem_intervalCells (List.mem_toArray.mp among)

/-- The unit square has as many cells, vertices and edges as its numbers of columns and rows say. On
its boundary are exactly the (cell, local facet) whose two vertices lie on a common side of the
square, and every other edge has two cells. The boundary of an interval consists of its two ends:
the facet opposite to the right vertex of the first cell, and the one opposite to the left vertex of
the last cell. The connectivity is meant to be short enough for its entries to be counted by a
word. -/
theorem boundary_of_grids :
    (∀ nx ny, 0 < nx → 0 < ny → 6 * nx * ny < UInt64.size →
      ∃ mesh, unitSquare nx ny = .ok mesh ∧
        let all := places 3 mesh.connectivity
        let key := keyAt 3 mesh.connectivity
        mesh.numCells = 2 * nx * ny ∧ mesh.numVertices = (nx + 1) * (ny + 1) ∧
        mesh.numEntities 1 = 3 * nx * ny + nx + ny ∧
        mesh.census.exterior.length = 2 * (nx + ny) ∧
        (mesh.census.exterior.map fun f => (f.cell.index, f.localFacet)) =
          (all.filter fun place => OnOneSide nx ny (key place)) ∧
        ∀ place ∈ all, ¬ OnOneSide nx ny (key place) → ∃ p q, p.1 ≠ q.1 ∧
          ∀ other, other ∈ all ∧ key other = key place ↔ other = p ∨ other = q) ∧
    ∀ n a b, 0 < n → 2 * n < UInt64.size →
      ∃ mesh, interval n a b = .ok mesh ∧ mesh.numCells = n ∧ mesh.numVertices = n + 1 ∧
        (mesh.census.exterior.map fun f => (f.cell.index, f.localFacet)).Perm
          [(0, 1), (n - 1, 0)] := by
  constructor
  · intro nx ny wide high addressable
    rcases exists_unitSquare wide high with ⟨mesh, built, dim, cells, vertices, triangles⟩
    have width : mesh.cellWidth = 3 := by
      simp [cellWidth, dim]
    have few : mesh.connectivity.size < UInt64.size := by
      have total : mesh.connectivity.size = 6 * nx * ny := by
        simp only [cells, List.size_toArray, length_squareCells]
        ring
      exact lt_of_eq_of_lt total addressable
    have edgeCount : mesh.numEntities 1 = 3 * nx * ny + nx + ny := by
      calc mesh.numEntities 1
          = mesh.numFacets := by simp [numEntities, dim]
        _ = 3 * nx * ny + nx + ny := by simp only [numFacets_eq, width, cells, card_keys wide high]
    have listed := places_exterior few
    simp only [width, cells] at listed
    have facetCount : mesh.census.exterior.length = 2 * (nx + ny) := by
      calc mesh.census.exterior.length
          = (boundary 3 (squareCells nx ny).toArray).length := by simp [← listed]
        _ = 2 * (nx + ny) := length_boundary wide high
    refine ⟨mesh, built, triangles, vertices, edgeCount, facetCount, ?_, ?_⟩
    · simp only [listed, cells, boundary_eq_filter wide high]
    · simp only [cells]
      intro place among within
      rcases mem_places_iff.mp among with ⟨e, appears⟩
      exact two_cells wide high appears (within ∘ (onOneSide_keyAt appears).mpr)
  · intro n a b positive addressable
    rcases exists_interval positive a b with ⟨mesh, built, dim, cells, vertices, segments⟩
    have width : mesh.cellWidth = 2 := by
      simp [cellWidth, dim]
    have few : mesh.connectivity.size < UInt64.size := by
      simpa [cells, IntervalGrid.length_intervalCells, Nat.mul_comm] using addressable
    refine ⟨mesh, built, segments, vertices, ?_⟩
    simpa only [places_exterior few, width, cells] using IntervalGrid.boundary_perm positive

/-- In a square of two columns the triangles on the left have no facet on the right side, and those
on the right have none on the left side. An interval of one cell has both ends at this cell. -/
theorem boundary_of_grids_two_columns :
    (∃ mesh, unitSquare 2 1 = .ok mesh ∧ mesh.numCells = 4 ∧ mesh.numVertices = 6 ∧
      mesh.numEntities 1 = 9 ∧ (mesh.census.exterior.map fun f => (f.cell.index, f.localFacet)) =
        [(0, 2), (1, 0), (1, 1), (2, 0), (2, 2), (3, 0)]) ∧
    ∀ a b, ∃ mesh, interval 1 a b = .ok mesh ∧ mesh.numVertices = 2 ∧
      (mesh.census.exterior.map fun f => (f.cell.index, f.localFacet)).Perm [(0, 1), (0, 0)] := by
  constructor
  · rcases boundary_of_grids.1 2 1 (by decide) (by decide) (by decide) with
      ⟨mesh, built, cells, vertices, edges, _, listed, _⟩
    have ofCells : build 2 2 (squarePoints 2 1).toArray (squareCells 2 1).toArray = .ok mesh :=
      built
    have connectivity : mesh.connectivity = #[0, 1, 4, 0, 4, 3, 1, 2, 5, 1, 5, 4] :=
      (build_eq_ok ofCells).2.2.2
    refine ⟨mesh, built, cells, vertices, edges, listed.trans ?_⟩
    simp only [connectivity]
    decide
  · intro a b
    rcases boundary_of_grids.2 1 a b (by decide) (by decide) with ⟨mesh, built, _, vertices, ends⟩
    exact ⟨mesh, built, vertices, ends⟩

end SimplexMesh
end FormAssembly
