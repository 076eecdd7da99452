import FormAssembly.Proofs.Mesh.FacetNumbers
import FormAssembly.Proofs.Message.RankOrder

/-!
# Reading the cells of a mesh

Flat arrays hold groups of one width, one after another. `IsGroup` says of a list that it is the
group of an index and that the array reaches so far. Pieces of one width, put one after another,
are the groups of the whole (`isGroup_flatMap`), and conversely (`flatMap_groups`).

A simplex mesh reads the cells that it has and refuses all others. The vertices of a cell are its
group of the connectivity, and its coordinates are the groups of its vertices
(`SimplexMesh.exists_reads`, `SimplexMesh.refuses`).
-/

namespace FormAssembly

/-! ## Groups of a flat array -/

/-- `group` consists of the `width` values behind the first `i * width` values of an array, and the
array has all of them. -/
structure IsGroup {α : Type} (xs : Array α) (width i : Nat) (group : List α) : Prop where
  room : (i + 1) * width ≤ xs.size
  length_eq : group.length = width
  getElem?_eq : ∀ k < width, group[k]? = xs[i * width + k]?

section Groups

variable {α : Type} {xs : Array α} {width count i : Nat} {group other : List α}
  {piece : Nat → List α}

theorem isGroup_extract (room : (i + 1) * width ≤ xs.size) :
    IsGroup xs width i (xs.extract (i * width) ((i + 1) * width)).toList := by
  refine ⟨room, ?_, ?_⟩
  · rw [Array.length_toList, size_group room]
  · intro k early
    have within : k < min ((i + 1) * width) xs.size - i * width := by
      rw [Nat.min_eq_left room, Nat.succ_mul, Nat.add_sub_cancel_left]
      exact early
    rw [Array.getElem?_toList, Array.getElem?_extract, if_pos within]

theorem IsGroup.unique (left : IsGroup xs width i group) (right : IsGroup xs width i other) :
    group = other := by
  refine List.ext_getElem? ?_
  intro k
  by_cases early : k < width
  · rw [left.getElem?_eq k early, right.getElem?_eq k early]
  · have late : width ≤ k := Nat.le_of_not_lt early
    rw [List.getElem?_eq_none (left.length_eq.trans_le late),
      List.getElem?_eq_none (right.length_eq.trans_le late)]

theorem IsGroup.mem (here : IsGroup xs width i group) {value : α} (among : value ∈ group) :
    value ∈ xs := by
  rw [here.unique (isGroup_extract here.room)] at among
  exact mem_of_mem_group among

theorem isGroup_flatMap (equal : ∀ i < count, (piece i).length = width) (inside : i < count) :
    IsGroup ((List.range count).flatMap piece).toArray width i (piece i) := by
  have total : ((List.range count).flatMap piece).length = count * width :=
    length_inRankOrder equal
  refine ⟨?_, equal i inside, ?_⟩
  · simpa only [List.size_toArray, total] using Nat.mul_le_mul_right width inside
  · intro k early
    have found : ((List.range count).flatMap piece)[i * width + k]? = (piece i)[k]? :=
      getElem?_inRankOrder inside early equal
    simpa using found.symm

theorem flatMap_groups (full : xs.size = count * width)
    (groups : ∀ i < count, IsGroup xs width i (piece i)) :
    (List.range count).flatMap piece = xs.toList := by
  have room : xs.toList.length = count * width := full
  rcases exists_eq_inRankOrder room with ⟨chunk, equal, whole⟩
  have sameArray : ((List.range count).flatMap chunk).toArray = xs := by
    simp [show (List.range count).flatMap chunk = xs.toList from whole.symm]
  have samePiece : ∀ i < count, piece i = chunk i := by
    intro i inside
    have fromChunks := isGroup_flatMap equal inside
    rw [sameArray] at fromChunks
    exact (groups i inside).unique fromChunks
  exact (inRankOrder_congr samePiece).trans whole.symm

/-- Groups that are picked one for each index have the width of all of them together. -/
theorem length_flatten_of_groups {indices : List Nat} {groups : List (List α)}
    (each : List.Forall₂ (IsGroup xs width) indices groups) :
    groups.flatten.length = indices.length * width := by
  induction each with
  | nil => simp
  | cons here _ ih => simp [here.length_eq, ih, Nat.succ_mul, Nat.add_comm]

end Groups

/-! ## Cells -/

namespace Mesh

variable {α : Type}

/-- The vertices of a cell can be had, and its coordinates replace all that a buffer held. -/
structure Reads (mesh : Mesh α) (cell : PointId) (vertices : List Nat) (coordinates : List α) :
    Prop where
  cellVertices_eq : mesh.cellVertices cell = .ok vertices
  readCoordinates_eq : ∀ buffer,
    mesh.readCoordinates cell buffer = (.ok (), coordinates.toArray)

/-- Neither the vertices nor the coordinates of a cell can be had. -/
structure Refuses (mesh : Mesh α) (cell : PointId) (cause : Error) : Prop where
  cellVertices_eq : mesh.cellVertices cell = .error cause
  readCoordinates_eq : ∀ buffer, mesh.readCoordinates cell buffer = (.error cause, #[])

end Mesh

/-- Every identifier is that of its index. -/
theorem PointId.ofIndex_index (p : PointId) : PointId.ofIndex p.index = p := by
  refine PointId.ext_of_toNat ?_
  have bound := p.toNat_lt
  have next := p.index_add_one
  rw [toNat_ofIndex]
  omega

namespace SimplexMesh

variable {α : Type} {mesh : SimplexMesh α} {cell : PointId}

theorem isGroup_cellSlice {i : Nat} (inside : i < mesh.numCells) :
    IsGroup mesh.connectivity mesh.cellWidth i
      (FacetCensus.cellSlice mesh.cellWidth mesh.connectivity i) :=
  isGroup_extract (group_le inside)

theorem isGroup_vertexCoordinates {v : Nat} (inside : v < mesh.numVertices) :
    IsGroup mesh.coordinates mesh.geometricDim v (mesh.vertexCoordinates v).toList :=
  isGroup_extract (group_le inside)

theorem foldl_vertexCoordinates (vertices : List Nat) (start : Array α) :
    vertices.foldl (fun buffer v => buffer ++ mesh.vertexCoordinates v) start =
      start ++ (vertices.flatMap fun v => (mesh.vertexCoordinates v).toList).toArray := by
  induction vertices generalizing start with
  | nil => simp
  | cons v later ih =>
      refine Array.toList_inj.mp ?_
      simp [ih]

/-- A cell of the mesh is read: its vertices, and for each vertex its point. -/
theorem exists_reads [Inspect α] (label : Nat) (inside : cell.index < mesh.numCells) :
    ∃ vertices points, (mesh.toMesh label).Reads cell vertices points.flatten ∧
      IsGroup mesh.connectivity mesh.cellWidth cell.index vertices ∧
      List.Forall₂ (IsGroup mesh.coordinates mesh.geometricDim) vertices points := by
  let vertices := FacetCensus.cellSlice mesh.cellWidth mesh.connectivity cell.index
  have found : mesh.cellVertices cell = .ok vertices := cellVertices_eq_ok_iff.mpr ⟨inside, rfl⟩
  have coordinates : mesh.cellCoordinates cell =
      .ok (vertices.map fun v => (mesh.vertexCoordinates v).toList).flatten.toArray := by
    rw [cellCoordinates, found]
    simp [bind, Except.bind, pure, Except.pure, foldl_vertexCoordinates, List.flatMap]
  refine ⟨vertices, vertices.map fun v => (mesh.vertexCoordinates v).toList, ⟨found, ?_⟩,
    isGroup_cellSlice inside, ?_⟩
  · intro buffer
    rw [Mesh.readCoordinates_eq]
    simp [toMesh, coordinates]
  · rw [List.forall₂_map_right_iff, List.forall₂_same]
    intro v among
    exact isGroup_vertexCoordinates (lt_numVertices_of_mem_cellSlice among)

theorem refuses [Inspect α] (label : Nat) (outside : mesh.numCells ≤ cell.index) :
    (mesh.toMesh label).Refuses cell (.indexOutOfRange .cell cell.index mesh.numCells) := by
  have unknown : Error.checkIndex .cell cell.index mesh.numCells =
      .error (.indexOutOfRange .cell cell.index mesh.numCells) :=
    Error.checkIndex_eq_error_iff.mpr ⟨outside, rfl⟩
  have missing : mesh.cellVertices cell =
      .error (.indexOutOfRange .cell cell.index mesh.numCells) := by
    rw [cellVertices, unknown]
    rfl
  refine ⟨missing, ?_⟩
  intro buffer
  have noCoordinates : mesh.cellCoordinates cell =
      .error (.indexOutOfRange .cell cell.index mesh.numCells) := by
    rw [cellCoordinates, missing]
    rfl
  rw [Mesh.readCoordinates_eq]
  simp [toMesh, noCoordinates]

end SimplexMesh
end FormAssembly
