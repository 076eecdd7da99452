import FormAssembly.Mesh.Simplex

/-!
# Reading simplex meshes

Whatever assembly reads of a simplex mesh lies inside its arrays. Its cells are those that it has
connectivity for, the facets on its boundary belong to such cells
(`SimplexMesh.index_lt_of_mem_exterior`), and the vertices of a cell have coordinates
(`SimplexMesh.lt_numVertices_of_mem_cellSlice`), so the coordinates of every cell can be had
(`SimplexMesh.exists_cellCoordinates`).
-/

namespace FormAssembly

/-! ## Groups of equal length -/

section Groups

variable {α : Type} {xs : Array α} {width i : Nat}

theorem group_le (inside : i < xs.size / width) : (i + 1) * width ≤ xs.size :=
  Nat.mul_le_of_le_div width (i + 1) xs.size inside

theorem size_group (room : (i + 1) * width ≤ xs.size) :
    (xs.extract (i * width) ((i + 1) * width)).size = width := by
  rw [Array.size_extract, Nat.min_eq_left room, Nat.succ_mul, Nat.add_sub_cancel_left]

theorem mem_of_mem_group {value : α}
    (among : value ∈ (xs.extract (i * width) ((i + 1) * width)).toList) : value ∈ xs := by
  rcases Array.mem_extract_iff_getElem.mp (Array.mem_toList_iff.mp among) with ⟨k, inside, rfl⟩
  exact Array.getElem_mem _

end Groups

/-- A word of 64 bits may be too short for an index, but never makes a larger one of it. -/
theorem PointId.index_ofIndex_le (i : Nat) : (PointId.ofIndex i).index ≤ i := by
  rw [PointId.index, PointId.toNat_ofIndex]
  omega

/-! ## The census -/

namespace FacetCensus

/-- Only cells below `bound` were seen. -/
def CellsBelow (bound : Nat) (census : FacetCensus) : Prop :=
  ∀ sighting ∈ census.sightings, sighting.cell < bound

theorem CellsBelow.see {bound : Nat} {census : FacetCensus} (below : census.CellsBelow bound)
    {key : List Nat} {cell localFacet : Nat} (inside : cell < bound) :
    (census.see key cell localFacet).CellsBelow bound := by
  intro sighting among
  unfold FacetCensus.see at among
  cases known : census.numbers[key]? with
  | some number =>
      -- The facet was seen from another cell before, which stays its cell.
      simp only [known] at among
      rcases Array.mem_iff_getElem.mp among with ⟨j, early, rfl⟩
      rw [Array.size_modify] at early
      rw [Array.getElem_modify]
      have old : census.sightings[j].cell < bound := below _ (Array.getElem_mem early)
      split
      · exact old
      · exact old
  | none =>
      simp only [known] at among
      rcases Array.mem_push.mp among with earlier | rfl
      · exact below sighting earlier
      · exact inside

theorem cellsBelow_ofCells (width : Nat) (connectivity : Array Nat) :
    (ofCells width connectivity).CellsBelow (connectivity.size / width) := by
  unfold ofCells
  refine List.foldlRecOn (incidences width connectivity) _ ?_ ?_
  · intro sighting none
    simp at none
  · intro census below incidence among
    rcases List.mem_flatMap.mp among with ⟨cell, inRange, ofCell⟩
    rcases List.mem_map.mp ofCell with ⟨localFacet, _, rfl⟩
    exact below.see (List.mem_range.mp inRange)

theorem exists_sighting_of_mem_exterior {census : FacetCensus} {f : ExteriorFacet}
    (among : f ∈ census.exterior) :
    ∃ sighting ∈ census.sightings, f.cell = PointId.ofIndex sighting.cell := by
  rcases List.mem_filterMap.mp among with ⟨⟨sighting, number⟩, entry, seen⟩
  have there : sighting ∈ census.sightings.toList := List.fst_mem_of_mem_zipIdx entry
  refine ⟨sighting, Array.mem_toList_iff.mp there, ?_⟩
  -- Only facets that were seen once are on the boundary.
  by_cases once : sighting.count = 1
  · simp only [once, if_true, Option.some.injEq] at seen
    rw [← seen]
  · simp [once] at seen

end FacetCensus

/-! ## Meshes -/

namespace SimplexMesh

variable {α : Type} {mesh : SimplexMesh α} {cell : Nat}

/-- Every mesh is what is built from its data. -/
theorem build_eq (mesh : SimplexMesh α) :
    build mesh.geometricDim mesh.topologicalDim mesh.coordinates mesh.connectivity = .ok mesh := by
  rcases mesh with ⟨gdim, tdim, coordinates, connectivity, census, positive, le, points, cells,
    inRange, rfl⟩
  have dims : ¬ (gdim = 0 ∨ tdim = 0 ∨ gdim < tdim) := by omega
  unfold build
  rw [dif_neg dims, dif_neg (not_not_intro points), dif_neg (not_not_intro cells)]
  split
  next stray found =>
    -- No vertex is out of range.
    have outside := Array.find?_some found
    have inside := inRange stray (Array.mem_of_find?_eq_some found)
    exact absurd inside (Nat.not_lt.mpr (of_decide_eq_true outside))
  · rfl

theorem numCells_toMesh [Inspect α] (mesh : SimplexMesh α) (label : Nat) :
    (mesh.toMesh label).numCells = mesh.numCells :=
  if_pos rfl

/-- Cells have a dimension, so entities of dimension 0 are vertices. -/
theorem numEntities_zero (mesh : SimplexMesh α) : mesh.numEntities 0 = mesh.numVertices := by
  have positive : 0 ≠ mesh.topologicalDim := Nat.ne_of_lt mesh.dim_pos
  rw [numEntities, if_neg positive, if_pos rfl]

theorem index_lt_of_mem_cells [Inspect α] {label : Nat} {id : PointId}
    (among : id ∈ (mesh.toMesh label).cells) : id.index < mesh.numCells := by
  rcases List.mem_map.mp among with ⟨i, inRange, rfl⟩
  rw [numCells_toMesh] at inRange
  exact Nat.lt_of_le_of_lt (PointId.index_ofIndex_le i) (List.mem_range.mp inRange)

theorem index_lt_of_mem_exterior {f : ExteriorFacet} (among : f ∈ mesh.census.exterior) :
    f.cell.index < mesh.numCells := by
  rcases FacetCensus.exists_sighting_of_mem_exterior among with ⟨sighting, seen, place⟩
  have below : sighting.cell < mesh.numCells := by
    rw [mesh.census_eq] at seen
    exact FacetCensus.cellsBelow_ofCells _ _ sighting seen
  rw [place]
  exact Nat.lt_of_le_of_lt (PointId.index_ofIndex_le _) below

theorem lt_numVertices_of_mem_cellSlice {v : Nat}
    (among : v ∈ FacetCensus.cellSlice mesh.cellWidth mesh.connectivity cell) :
    v < mesh.numVertices :=
  mesh.vertex_lt v (mem_of_mem_group among)

theorem exists_cellCoordinates {id : PointId} (inside : id.index < mesh.numCells) :
    ∃ coordinates, mesh.cellCoordinates id = .ok coordinates := by
  have vertices := cellVertices_eq_ok_iff.mpr ⟨inside, rfl⟩
  exact ⟨_, by rw [cellCoordinates, vertices]; rfl⟩

end SimplexMesh
end FormAssembly
