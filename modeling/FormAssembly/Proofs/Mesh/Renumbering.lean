import Mathlib.Data.Set.Function
import FormAssembly.Proofs.Mesh.FacetNumbers

/-!
# New numbers for the cells of a mesh

Cells may be numbered in another way if everything that is kept cell by cell is put in the new order
(`Renumbering.Regroups`). The vertices and the coordinates of a cell stay what they are. Facets are
numbered anew, as the census comes across them in another order, and so is the boundary; but it
consists of the same facets of the same cells (`SimplexMesh.Renumbered.boundary_perm`).
-/

namespace FormAssembly

/-- New numbers for `n` cells. -/
structure Renumbering (n : Nat) where
  /-- The old number of the cell that has a new number. -/
  old : Nat → Nat
  bijOn : Set.BijOn old (Set.Iio n) (Set.Iio n)

namespace Renumbering

variable {n i j : Nat} (σ : Renumbering n)

theorem old_lt (inside : i < n) : σ.old i < n :=
  σ.bijOn.mapsTo inside

theorem old_inj (here : i < n) (there : j < n) (same : σ.old i = σ.old j) : i = j :=
  σ.bijOn.injOn here there same

theorem exists_old (inside : j < n) : ∃ i < n, σ.old i = j :=
  σ.bijOn.surjOn inside

theorem perm_range : ((List.range n).map σ.old).Perm (List.range n) := by
  have distinct : ((List.range n).map σ.old).Nodup :=
    List.nodup_range.map_on fun i here j there =>
      σ.old_inj (List.mem_range.mp here) (List.mem_range.mp there)
  refine (List.perm_ext_iff_of_nodup distinct List.nodup_range).mpr fun j => ?_
  rw [List.mem_map, List.mem_range]
  constructor
  · rintro ⟨i, here, rfl⟩
    exact σ.old_lt (List.mem_range.mp here)
  · intro inside
    rcases σ.exists_old inside with ⟨i, here, old⟩
    exact ⟨i, List.mem_range.mpr here, old⟩

/-- A flat array with `width` values for each cell is put in the new order. -/
structure Regroups {κ : Type} (width : Nat) (before after : Array κ) : Prop where
  size_before : before.size = n * width
  size_after : after.size = n * width
  group : ∀ i < n, after.extract (i * width) ((i + 1) * width) =
    before.extract (σ.old i * width) ((σ.old i + 1) * width)

end Renumbering

namespace SimplexMesh

open FacetCensus

variable {α : Type} {n : Nat} {σ : Renumbering n} {mesh other : SimplexMesh α}

/-- The same vertices and the same cells, the latter in the new order. -/
structure Renumbered (σ : Renumbering n) (mesh other : SimplexMesh α) : Prop where
  geometricDim : other.geometricDim = mesh.geometricDim
  topologicalDim : other.topologicalDim = mesh.topologicalDim
  coordinates : other.coordinates = mesh.coordinates
  connectivity : σ.Regroups mesh.cellWidth mesh.connectivity other.connectivity

namespace Renumbered

theorem cellWidth_eq (renumbered : Renumbered σ mesh other) : other.cellWidth = mesh.cellWidth :=
  congrArg (· + 1) renumbered.topologicalDim

theorem numCells_before (renumbered : Renumbered σ mesh other) : mesh.numCells = n := by
  have positive : 0 < mesh.cellWidth := Nat.succ_pos _
  rw [numCells, renumbered.connectivity.size_before, Nat.mul_div_cancel _ positive]

theorem numCells_after (renumbered : Renumbered σ mesh other) : other.numCells = n := by
  have positive : 0 < mesh.cellWidth := Nat.succ_pos _
  rw [numCells, renumbered.cellWidth_eq, renumbered.connectivity.size_after,
    Nat.mul_div_cancel _ positive]

theorem cellSlice_eq (renumbered : Renumbered σ mesh other) {i : Nat} (inside : i < n) :
    cellSlice other.cellWidth other.connectivity i =
      cellSlice mesh.cellWidth mesh.connectivity (σ.old i) := by
  rw [cellSlice, cellSlice, renumbered.cellWidth_eq, renumbered.connectivity.group i inside]

/-! ## The boundary -/

/-- The place that a facet had in the old order of cells. -/
def oldPlace (σ : Renumbering n) (place : Nat × Nat) : Nat × Nat :=
  (σ.old place.1, place.2)

theorem mem_places_before (renumbered : Renumbered σ mesh other) {place : Nat × Nat} :
    place ∈ places mesh.cellWidth mesh.connectivity ↔
      place.1 < n ∧ place.2 < mesh.cellWidth := by
  rw [mem_places]
  exact iff_of_eq (congrArg (place.1 < · ∧ _) renumbered.numCells_before)

theorem mem_places_after (renumbered : Renumbered σ mesh other) {place : Nat × Nat} :
    place ∈ places other.cellWidth other.connectivity ↔
      place.1 < n ∧ place.2 < mesh.cellWidth := by
  rw [mem_places, ← renumbered.cellWidth_eq]
  exact iff_of_eq (congrArg (place.1 < · ∧ _) renumbered.numCells_after)

theorem keyAt_eq (renumbered : Renumbered σ mesh other) {place : Nat × Nat} (inside : place.1 < n) :
    keyAt other.cellWidth other.connectivity place =
      keyAt mesh.cellWidth mesh.connectivity (oldPlace σ place) := by
  rw [keyAt, keyAt, renumbered.cellSlice_eq inside]
  rfl

theorem oldPlace_inj {place twin : Nat × Nat} (here : place.1 < n) (there : twin.1 < n)
    (same : oldPlace σ place = oldPlace σ twin) : place = twin := by
  rcases Prod.mk.inj same with ⟨cells, facets⟩
  exact Prod.ext (σ.old_inj here there cells) facets

theorem exists_oldPlace (σ : Renumbering n) {place : Nat × Nat} (inside : place.1 < n) :
    ∃ twin : Nat × Nat, twin.1 < n ∧ twin.2 = place.2 ∧ oldPlace σ twin = place := by
  rcases σ.exists_old inside with ⟨i, here, old⟩
  exact ⟨(i, place.2), here, rfl, Prod.ext old rfl⟩

theorem unshared_iff (renumbered : Renumbered σ mesh other) {place : Nat × Nat}
    (inside : place.1 < n) :
    Unshared other.cellWidth other.connectivity place ↔
      Unshared mesh.cellWidth mesh.connectivity (oldPlace σ place) := by
  constructor
  · intro unshared twin among same
    rcases renumbered.mem_places_before.mp among with ⟨cell, localFacet⟩
    rcases exists_oldPlace σ cell with ⟨twin, here, facet, rfl⟩
    refine congrArg (oldPlace σ) (unshared twin ?_ ?_)
    · exact renumbered.mem_places_after.mpr ⟨here, facet ▸ localFacet⟩
    · rw [renumbered.keyAt_eq here, renumbered.keyAt_eq inside, same]
  · intro unshared twin among same
    rcases renumbered.mem_places_after.mp among with ⟨here, localFacet⟩
    refine oldPlace_inj here inside (unshared _ ?_ ?_)
    · exact renumbered.mem_places_before.mpr ⟨σ.old_lt here, localFacet⟩
    · rw [← renumbered.keyAt_eq here, ← renumbered.keyAt_eq inside, same]

/-- The boundary consists of the same facets of the same cells. -/
theorem boundary_perm (renumbered : Renumbered σ mesh other) :
    ((boundary other.cellWidth other.connectivity).map (oldPlace σ)).Perm
      (boundary mesh.cellWidth mesh.connectivity) := by
  have inside : ∀ place ∈ boundary other.cellWidth other.connectivity, place.1 < n :=
    fun place among => (renumbered.mem_places_after.mp (mem_boundary.mp among).1).1
  have distinct : ((boundary other.cellWidth other.connectivity).map (oldPlace σ)).Nodup :=
    ((nodup_places _ _).filter _).map_on fun place here twin there =>
      oldPlace_inj (inside place here) (inside twin there)
  -- No place is listed twice, so it is enough that the same places are listed.
  refine (List.perm_ext_iff_of_nodup distinct ((nodup_places _ _).filter _)).mpr fun place => ?_
  rw [List.mem_map]
  constructor
  · rintro ⟨twin, among, rfl⟩
    rcases mem_boundary.mp among with ⟨listed, unshared⟩
    rcases renumbered.mem_places_after.mp listed with ⟨here, localFacet⟩
    exact mem_boundary.mpr ⟨renumbered.mem_places_before.mpr ⟨σ.old_lt here, localFacet⟩,
      (renumbered.unshared_iff here).mp unshared⟩
  · intro among
    rcases mem_boundary.mp among with ⟨listed, unshared⟩
    rcases renumbered.mem_places_before.mp listed with ⟨cell, localFacet⟩
    rcases exists_oldPlace σ cell with ⟨twin, here, facet, rfl⟩
    exact ⟨twin, mem_boundary.mpr ⟨renumbered.mem_places_after.mpr ⟨here, facet ▸ localFacet⟩,
      (renumbered.unshared_iff here).mpr unshared⟩, rfl⟩

/-! ## Cells -/

theorem index_ofIndex (renumbered : Renumbered σ mesh other)
    (addressable : mesh.connectivity.size < UInt64.size) {i : Nat} (inside : i < n) :
    (PointId.ofIndex i).index = i := by
  have few : n ≤ mesh.connectivity.size := by
    rw [renumbered.connectivity.size_before]
    exact Nat.le_mul_of_pos_right n (Nat.succ_pos _)
  exact PointId.index_ofIndex (by omega)

theorem cellCoordinates_eq (renumbered : Renumbered σ mesh other)
    (addressable : mesh.connectivity.size < UInt64.size) {i : Nat} (inside : i < n) :
    other.cellCoordinates (.ofIndex i) = mesh.cellCoordinates (.ofIndex (σ.old i)) := by
  have vertices : other.cellVertices (.ofIndex i) = mesh.cellVertices (.ofIndex (σ.old i)) := by
    have here := renumbered.index_ofIndex addressable inside
    have there := renumbered.index_ofIndex addressable (σ.old_lt inside)
    rw [cellVertices_eq_ok_iff.mpr ⟨by rw [here, renumbered.numCells_after]; exact inside, rfl⟩,
      cellVertices_eq_ok_iff.mpr
        ⟨by rw [there, renumbered.numCells_before]; exact σ.old_lt inside, rfl⟩,
      here, there, renumbered.cellSlice_eq inside]
  have points : other.vertexCoordinates = mesh.vertexCoordinates := by
    funext v
    rw [vertexCoordinates, vertexCoordinates, renumbered.coordinates, renumbered.geometricDim]
  rw [cellCoordinates, cellCoordinates, vertices, points]

end Renumbered
end SimplexMesh
end FormAssembly
