import Mathlib.Data.List.ProdSigma
import FormAssembly.Proofs.Mesh.Census
import FormAssembly.Proofs.Mesh.Simplex

/-!
# Numbers of facets

The facets of a mesh are the vertex sets of its (cell, local facet) pairs. They are numbered as they
first appear, cell after cell, and those that appear once make the boundary
(`SimplexMesh.facets_numbered_by_appearance`).
-/

namespace FormAssembly

theorem PointId.index_inj {p q : PointId} : p.index = q.index ↔ p = q := by
  constructor
  · intro same
    refine PointId.ext_of_toNat ?_
    simp [← PointId.index_add_one, same]
  · rintro rfl
    rfl

namespace FacetCensus

variable {width : Nat} {connectivity : Array Nat} {place : Nat × Nat}

/-! ## Places of facets -/

/-- Every (cell, local facet), cell after cell. -/
def places (width : Nat) (connectivity : Array Nat) : List (Nat × Nat) :=
  List.range (connectivity.size / width) ×ˢ List.range width

/-- Sorted vertices of the cell without the one that the facet is opposite to. -/
def keyAt (width : Nat) (connectivity : Array Nat) (place : Nat × Nat) : List Nat :=
  ((cellSlice width connectivity place.1).eraseIdx place.2).insertionSort (· ≤ ·)

theorem mem_places :
    place ∈ places width connectivity ↔
      place.1 < connectivity.size / width ∧ place.2 < width := by
  rcases place with ⟨cell, localFacet⟩
  simp [places, List.mem_product]

theorem nodup_places (width : Nat) (connectivity : Array Nat) :
    (places width connectivity).Nodup :=
  List.nodup_range.product List.nodup_range

theorem length_places_le (width : Nat) (connectivity : Array Nat) :
    (places width connectivity).length ≤ connectivity.size := by
  simpa [places, List.length_product] using Nat.div_mul_le_self connectivity.size width

theorem incidences_eq (width : Nat) (connectivity : Array Nat) :
    incidences width connectivity =
      (places width connectivity).map fun place => (keyAt width connectivity place, place) := by
  simp [incidences, places, SProd.sprod, List.product, List.map_flatMap, keyAt, facetKey,
    sortVertices_eq, Function.comp_def]

theorem keysOf_incidences (width : Nat) (connectivity : Array Nat) :
    keysOf (incidences width connectivity) =
      (places width connectivity).map (keyAt width connectivity) := by
  simp [keysOf, incidences_eq, Function.comp_def]

theorem length_keyAt (among : place ∈ places width connectivity) :
    (keyAt width connectivity place).length = width - 1 := by
  rcases mem_places.mp among with ⟨cell, inside⟩
  have length : (cellSlice width connectivity place.1).length = width := by
    simpa only [cellSlice, Array.length_toList] using size_group (group_le cell)
  simp [keyAt, List.length_eraseIdx, length, inside]

/-! ## The census of a mesh -/

/-- Number of a facet: its place among the vertex sets as they first appeared. -/
def numberAt (width : Nat) (connectivity : Array Nat) (place : Nat × Nat) : Nat :=
  (keysOf (incidences width connectivity)).eraseDups.idxOf (keyAt width connectivity place)

theorem keyAt_mem (among : place ∈ places width connectivity) :
    keyAt width connectivity place ∈ keysOf (incidences width connectivity) := by
  simpa only [keysOf_incidences] using List.mem_map_of_mem among

theorem numbers_ofCells (among : place ∈ places width connectivity) :
    (ofCells width connectivity).numbers[keyAt width connectivity place]? =
      some (numberAt width connectivity place) := by
  simp [(records_ofCells width connectivity).numbers, keyAt_mem among, numberAt]

theorem size_ofCells (width : Nat) (connectivity : Array Nat) :
    (ofCells width connectivity).size =
      ((places width connectivity).map (keyAt width connectivity)).toFinset.card := by
  calc (ofCells width connectivity).size
      = (keysOf (incidences width connectivity)).eraseDups.length :=
        (records_ofCells width connectivity).size_sightings
    _ = _ := by simp [length_eraseDups, keysOf_incidences]

theorem numberAt_lt (among : place ∈ places width connectivity) :
    numberAt width connectivity place < (ofCells width connectivity).size := by
  have listed := List.idxOf_lt_length_iff.mpr (List.mem_eraseDups.mpr (keyAt_mem among))
  exact Nat.lt_of_lt_of_eq listed (records_ofCells width connectivity).size_sightings.symm

theorem numberAt_inj {other : Nat × Nat} (here : place ∈ places width connectivity) :
    numberAt width connectivity place = numberAt width connectivity other ↔
      keyAt width connectivity place = keyAt width connectivity other :=
  List.idxOf_inj (List.mem_eraseDups.mpr (keyAt_mem here))

theorem numberAt_of_first {before after : List (Nat × Nat)}
    (split : places width connectivity = before ++ place :: after) :
    keyAt width connectivity place ∉ before.map (keyAt width connectivity) →
      numberAt width connectivity place =
        (before.map (keyAt width connectivity)).toFinset.card := by
  intro fresh
  have keys : keysOf (incidences width connectivity) =
      before.map (keyAt width connectivity) ++ keyAt width connectivity place ::
        after.map (keyAt width connectivity) := by
    simp [keysOf_incidences, split]
  simpa only [numberAt, keys] using idxOf_eraseDups_of_first fresh

/-! ## The boundary -/

/-- No other (cell, local facet) has the same vertex set. -/
def Unshared (width : Nat) (connectivity : Array Nat) (place : Nat × Nat) : Prop :=
  ∀ other ∈ places width connectivity,
    keyAt width connectivity other = keyAt width connectivity place → other = place

instance : DecidablePred (Unshared width connectivity) :=
  fun _ => inferInstanceAs (Decidable (∀ _ ∈ _, _))

theorem count_keyAt_eq_one_iff (among : place ∈ places width connectivity) :
    ((places width connectivity).map (keyAt width connectivity)).count
        (keyAt width connectivity place) = 1 ↔ Unshared width connectivity place :=
  count_map_eq_one_iff (nodup_places width connectivity) among

/-- Places of the facets on the boundary. -/
def boundary (width : Nat) (connectivity : Array Nat) : List (Nat × Nat) :=
  (places width connectivity).filter fun place => Unshared width connectivity place

theorem mem_boundary :
    place ∈ boundary width connectivity ↔
      place ∈ places width connectivity ∧ Unshared width connectivity place := by
  simp [boundary]

theorem boundary_eq (width : Nat) (connectivity : Array Nat) :
    boundary width connectivity = (places width connectivity).filter fun place =>
      (keysOf (incidences width connectivity)).count (keyAt width connectivity place) = 1 := by
  refine List.filter_congr ?_
  intro place among
  simp only [keysOf_incidences, count_keyAt_eq_one_iff among]

/-- The boundary consists of the facets that are unshared, in the order of the census. -/
theorem exterior_ofCells (width : Nat) (connectivity : Array Nat) :
    (ofCells width connectivity).exterior = (boundary width connectivity).map fun place =>
      ⟨PointId.ofIndex (numberAt width connectivity place), PointId.ofIndex place.1, place.2⟩ := by
  simp only [(records_ofCells width connectivity).exterior_eq, boundary_eq, numberAt]
  generalize keysOf (incidences width connectivity) = keys
  simp only [incidences_eq, List.filter_map, List.map_map, Function.comp_def]

/-- The boundary is listed by ascending number. -/
theorem pairwise_boundary (width : Nat) (connectivity : Array Nat) :
    (boundary width connectivity).Pairwise fun p q =>
      numberAt width connectivity p < numberAt width connectivity q := by
  let keys := keysOf (incidences width connectivity)
  have bound : ∀ key, decide (keys.count key = 1) = true → keys.count key ≤ 1 := by
    simp +contextual
  -- The keys of the boundary are some of the keys in the order of their first appearance.
  have ofBoundary : (boundary width connectivity).map (keyAt width connectivity) =
      keys.eraseDups.filter fun key => keys.count key = 1 := by
    calc (boundary width connectivity).map (keyAt width connectivity)
        = keys.filter fun key => keys.count key = 1 := by
          simp only [boundary_eq, keys, keysOf_incidences, List.filter_map, Function.comp_def]
      _ = _ := (filter_eraseDups bound).symm
  have ascending := (pairwise_idxOf keys).filter fun key => keys.count key = 1
  simpa only [← ofBoundary, List.pairwise_map, numberAt] using ascending

end FacetCensus

/-! ## Numbers of the facets of a mesh -/

namespace SimplexMesh

open FacetCensus

variable {α : Type}

theorem build_eq_ok {geometricDim topologicalDim : Nat} {coordinates : Array α}
    {connectivity : Array Nat} {mesh : SimplexMesh α}
    (built : build geometricDim topologicalDim coordinates connectivity = .ok mesh) :
    mesh.geometricDim = geometricDim ∧ mesh.topologicalDim = topologicalDim ∧
      mesh.coordinates = coordinates ∧ mesh.connectivity = connectivity := by
  unfold build at built
  split at built
  · cases built
  · split at built
    · cases built
    · split at built
      · cases built
      · split at built
        · cases built
        · cases built
          exact ⟨rfl, rfl, rfl, rfl⟩

theorem census_eq_ofCells (mesh : SimplexMesh α) :
    mesh.census = ofCells mesh.cellWidth mesh.connectivity :=
  mesh.census_eq

theorem numFacets_eq (mesh : SimplexMesh α) :
    mesh.numFacets = ((places mesh.cellWidth mesh.connectivity).map
      (keyAt mesh.cellWidth mesh.connectivity)).toFinset.card := by
  simpa only [numFacets, census_eq_ofCells] using size_ofCells mesh.cellWidth mesh.connectivity

theorem numberAt_lt_numFacets {mesh : SimplexMesh α} {place : Nat × Nat}
    (among : place ∈ places mesh.cellWidth mesh.connectivity) :
    numberAt mesh.cellWidth mesh.connectivity place < mesh.numFacets := by
  simpa only [numFacets, census_eq_ofCells] using numberAt_lt among

theorem lt_numVertices_of_mem_keyAt {mesh : SimplexMesh α} {place : Nat × Nat} {v : Nat} :
    v ∈ keyAt mesh.cellWidth mesh.connectivity place → v < mesh.numVertices := by
  intro among
  have kept := (List.mem_insertionSort (· ≤ ·)).mp among
  exact lt_numVertices_of_mem_cellSlice (List.eraseIdx_subset kept)

/-- The facets of cells of dimension 1 are vertices, each of which is numbered at most once. -/
theorem numFacets_le_numVertices {mesh : SimplexMesh α} :
    mesh.topologicalDim = 1 → mesh.numFacets ≤ mesh.numVertices := by
  intro curve
  have singletons : ((places mesh.cellWidth mesh.connectivity).map
      (keyAt mesh.cellWidth mesh.connectivity)).toFinset ⊆
        (Finset.range mesh.numVertices).image fun v => [v] := by
    intro key listed
    rcases List.mem_map.mp (List.mem_toFinset.mp listed) with ⟨place, among, rfl⟩
    have one : (keyAt mesh.cellWidth mesh.connectivity place).length = 1 :=
      (length_keyAt among).trans (by simp [cellWidth, curve])
    rcases List.length_eq_one_iff.mp one with ⟨v, single⟩
    have member : v ∈ keyAt mesh.cellWidth mesh.connectivity place := by
      simp [single]
    exact Finset.mem_image.mpr
      ⟨v, Finset.mem_range.mpr (lt_numVertices_of_mem_keyAt member), single.symm⟩
  calc mesh.numFacets
      ≤ ((Finset.range mesh.numVertices).image fun v => [v]).card := by
        simpa only [numFacets_eq] using Finset.card_le_card singletons
    _ ≤ (Finset.range mesh.numVertices).card := Finset.card_image_le
    _ = mesh.numVertices := Finset.card_range _

/-- All numbers of facets are below the number of entities of their dimension, which for cells of
dimension 1 is the number of vertices. -/
theorem numFacets_le (mesh : SimplexMesh α) :
    mesh.numFacets ≤ mesh.numEntities (mesh.topologicalDim - 1) := by
  have positive := mesh.dim_pos
  by_cases curve : mesh.topologicalDim = 1
  · simpa [curve, numEntities_zero] using numFacets_le_numVertices curve
  · have notCell : mesh.topologicalDim - 1 ≠ mesh.topologicalDim := by omega
    have notVertex : mesh.topologicalDim - 1 ≠ 0 := by omega
    have facet : mesh.topologicalDim - 1 + 1 = mesh.topologicalDim := by omega
    simp [numEntities, notCell, notVertex, facet]

/-- As many facets are numbered as there are entries in the connectivity, or fewer. -/
theorem numFacets_le_size (mesh : SimplexMesh α) :
    mesh.numFacets ≤ mesh.connectivity.size := by
  calc mesh.numFacets
      ≤ ((places mesh.cellWidth mesh.connectivity).map
          (keyAt mesh.cellWidth mesh.connectivity)).length := by
        simpa only [numFacets_eq] using List.toFinset_card_le _
    _ ≤ mesh.connectivity.size := by
        simpa using length_places_le mesh.cellWidth mesh.connectivity

/-! ## The boundary of a mesh -/

section Addressable

variable {mesh : SimplexMesh α} (addressable : mesh.connectivity.size < UInt64.size)
include addressable

theorem index_ofIndex_numberAt {place : Nat × Nat}
    (among : place ∈ places mesh.cellWidth mesh.connectivity) :
    (PointId.ofIndex (numberAt mesh.cellWidth mesh.connectivity place)).index =
      numberAt mesh.cellWidth mesh.connectivity place := by
  have below := numberAt_lt_numFacets among
  have few := mesh.numFacets_le_size
  exact PointId.index_ofIndex (by omega)

theorem index_ofIndex_cell {place : Nat × Nat}
    (among : place ∈ places mesh.cellWidth mesh.connectivity) :
    (PointId.ofIndex place.1).index = place.1 := by
  have inside : place.1 < mesh.connectivity.size / mesh.cellWidth := (mem_places.mp among).1
  have few : mesh.connectivity.size / mesh.cellWidth ≤ mesh.connectivity.size :=
    Nat.div_le_self _ _
  exact PointId.index_ofIndex (by omega)

/-- Cells and local facets of the boundary, in its own order. -/
theorem map_exterior :
    (mesh.census.exterior.map fun f => (f.facet.index, f.cell.index, f.localFacet)) =
      (boundary mesh.cellWidth mesh.connectivity).map fun place =>
        (numberAt mesh.cellWidth mesh.connectivity place, place) := by
  simp only [census_eq_ofCells, exterior_ofCells, List.map_map]
  refine List.map_congr_left ?_
  intro place listed
  have among := (mem_boundary.mp listed).1
  simp [index_ofIndex_numberAt addressable among, index_ofIndex_cell addressable among]

theorem mem_exterior_iff {f : ExteriorFacet} :
    f ∈ mesh.census.exterior ↔ ∃ place ∈ boundary mesh.cellWidth mesh.connectivity,
      f.facet.index = numberAt mesh.cellWidth mesh.connectivity place ∧
        f.cell.index = place.1 ∧ f.localFacet = place.2 := by
  let view (f : ExteriorFacet) : Nat × Nat × Nat := (f.facet.index, f.cell.index, f.localFacet)
  have distinct : Function.Injective view := by
    intro f g same
    simp only [view, Prod.mk.injEq, PointId.index_inj] at same
    rcases f with ⟨_, _, _⟩
    rcases g with ⟨_, _, _⟩
    simpa using same
  calc f ∈ mesh.census.exterior
      ↔ view f ∈ mesh.census.exterior.map view := (List.mem_map_of_injective distinct).symm
    _ ↔ view f ∈ (boundary mesh.cellWidth mesh.connectivity).map fun place =>
          (numberAt mesh.cellWidth mesh.connectivity place, place) := by
        simp only [view, map_exterior addressable]
    _ ↔ _ := by
        simp [view, eq_comm]

theorem pairwise_exterior :
    mesh.census.exterior.Pairwise fun f g => f.facet.index < g.facet.index := by
  have ascending : ((boundary mesh.cellWidth mesh.connectivity).map fun place =>
      (numberAt mesh.cellWidth mesh.connectivity place, place)).Pairwise
        fun f g => f.1 < g.1 := by
    simpa [List.pairwise_map] using pairwise_boundary mesh.cellWidth mesh.connectivity
  simpa only [← map_exterior addressable, List.pairwise_map] using ascending

end Addressable

/-- Facets get the same number iff they have the same vertices, whatever the cells are like. A facet
that appears for the first time gets the number of different facets before it, and the boundary
lists, by ascending number, exactly the facets of one (cell, local facet) only. What it lists are
cells of the mesh with facets of theirs, whose numbers are those of entities of the mesh. The
connectivity is meant to be short enough for its entries to be counted by a word. -/
theorem facets_numbered_by_appearance {geometricDim topologicalDim : Nat} {coordinates : Array α}
    {connectivity : Array Nat} {mesh : SimplexMesh α}
    (built : build geometricDim topologicalDim coordinates connectivity = .ok mesh)
    (addressable : connectivity.size < UInt64.size) :
    let all := places (topologicalDim + 1) connectivity
    let key := keyAt (topologicalDim + 1) connectivity
    ∃ number : Nat × Nat → Nat,
      (∀ place ∈ all, mesh.census.numbers[key place]? = some (number place)) ∧
      (∀ p ∈ all, ∀ q ∈ all, number p = number q ↔ key p = key q) ∧
      (∀ before place after, all = before ++ place :: after → key place ∉ before.map key →
        number place = (before.map key).toFinset.card) ∧
      mesh.numFacets = (all.map key).toFinset.card ∧
      (mesh.census.exterior.Pairwise fun f g => f.facet.index < g.facet.index) ∧
      (∀ f, f ∈ mesh.census.exterior ↔ ∃ place ∈ all, (all.map key).count (key place) = 1 ∧
        f.facet.index = number place ∧ f.cell.index = place.1 ∧ f.localFacet = place.2) ∧
      ∀ f ∈ mesh.census.exterior, f.cell.index < mesh.numCells ∧ f.localFacet ≤ topologicalDim ∧
        f.facet.index < mesh.numEntities (topologicalDim - 1) := by
  rcases build_eq_ok built with ⟨rfl, rfl, rfl, rfl⟩
  intro all key
  have listed : ∀ f, f ∈ mesh.census.exterior ↔ ∃ place ∈ all, (all.map key).count (key place) = 1 ∧
      f.facet.index = numberAt mesh.cellWidth mesh.connectivity place ∧
        f.cell.index = place.1 ∧ f.localFacet = place.2 := by
    intro f
    simp only [mem_exterior_iff addressable, mem_boundary, and_assoc]
    refine exists_congr fun place => and_congr_right ?_
    intro among
    exact and_congr_left fun _ => (count_keyAt_eq_one_iff among).symm
  refine ⟨numberAt mesh.cellWidth mesh.connectivity, ?_, ?_, ?_, mesh.numFacets_eq,
    pairwise_exterior addressable, listed, ?_⟩
  · intro place among
    simp only [census_eq_ofCells]
    exact numbers_ofCells among
  · intro p here q _
    exact numberAt_inj here
  · intro before place after split fresh
    exact numberAt_of_first split fresh
  · intro f onBoundary
    rcases (listed f).mp onBoundary with ⟨place, among, _, number, cell, localFacet⟩
    rcases mem_places.mp among with ⟨inMesh, inCell⟩
    have below : f.facet.index < mesh.numFacets := by
      simpa only [number] using numberAt_lt_numFacets among
    refine ⟨?_, ?_, Nat.lt_of_lt_of_le below mesh.numFacets_le⟩
    · exact lt_of_eq_of_lt cell inMesh
    · exact Nat.le_of_lt_succ (lt_of_eq_of_lt localFacet inCell)

/-- The last of three triangles repeats a vertex. Its vertex sets are one pair that it shares with
the second triangle, twice, and a repeated vertex, which is the last facet and on the boundary. -/
theorem facets_numbered_by_appearance_degenerate :
    ∃ mesh : SimplexMesh Nat,
      build 2 2 #[0, 0, 1, 0, 0, 1, 1, 1] #[0, 1, 2, 2, 1, 3, 3, 3, 1] = .ok mesh ∧
      mesh.numFacets = 6 ∧
      (∃ f ∈ mesh.census.exterior, f.facet.index = 5 ∧ f.cell.index = 2 ∧ f.localFacet = 2) ∧
      ∀ f ∈ mesh.census.exterior, f.cell.index = 2 → f.localFacet = 2 := by
  let mesh : SimplexMesh Nat :=
    ⟨2, 2, #[0, 0, 1, 0, 0, 1, 1, 1], #[0, 1, 2, 2, 1, 3, 3, 3, 1],
      .ofCells 3 #[0, 1, 2, 2, 1, 3, 3, 3, 1], by decide, by decide, rfl, rfl, by decide, rfl⟩
  have built : build 2 2 #[0, 0, 1, 0, 0, 1, 1, 1] #[0, 1, 2, 2, 1, 3, 3, 3, 1] = .ok mesh :=
    mesh.build_eq
  rcases facets_numbered_by_appearance built (by decide) with
    ⟨number, _, _, first, facets, _, listed, _⟩
  have six : ((places 3 #[0, 1, 2, 2, 1, 3, 3, 3, 1]).map
      (keyAt 3 #[0, 1, 2, 2, 1, 3, 3, 3, 1])).toFinset.card = 6 := by
    decide
  have last : number (2, 2) = 5 :=
    first [(0, 0), (0, 1), (0, 2), (1, 0), (1, 1), (1, 2), (2, 0), (2, 1)] (2, 2) [] rfl (by decide)
  have third : ∀ localFacet < 3, ((places 3 #[0, 1, 2, 2, 1, 3, 3, 3, 1]).map
      (keyAt 3 #[0, 1, 2, 2, 1, 3, 3, 3, 1])).count
        (keyAt 3 #[0, 1, 2, 2, 1, 3, 3, 3, 1] (2, localFacet)) = 1 ↔ localFacet = 2 := by
    decide
  refine ⟨mesh, built, facets.trans six, ?_, ?_⟩
  · refine ⟨⟨.ofIndex 5, .ofIndex 2, 2⟩, (listed _).mpr ⟨(2, 2), by decide, ?_⟩, ?_⟩
    · exact ⟨(third 2 (by decide)).mpr rfl, last.symm, rfl, rfl⟩
    · decide
  · intro f onBoundary cell
    rcases (listed f).mp onBoundary with ⟨⟨c, localFacet⟩, among, once, _, ofCell, place⟩
    obtain rfl : c = 2 := ofCell.symm.trans cell
    exact place.trans ((third localFacet (mem_places.mp among).2).mp once)

end SimplexMesh
end FormAssembly
