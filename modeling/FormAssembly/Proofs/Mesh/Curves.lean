import FormAssembly.Assembly.Pass
import FormAssembly.Proofs.Mesh.Cells
import FormAssembly.Proofs.Mesh.FacetNumbers
import FormAssembly.Proofs.Mesh.Markers
import FormAssembly.Proofs.Space.Lookups

/-!
# Boundary points of curves

The facets of cells of dimension 1 are their vertices. They are numbered as facets all the same, by
the order in which they are first seen, and of each cell the second vertex is seen before the first
(`FacetCensus.pointsSeen`). The boundary consists of the vertices that are seen once
(`SimplexMesh.mem_exterior_iff_isPoint`).

A vertex on the boundary is therefore looked up in markers under the number of different vertices
seen before it (`FacetCensus.pointNumber`), which need not be its own number. Markers that are keyed
by vertices have to be keyed anew (`Markers.rekeyed`).
-/

namespace FormAssembly

/-! ## Points of a flat array -/

namespace FacetCensus

variable {connectivity : Array Nat} {place : Nat × Nat} {v w : Nat}

/-- The vertex of a cell of two vertices that a facet is not opposite to. -/
def pointAt (connectivity : Array Nat) (place : Nat × Nat) : Nat :=
  connectivity.getD (place.1 * 2 + (1 - place.2)) 0

/-- The vertices of cells of two vertices in the order in which they are seen as facets. -/
def pointsSeen (connectivity : Array Nat) : List Nat :=
  (places 2 connectivity).map (pointAt connectivity)

/-- Number of different vertices that are seen before a vertex. -/
def pointNumber (connectivity : Array Nat) (v : Nat) : Nat :=
  ((pointsSeen connectivity).takeWhile (· ≠ v)).toFinset.card

theorem eraseIdx_cellSlice (among : place ∈ places 2 connectivity) :
    (cellSlice 2 connectivity place.1).eraseIdx place.2 = [pointAt connectivity place] := by
  rcases place with ⟨cell, localFacet⟩
  rcases mem_places.mp among with ⟨inside, one⟩
  have here : IsGroup connectivity 2 cell (cellSlice 2 connectivity cell) :=
    isGroup_extract (group_le inside)
  rcases List.length_eq_two.mp here.length_eq with ⟨a, b, two⟩
  have first : connectivity[cell * 2]? = some a := by
    simpa [two] using (here.getElem?_eq 0 (by decide)).symm
  have second : connectivity[cell * 2 + 1]? = some b := by
    simpa [two] using (here.getElem?_eq 1 (by decide)).symm
  rw [two]
  rcases Nat.le_one_iff_eq_zero_or_eq_one.mp (Nat.le_of_lt_succ one) with rfl | rfl
  · simp [pointAt, Array.getD_eq_getD_getElem?, second]
  · simp [pointAt, Array.getD_eq_getD_getElem?, first]

theorem keyAt_eq_singleton (among : place ∈ places 2 connectivity) :
    keyAt 2 connectivity place = [pointAt connectivity place] := by
  simp [keyAt, eraseIdx_cellSlice among]

theorem keysOf_incidences_two (connectivity : Array Nat) :
    keysOf (incidences 2 connectivity) = (pointsSeen connectivity).map fun v => [v] := by
  rw [keysOf_incidences, pointsSeen, List.map_map]
  exact List.map_congr_left fun place among => keyAt_eq_singleton among

theorem pointAt_mem_pointsSeen (among : place ∈ places 2 connectivity) :
    pointAt connectivity place ∈ pointsSeen connectivity :=
  List.mem_map_of_mem among

/-! ## Numbers -/

theorem takeWhile_of_first {before after : List Nat} (fresh : v ∉ before) :
    (before ++ v :: after).takeWhile (· ≠ v) = before := by
  have others : ∀ w ∈ before, decide (w ≠ v) = true := by
    intro w among
    exact decide_eq_true fun same => fresh (same ▸ among)
  rw [List.takeWhile_append_of_pos others]
  simp

/-- A vertex has the number that the census gives to it as a facet. -/
theorem idxOf_keys (seen : v ∈ pointsSeen connectivity) :
    (keysOf (incidences 2 connectivity)).eraseDups.idxOf [v] = pointNumber connectivity v := by
  rcases List.eq_append_cons_of_mem seen with ⟨before, after, split, fresh⟩
  have single : Function.Injective fun v : Nat => [v] := fun _ _ same => List.head_eq_of_cons_eq same
  have freshKey : [v] ∉ before.map fun v => [v] := by
    simpa using fresh
  calc (keysOf (incidences 2 connectivity)).eraseDups.idxOf [v]
      = ((before.map fun v => [v]) ++ [v] :: after.map fun v => [v]).eraseDups.idxOf [v] := by
        rw [keysOf_incidences_two, split, List.map_append, List.map_cons]
    _ = (before.map fun v => [v]).toFinset.card := idxOf_eraseDups_of_first freshKey
    _ = (before.toFinset.image fun v => [v]).card := by
        refine congrArg Finset.card (Finset.ext fun key => ?_)
        simp
    _ = before.toFinset.card := Finset.card_image_of_injective _ single
    _ = pointNumber connectivity v := by rw [pointNumber, split, takeWhile_of_first fresh]

theorem numberAt_eq_pointNumber (among : place ∈ places 2 connectivity) :
    numberAt 2 connectivity place = pointNumber connectivity (pointAt connectivity place) := by
  rw [numberAt, keyAt_eq_singleton among, idxOf_keys (pointAt_mem_pointsSeen among)]

theorem pointNumber_inj (here : v ∈ pointsSeen connectivity) (there : w ∈ pointsSeen connectivity)
    (same : pointNumber connectivity v = pointNumber connectivity w) : v = w := by
  have listed : [v] ∈ (keysOf (incidences 2 connectivity)).eraseDups := by
    rw [List.mem_eraseDups, keysOf_incidences_two]
    exact List.mem_map_of_mem here
  rw [← idxOf_keys here, ← idxOf_keys there] at same
  exact List.head_eq_of_cons_eq ((List.idxOf_inj listed).mp same)

theorem pointNumber_lt (seen : v ∈ pointsSeen connectivity) :
    pointNumber connectivity v < connectivity.size := by
  rcases List.eq_append_cons_of_mem seen with ⟨before, after, split, fresh⟩
  have whole : (before ++ v :: after).length ≤ connectivity.size := by
    rw [← split, pointsSeen, List.length_map]
    exact length_places_le 2 connectivity
  have few : before.toFinset.card ≤ before.length := before.toFinset_card_le
  rw [pointNumber, split, takeWhile_of_first fresh]
  rw [List.length_append, List.length_cons] at whole
  omega

theorem unshared_iff_count (among : place ∈ places 2 connectivity) :
    Unshared 2 connectivity place ↔
      (pointsSeen connectivity).count (pointAt connectivity place) = 1 := by
  rw [pointsSeen, count_map_eq_one_iff (nodup_places 2 connectivity) among]
  refine forall₂_congr ?_
  intro other there
  rw [keyAt_eq_singleton among, keyAt_eq_singleton there, List.singleton_inj]

end FacetCensus

/-! ## The boundary of a curve -/

namespace SimplexMesh

open FacetCensus

variable {α : Type} {mesh : SimplexMesh α} {f : ExteriorFacet} {v : Nat}

/-- A facet consists of one vertex: that of its cell is left when the one opposite to the facet is
taken away. -/
def IsPoint (mesh : SimplexMesh α) (f : ExteriorFacet) (v : Nat) : Prop :=
  ∃ vertices, mesh.cellVertices f.cell = .ok vertices ∧ vertices.eraseIdx f.localFacet = [v]

theorem isPoint_iff (curve : mesh.topologicalDim = 1) :
    mesh.IsPoint f v ↔ (f.cell.index, f.localFacet) ∈ places 2 mesh.connectivity ∧
      pointAt mesh.connectivity (f.cell.index, f.localFacet) = v := by
  have width : mesh.cellWidth = 2 := by
    rw [cellWidth, curve]
  rw [IsPoint]
  simp only [cellVertices_eq_ok_iff, numCells, width]
  constructor
  · rintro ⟨_, ⟨inside, rfl⟩, single⟩
    -- Nothing is taken away from the two vertices of a cell behind their end.
    have early : f.localFacet < 2 := by
      by_contra late
      have two : (cellSlice 2 mesh.connectivity f.cell.index).length = 2 :=
        (isGroup_extract (group_le inside)).length_eq
      rw [List.eraseIdx_of_length_le (two.trans_le (Nat.le_of_not_lt late))] at single
      rw [single, List.length_singleton] at two
      exact absurd two (by decide)
    have among : (f.cell.index, f.localFacet) ∈ places 2 mesh.connectivity :=
      mem_places.mpr ⟨inside, early⟩
    exact ⟨among, List.singleton_inj.mp ((eraseIdx_cellSlice among).symm.trans single)⟩
  · rintro ⟨among, rfl⟩
    exact ⟨_, ⟨(mem_places.mp among).1, rfl⟩, eraseIdx_cellSlice among⟩

section Addressable

variable (curve : mesh.topologicalDim = 1) (addressable : mesh.connectivity.size < UInt64.size)
include curve addressable

/-- On the boundary are the vertices that are seen once, under their numbers as facets. -/
theorem mem_exterior_iff_isPoint :
    f ∈ mesh.census.exterior ↔ ∃ v, mesh.IsPoint f v ∧ (pointsSeen mesh.connectivity).count v = 1 ∧
      f.facet.index = pointNumber mesh.connectivity v := by
  have width : mesh.cellWidth = 2 := by
    rw [cellWidth, curve]
  rw [mem_exterior_iff addressable, width]
  constructor
  · rintro ⟨⟨cell, localFacet⟩, listed, number, rfl, rfl⟩
    rcases mem_boundary.mp listed with ⟨among, unshared⟩
    exact ⟨_, (isPoint_iff curve).mpr ⟨among, rfl⟩, (unshared_iff_count among).mp unshared,
      number.trans (numberAt_eq_pointNumber among)⟩
  · rintro ⟨v, point, once, number⟩
    rcases (isPoint_iff curve).mp point with ⟨among, rfl⟩
    exact ⟨_, mem_boundary.mpr ⟨among, (unshared_iff_count among).mpr once⟩,
      number.trans (numberAt_eq_pointNumber among).symm, rfl, rfl⟩

theorem facet_eq_of_isPoint (onBoundary : f ∈ mesh.census.exterior) (point : mesh.IsPoint f v) :
    f.facet = PointId.ofIndex (pointNumber mesh.connectivity v) := by
  rcases (mem_exterior_iff_isPoint curve addressable).mp onBoundary with ⟨w, same, _, number⟩
  have equal : w = v :=
    ((isPoint_iff curve).mp same).2.symm.trans ((isPoint_iff curve).mp point).2
  rw [← equal, ← number, PointId.ofIndex_index]

end Addressable

theorem IsPoint.mem_pointsSeen (curve : mesh.topologicalDim = 1) (point : mesh.IsPoint f v) :
    v ∈ pointsSeen mesh.connectivity := by
  rcases (isPoint_iff curve).mp point with ⟨among, rfl⟩
  exact pointAt_mem_pointsSeen among

end SimplexMesh

/-! ## Markers of boundary points -/

namespace Markers

open FacetCensus

variable {connectivity : Array Nat} {v : Nat}

/-- What markers say of vertices, said of their numbers as facets. -/
def rekeyed (m : Markers) (connectivity : Array Nat) : Markers :=
  ofPairs m.dim ((pointsSeen connectivity).filterMap fun v =>
    (m.get? (.ofIndex v)).map fun number => (.ofIndex (pointNumber connectivity v), number))

theorem dim_rekeyed (m : Markers) (connectivity : Array Nat) :
    (m.rekeyed connectivity).dim = m.dim :=
  dim_ofPairs _ _

theorem get?_rekeyed (m : Markers) (addressable : connectivity.size < UInt64.size)
    (seen : v ∈ pointsSeen connectivity) :
    (m.rekeyed connectivity).get? (.ofIndex (pointNumber connectivity v)) =
      m.get? (.ofIndex v) := by
  -- No other vertex has the number of `v`.
  have alone : ∀ w ∈ pointsSeen connectivity,
      PointId.ofIndex (pointNumber connectivity w) = .ofIndex (pointNumber connectivity v) →
        w = v := by
    intro w there same
    have below := pointNumber_lt seen
    have alsoBelow := pointNumber_lt there
    have indices := congrArg PointId.index same
    rw [PointId.index_ofIndex (by omega), PointId.index_ofIndex (by omega)] at indices
    exact pointNumber_inj there seen indices
  have listed : ∀ number, (PointId.ofIndex (pointNumber connectivity v), number) ∈
      ((pointsSeen connectivity).filterMap fun v => (m.get? (.ofIndex v)).map fun number =>
        (PointId.ofIndex (pointNumber connectivity v), number)) ↔
          m.get? (.ofIndex v) = some number := by
    intro number
    simp only [List.mem_filterMap, Option.map_eq_some_iff, Prod.mk.injEq]
    constructor
    · rintro ⟨w, there, _, marked, same, rfl⟩
      rwa [alone w there same] at marked
    · intro marked
      exact ⟨v, seen, number, marked, rfl, rfl⟩
  refine Option.ext ?_
  intro number
  rw [rekeyed, get?_ofPairs, lastNumber?_eq_some_iff, listed]
  intro j k first second
  exact Option.some.inj (((listed j).mp first).symm.trans ((listed k).mp second))

end Markers

namespace SimplexMesh

open FacetCensus

variable {α : Type}

/-- On the boundary of a curve are the vertices that are seen once, in one (cell, local facet). The
number of such a facet is the number of different vertices seen before its vertex. A form's markers
are looked up by that number; so markers that are keyed anew select the same boundary points as they
do by vertex, and markers that are keyed by vertices do so, whatever they are, only if each vertex on
the boundary has its own number as a facet. The connectivity is meant to be short enough for its
entries to be counted by a word. -/
theorem boundary_points_by_appearance {mesh : SimplexMesh α} (curve : mesh.topologicalDim = 1)
    (addressable : mesh.connectivity.size < UInt64.size) :
    let seen := pointsSeen mesh.connectivity
    let number := pointNumber mesh.connectivity
    (∀ f, f ∈ mesh.census.exterior ↔
      ∃ v, mesh.IsPoint f v ∧ seen.count v = 1 ∧ f.facet.index = number v) ∧
    (∀ before v after, seen = before ++ v :: after → v ∉ before →
      number v = before.toFinset.card) ∧
    (∀ form : Form α, ∀ f ∈ mesh.census.exterior, ∀ v, mesh.IsPoint f v →
      (Pass.facetVisit form f).marker = form.marker .exteriorFacet (.ofIndex (number v))) ∧
    (∀ m : Markers, (m.rekeyed mesh.connectivity).dim = m.dim ∧
      ∀ form : Form α, form.markers .exteriorFacet = some (m.rekeyed mesh.connectivity) →
        ∀ f ∈ mesh.census.exterior, ∀ v, mesh.IsPoint f v →
          (Pass.facetVisit form f).marker = m.get? (.ofIndex v)) ∧
    ((∀ m : Markers, m.dim = 0 → ∀ f ∈ mesh.census.exterior, ∀ v, mesh.IsPoint f v →
        m.get? f.facet = m.get? (.ofIndex v)) ↔
      ∀ f ∈ mesh.census.exterior, ∀ v, mesh.IsPoint f v → f.facet = .ofIndex v) := by
  intro seen number
  refine ⟨fun _ => mem_exterior_iff_isPoint curve addressable, ?_, ?_, ?_, ?_⟩
  · intro before v after split fresh
    rw [show number v = ((pointsSeen mesh.connectivity).takeWhile (· ≠ v)).toFinset.card from rfl,
      show pointsSeen mesh.connectivity = before ++ v :: after from split, takeWhile_of_first fresh]
  · intro form f onBoundary v point
    exact congrArg (form.marker .exteriorFacet)
      (facet_eq_of_isPoint curve addressable onBoundary point)
  · intro m
    refine ⟨m.dim_rekeyed _, ?_⟩
    intro form installed f onBoundary v point
    calc (Pass.facetVisit form f).marker
        = (m.rekeyed mesh.connectivity).get? f.facet := by
          simp [Pass.facetVisit, Form.marker, installed]
      _ = (m.rekeyed mesh.connectivity).get? (.ofIndex (number v)) := by
          rw [facet_eq_of_isPoint curve addressable onBoundary point]
      _ = m.get? (.ofIndex v) := m.get?_rekeyed addressable (point.mem_pointsSeen curve)
  · constructor
    · intro every f onBoundary v point
      -- Markers of the vertex alone find the facet only if it has the vertex's identifier.
      have found := every ((Markers.empty 0).mark (.ofIndex v) 0) rfl f onBoundary v point
      rw [Markers.get?_mark, Markers.get?_mark, if_pos rfl] at found
      by_contra different
      rw [if_neg different] at found
      cases found
    · intro own m _ f onBoundary v point
      rw [own f onBoundary v point]

open DofTable (twoSegments)

theorem isPoint_left_end : twoSegments.IsPoint ⟨.ofIndex 1, .ofIndex 0, 1⟩ 0 :=
  ⟨[0, 1], rfl, rfl⟩

/-- The left end of two segments is vertex 0 and facet 1, and the right end is vertex 2 and facet 2.
Markers of vertex 0 that are keyed anew reach the left end. -/
theorem boundary_points_by_appearance_two_segments :
    let left : ExteriorFacet := ⟨.ofIndex 1, .ofIndex 0, 1⟩
    let right : ExteriorFacet := ⟨.ofIndex 2, .ofIndex 1, 0⟩
    let m := (Markers.empty 0).mark (.ofIndex 0) 7
    let form : Form Nat := ⟨FormDeclaration.toDescriptor ⟨0, [], []⟩, [],
      some (twoSegments.toMesh 0),
      (PerKind.const none).set .exteriorFacet (some (m.rekeyed twoSegments.connectivity)),
      .empty, .empty, none⟩
    twoSegments.topologicalDim = 1 ∧ twoSegments.connectivity.size < UInt64.size ∧
      left ∈ twoSegments.census.exterior ∧ right ∈ twoSegments.census.exterior ∧
      twoSegments.IsPoint left 0 ∧ (Pass.facetVisit form left).marker = some 7 := by
  intro left right m form
  rcases @boundary_points_by_appearance Nat twoSegments rfl (by decide) with
    ⟨listed, _, _, rekeyed, _⟩
  have onBoundary : left ∈ twoSegments.census.exterior :=
    (listed left).mpr ⟨0, isPoint_left_end, by decide, by decide⟩
  have rightEnd : twoSegments.IsPoint right 2 := ⟨[1, 2], rfl, rfl⟩
  refine ⟨rfl, by decide, onBoundary, (listed right).mpr ⟨2, rightEnd, by decide, by decide⟩,
    isPoint_left_end, ?_⟩
  exact ((rekeyed m).2 form rfl left onBoundary 0 isPoint_left_end).trans (by decide)

/-- The left end of two segments has as a facet the number of the vertex in the middle, so markers of
the left end miss it. -/
theorem not_every_boundary_point_has_its_own_number :
    (¬ ∀ mesh : SimplexMesh Nat, mesh.topologicalDim = 1 →
      ∀ f ∈ mesh.census.exterior, ∀ v, mesh.IsPoint f v → f.facet = .ofIndex v) ∧
    ¬ ∀ mesh : SimplexMesh Nat, mesh.topologicalDim = 1 → ∀ m : Markers, m.dim = 0 →
      ∀ f ∈ mesh.census.exterior, ∀ v, mesh.IsPoint f v →
        m.get? f.facet = m.get? (.ofIndex v) := by
  have onBoundary : ⟨.ofIndex 1, .ofIndex 0, 1⟩ ∈ twoSegments.census.exterior :=
    (mem_exterior_iff_isPoint rfl (by decide)).mpr ⟨0, isPoint_left_end, by decide, by decide⟩
  constructor
  · intro every
    exact absurd (every twoSegments rfl _ onBoundary 0 isPoint_left_end) (by decide)
  · intro every
    have missed := every twoSegments rfl ((Markers.empty 0).mark (.ofIndex 0) 7) rfl _ onBoundary 0
      isPoint_left_end
    exact absurd missed (by decide)

end SimplexMesh
end FormAssembly
