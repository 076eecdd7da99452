import Std.Data.TreeMap
import FormAssembly.Mesh.Basic

/-!
# Census of facets

The facets of a simplicial cell are its vertex sets less one vertex. The census walks through all
(cell, local facet) pairs, cell after cell, gives each vertex set a number when it first appears
and counts its appearances. A facet that appears once lies on the boundary.

Vertex sets are lists, so a cell that repeats a vertex is counted like any other.
-/

namespace FormAssembly

/-- Puts `v` before the first larger entry. -/
def insertVertex (v : Nat) : List Nat → List Nat
  | [] => [v]
  | w :: rest => if v ≤ w then v :: w :: rest else w :: insertVertex v rest

/-- The vertices in ascending order. -/
def sortVertices (vertices : List Nat) : List Nat :=
  vertices.foldr insertVertex []

/-- Sorted vertices of the facet opposite to the vertex at place `localFacet`. -/
def facetKey (vertices : List Nat) (localFacet : Nat) : List Nat :=
  sortVertices (vertices.eraseIdx localFacet)

/-- Where a facet was first seen, and how often it has been seen. -/
structure FacetSighting where
  cell : Nat
  localFacet : Nat
  count : Nat
  deriving DecidableEq, Repr

/-- The facets seen so far. -/
structure FacetCensus where
  /-- Number of each vertex set. -/
  numbers : Std.TreeMap (List Nat) Nat := ∅
  /-- Facets by number. -/
  sightings : Array FacetSighting := #[]

namespace FacetCensus

/-- Counts one more appearance of the facet with vertices `key`. -/
def see (census : FacetCensus) (key : List Nat) (cell localFacet : Nat) : FacetCensus :=
  match census.numbers[key]? with
  | some number =>
      { census with
        sightings := census.sightings.modify number fun s => { s with count := s.count + 1 } }
  | none =>
      { numbers := census.numbers.insert key census.sightings.size
        sightings := census.sightings.push ⟨cell, localFacet, 1⟩ }

/-- Vertices of cell number `cell` in a flat array with `width` vertices a cell. -/
def cellSlice (width : Nat) (connectivity : Array Nat) (cell : Nat) : List Nat :=
  (connectivity.extract (cell * width) ((cell + 1) * width)).toList

/-- Every (vertex set, cell, local facet), in the order of the census. -/
def incidences (width : Nat) (connectivity : Array Nat) : List (List Nat × Nat × Nat) :=
  (List.range (connectivity.size / width)).flatMap fun cell =>
    (List.range width).map fun localFacet =>
      (facetKey (cellSlice width connectivity cell) localFacet, cell, localFacet)

/-- Census of all facets of the cells in a flat array with `width` vertices a cell. -/
def ofCells (width : Nat) (connectivity : Array Nat) : FacetCensus :=
  (incidences width connectivity).foldl
    (fun census (key, cell, localFacet) => census.see key cell localFacet) {}

/-- Number of distinct facets. -/
def size (census : FacetCensus) : Nat :=
  census.sightings.size

/-- The facets seen exactly once, by ascending number. -/
def exterior (census : FacetCensus) : List ExteriorFacet :=
  census.sightings.toList.zipIdx.filterMap fun (sighting, number) =>
    if sighting.count = 1 then
      some ⟨PointId.ofIndex number, PointId.ofIndex sighting.cell, sighting.localFacet⟩
    else
      none

end FacetCensus
end FormAssembly
