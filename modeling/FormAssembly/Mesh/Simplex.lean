import FormAssembly.Mesh.FacetCensus

/-!
# Simplex meshes

A mesh of simplices of one dimension, given by the coordinates of its vertices and the vertices of
its cells. `SimplexMesh.build` checks that the two fit together; its results carry the checks as
proofs.
-/

namespace FormAssembly

/-- Vertex coordinates and cell vertices that fit together, with the census of their facets. -/
structure SimplexMesh (α : Type) where
  geometricDim : Nat
  topologicalDim : Nat
  /-- Coordinates, vertex after vertex. -/
  coordinates : Array α
  /-- Vertices, cell after cell. -/
  connectivity : Array Nat
  census : FacetCensus
  dim_pos : 0 < topologicalDim
  dim_le : topologicalDim ≤ geometricDim
  coordinates_split : coordinates.size % geometricDim = 0
  connectivity_split : connectivity.size % (topologicalDim + 1) = 0
  vertex_lt : ∀ v ∈ connectivity, v < coordinates.size / geometricDim
  census_eq : census = FacetCensus.ofCells (topologicalDim + 1) connectivity

namespace SimplexMesh

variable {α : Type}

/-- The mesh with the given vertices and cells, if they fit together. -/
def build (geometricDim topologicalDim : Nat) (coordinates : Array α) (connectivity : Array Nat) :
    Except Error (SimplexMesh α) :=
  if dims : geometricDim = 0 ∨ topologicalDim = 0 ∨ geometricDim < topologicalDim then
    .error (.configuration (.simplexDimensions geometricDim topologicalDim))
  else if points : coordinates.size % geometricDim ≠ 0 then
    .error (.configuration .coordinateCount)
  else if cells : connectivity.size % (topologicalDim + 1) ≠ 0 then
    .error (.configuration .connectivityCount)
  else
    match strays : connectivity.find? fun v => coordinates.size / geometricDim ≤ v with
    | some stray => .error (.indexOutOfRange .vertex stray (coordinates.size / geometricDim))
    | none =>
        .ok
          { geometricDim, topologicalDim, coordinates, connectivity
            census := FacetCensus.ofCells (topologicalDim + 1) connectivity
            dim_pos := by omega
            dim_le := by omega
            coordinates_split := by omega
            connectivity_split := by omega
            vertex_lt := by
              intro v hv
              have := Array.find?_eq_none.mp strays v hv
              simpa using this
            census_eq := rfl }

/-- Number of vertices. -/
def numVertices (mesh : SimplexMesh α) : Nat :=
  mesh.coordinates.size / mesh.geometricDim

/-- Number of vertices of a cell. -/
def cellWidth (mesh : SimplexMesh α) : Nat :=
  mesh.topologicalDim + 1

/-- Number of cells. -/
def numCells (mesh : SimplexMesh α) : Nat :=
  mesh.connectivity.size / mesh.cellWidth

/-- Number of facets, inside and on the boundary. -/
def numFacets (mesh : SimplexMesh α) : Nat :=
  mesh.census.size

/-- Number of entities of a dimension. For cells of dimension 1, whose facets are their vertices,
vertices are counted; dimensions between vertices and facets have no entities here. -/
def numEntities (mesh : SimplexMesh α) (dim : Nat) : Nat :=
  if dim = mesh.topologicalDim then mesh.numCells
  else if dim = 0 then mesh.numVertices
  else if dim + 1 = mesh.topologicalDim then mesh.numFacets
  else 0

/-- Vertices of a cell. -/
def cellVertices (mesh : SimplexMesh α) (cell : PointId) : Except Error (List Nat) := do
  Error.checkIndex .cell cell.index mesh.numCells
  return FacetCensus.cellSlice mesh.cellWidth mesh.connectivity cell.index

/-- Coordinates of one vertex. -/
def vertexCoordinates (mesh : SimplexMesh α) (vertex : Nat) : Array α :=
  mesh.coordinates.extract (vertex * mesh.geometricDim) ((vertex + 1) * mesh.geometricDim)

/-- Coordinates of the vertices of a cell, vertex after vertex. -/
def cellCoordinates (mesh : SimplexMesh α) (cell : PointId) : Except Error (Array α) := do
  let vertices ← mesh.cellVertices cell
  return vertices.foldl (fun buffer v => buffer ++ mesh.vertexCoordinates v) #[]

instance [Inspect α] : Inspect (SimplexMesh α) :=
  ⟨fun mesh => Inspect.record "SimplexMesh"
    [("gdim", inspect mesh.geometricDim), ("tdim", inspect mesh.topologicalDim),
     ("coordinates", inspect mesh.coordinates), ("cells", inspect mesh.connectivity),
     ("num_facets", inspect mesh.numFacets), ("exterior", inspect mesh.census.exterior)]⟩

/-- The mesh as assembly sees it, under a label that sets it apart from other meshes. -/
def toMesh [Inspect α] (mesh : SimplexMesh α) (label : Nat) : Mesh α where
  label := label
  topologicalDim := mesh.topologicalDim
  geometricDim := mesh.geometricDim
  numEntities := mesh.numEntities
  cellVertices := mesh.cellVertices
  cellCoordinates := mesh.cellCoordinates
  exteriorFacets := mesh.census.exterior
  inspection := inspect mesh

theorem cellVertices_eq_ok_iff {mesh : SimplexMesh α} {cell : PointId} {vertices : List Nat} :
    mesh.cellVertices cell = .ok vertices ↔
      cell.index < mesh.numCells ∧
        vertices = FacetCensus.cellSlice mesh.cellWidth mesh.connectivity cell.index := by
  by_cases inRange : cell.index < mesh.numCells
  · simp [cellVertices, Error.checkIndex, inRange, bind, Except.bind, pure, Except.pure, eq_comm]
  · simp [cellVertices, Error.checkIndex, inRange, bind, Except.bind]

end SimplexMesh
end FormAssembly
