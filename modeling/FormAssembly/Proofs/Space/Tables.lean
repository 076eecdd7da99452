import FormAssembly.Proofs.Mesh.Simplex
import FormAssembly.Space.Basic

/-!
# Tables of degrees of freedom on simplex meshes

However a table is made on a simplex mesh (`DofTable.MadeOn`), it is of that mesh, has degrees of
freedom on every cell, and all of them are below the dimension of the space (`DofTable.Sound`).

A table counts the cells that it knows by its own length and width (`DofTable.cellDofs_eq`). A sound
one knows the cells of its mesh, so the degrees of freedom of a cell can be had, and they are in
range (`DofTable.Sound.cellDofs_eq`, `DofTable.Sound.lt_dim_of_mem_row`).
-/

namespace FormAssembly
namespace DofTable

variable {α : Type}

/-- The ways to make a space with degrees of freedom on a mesh. -/
inductive MadeOn (mesh : Mesh α) : DofTable α → Prop
  | linear {space : DofTable α} : linear mesh = .ok space → MadeOn mesh space
  | piecewiseConstant {space : DofTable α} : piecewiseConstant mesh = .ok space → MadeOn mesh space
  | listed {space : DofTable α} {dofsPerCell : Nat} {table : Array Nat} :
      0 < dofsPerCell → build mesh dofsPerCell table = .ok space → MadeOn mesh space

/-- What assembly relies on. -/
structure Sound (mesh : Mesh α) (space : DofTable α) : Prop where
  mesh_eq : space.mesh = mesh
  dofsPerCell_pos : 0 < space.dofsPerCell
  lt_dim : ∀ dof ∈ space.table, dof < space.dim

/-! ## Making tables -/

theorem lt_foldl_max (table : List Nat) (start : Nat) :
    start ≤ table.foldl (fun bound dof => max bound (dof + 1)) start ∧
      ∀ dof ∈ table, dof < table.foldl (fun bound dof => max bound (dof + 1)) start := by
  induction table generalizing start with
  | nil => simp
  | cons first later ih =>
      rcases ih (max start (first + 1)) with ⟨grows, bounded⟩
      refine ⟨Nat.le_trans (Nat.le_max_left _ _) grows, fun dof among => ?_⟩
      rcases List.mem_cons.mp among with rfl | later
      · exact Nat.lt_of_succ_le (Nat.le_trans (Nat.le_max_right start _) grows)
      · exact bounded dof later

theorem of_build {mesh : Mesh α} {dofsPerCell : Nat} {table : Array Nat} {space : DofTable α}
    (made : build mesh dofsPerCell table = .ok space) :
    space.mesh = mesh ∧ space.dofsPerCell = dofsPerCell ∧ space.table = table ∧
      ∀ dof ∈ table, dof < space.dim := by
  unfold build at made
  split at made
  · cases made
    refine ⟨rfl, rfl, rfl, fun dof among => ?_⟩
    rw [← Array.foldl_toList]
    exact (lt_foldl_max table.toList 0).2 dof (Array.mem_toList_iff.mpr among)
  · cases made

theorem dim_of_build {mesh : Mesh α} {dofsPerCell : Nat} {table : Array Nat} {space : DofTable α}
    (made : build mesh dofsPerCell table = .ok space) :
    space.dim = table.foldl (fun bound dof => max bound (dof + 1)) 0 := by
  unfold build at made
  split at made
  · cases made
    rfl
  · cases made

theorem exists_build {mesh : Mesh α} {dofsPerCell : Nat} {table : Array Nat}
    (fits : table.size = mesh.numCells * dofsPerCell) :
    ∃ space, build mesh dofsPerCell table = .ok space ∧ space.mesh = mesh ∧
      space.dofsPerCell = dofsPerCell ∧ space.table = table ∧
      space.dim = table.foldl (fun bound dof => max bound (dof + 1)) 0 := by
  unfold build
  rw [dif_pos fits]
  exact ⟨_, rfl, rfl, rfl, rfl, rfl⟩

theorem of_linear {mesh : Mesh α} {space : DofTable α} (made : linear mesh = .ok space) :
    ∃ table base, vertexTable mesh = .ok table ∧
      build mesh (mesh.topologicalDim + 1) table = .ok base ∧
      space = { base with dim := mesh.numEntities 0 } := by
  unfold linear at made
  cases listed : vertexTable mesh with
  | error cause =>
      rw [listed] at made
      cases made
  | ok table =>
      rw [listed] at made
      simp only [bind, Except.bind] at made
      cases built : build mesh (mesh.topologicalDim + 1) table with
      | error cause =>
          rw [built] at made
          cases made
      | ok base =>
          rw [built] at made
          cases made
          exact ⟨table, base, rfl, built, rfl⟩

/-- The vertices of the cell of an index, read through its identifier. -/
def verticesAt (mesh : SimplexMesh α) (i : Nat) : List Nat :=
  FacetCensus.cellSlice mesh.cellWidth mesh.connectivity (PointId.ofIndex i).index

theorem vertexTable_eq [Inspect α] (mesh : SimplexMesh α) (label : Nat) :
    vertexTable (mesh.toMesh label) =
      .ok ((List.range mesh.numCells).flatMap (verticesAt mesh)).toArray := by
  -- By induction on the indices: the vertices of every cell can be had.
  have whole : ∀ (indices : List Nat) (start : Array Nat),
      (∀ i ∈ indices, i < mesh.numCells) →
      (indices.map PointId.ofIndex).foldlM (fun table cell => do
        let vertices ← (mesh.toMesh label).cellVertices cell
        return table ++ vertices.toArray) start =
      (.ok (start ++ (indices.flatMap (verticesAt mesh)).toArray) :
        Except Error (Array Nat)) := by
    intro indices
    induction indices with
    | nil =>
        intro start _
        simp [pure, Except.pure]
    | cons i later ih =>
        intro start inside
        have first : (PointId.ofIndex i).index < mesh.numCells :=
          Nat.lt_of_le_of_lt (PointId.index_ofIndex_le i) (inside i List.mem_cons_self)
        have found : (mesh.toMesh label).cellVertices (PointId.ofIndex i) =
            .ok (verticesAt mesh i) :=
          SimplexMesh.cellVertices_eq_ok_iff.mpr ⟨first, rfl⟩
        rw [List.map_cons, List.foldlM_cons, found]
        refine (ih _ fun j among => inside j (List.mem_cons_of_mem i among)).trans ?_
        refine congrArg Except.ok (Array.toList_inj.mp ?_)
        simp
  unfold vertexTable
  rw [Mesh.foldCells_eq_foldlM, Mesh.cells, SimplexMesh.numCells_toMesh]
  simpa using whole (List.range mesh.numCells) #[] fun i among => List.mem_range.mp among

theorem lt_numVertices_of_mem_vertexTable [Inspect α] {mesh : SimplexMesh α} {label : Nat}
    {table : Array Nat} (listed : vertexTable (mesh.toMesh label) = .ok table) :
    ∀ v ∈ table, v < mesh.numVertices := by
  cases (vertexTable_eq mesh label).symm.trans listed
  intro v among
  rcases List.mem_flatMap.mp (List.mem_toArray.mp among) with ⟨i, _, ofCell⟩
  exact SimplexMesh.lt_numVertices_of_mem_cellSlice ofCell

theorem MadeOn.sound [Inspect α] {mesh : SimplexMesh α} {label : Nat} {space : DofTable α}
    (made : MadeOn (mesh.toMesh label) space) : Sound (mesh.toMesh label) space := by
  cases made with
  | linear made =>
      rcases of_linear made with ⟨table, base, listed, built, rfl⟩
      rcases of_build built with ⟨sameMesh, width, sameTable, _⟩
      refine ⟨sameMesh, ?_, ?_⟩
      · exact width ▸ Nat.succ_pos _
      -- The dimension is not the one of the table but the number of vertices.
      · show ∀ dof ∈ base.table, dof < mesh.numEntities 0
        rw [mesh.numEntities_zero, sameTable]
        exact lt_numVertices_of_mem_vertexTable listed
  | piecewiseConstant made =>
      rcases of_build made with ⟨sameMesh, width, sameTable, below⟩
      exact ⟨sameMesh, width ▸ Nat.one_pos, sameTable ▸ below⟩
  | listed positive made =>
      rcases of_build made with ⟨sameMesh, width, sameTable, below⟩
      exact ⟨sameMesh, width ▸ positive, sameTable ▸ below⟩

/-! ## Reading tables -/

/-- The degrees of freedom in the row of a cell. -/
def row (space : DofTable α) (cell : PointId) : List Nat :=
  (space.table.extract (cell.index * space.dofsPerCell)
    ((cell.index + 1) * space.dofsPerCell)).toList

/-- Number of the cells that a table knows. -/
def knownCells (space : DofTable α) : Nat :=
  if space.dofsPerCell = 0 then 0 else space.mesh.numCells

theorem lt_knownCells_iff {space : DofTable α} {i : Nat} :
    i < space.knownCells ↔ 0 < space.dofsPerCell ∧ i < space.mesh.numCells := by
  unfold knownCells
  split <;> omega

theorem size_div_width (space : DofTable α) :
    space.table.size / max space.dofsPerCell 1 = space.knownCells := by
  rw [space.size_table]
  by_cases flat : space.dofsPerCell = 0
  · simp [knownCells, flat]
  · have positive : 0 < space.dofsPerCell := Nat.pos_of_ne_zero flat
    rw [Nat.max_eq_left positive, Nat.mul_div_cancel _ positive, knownCells, if_neg flat]

theorem cellDofs_eq (space : DofTable α) (cell : PointId) :
    space.cellDofs cell =
      if cell.index < space.knownCells then .ok (space.row cell)
      else .error (.indexOutOfRange .cell cell.index space.knownCells) := by
  unfold cellDofs Error.checkIndex
  rw [size_div_width]
  split <;> rfl

theorem row_le {space : DofTable α} {cell : PointId} (known : cell.index < space.knownCells) :
    (cell.index + 1) * space.dofsPerCell ≤ space.table.size := by
  rw [space.size_table]
  exact Nat.mul_le_mul_right _ (lt_knownCells_iff.mp known).2

variable {mesh : Mesh α} {space : DofTable α} {cell : PointId}

theorem Sound.knownCells_eq (sound : Sound mesh space) : space.knownCells = mesh.numCells := by
  rw [knownCells, if_neg (Nat.ne_of_gt sound.dofsPerCell_pos), sound.mesh_eq]

theorem Sound.row_le (sound : Sound mesh space) (inside : cell.index < mesh.numCells) :
    (cell.index + 1) * space.dofsPerCell ≤ space.table.size :=
  DofTable.row_le (sound.knownCells_eq ▸ inside)

theorem Sound.length_row (sound : Sound mesh space) (inside : cell.index < mesh.numCells) :
    (space.row cell).length = space.dofsPerCell := by
  rw [row, Array.length_toList, size_group (sound.row_le inside)]

theorem Sound.lt_dim_of_mem_row (sound : Sound mesh space) :
    ∀ dof ∈ space.row cell, dof < space.dim :=
  fun dof among => sound.lt_dim dof (mem_of_mem_group among)

theorem Sound.cellDofs_eq (sound : Sound mesh space) (inside : cell.index < mesh.numCells) :
    space.cellDofs cell = .ok (space.row cell) := by
  rw [DofTable.cellDofs_eq, sound.knownCells_eq, if_pos inside]

end DofTable
end FormAssembly
