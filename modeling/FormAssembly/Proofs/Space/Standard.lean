import FormAssembly.Proofs.Space.Lookups

/-!
# Standard spaces on simplex meshes

Every simplex mesh has its piecewise linear and its piecewise constant functions. The linear ones
are listed by the connectivity, cell by cell (`DofTable.vertexTable_eq`), so the degrees of freedom
of a cell are its vertices (`DofTable.exists_linear`). The constant ones number the cells
(`DofTable.exists_piecewiseConstant`).
-/

namespace FormAssembly

namespace DofTable

variable {α : Type}

/-! ## Piecewise linear functions -/

section Linear

variable (mesh : SimplexMesh α)

theorem length_verticesAt {i : Nat} (inside : i < mesh.numCells) :
    (verticesAt mesh i).length = mesh.cellWidth := by
  have read : (PointId.ofIndex i).index < mesh.numCells :=
    Nat.lt_of_le_of_lt (PointId.index_ofIndex_le i) inside
  exact (SimplexMesh.isGroup_cellSlice read).length_eq

/-- The piecewise linear functions can always be had, and they look up the vertices of cells. -/
theorem exists_linear [Inspect α] (label : Nat) :
    ∃ space, linear (mesh.toMesh label) = .ok space ∧ space.dofsPerCell = mesh.cellWidth ∧
      space.dim = mesh.numVertices ∧
      ∀ cell, space.cellDofs cell = mesh.cellVertices cell := by
  have listed := vertexTable_eq mesh label
  have fits : ((List.range mesh.numCells).flatMap (verticesAt mesh)).toArray.size =
      (mesh.toMesh label).numCells * mesh.cellWidth := by
    rw [SimplexMesh.numCells_toMesh, List.size_toArray]
    exact length_inRankOrder fun i inside => length_verticesAt mesh inside
  rcases exists_build fits with ⟨base, built, sameMesh, width, sameTable, _⟩
  have made : linear (mesh.toMesh label) = .ok { base with dim := mesh.numVertices } := by
    rw [← mesh.numEntities_zero, linear, listed]
    simp only [bind, Except.bind]
    rw [show (mesh.toMesh label).topologicalDim + 1 = mesh.cellWidth from rfl, built]
    rfl
  have known : base.knownCells = mesh.numCells := by
    rw [knownCells, if_neg (width ▸ Nat.succ_ne_zero _), sameMesh, SimplexMesh.numCells_toMesh]
  refine ⟨_, made, width, rfl, ?_⟩
  intro cell
  show base.cellDofs cell = mesh.cellVertices cell
  by_cases inside : cell.index < mesh.numCells
  · have vertices : mesh.cellVertices cell = .ok (verticesAt mesh cell.index) := by
      rw [verticesAt, PointId.ofIndex_index]
      exact SimplexMesh.cellVertices_eq_ok_iff.mpr ⟨inside, rfl⟩
    rw [vertices, cellDofs_eq_ok_iff, sameTable, width, known]
    exact ⟨inside, isGroup_flatMap (fun i here => length_verticesAt mesh here) inside⟩
  · have outside : mesh.numCells ≤ cell.index := Nat.le_of_not_lt inside
    have refused : mesh.cellVertices cell =
        .error (.indexOutOfRange .cell cell.index mesh.numCells) :=
      (SimplexMesh.refuses label outside).cellVertices_eq
    rw [refused, cellDofs_eq_error_iff, known]
    exact ⟨outside, rfl⟩

end Linear

/-! ## Piecewise constant functions -/

theorem foldl_max_range (n : Nat) :
    (List.range n).foldl (fun bound dof => max bound (dof + 1)) 0 = n := by
  induction n with
  | zero => rfl
  | succ n ih =>
      rw [List.range_succ, List.foldl_append, ih]
      exact Nat.max_eq_right (Nat.le_succ n)

/-- The piecewise constant functions can always be had on any mesh, and every cell has its own. -/
theorem exists_piecewiseConstant (mesh : Mesh α) :
    ∃ space, piecewiseConstant mesh = .ok space ∧ space.dofsPerCell = 1 ∧
      space.dim = mesh.numCells ∧
      ∀ cell, space.cellDofs cell =
        if cell.index < mesh.numCells then .ok [cell.index]
        else .error (.indexOutOfRange .cell cell.index mesh.numCells) := by
  have fits : (Array.range mesh.numCells).size = mesh.numCells * 1 := by
    rw [Array.size_range, Nat.mul_one]
  rcases exists_build fits with ⟨space, built, sameMesh, width, sameTable, dim⟩
  have known : space.knownCells = mesh.numCells := by
    rw [knownCells, if_neg (width ▸ Nat.one_ne_zero), sameMesh]
  refine ⟨space, built, width, ?_, ?_⟩
  · rw [dim, ← Array.foldl_toList, Array.toList_range, foldl_max_range]
  · intro cell
    by_cases inside : cell.index < mesh.numCells
    · have singletons : IsGroup ((List.range mesh.numCells).flatMap fun i => [i]).toArray 1
          cell.index [cell.index] :=
        isGroup_flatMap (fun _ _ => rfl) inside
      rw [if_pos inside, cellDofs_eq_ok_iff, sameTable, width, known]
      refine ⟨inside, ?_⟩
      simpa [Array.range] using singletons
    · rw [if_neg inside, cellDofs_eq_error_iff, known]
      exact ⟨Nat.le_of_not_lt inside, rfl⟩

end DofTable

namespace SimplexMesh

variable {α : Type}

/-- Exactly the cells below the number of cells can be read, whatever the buffer held before: the
vertices are the group of the cell in the connectivity, and the coordinates are the groups of these
vertices, one after another. The piecewise linear functions can always be had and have the vertices
of a cell as its degrees of freedom; the piecewise constant functions can always be had and have the
index of a cell as its only one. All groups that are read lie within their arrays. -/
theorem cells_and_standard_spaces [Inspect α] {geometricDim topologicalDim : Nat}
    {coordinates : Array α} {connectivity : Array Nat} {mesh : SimplexMesh α}
    (built : build geometricDim topologicalDim coordinates connectivity = .ok mesh)
    (label : Nat) :
    let seen := mesh.toMesh label
    mesh.numCells * (topologicalDim + 1) = connectivity.size ∧
    mesh.numVertices * geometricDim = coordinates.size ∧
    (∀ cell, cell.index < mesh.numCells → ∃ vertices points,
      seen.Reads cell vertices points.flatten ∧
      IsGroup connectivity (topologicalDim + 1) cell.index vertices ∧
      List.Forall₂ (IsGroup coordinates geometricDim) vertices points ∧
      points.flatten.length = (topologicalDim + 1) * geometricDim) ∧
    (∀ cell, mesh.numCells ≤ cell.index →
      seen.Refuses cell (.indexOutOfRange .cell cell.index mesh.numCells)) ∧
    (∃ space, DofTable.linear seen = .ok space ∧
      space.toSpace.maxElementDofs = topologicalDim + 1 ∧
      space.toSpace.dim = mesh.numVertices ∧
      (∀ cell, space.toSpace.cellDofs cell = seen.cellVertices cell) ∧
      ∀ cell dofs, space.toSpace.cellDofs cell = .ok dofs →
        IsGroup space.table space.dofsPerCell cell.index dofs ∧
        ∀ dof ∈ dofs, dof < space.toSpace.dim) ∧
    ∃ space, DofTable.piecewiseConstant seen = .ok space ∧
      space.toSpace.maxElementDofs = 1 ∧ space.toSpace.dim = mesh.numCells ∧
      (∀ cell, space.toSpace.cellDofs cell =
        if cell.index < mesh.numCells then .ok [cell.index]
        else .error (.indexOutOfRange .cell cell.index mesh.numCells)) ∧
      ∀ cell dofs, space.toSpace.cellDofs cell = .ok dofs →
        IsGroup space.table space.dofsPerCell cell.index dofs := by
  rcases build_eq_ok built with ⟨rfl, rfl, rfl, rfl⟩
  intro seen
  have cellCount : seen.numCells = mesh.numCells := mesh.numCells_toMesh label
  refine ⟨?_, ?_, ?_, ?_, ?_, ?_⟩
  · exact Nat.div_mul_cancel (Nat.dvd_of_mod_eq_zero mesh.connectivity_split)
  · exact Nat.div_mul_cancel (Nat.dvd_of_mod_eq_zero mesh.coordinates_split)
  · intro cell inside
    rcases exists_reads label inside with ⟨vertices, points, read, group, each⟩
    refine ⟨vertices, points, read, group, each, ?_⟩
    rw [length_flatten_of_groups each, group.length_eq]
    rfl
  · intro cell outside
    exact refuses label outside
  · rcases DofTable.exists_linear mesh label with ⟨space, made, width, dim, lookups⟩
    refine ⟨space, made, width, dim, lookups, ?_⟩
    intro cell dofs found
    have vertices : dofs = FacetCensus.cellSlice mesh.cellWidth mesh.connectivity cell.index :=
      (cellVertices_eq_ok_iff.mp ((lookups cell).symm.trans found)).2
    refine ⟨(DofTable.cellDofs_eq_ok_iff.mp found).2, ?_⟩
    intro dof among
    rw [vertices] at among
    exact lt_of_lt_of_eq (lt_numVertices_of_mem_cellSlice among) dim.symm
  · rcases DofTable.exists_piecewiseConstant seen with ⟨space, made, width, dim, own⟩
    simp only [cellCount] at dim own
    refine ⟨space, made, width, dim, own, ?_⟩
    intro cell dofs found
    exact (DofTable.cellDofs_eq_ok_iff.mp found).2

/-- The second of two segments lies between the last two points, of which the first is named last.
Its vertices and points come in the same order, and there is no third segment. -/
theorem cells_and_standard_spaces_two_segments :
    ∃ mesh : SimplexMesh Nat, build 2 1 #[0, 0, 3, 4, 6, 8] #[0, 1, 2, 1] = .ok mesh ∧
      (mesh.toMesh 0).Reads (.ofIndex 1) [2, 1] [6, 8, 3, 4] ∧
      (mesh.toMesh 0).Refuses (.ofIndex 2) (.indexOutOfRange .cell 2 2) ∧
      (∃ space, DofTable.linear (mesh.toMesh 0) = .ok space ∧ space.toSpace.dim = 3 ∧
        space.toSpace.cellDofs (.ofIndex 1) = .ok [2, 1]) ∧
      ∃ space, DofTable.piecewiseConstant (mesh.toMesh 0) = .ok space ∧ space.toSpace.dim = 2 ∧
        space.toSpace.cellDofs (.ofIndex 1) = .ok [1] := by
  let mesh : SimplexMesh Nat :=
    ⟨2, 1, #[0, 0, 3, 4, 6, 8], #[0, 1, 2, 1], .ofCells 2 #[0, 1, 2, 1], by decide, by decide, rfl,
      rfl, by decide, rfl⟩
  have built : build 2 1 #[0, 0, 3, 4, 6, 8] #[0, 1, 2, 1] = .ok mesh := mesh.build_eq
  have two : mesh.numCells = 2 := by decide
  have three : mesh.numVertices = 3 := by decide
  have index : (PointId.ofIndex 2).index = 2 := by decide
  rcases cells_and_standard_spaces built 0 with
    ⟨_, _, reads, refuses, ⟨linear, madeLinear, _, vertices, lookups, _⟩, constant, madeConstant, _,
      cells, own, _⟩
  rcases reads (.ofIndex 1) (by decide) with ⟨corners, points, read, group, each, _⟩
  obtain rfl : corners = [2, 1] := group.unique (isGroup_extract (by decide))
  have found : points = [[6, 8], [3, 4]] := by
    cases each with
    | cons first later =>
        cases later with
        | cons second none =>
            cases none
            rw [first.unique (isGroup_extract (by decide)),
              second.unique (isGroup_extract (by decide))]
            rfl
  rw [found] at read
  have refused := refuses (.ofIndex 2) (by decide)
  rw [index, two] at refused
  refine ⟨mesh, built, read, refused, ?_, ?_⟩
  · exact ⟨linear, madeLinear, vertices.trans three, (lookups _).trans read.cellVertices_eq⟩
  · exact ⟨constant, madeConstant, cells.trans two, (own (.ofIndex 1)).trans (if_pos (by decide))⟩

end SimplexMesh
end FormAssembly
