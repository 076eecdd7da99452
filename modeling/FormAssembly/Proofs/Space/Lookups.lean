import FormAssembly.Proofs.Mesh.Cells
import FormAssembly.Proofs.Space.Tables

/-!
# Looking up degrees of freedom

A table counts the cells that it knows by its own length and width. If the width is positive these
are the cells of its mesh, and the degrees of freedom of a cell are its group of the table
(`DofTable.cellDofs_eq_ok_iff`). A table of width 0 knows no cell, however many its mesh has; it
passes the check of its length all the same (`DofTable.not_every_table_knows_its_cells`).
-/

namespace FormAssembly
namespace DofTable

variable {α : Type}

/-! ## Rows -/

theorem isGroup_row {space : DofTable α} {cell : PointId}
    (known : cell.index < space.knownCells) :
    IsGroup space.table space.dofsPerCell cell.index (space.row cell) :=
  isGroup_extract (row_le known)

theorem cellDofs_eq_ok_iff {space : DofTable α} {cell : PointId} {dofs : List Nat} :
    space.cellDofs cell = .ok dofs ↔
      cell.index < space.knownCells ∧
        IsGroup space.table space.dofsPerCell cell.index dofs := by
  rw [cellDofs_eq]
  by_cases known : cell.index < space.knownCells
  · rw [if_pos known]
    constructor
    · rintro ⟨rfl⟩
      exact ⟨known, isGroup_row known⟩
    · rintro ⟨_, here⟩
      rw [here.unique (isGroup_row known)]
  · simp [known]

theorem exists_cellDofs_iff {space : DofTable α} {cell : PointId} :
    (∃ dofs, space.cellDofs cell = .ok dofs) ↔ cell.index < space.knownCells := by
  constructor
  · rintro ⟨dofs, found⟩
    exact (cellDofs_eq_ok_iff.mp found).1
  · intro known
    exact ⟨space.row cell, cellDofs_eq_ok_iff.mpr ⟨known, isGroup_row known⟩⟩

theorem cellDofs_eq_error_iff {space : DofTable α} {cell : PointId} {cause : Error} :
    space.cellDofs cell = .error cause ↔
      space.knownCells ≤ cell.index ∧
        cause = .indexOutOfRange .cell cell.index space.knownCells := by
  rw [cellDofs_eq]
  by_cases known : cell.index < space.knownCells
  · simp [known]
  · simp [known, Nat.le_of_not_lt known, eq_comm]

/-- Cell after cell, the table is read from its beginning to its end. -/
theorem flatten_rows {space : DofTable α} (positive : 0 < space.dofsPerCell)
    (countable : space.mesh.numCells < UInt64.size) :
    (space.mesh.cells.map space.row).flatten = space.table.toList := by
  have groups : ∀ i < space.mesh.numCells,
      IsGroup space.table space.dofsPerCell i (space.row (PointId.ofIndex i)) := by
    intro i inside
    have index : (PointId.ofIndex i).index = i := PointId.index_ofIndex (by omega)
    have known : (PointId.ofIndex i).index < space.knownCells :=
      lt_knownCells_iff.mpr ⟨positive, lt_of_eq_of_lt index inside⟩
    have here := isGroup_row known
    rwa [index] at here
  rw [Mesh.cells, List.map_map, ← List.flatMap_def]
  exact flatMap_groups space.size_table groups

/-! ## Numbers in words

A table is compared with the number of cells times its width and measured by its largest degree of
freedom, both in 64-bit words. Where words suffice, these are the numbers that are meant. -/

/-- Length that a table is to have, as computed in words. -/
def wordLength (mesh : Mesh α) (dofsPerCell : Nat) : UInt64 :=
  UInt64.ofNat mesh.numCells * UInt64.ofNat dofsPerCell

/-- One more than the largest degree of freedom, as computed in words. -/
def wordDim (table : Array Nat) : UInt64 :=
  match table.toList.max? with
  | none => 0
  | some largest => UInt64.ofNat largest + 1

theorem toNat_wordLength {mesh : Mesh α} {dofsPerCell : Nat}
    (inWords : mesh.numCells * dofsPerCell < UInt64.size) :
    (wordLength mesh dofsPerCell).toNat = mesh.numCells * dofsPerCell := by
  calc (wordLength mesh dofsPerCell).toNat
      = mesh.numCells * dofsPerCell % UInt64.size := by simp [wordLength]
    _ = mesh.numCells * dofsPerCell := Nat.mod_eq_of_lt inWords

theorem foldl_max_succ (table : List Nat) (start : Nat) :
    table.foldl (fun bound dof => max bound (dof + 1)) (start + 1) = table.foldl max start + 1 := by
  induction table generalizing start with
  | nil => rfl
  | cons dof later ih =>
      have here : max (start + 1) (dof + 1) = max start dof + 1 := Nat.succ_max_succ start dof
      rw [List.foldl_cons, here, ih, List.foldl_cons]

theorem toNat_wordDim {table : Array Nat} (inWords : ∀ dof ∈ table, dof + 1 < UInt64.size) :
    (wordDim table).toNat = table.foldl (fun bound dof => max bound (dof + 1)) 0 := by
  rcases table with ⟨dofs⟩
  cases dofs with
  | nil => rfl
  | cons first later =>
      have largest : (first :: later).max? = some (later.foldl max first) := rfl
      have fits : later.foldl max first + 1 < UInt64.size :=
        inWords _ (List.mem_toArray.mpr (List.max?_mem largest))
      calc (wordDim ⟨first :: later⟩).toNat
          = (later.foldl max first + 1) % UInt64.size := by simp [wordDim, largest]
        _ = later.foldl max first + 1 := Nat.mod_eq_of_lt fits
        _ = later.foldl (fun bound dof => max bound (dof + 1)) (first + 1) :=
          (foldl_max_succ later first).symm
        _ = (Array.mk (first :: later)).foldl (fun bound dof => max bound (dof + 1)) 0 := by simp

/-! ## Listed tables -/

/-- A table that fits its mesh is looked up by group: for a positive width exactly the cells of the
mesh are found, each with as many degrees of freedom as the space admits to, all of them below its
dimension, and cell after cell they make up the table. For width 0 no cell is found, as if the mesh
had none. The number of cells, the length of the table and one more than each degree of freedom are
meant to fit a word: then this length and the dimension are those that words give. -/
theorem listed_table_lookups {mesh : Mesh α} {dofsPerCell : Nat} {table : Array Nat}
    {space : DofTable α} (made : build mesh dofsPerCell table = .ok space) :
    (∀ cell, (∃ dofs, space.toSpace.cellDofs cell = .ok dofs) ↔
      0 < dofsPerCell ∧ cell.index < mesh.numCells) ∧
    (∀ cell dofs, space.toSpace.cellDofs cell = .ok dofs →
      IsGroup table dofsPerCell cell.index dofs ∧
        dofs.length = space.toSpace.maxElementDofs ∧ ∀ dof ∈ dofs, dof < space.toSpace.dim) ∧
    (∀ cell cause, space.toSpace.cellDofs cell = .error cause →
      cause = .indexOutOfRange .cell cell.index (if dofsPerCell = 0 then 0 else mesh.numCells)) ∧
    (0 < dofsPerCell → mesh.numCells < UInt64.size →
      ∃ rows, List.Forall₂ (fun cell dofs => space.toSpace.cellDofs cell = .ok dofs)
          mesh.cells rows ∧
        rows.flatten = table.toList) ∧
    (mesh.numCells * dofsPerCell < UInt64.size → (∀ dof ∈ table, dof + 1 < UInt64.size) →
      (wordLength mesh dofsPerCell).toNat = table.size ∧
        (wordDim table).toNat = space.toSpace.dim) := by
  have dim : space.dim = table.foldl (fun bound dof => max bound (dof + 1)) 0 := dim_of_build made
  rcases of_build made with ⟨rfl, rfl, rfl, below⟩
  refine ⟨?_, ?_, ?_, ?_, ?_⟩
  · intro cell
    exact exists_cellDofs_iff.trans lt_knownCells_iff
  · intro cell dofs found
    have here := (cellDofs_eq_ok_iff.mp found).2
    exact ⟨here, here.length_eq, fun dof among => below dof (here.mem among)⟩
  · intro cell cause failed
    exact (cellDofs_eq_error_iff.mp failed).2
  · intro positive countable
    refine ⟨space.mesh.cells.map space.row, ?_, flatten_rows positive countable⟩
    rw [List.forall₂_map_right_iff, List.forall₂_same]
    intro cell among
    have inside : cell.index < space.mesh.numCells := by
      rcases List.mem_map.mp among with ⟨i, inRange, rfl⟩
      exact Nat.lt_of_le_of_lt (PointId.index_ofIndex_le i) (List.mem_range.mp inRange)
    have known := lt_knownCells_iff.mpr ⟨positive, inside⟩
    exact cellDofs_eq_ok_iff.mpr ⟨known, isGroup_row known⟩
  · intro inWords fit
    exact ⟨(toNat_wordLength inWords).trans space.size_table.symm, (toNat_wordDim fit).trans dim.symm⟩

/-- The interval of two cells with values `0` at its left end, `1` and `2`. -/
def twoSegments : SimplexMesh Nat :=
  ⟨1, 1, #[0, 1, 2], #[0, 1, 1, 2], .ofCells 2 #[0, 1, 1, 2], by decide, by decide, rfl, rfl,
    by decide, rfl⟩

/-- On two cells with two degrees of freedom each, the second cell has the last two of the table, and
there is no third cell. -/
theorem listed_table_lookups_two_cells :
    ∃ space, build (twoSegments.toMesh 0) 2 #[4, 0, 0, 7] = .ok space ∧
      space.toSpace.cellDofs (.ofIndex 1) = .ok [0, 7] ∧
      (¬ ∃ dofs, space.toSpace.cellDofs (.ofIndex 2) = .ok dofs) ∧
      (∃ rows, List.Forall₂ (fun cell dofs => space.toSpace.cellDofs cell = .ok dofs)
          (twoSegments.toMesh 0).cells rows ∧
        rows.flatten = [4, 0, 0, 7]) ∧
      (wordLength (twoSegments.toMesh 0) 2).toNat = 4 ∧
      (wordDim #[4, 0, 0, 7]).toNat = space.toSpace.dim := by
  have made : ∃ space, build (twoSegments.toMesh 0) 2 #[4, 0, 0, 7] = .ok space := ⟨_, rfl⟩
  rcases made with ⟨space, made⟩
  rcases listed_table_lookups made with ⟨exactly, rows, _, whole, computed⟩
  have second : ∃ dofs, space.toSpace.cellDofs (.ofIndex 1) = .ok dofs :=
    (exactly (.ofIndex 1)).mpr (by decide)
  rcases second with ⟨dofs, found⟩
  have here : IsGroup #[4, 0, 0, 7] 2 1 dofs := (rows _ _ found).1
  have expected : IsGroup #[4, 0, 0, 7] 2 1 [0, 7] := isGroup_extract (by decide)
  refine ⟨space, made, here.unique expected ▸ found, ?_, whole (by decide) (by decide),
    computed (by decide) (by decide)⟩
  intro third
  exact absurd ((exactly (.ofIndex 2)).mp third).2 (by decide)

/-- The empty table is of width 0 on any mesh, but it refuses the cells of a mesh that has some. -/
theorem not_every_table_knows_its_cells :
    ¬ ∀ (mesh : Mesh Nat) (dofsPerCell : Nat) (table : Array Nat) (space : DofTable Nat),
      build mesh dofsPerCell table = .ok space →
        ∀ cell, (∃ dofs, space.toSpace.cellDofs cell = .ok dofs) ↔ cell.index < mesh.numCells := by
  intro everyTable
  have made : ∃ space, build (twoSegments.toMesh 0) 0 #[] = .ok space ∧
      space.cellDofs (.ofIndex 0) = .error (.indexOutOfRange .cell 0 0) :=
    ⟨_, rfl, rfl⟩
  rcases made with ⟨space, made, refused⟩
  rcases (everyTable _ _ _ space made (.ofIndex 0)).mpr (by decide) with ⟨dofs, found⟩
  cases refused.symm.trans found

end DofTable
end FormAssembly
