import FormAssembly.Coefficient.Basic
import FormAssembly.Proofs.Mesh.Cells

/-!
# Values given cell by cell

Values that are given cell by cell are groups of one width in a flat array. A cell that has a group
adds it at the end of a buffer, and every other cell is refused before its bounds are computed
(`CellwiseValues.appendTo_cases`), so bounds that are computed in words do not wrap around
(`CellwiseValues.toNat_wordBounds`). Cell after cell, the groups make up the array
(`CellwiseValues.appendEach_toFunction`).
-/

namespace FormAssembly

variable {α : Type}

/-! ## Runs over cells -/

namespace CoefficientFunction

/-- Adds the values on some cells at the end of `buffer`, one cell after another. The first that has
none ends it. -/
def appendEach (f : CoefficientFunction α) (coordinates : PointId → Array α) :
    List PointId → Array α → Except Error Unit × Array α
  | [], buffer => (.ok (), buffer)
  | cell :: later, buffer =>
      match f.appendTo cell (coordinates cell) buffer with
      | (.ok (), longer) => f.appendEach coordinates later longer
      | (.error e, same) => (.error e, same)

theorem appendTo_of_ok {f : CoefficientFunction α} {cell : PointId} {coordinates values : Array α}
    (had : f.restrict cell coordinates = .ok values) (buffer : Array α) :
    f.appendTo cell coordinates buffer = (.ok (), buffer ++ values) := by
  simp [appendTo, had]

theorem appendTo_of_error {f : CoefficientFunction α} {cell : PointId} {coordinates : Array α}
    {cause : Error} (refused : f.restrict cell coordinates = .error cause) (buffer : Array α) :
    f.appendTo cell coordinates buffer = (.error cause, buffer) := by
  simp [appendTo, refused]

/-- If all cells have values, a run puts them behind what the buffer held before. -/
theorem appendEach_of_ok {f : CoefficientFunction α} {coordinates : PointId → Array α}
    {piece : PointId → List α} {cells : List PointId}
    (had : ∀ cell ∈ cells, f.restrict cell (coordinates cell) = .ok (piece cell).toArray)
    (buffer : Array α) :
    f.appendEach coordinates cells buffer = (.ok (), buffer ++ (cells.flatMap piece).toArray) := by
  -- Each cell leaves a longer buffer for the later ones, so `buffer` has to vary.
  induction cells generalizing buffer with
  | nil => simp [appendEach]
  | cons cell later ih =>
      have first := appendTo_of_ok (had cell List.mem_cons_self) buffer
      have rest := ih (fun other among => had other (List.mem_cons_of_mem cell among))
        (buffer ++ (piece cell).toArray)
      simp [appendEach, first, rest]

end CoefficientFunction

namespace CellwiseValues

variable {width : Nat} {values : Array α} {f : CellwiseValues α} {cell : PointId}

/-! ## Building -/

theorem build_cases (width : Nat) (values : Array α) :
    (0 < width ∧ width ∣ values.size ∧
      ∃ f, build width values = .ok f ∧ f.width = width ∧ f.values = values) ∨
    (¬ (0 < width ∧ width ∣ values.size) ∧
      build width values = .error (.configuration .cellwiseWidth)) := by
  by_cases uneven : width = 0 ∨ values.size % width ≠ 0
  · refine Or.inr ⟨?_, dif_pos uneven⟩
    rintro ⟨positive, even⟩
    rcases uneven with rfl | rest
    · exact absurd positive (Nat.lt_irrefl 0)
    · exact rest (Nat.mod_eq_zero_of_dvd even)
  · rcases not_or.mp uneven with ⟨positive, even⟩
    exact Or.inl ⟨Nat.pos_of_ne_zero positive, Nat.dvd_of_mod_eq_zero (not_not.mp even), _,
      dif_neg uneven, rfl, rfl⟩

theorem of_build (made : build width values = .ok f) : f.width = width ∧ f.values = values := by
  rcases build_cases width values with ⟨_, _, found, built, sameWidth, sameValues⟩ | ⟨_, refused⟩
  · cases built.symm.trans made
    exact ⟨sameWidth, sameValues⟩
  · cases refused.symm.trans made

/-! ## One cell -/

/-- The group of the cell of an index. -/
def group (f : CellwiseValues α) (i : Nat) : List α :=
  (f.values.extract (i * f.width) ((i + 1) * f.width)).toList

theorem isGroup_group {i : Nat} (inside : i < f.numCells) :
    IsGroup f.values f.width i (f.group i) :=
  isGroup_extract (group_le inside)

theorem restrict_eq (f : CellwiseValues α) (cell : PointId) :
    f.restrict cell =
      if cell.index < f.numCells then .ok (f.group cell.index).toArray
      else .error (.indexOutOfRange .cell cell.index f.numCells) := by
  unfold restrict Error.checkIndex group
  split <;> rfl

/-- A cell that has a group adds it to the buffer, and any other leaves the buffer as it is. -/
theorem appendTo_cases [Inspect α] (f : CellwiseValues α) (cell : PointId)
    (coordinates buffer : Array α) :
    (cell.index < f.numCells ∧ ∃ group, IsGroup f.values f.width cell.index group ∧
      f.toFunction.appendTo cell coordinates buffer = (.ok (), buffer ++ group.toArray)) ∨
    (f.numCells ≤ cell.index ∧ f.toFunction.appendTo cell coordinates buffer =
      (.error (.indexOutOfRange .cell cell.index f.numCells), buffer)) := by
  have restricted : f.toFunction.restrict cell coordinates = f.restrict cell := rfl
  rw [restrict_eq] at restricted
  by_cases inside : cell.index < f.numCells
  · rw [if_pos inside] at restricted
    exact Or.inl ⟨inside, f.group cell.index, isGroup_group inside,
      CoefficientFunction.appendTo_of_ok restricted buffer⟩
  · rw [if_neg inside] at restricted
    exact Or.inr ⟨Nat.le_of_not_lt inside,
      CoefficientFunction.appendTo_of_error restricted buffer⟩

/-! ## Bounds in words -/

/-- Where the group of a cell starts and stops, computed in words of 64 bits that wrap around. -/
def wordBounds (width : Nat) (cell : PointId) : UInt64 × UInt64 :=
  let i := cell.raw - 1
  (i * UInt64.ofNat width, (i + 1) * UInt64.ofNat width)

/-- For a group that is there nothing wraps around, since its bounds are not larger than the number
of all values. -/
theorem toNat_wordBounds {size : Nat} (room : (cell.index + 1) * width ≤ size)
    (addressable : size < UInt64.size) :
    (wordBounds width cell).1.toNat = cell.index * width ∧
      (wordBounds width cell).2.toNat = (cell.index + 1) * width := by
  have narrow : width ≤ (cell.index + 1) * width := Nat.le_mul_of_pos_left width (Nat.succ_pos _)
  have below : cell.index * width ≤ (cell.index + 1) * width :=
    Nat.mul_le_mul_right width (Nat.le_succ _)
  have positive : (1 : UInt64) ≤ cell.raw := UInt64.le_iff_toNat_le.mpr cell.toNat_pos
  have index : (cell.raw - 1).toNat = cell.index := UInt64.toNat_sub_of_le _ _ positive
  have next : (cell.raw - 1 + 1).toNat = cell.index + 1 := by
    rw [UInt64.sub_add_cancel, cell.index_add_one, PointId.toNat]
  have factor : (UInt64.ofNat width).toNat = width :=
    UInt64.toNat_ofNat_of_lt' (by omega)
  simp only [wordBounds, UInt64.toNat_mul, index, next, factor]
  exact ⟨Nat.mod_eq_of_lt (by simp only [UInt64.size] at addressable; omega),
    Nat.mod_eq_of_lt (by simp only [UInt64.size] at addressable; omega)⟩

/-! ## All cells -/

/-- The cells that have values, in order, put all values behind what the buffer held before. -/
theorem appendEach_toFunction [Inspect α] (f : CellwiseValues α) {cells : List PointId}
    (inOrder : cells.map PointId.index = List.range f.numCells)
    (coordinates : PointId → Array α) (buffer : Array α) :
    f.toFunction.appendEach coordinates cells buffer = (.ok (), buffer ++ f.values) := by
  have had : ∀ cell ∈ cells, f.toFunction.restrict cell (coordinates cell) =
      .ok (f.group cell.index).toArray := by
    intro cell among
    have listed : cell.index ∈ List.range f.numCells :=
      inOrder ▸ List.mem_map_of_mem among
    exact (f.restrict_eq cell).trans (if_pos (List.mem_range.mp listed))
  have full : f.values.size = f.numCells * f.width :=
    (Nat.div_mul_cancel (Nat.dvd_of_mod_eq_zero f.split)).symm
  have whole : (cells.flatMap fun cell => f.group cell.index) = f.values.toList := by
    calc (cells.flatMap fun cell => f.group cell.index)
        = (cells.map PointId.index).flatMap f.group :=
          (List.flatMap_map PointId.index f.group cells).symm
      _ = (List.range f.numCells).flatMap f.group := by rw [inOrder]
      _ = f.values.toList := flatMap_groups full fun i inside => isGroup_group inside
  rw [CoefficientFunction.appendEach_of_ok had, whole]

/-- Values can be given cell by cell iff their number is a multiple of a positive width. Then exactly
the cells below the quotient have values. Such a cell adds its group, which lies inside the array,
behind what the buffer held before, and if the number of values fits a word, so do the bounds of the
group; for any other cell the index is reported and the buffer stays as it is. All cells in order
add all values in order. -/
theorem groups_tile_values [Inspect α] (width : Nat) (values : Array α) :
    ((∃ f, build width values = .ok f) ↔ 0 < width ∧ width ∣ values.size) ∧
    ∀ f, build width values = .ok f →
      let count := values.size / width
      (∀ cell coordinates buffer,
        (cell.index < count ∧ ∃ group, IsGroup values width cell.index group ∧
          f.toFunction.appendTo cell coordinates buffer = (.ok (), buffer ++ group.toArray)) ∨
        (count ≤ cell.index ∧ f.toFunction.appendTo cell coordinates buffer =
          (.error (.indexOutOfRange .cell cell.index count), buffer))) ∧
      (∀ cell, cell.index < count → values.size < UInt64.size →
        (wordBounds width cell).1.toNat = cell.index * width ∧
          (wordBounds width cell).2.toNat = (cell.index + 1) * width ∧
          (cell.index + 1) * width ≤ values.size) ∧
      ∀ cells, cells.map PointId.index = List.range count → ∀ coordinates buffer,
        f.toFunction.appendEach coordinates cells buffer = (.ok (), buffer ++ values) := by
  refine ⟨?_, ?_⟩
  · rcases build_cases width values with ⟨positive, even, f, built, _⟩ | ⟨uneven, refused⟩
    · exact ⟨fun _ => ⟨positive, even⟩, fun _ => ⟨f, built⟩⟩
    · refine ⟨?_, fun fits => absurd fits uneven⟩
      rintro ⟨f, built⟩
      cases refused.symm.trans built
  · intro f made
    rcases of_build made with ⟨rfl, rfl⟩
    refine ⟨fun cell coordinates buffer => f.appendTo_cases cell coordinates buffer, ?_,
      fun _ inOrder => f.appendEach_toFunction inOrder⟩
    intro cell inside addressable
    have room := group_le inside
    exact ⟨(toNat_wordBounds room addressable).1, (toNat_wordBounds room addressable).2, room⟩

/-- Of two pairs the second goes to the second cell. There is no third cell, and the last identifier
of all has no cell either. -/
theorem groups_tile_values_two_pairs :
    ∃ f : CellwiseValues Nat, build 2 #[1, 2, 3, 4] = .ok f ∧
      f.toFunction.appendTo (.ofIndex 1) #[] #[9] = (.ok (), #[9, 3, 4]) ∧
      f.toFunction.appendTo ⟨18446744073709551615, by decide⟩ #[] #[9] =
        (.error (.indexOutOfRange .cell 18446744073709551614 2), #[9]) ∧
      (wordBounds 2 (.ofIndex 1)).2.toNat = 4 ∧
      f.toFunction.appendEach (fun _ => #[]) [.ofIndex 0, .ofIndex 1] #[] =
        (.ok (), #[1, 2, 3, 4]) := by
  rcases groups_tile_values 2 #[1, 2, 3, 4] with ⟨buildable, restricted⟩
  rcases buildable.mpr (by decide) with ⟨f, built⟩
  rcases restricted f built with ⟨each, bounds, all⟩
  refine ⟨f, built, ?_, ?_, ?_, ?_⟩
  · rcases each (.ofIndex 1) #[] #[9] with ⟨_, group, here, appended⟩ | ⟨outside, _⟩
    · have expected : IsGroup #[1, 2, 3, 4] 2 1 [3, 4] := isGroup_extract (by decide)
      rw [appended, IsGroup.unique here expected]
      rfl
    · exact absurd outside (by decide)
  · rcases each ⟨18446744073709551615, by decide⟩ #[] #[9] with ⟨inside, _⟩ | ⟨_, refused⟩
    · exact absurd inside (by decide)
    · exact refused
  · exact (bounds (.ofIndex 1) (by decide) (by decide)).2.1
  · exact all [.ofIndex 0, .ofIndex 1] (by decide) _ #[]

end CellwiseValues
end FormAssembly
