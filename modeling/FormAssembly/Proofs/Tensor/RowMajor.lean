import Mathlib.Tactic.Ring
import FormAssembly.Proofs.Tensor.Targets

/-!
# Row-major order

A place in a tensor and a multi-index are two names for one entry: the indices are the digits of the
place in the mixed radix of the dimensions (`Block.digits_flatIndex`, `Block.flatIndex_digits`). The
cross product of index arrays is enumerated in the same way. At a position of a block stands the
choice of indices whose numbers within their arrays are the digits of that position in the mixed
radix of the lengths (`Block.crossProduct_eq`).
-/

namespace FormAssembly
namespace Block

variable {dims index : List Nat} {rows : List (List Nat)} {place : Nat}

/-! ## Digits -/

/-- Digits of a number in the mixed radix of some dimensions. The last one varies fastest. -/
def digits : (dims : List Nat) → Nat → List Nat
  | [], _ => []
  | _ :: dims, place => place / volume dims :: digits dims (place % volume dims)

/-- What comes first counts for whole volumes of what comes after it. -/
theorem foldl_place_eq (start : Nat) :
    index.length = dims.length →
      (index.zip dims).foldl (fun place (i, n) => place * n + i) start =
        start * volume dims + flatIndex dims index := by
  unfold flatIndex
  induction dims generalizing index start with
  | nil => simp
  | cons n dims ih =>
      intro count
      cases index with
      | nil => simp at count
      | cons i index =>
          have rest : index.length = dims.length := by
            simpa using count
          have later := ih (start * n + i) rest
          have first := ih (0 * n + i) rest
          simp only [List.zip_cons_cons, List.foldl_cons, volume_cons, later, first]
          ring

theorem flatIndex_cons {i n : Nat} :
    index.length = dims.length →
      flatIndex (n :: dims) (i :: index) = i * volume dims + flatIndex dims index := by
  intro count
  simpa [flatIndex] using foldl_place_eq i count

theorem flatIndex_lt : List.Forall₂ (· < ·) index dims → flatIndex dims index < volume dims := by
  intro inRange
  simpa [flatIndex] using foldl_place_lt inRange Nat.one_pos

/-- The digits of a place are the multi-index that it is the place of. -/
theorem digits_flatIndex :
    List.Forall₂ (· < ·) index dims → digits dims (flatIndex dims index) = index := by
  intro inRange
  induction inRange with
  | nil => rfl
  | @cons i n index dims first rest ih =>
      have below : flatIndex dims index < volume dims := flatIndex_lt rest
      have positive : 0 < volume dims := Nat.zero_lt_of_lt below
      have parts : (i * volume dims + flatIndex dims index) / volume dims = i ∧
          (i * volume dims + flatIndex dims index) % volume dims = flatIndex dims index :=
        (Nat.div_mod_unique positive).mpr ⟨by ring, below⟩
      simp only [flatIndex_cons rest.length_eq, digits, parts, ih]

/-- Where there is a place, no dimension is empty. -/
theorem volume_pos_of_lt {n : Nat} : place < volume (n :: dims) → 0 < volume dims := by
  intro below
  refine Nat.pos_of_ne_zero ?_
  intro none
  simp [none] at below

theorem digits_lt : place < volume dims → List.Forall₂ (· < ·) (digits dims place) dims := by
  intro below
  induction dims generalizing place with
  | nil => exact .nil
  | cons n dims ih =>
      have positive : 0 < volume dims := volume_pos_of_lt below
      have first : place / volume dims < n := (Nat.div_lt_iff_lt_mul positive).mpr below
      exact .cons first (ih (Nat.mod_lt place positive))

/-- A place is that of its digits. -/
theorem flatIndex_digits : place < volume dims → flatIndex dims (digits dims place) = place := by
  intro below
  induction dims generalizing place with
  | nil =>
      have only : place = 0 := by
        simpa using below
      simp [only, flatIndex]
  | cons n dims ih =>
      have positive : 0 < volume dims := volume_pos_of_lt below
      have later : place % volume dims < volume dims := Nat.mod_lt place positive
      calc flatIndex (n :: dims) (digits (n :: dims) place)
          = place / volume dims * volume dims +
              flatIndex dims (digits dims (place % volume dims)) :=
            flatIndex_cons (digits_lt later).length_eq
        _ = place := by simp [ih later, Nat.div_add_mod']

/-- Different multi-indices have different places. -/
theorem flatIndex_inj {other : List Nat} :
    List.Forall₂ (· < ·) index dims → List.Forall₂ (· < ·) other dims →
      (flatIndex dims index = flatIndex dims other ↔ index = other) := by
  intro here there
  constructor
  · intro same
    calc index = digits dims (flatIndex dims index) := (digits_flatIndex here).symm
      _ = other := by simp [same, digits_flatIndex there]
  · intro same
    simp [same]

/-! ## Positions of a block -/

/-- The choice of indices at a position of the block at `rows`: from each array the index whose
number is the digit of the position. -/
def choice (rows : List (List Nat)) (position : Nat) : List Nat :=
  List.zipWith (fun indices digit => indices.getD digit 0) rows
    (digits (rows.map List.length) position)

theorem choice_cons (indices : List Nat) (rows : List (List Nat)) (position : Nat) :
    choice (indices :: rows) position =
      indices.getD (position / size rows) 0 :: choice rows (position % size rows) :=
  rfl

/-- A list is what stands at its positions, in order. -/
theorem map_getD_range {α : Type} (items : List α) (otherwise : α) :
    (List.range items.length).map (items.getD · otherwise) = items := by
  refine List.ext_getElem (by simp) ?_
  intro i _ inside
  simp [inside]

/-- To count up to a multiple of a width is to count from each multiple to the next. -/
theorem range_mul (count width : Nat) :
    List.range (count * width) =
      (List.range count).flatMap fun i => (List.range width).map (i * width + ·) := by
  induction count with
  | zero => simp
  | succ count ih => simp [Nat.succ_mul, List.range_add, List.range_succ, ih]

/-- The positions at which the first index is number `i` are those from `i * size rows` on. -/
theorem map_choice_shifted (indices : List Nat) (rows : List (List Nat)) (i : Nat) :
    ((List.range (size rows)).map fun k => choice (indices :: rows) (i * size rows + k)) =
      (List.range (size rows)).map fun k => indices.getD i 0 :: choice rows k := by
  refine List.map_congr_left ?_
  intro k listed
  have below : k < size rows := List.mem_range.mp listed
  have parts : (i * size rows + k) / size rows = i ∧ (i * size rows + k) % size rows = k :=
    (Nat.div_mod_unique (Nat.zero_lt_of_lt below)).mpr ⟨by ring, below⟩
  simp only [choice_cons, parts]

/-- The cross product lists the choices at all positions. -/
theorem crossProduct_eq (rows : List (List Nat)) :
    crossProduct rows = (List.range (size rows)).map (choice rows) := by
  induction rows with
  | nil => rfl
  | cons indices rows ih =>
      have total : size (indices :: rows) = indices.length * size rows := rfl
      calc crossProduct (indices :: rows)
          = indices.flatMap fun i => (crossProduct rows).map (i :: ·) := crossProduct_cons _ _
        _ = ((List.range indices.length).map (indices.getD · 0)).flatMap fun i =>
              (crossProduct rows).map (i :: ·) := by
            simp only [map_getD_range]
        _ = (List.range indices.length).flatMap fun i =>
              (List.range (size rows)).map fun k =>
                choice (indices :: rows) (i * size rows + k) := by
            simp [ih, List.flatMap_map, map_choice_shifted, Function.comp_def]
        _ = (List.range (size (indices :: rows))).map (choice (indices :: rows)) := by
            simp [total, range_mul, List.map_flatMap, Function.comp_def]

/-- The places of a block are those of the choices at all positions. -/
theorem targets_eq (dims : List Nat) (rows : List (List Nat)) :
    targets dims rows = (List.range (size rows)).map fun k => flatIndex dims (choice rows k) := by
  simp [targets, crossProduct_eq, Function.comp_def]

theorem choice_lt (fits : Fits dims rows) {position : Nat} :
    position < size rows → List.Forall₂ (· < ·) (choice rows position) dims := by
  intro below
  refine lt_of_mem_crossProduct fits _ ?_
  simp only [crossProduct_eq, List.mem_map, List.mem_range]
  exact ⟨position, below, rfl⟩

end Block
end FormAssembly
