import Mathlib.Data.List.Nodup
import FormAssembly.Proofs.Tensor.RowMajor

/-!
# Entries of dense tensors

What the operations on blocks mean for the entry at a multi-index. Adding a block changes it by the
numbers that the block has for it, in the order of the block (`DenseTensor.entry_added`). Setting a
block leaves there the last of them, and what is read from a tensor can be written back without
changing anything (`DenseTensor.entry_written`).
-/

namespace FormAssembly

variable {α : Type} {dims index : List Nat} {rows : List (List Nat)} {block buffer read : List α}

namespace Block

/-- The positions of the block at `rows` that are for a multi-index, in ascending order. -/
def positions (rows : List (List Nat)) (index : List Nat) : List Nat :=
  (List.range (size rows)).filter fun position => choice rows position = index

/-- The numbers of a block that are for a multi-index, in the order of the block. -/
def numbersFor (rows : List (List Nat)) (index : List Nat) (block : List α) : List α :=
  (positions rows index).filterMap fun position => block[position]?

theorem mem_positions {position : Nat} :
    position ∈ positions rows index ↔ position < size rows ∧ choice rows position = index := by
  simp [positions]

/-- The numbers for a multi-index are those for its place. -/
theorem numbersAt_flatIndex (fits : Fits dims rows) (count : block.length = size rows) :
    List.Forall₂ (· < ·) index dims →
      numbersAt (flatIndex dims index) (targets dims rows) block = numbersFor rows index block := by
  intro inRange
  -- Block and targets are both enumerated by the positions.
  have numbered :
      block.map some = (List.range (size rows)).map fun position => block[position]? := by
    refine List.ext_getElem (by simp [count]) ?_
    intro position _ _
    simp
  have sameTest : ∀ position ∈ List.range (size rows),
      decide (flatIndex dims (choice rows position) = flatIndex dims index) =
        decide (choice rows position = index) := by
    intro position listed
    have chosen := choice_lt fits (List.mem_range.mp listed)
    simp [flatIndex_inj chosen inRange]
  have options : (numbersAt (flatIndex dims index) (targets dims rows) block).map some =
      (positions rows index).map fun position => block[position]? := by
    calc (numbersAt (flatIndex dims index) (targets dims rows) block).map some
        = numbersAt (flatIndex dims index) (targets dims rows) (block.map some) := by
          simp [numbersAt, List.zip_map_right, List.filter_map, Function.comp_def]
      _ = ((List.range (size rows)).filter fun position =>
            flatIndex dims (choice rows position) = flatIndex dims index).map
              fun position => block[position]? := by
          simp [numbered, targets_eq, numbersAt, List.zip_map', List.filter_map, Function.comp_def]
      _ = (positions rows index).map fun position => block[position]? := by
          simp only [positions, List.filter_congr sameTest]
  simpa [numbersFor, List.filterMap_map, Function.comp_def] using
    congrArg (List.filterMap id) options

/-- A block that names no index twice has one position for each choice. -/
theorem choice_inj {position other : Nat} :
    (∀ indices ∈ rows, indices.Nodup) → position < size rows → other < size rows →
      choice rows position = choice rows other → position = other := by
  induction rows generalizing position other with
  | nil =>
      intro _ here there _
      have only : size [] = 1 := rfl
      omega
  | cons indices rows ih =>
      intro nodup here there same
      have here' : position < indices.length * size rows := here
      have there' : other < indices.length * size rows := there
      have positive : 0 < size rows := volume_pos_of_lt here
      have first : position / size rows < indices.length :=
        (Nat.div_lt_iff_lt_mul positive).mpr here'
      have second : other / size rows < indices.length :=
        (Nat.div_lt_iff_lt_mul positive).mpr there'
      simp only [choice_cons, List.cons.injEq] at same
      -- The first index tells its own number, and the others the rest of the position.
      have quotient : position / size rows = other / size rows := by
        have equal : indices[position / size rows] = indices[other / size rows] := by
          simpa [first, second] using same.1
        exact (List.Nodup.getElem_inj_iff (nodup indices List.mem_cons_self)).mp equal
      have remainder : position % size rows = other % size rows :=
        ih (fun indices among => nodup indices (List.mem_cons_of_mem _ among))
          (Nat.mod_lt _ positive) (Nat.mod_lt _ positive) same.2
      calc position = size rows * (position / size rows) + position % size rows :=
            (Nat.div_add_mod position (size rows)).symm
        _ = other := by simp [quotient, remainder, Nat.div_add_mod]

/-- A multi-index has a last position, or else no position and no numbers. -/
theorem numbersFor_cases (count : block.length = size rows) (index : List Nat) :
    (∃ position value, block[position]? = some value ∧ choice rows position = index ∧
      (∀ later < block.length, choice rows later = index → later ≤ position) ∧
      ∃ earlier, numbersFor rows index block = earlier ++ [value]) ∨
    (∀ position < block.length, choice rows position ≠ index) ∧
      numbersFor rows index block = [] := by
  -- Positions are listed in ascending order, so the last one listed is the greatest.
  have ascending : (positions rows index).Pairwise (· < ·) := List.pairwise_lt_range.filter _
  rcases (positions rows index).eq_nil_or_concat with none | ⟨earlier, position, split⟩
  · refine .inr ⟨?_, by simp [numbersFor, none]⟩
    intro position inside chosen
    have listed : position ∈ positions rows index := mem_positions.mpr ⟨count ▸ inside, chosen⟩
    simp [none] at listed
  · have listed : position ∈ positions rows index := by
      simp [split]
    rcases mem_positions.mp listed with ⟨below, chosen⟩
    have value : block[position]? = some block[position] := List.getElem?_eq_getElem (count ▸ below)
    refine .inl ⟨position, block[position], value, chosen, ?_, ?_⟩
    · intro later inside same
      have among : later ∈ earlier ++ [position] := by
        simpa [split] using mem_positions.mpr ⟨count ▸ inside, same⟩
      simp only [split, List.concat_eq_append, List.pairwise_append] at ascending
      rcases List.mem_append.mp among with before | here
      · exact Nat.le_of_lt (ascending.2.2 later before position (List.mem_singleton.mpr rfl))
      · exact Nat.le_of_eq (List.mem_singleton.mp here)
    · exact ⟨earlier.filterMap fun position => block[position]?, by simp [numbersFor, split, value]⟩

/-! ## Single entries -/

theorem fits_singletons :
    Fits dims (index.map fun i => [i]) ↔ List.Forall₂ (· < ·) index dims := by
  simp only [Fits, List.forall₂_iff_zip, List.zip_map_left, List.length_map, List.mem_map]
  constructor
  · rintro ⟨count, inRange⟩
    refine ⟨count, ?_⟩
    intro i n among
    exact inRange ([i], n) ⟨(i, n), among, rfl⟩ i (List.mem_singleton.mpr rfl)
  · rintro ⟨count, inRange⟩
    refine ⟨count, ?_⟩
    rintro _ ⟨⟨i, n⟩, among, rfl⟩ j only
    obtain rfl : j = i := List.mem_singleton.mp only
    exact inRange among

theorem crossProduct_singletons (index : List Nat) :
    crossProduct (index.map fun i => [i]) = [index] := by
  induction index with
  | nil => rfl
  | cons i index ih => simp [crossProduct_cons, ih]

theorem size_singletons (index : List Nat) : size (index.map fun i => [i]) = 1 := by
  simpa [crossProduct_singletons] using (length_crossProduct (index.map fun i => [i])).symm

end Block

namespace DenseTensor

variable [Zero α] {t u : DenseTensor α}

theorem get_eq_ok_iff :
    t.get buffer rows = .ok read ↔ Block.Fits t.dims rows ∧ buffer.length = Block.size rows ∧
      read = (Block.targets t.dims rows).map fun place => t.values.getD place 0 :=
  checks_eq_ok_iff _

theorem entry_eq_ok (t : DenseTensor α) :
    List.Forall₂ (· < ·) index t.dims →
      t.entry index = .ok (t.values.getD (Block.flatIndex t.dims index) 0) := by
  intro inRange
  have passed : t.checkRows (index.map fun i => [i]) = .ok () :=
    checkRows_eq_ok_iff.mpr (Block.fits_singletons.mpr inRange)
  simp [entry, passed, bind, Except.bind, pure, Except.pure]

/-- Reading an entry is reading the block of a single value at its indices, and fails alike. -/
theorem get_singletons (t : DenseTensor α) (index : List Nat) (value : α) :
    t.get [value] (index.map fun i => [i]) = (t.entry index).map fun entry => [entry] := by
  have fits : checkBlock [value] (index.map fun i => [i]) = .ok () := by
    simp [checkBlock, Block.size_singletons]
  unfold get entry
  cases t.checkRows (index.map fun i => [i]) with
  | error cause => rfl
  | ok _ =>
      simp [fits, Block.targets, Block.crossProduct_singletons, bind, Except.bind, pure,
        Except.pure, Except.map]

/-- A block operation changes each entry by the numbers that are for it. -/
theorem entry_modifyBlock (f : α → α → α) (fits : Block.Fits t.dims rows)
    (count : block.length = Block.size rows) :
    List.Forall₂ (· < ·) index t.dims →
      ∃ old, t.entry index = .ok old ∧
        (t.modifyBlock f block rows).entry index =
          .ok ((Block.numbersFor rows index block).foldl f old) := by
  intro inRange
  -- Values are stored by place, so the change is first found at the place of the multi-index.
  let place := Block.flatIndex t.dims index
  have there : place < t.values.size := by
    simpa [t.size_values, place] using Block.flatIndex_lt inRange
  refine ⟨t.values.getD place 0, t.entry_eq_ok inRange, ?_⟩
  have changed : (t.modifyBlock f block rows).values[place]? =
      t.values[place]?.map fun old => (Block.numbersFor rows index block).foldl f old := by
    simp only [← Block.numbersAt_flatIndex fits count inRange]
    exact getElem?_modifyEach f (Block.targets t.dims rows) block t.values place
  have value : (t.modifyBlock f block rows).values.getD place 0 =
      (Block.numbersFor rows index block).foldl f (t.values.getD place 0) := by
    simp [Array.getD_eq_getD_getElem?, changed, there]
  calc (t.modifyBlock f block rows).entry index
      = .ok ((t.modifyBlock f block rows).values.getD place 0) :=
        entry_eq_ok _ inRange
    _ = _ := congrArg Except.ok value

/-! ## Adding -/

/-- A block is accepted if it fits. It is added entry by entry: the value at a multi-index becomes
the left fold, from the old value on and in the order of the block, of the numbers at the positions
whose choice of indices it is. Entries without such a position stay as they are. -/
theorem entry_added [Add α] (t : DenseTensor α) (block : List α) (rows : List (List Nat)) :
    ((∃ u, t.add block rows = .ok u) ↔
      Block.Fits t.dims rows ∧ block.length = Block.size rows) ∧
    ∀ u, t.add block rows = .ok u → u.dims = t.dims ∧
      ∀ index, List.Forall₂ (· < ·) index t.dims →
        (∃ old, t.entry index = .ok old ∧
          u.entry index = .ok ((Block.numbersFor rows index block).foldl accumulate old)) ∧
        ((∀ position < block.length, Block.choice rows position ≠ index) →
          u.entry index = t.entry index) := by
  constructor
  · simp [add_eq_ok_iff]
  · intro u added
    rcases add_eq_ok_iff.mp added with ⟨fits, count, rfl⟩
    refine ⟨rfl, ?_⟩
    intro index inRange
    rcases entry_modifyBlock accumulate fits count inRange with ⟨old, before, after⟩
    refine ⟨⟨old, before, after⟩, ?_⟩
    intro unaddressed
    have none : Block.positions rows index = [] := by
      simpa [Block.positions, ← count] using unaddressed
    simp [before, after, Block.numbersFor, none]

/-- The first row is named twice, so its second entry gets both numbers of the block. -/
theorem entry_added_first_row_twice :
    let t : DenseTensor Int := ⟨[2, 2], #[10, 20, 30, 40], .serial, rfl⟩
    ∃ u, t.add [1, 2] [[0, 0], [1]] = .ok u ∧ u.entry [0, 1] = .ok 23 ∧
      u.entry [1, 1] = t.entry [1, 1] := by
  intro t
  rcases entry_added t [1, 2] [[0, 0], [1]] with ⟨accepted, entries⟩
  rcases accepted.mpr (by decide) with ⟨u, added⟩
  rcases entries u added with ⟨_, each⟩
  rcases each [0, 1] (by decide) with ⟨⟨old, before, after⟩, _⟩
  rcases each [1, 1] (by decide) with ⟨_, unaddressed⟩
  obtain rfl : (20 : Int) = old := Except.ok.inj before
  have sum : (Block.numbersFor [[0, 0], [1]] [0, 1] [1, 2]).foldl accumulate 20 = (23 : Int) := by
    decide
  exact ⟨u, added, after.trans (congrArg Except.ok sum), unaddressed (by decide)⟩

/-! ## Writing and reading back -/

/-- The last number for an entry stays; an entry without numbers is left alone. -/
theorem entry_set_cases (written : t.set block rows = .ok u) :
    List.Forall₂ (· < ·) index t.dims →
      (∃ position value, block[position]? = some value ∧ Block.choice rows position = index ∧
        (∀ later < block.length, Block.choice rows later = index → later ≤ position) ∧
        u.entry index = .ok value) ∨
      (∀ position < block.length, Block.choice rows position ≠ index) ∧
        u.entry index = t.entry index := by
  intro inRange
  rcases set_eq_ok_iff.mp written with ⟨fits, count, rfl⟩
  rcases entry_modifyBlock (fun _ number => number) fits count inRange with ⟨old, before, after⟩
  rcases Block.numbersFor_cases count index with
    ⟨position, value, there, chosen, last, earlier, numbers⟩ | ⟨unaddressed, none⟩
  · exact .inl ⟨position, value, there, chosen, last, by simp [after, numbers]⟩
  · exact .inr ⟨unaddressed, by simp [before, after, none]⟩

/-- What is read at a position of a block is the entry of its choice of indices. -/
theorem entry_of_get (came : t.get buffer rows = .ok read) {position : Nat} {value : α} :
    read[position]? = some value → t.entry (Block.choice rows position) = .ok value := by
  intro there
  rcases get_eq_ok_iff.mp came with ⟨fits, _, rfl⟩
  simp only [Block.targets_eq, List.map_map, List.getElem?_map, Option.map_eq_some_iff] at there
  rcases there with ⟨listed, found, rfl⟩
  rcases List.getElem?_eq_some_iff.mp found with ⟨below, same⟩
  obtain rfl : position = listed := by
    simpa using same
  exact t.entry_eq_ok (Block.choice_lt fits (by simpa using below))

/-- To write to some places what is there already changes nothing. -/
theorem modifyEach_own (places : List Nat) (values : Array α) :
    modifyEach (fun _ number => number) places (places.map fun place => values.getD place 0)
      values = values := by
  unfold modifyEach
  induction places with
  | nil => rfl
  | cons place places ih =>
      have same : (values.modify place fun _ => values.getD place 0) = values := by
        refine Array.ext_getElem? ?_
        intro other
        by_cases here : place = other
        · cases there : values[other]? <;> simp [here, Array.getElem?_modify, there]
        · simp [here, Array.getElem?_modify]
      simp only [List.map_cons, List.zip_cons_cons, List.foldl_cons, same, ih]

theorem set_of_get (came : t.get buffer rows = .ok read) : t.set read rows = .ok t := by
  rcases get_eq_ok_iff.mp came with ⟨fits, _, rfl⟩
  refine set_eq_ok_iff.mpr ⟨fits, by simp, ?_⟩
  simp only [modifyBlock, modifyEach_own]

/-- A block that names no index twice is read back as it was written. -/
theorem get_of_set (written : t.set block rows = .ok u)
    (nodup : ∀ indices ∈ rows, indices.Nodup) :
    buffer.length = block.length → u.get buffer rows = .ok block := by
  intro room
  rcases set_eq_ok_iff.mp written with ⟨fits, count, shape⟩
  have dims : u.dims = t.dims := by
    simp [shape, modifyBlock]
  refine get_eq_ok_iff.mpr ⟨dims ▸ fits, room.trans count, ?_⟩
  refine List.ext_getElem (by simp [count]) ?_
  intro position inside _
  have below : position < Block.size rows := count ▸ inside
  have inRange := Block.choice_lt fits below
  -- The last position with this choice can only be the position itself.
  have entry : u.entry (Block.choice rows position) = .ok block[position] := by
    rcases entry_set_cases written inRange with
      ⟨last, value, there, chosen, _, holds⟩ | ⟨unaddressed, _⟩
    · rcases List.getElem?_eq_some_iff.mp there with ⟨early, rfl⟩
      obtain rfl : last = position := Block.choice_inj nodup (count ▸ early) below chosen
      exact holds
    · exact absurd rfl (unaddressed position inside)
  have stored := u.entry_eq_ok (dims ▸ inRange)
  have same := entry.symm.trans stored
  simpa [Block.targets_eq] using Except.ok.inj same

/-- Accepted blocks are those that fit. Once a block is written, the entry at a multi-index is the
number at the last of its positions, and entries without positions are as before; if the block names
no index twice it can be read back whole. A block that is read has at each position the entry of its
choice of indices, which is also what reading this entry by itself gives, and writing it back
changes nothing. -/
theorem entry_written (t : DenseTensor α) :
    (∀ block rows,
      ((∃ u, t.set block rows = .ok u) ↔
        Block.Fits t.dims rows ∧ block.length = Block.size rows) ∧
      ∀ u, t.set block rows = .ok u → u.dims = t.dims ∧
        (∀ index, List.Forall₂ (· < ·) index t.dims →
          (∃ position value, block[position]? = some value ∧ Block.choice rows position = index ∧
            (∀ later < block.length, Block.choice rows later = index → later ≤ position) ∧
            u.entry index = .ok value) ∨
          (∀ position < block.length, Block.choice rows position ≠ index) ∧
            u.entry index = t.entry index) ∧
        ((∀ indices ∈ rows, indices.Nodup) →
          ∀ buffer : List α, buffer.length = block.length → u.get buffer rows = .ok block)) ∧
    (∀ buffer rows,
      ((∃ read, t.get buffer rows = .ok read) ↔
        Block.Fits t.dims rows ∧ buffer.length = Block.size rows) ∧
      ∀ read, t.get buffer rows = .ok read → read.length = buffer.length ∧
        (∀ position value, read[position]? = some value →
          t.entry (Block.choice rows position) = .ok value) ∧
        t.set read rows = .ok t) ∧
    ∀ index value,
      t.get [value] (index.map fun i => [i]) = (t.entry index).map fun entry => [entry] := by
  refine ⟨?_, ?_, t.get_singletons⟩
  · intro block rows
    constructor
    · simp [set_eq_ok_iff]
    · intro u written
      refine ⟨?_, ?_, ?_⟩
      · rcases set_eq_ok_iff.mp written with ⟨_, _, rfl⟩
        rfl
      · intro index inRange
        exact entry_set_cases written inRange
      · intro nodup buffer room
        exact get_of_set written nodup room
  · intro buffer rows
    constructor
    · simp [get_eq_ok_iff]
    · intro read came
      refine ⟨?_, ?_, set_of_get came⟩
      · rcases get_eq_ok_iff.mp came with ⟨_, room, rfl⟩
        simp [room]
      · intro position value there
        exact entry_of_get came there

/-- The second row is written, its first entry twice, and the second column is written and read back
from below. -/
theorem entry_written_rows_and_columns :
    let t : DenseTensor Int := ⟨[2, 2], #[10, 20, 30, 40], .serial, rfl⟩
    (∃ u, t.set [5, 7] [[1], [0, 0]] = .ok u ∧ u.entry [1, 0] = .ok 7 ∧
      u.entry [0, 1] = t.entry [0, 1]) ∧
    (∃ u, t.set [5, 7] [[1, 0], [1]] = .ok u ∧ u.get [0, 0] [[1, 0], [1]] = .ok [5, 7]) ∧
    t.set [30, 30] [[1], [0, 0]] = .ok t := by
  intro t
  rcases entry_written t with ⟨written, came, _⟩
  refine ⟨?_, ?_, ?_⟩
  · rcases written [5, 7] [[1], [0, 0]] with ⟨accepted, entries⟩
    rcases accepted.mpr (by decide) with ⟨u, set⟩
    rcases entries u set with ⟨_, each, _⟩
    refine ⟨u, set, ?_, ?_⟩
    · rcases each [1, 0] (by decide) with ⟨position, value, there, _, last, holds⟩ | ⟨none, _⟩
      · -- The last position is 1, whose number is 7.
        have late : 1 ≤ position := last 1 (by decide) rfl
        have early : position < 2 := (List.getElem?_eq_some_iff.mp there).1
        obtain rfl : position = 1 := by omega
        cases there
        exact holds
      · exact absurd rfl (none 0 (by decide))
    · rcases each [0, 1] (by decide) with ⟨position, _, there, chosen, _⟩ | ⟨_, same⟩
      · have early : position < 2 := (List.getElem?_eq_some_iff.mp there).1
        rcases (by omega : position = 0 ∨ position = 1) with rfl | rfl <;> cases chosen
      · exact same
  · rcases written [5, 7] [[1, 0], [1]] with ⟨accepted, entries⟩
    rcases accepted.mpr (by decide) with ⟨u, set⟩
    rcases entries u set with ⟨_, _, back⟩
    exact ⟨u, set, back (by decide) [0, 0] rfl⟩
  · rcases came [0, 0] [[1], [0, 0]] with ⟨_, again⟩
    exact (again [30, 30] rfl).2.2

end DenseTensor
end FormAssembly
