import Mathlib.Data.List.Lex
import Mathlib.Data.Set.Function
import Mathlib.Order.Interval.Set.Defs
import FormAssembly.Proofs.Tensor.Entries

/-!
# Visits to the entries of a block

Row-major order numbers the multi-indices of a tensor. Each has a place of its own, every place
below the volume is taken (`Block.flatIndex_bijOn`), and of two multi-indices the one that is first
in lexicographic order has the lower place (`Block.flatIndex_lt_iff`). An operation on a block
visits the entries of the block one after another, at positions counted from zero
(`Block.forEachEntry_eq`). Reading, writing and adding differ only in what they do on a visit
(`DenseTensor.get_eq_ok`, `DenseTensor.values_modifyBlock`). `Block.entries_in_row_major_order` puts
this together.
-/

namespace FormAssembly

variable {α : Type} {dims index other : List Nat} {rows : List (List Nat)} {block : List α}

namespace Block

/-! ## Multi-indices in order -/

/-- The multi-indices of a tensor: one index for each dimension, all of them in range. -/
def multiIndices (dims : List Nat) : Set (List Nat) :=
  {index | List.Forall₂ (· < ·) index dims}

/-- Each multi-index has its place and each place its multi-index. If a dimension is empty, there
are none of either. -/
theorem flatIndex_bijOn (dims : List Nat) :
    Set.BijOn (flatIndex dims) (multiIndices dims) (Set.Iio (volume dims)) := by
  have inverse : Set.InvOn (digits dims) (flatIndex dims) (multiIndices dims)
      (Set.Iio (volume dims)) :=
    ⟨fun _ inRange => digits_flatIndex inRange, fun _ below => flatIndex_digits below⟩
  exact inverse.bijOn (fun _ inRange => flatIndex_lt inRange) (fun _ below => digits_lt below)

/-- Of two numbers made up of whole widths and a rest, the one with fewer widths is less. The rests
decide only if the widths are as many. -/
theorem mul_add_lt_iff {i j width rest other : Nat} (here : rest < width) (there : other < width) :
    i * width + rest < j * width + other ↔ i < j ∨ i = j ∧ rest < other := by
  rcases Nat.lt_trichotomy i j with fewer | rfl | more
  · have whole : i * width + width ≤ j * width := by
      simpa [Nat.succ_mul] using Nat.mul_le_mul_right width fewer
    have less : i * width + rest < j * width + other := by
      omega
    simp [less, fewer]
  · simp
  · have whole : j * width + width ≤ i * width := by
      simpa [Nat.succ_mul] using Nat.mul_le_mul_right width more
    have notLess : ¬ i * width + rest < j * width + other := by
      omega
    simp [notLess, Nat.lt_asymm more, Nat.ne_of_gt more]

/-- Places are in the lexicographic order of their multi-indices. -/
theorem flatIndex_lt_iff :
    index ∈ multiIndices dims → other ∈ multiIndices dims →
      (flatIndex dims index < flatIndex dims other ↔ List.Lex (· < ·) index other) := by
  intro here there
  -- By induction on the first, which has one index for each dimension. So has the second.
  induction here generalizing other with
  | nil =>
      cases there
      simp
  | @cons i n index dims _ rest ih =>
      cases there with
      | @cons j _ other _ _ otherRest =>
          have later := ih otherRest
          simp only [flatIndex_cons rest.length_eq, flatIndex_cons otherRest.length_eq,
            mul_add_lt_iff (flatIndex_lt rest) (flatIndex_lt otherRest), later,
            List.cons_lex_cons_iff]

/-! ## Visits -/

/-- There is one visit for each position of the block, in ascending order. It is told the place of
the choice of indices at its position. -/
theorem forEachEntry_eq {σ : Type} (dims : List Nat) (rows : List (List Nat))
    (visit : Nat → Nat → σ → σ) (start : σ) :
    forEachEntry dims rows visit start =
      (List.range (size rows)).foldl
        (fun state k => visit k (flatIndex dims (choice rows k)) state) start := by
  have visits : (targets dims rows).zipIdx =
      (List.range (size rows)).map fun k => (flatIndex dims (choice rows k), k) := by
    refine List.ext_getElem (by simp) ?_
    intro k _ _
    simp [targets_eq]
  simp only [forEachEntry, visits, List.foldl_map]

/-- Without dimensions there is one entry to visit, and with an empty index array there is none. -/
example : forEachEntry [] [] (fun k place seen => seen ++ [(k, place)]) [] = [(0, 0)] ∧
    forEachEntry [2, 3] [[1], []] (fun k place seen => seen ++ [(k, place)]) [] = [] := by
  decide

/-- The digits of a position tell which index of each array is chosen there. -/
theorem map_some_choice {k : Nat} :
    k < size rows →
      (choice rows k).map some =
        List.zipWith (fun indices digit => indices[digit]?) rows
          (digits (rows.map List.length) k) := by
  intro below
  induction rows generalizing k with
  | nil => rfl
  | cons indices rows ih =>
      have positive : 0 < size rows := volume_pos_of_lt below
      have first : k / size rows < indices.length := (Nat.div_lt_iff_lt_mul positive).mpr below
      have later := ih (Nat.mod_lt k positive)
      have split : digits (indices.length :: rows.map List.length) k =
          k / size rows :: digits (rows.map List.length) (k % size rows) := rfl
      simp [choice_cons, split, first, later]

end Block

namespace DenseTensor

/-! ## Operations as visits -/

/-- Numbers that are written to the positions of a list one after another replace its front. -/
theorem foldl_set_range (numbers : Nat → α) (block : List α) {count : Nat} :
    count ≤ block.length →
      (List.range count).foldl (fun read k => read.set k (numbers k)) block =
        (List.range count).map numbers ++ block.drop count := by
  induction count with
  | zero => simp
  | succ count ih =>
      intro inside
      -- The next number goes to the first position that still holds what the list was before.
      have next : block.drop count = block[count] :: block.drop (count + 1) :=
        List.drop_eq_getElem_cons inside
      calc (List.range (count + 1)).foldl (fun read k => read.set k (numbers k)) block
          = ((List.range count).map numbers ++ block.drop count).set count (numbers count) := by
            simp [List.range_succ, ih (Nat.le_of_succ_le inside)]
        _ = (List.range count).map numbers ++ numbers count :: block.drop (count + 1) := by
            simp only [next, List.set_append, List.length_map, List.length_range, Nat.lt_irrefl,
              if_false, Nat.sub_self, List.set_cons_zero]
        _ = (List.range (count + 1)).map numbers ++ block.drop (count + 1) := by
            simp [List.range_succ]

variable [Zero α] {t : DenseTensor α}

/-- A visit of an operation that changes values does so at its place, by the number at its
position. -/
theorem values_modifyBlock (f : α → α → α) (t : DenseTensor α) :
    block.length = Block.size rows →
      (t.modifyBlock f block rows).values =
        Block.forEachEntry t.dims rows
          (fun k place values => values.modify place fun old => f old (block.getD k 0))
          t.values := by
  intro count
  -- Places and numbers are paired by where they stand, which is the position of the visit.
  have pairs : (Block.targets t.dims rows).zip block =
      (List.range (Block.size rows)).map fun k =>
        (Block.flatIndex t.dims (Block.choice rows k), block.getD k 0) := by
    calc (Block.targets t.dims rows).zip block
        = (Block.targets t.dims rows).zip
            ((List.range (Block.size rows)).map (block.getD · 0)) := by
          simp only [← count, Block.map_getD_range]
      _ = _ := by
          simp only [Block.targets_eq, List.zip_map']
  simp only [modifyBlock, modifyEach, pairs, List.foldl_map, Block.forEachEntry_eq]

/-- A visit of reading copies the value at its place to its position. Nothing is left of what the
buffer held before. -/
theorem get_eq_ok (fits : Block.Fits t.dims rows) :
    block.length = Block.size rows →
      t.get block rows =
        .ok (Block.forEachEntry t.dims rows
          (fun k place read => read.set k (t.values.getD place 0)) block) := by
  intro room
  refine get_eq_ok_iff.mpr ⟨fits, room, ?_⟩
  let numbers (k : Nat) : α := t.values.getD (Block.flatIndex t.dims (Block.choice rows k)) 0
  have rest : block.drop (Block.size rows) = [] := List.drop_eq_nil_of_le room.le
  calc Block.forEachEntry t.dims rows (fun k place read => read.set k (t.values.getD place 0)) block
      = (List.range (Block.size rows)).foldl (fun read k => read.set k (numbers k)) block :=
        Block.forEachEntry_eq _ _ _ _
    _ = (List.range (Block.size rows)).map numbers ++ block.drop (Block.size rows) :=
        foldl_set_range numbers block room.ge
    _ = (Block.targets t.dims rows).map fun place => t.values.getD place 0 := by
        simp [rest, numbers, Block.targets_eq]

end DenseTensor

namespace Block

/-- Row-major order is a bijection between the multi-indices of a tensor and the places below its
volume, and it turns lexicographic order into the order of numbers. For a block whose indices are in
range there are as many visits as the block has entries, at positions counted from zero. A visit is
told the place of the indices that are chosen from the index arrays by the digits of its position in
the mixed radix of their lengths. Reading, writing and adding the block are made up of such
visits. -/
theorem entries_in_row_major_order [Zero α] [Add α] (dims : List Nat) :
    Set.BijOn (flatIndex dims) (multiIndices dims) (Set.Iio (volume dims)) ∧
    (∀ index ∈ multiIndices dims, ∀ other ∈ multiIndices dims,
      (flatIndex dims index < flatIndex dims other ↔ List.Lex (· < ·) index other)) ∧
    ∀ rows, Fits dims rows →
      (∀ {σ : Type} (visit : Nat → Nat → σ → σ) (start : σ),
        forEachEntry dims rows visit start =
          (List.range (size rows)).foldl
            (fun state k => visit k (flatIndex dims (choice rows k)) state) start) ∧
      (∀ k < size rows,
        let lengths := rows.map List.length
        digits lengths k ∈ multiIndices lengths ∧ flatIndex lengths (digits lengths k) = k ∧
          choice rows k ∈ multiIndices dims ∧
          (choice rows k).map some =
            List.zipWith (fun indices digit => indices[digit]?) rows (digits lengths k)) ∧
      ∀ t : DenseTensor α, t.dims = dims → ∀ block : List α, block.length = size rows →
        t.get block rows =
          .ok (forEachEntry dims rows
            (fun k place read => read.set k (t.values.getD place 0)) block) ∧
        (∃ u, t.set block rows = .ok u ∧ u.values =
          forEachEntry dims rows
            (fun k place values => values.modify place fun _ => block.getD k 0) t.values) ∧
        ∃ u, t.add block rows = .ok u ∧ u.values =
          forEachEntry dims rows
            (fun k place values => values.modify place fun old => accumulate old (block.getD k 0))
            t.values := by
  refine ⟨flatIndex_bijOn dims, fun _ here _ there => flatIndex_lt_iff here there, ?_⟩
  intro rows fits
  refine ⟨forEachEntry_eq dims rows, ?_, ?_⟩
  · intro k below
    exact ⟨digits_lt below, flatIndex_digits below, choice_lt fits below, map_some_choice below⟩
  · rintro t rfl block count
    refine ⟨DenseTensor.get_eq_ok fits count, ?_, ?_⟩
    · exact ⟨_, DenseTensor.set_eq_ok_iff.mpr ⟨fits, count, rfl⟩, t.values_modifyBlock _ count⟩
    · exact ⟨_, DenseTensor.add_eq_ok_iff.mpr ⟨fits, count, rfl⟩, t.values_modifyBlock _ count⟩

/-- The lower row is visited before the upper one, and the last column twice in each. -/
theorem entries_in_row_major_order_last_column_twice :
    let t : DenseTensor Int := ⟨[2, 3], #[1, 2, 3, 4, 5, 6], .serial, rfl⟩
    let rows := [[1, 0], [2, 2, 0]]
    Set.BijOn (flatIndex [2, 3]) (multiIndices [2, 3]) (Set.Iio 6) ∧
    flatIndex [2, 3] [0, 2] < flatIndex [2, 3] [1, 0] ∧
    forEachEntry [2, 3] rows (fun k place seen => seen ++ [(k, place)]) [] =
      [(0, 5), (1, 5), (2, 3), (3, 2), (4, 2), (5, 0)] ∧
    flatIndex [2, 3] (digits [2, 3] 4) = 4 ∧ (choice rows 4).map some = [some 0, some 2] ∧
    t.get [0, 0, 0, 0, 0, 0] rows = .ok [6, 6, 4, 3, 3, 1] ∧
    (∃ u, t.set [10, 20, 30, 40, 50, 60] rows = .ok u ∧ u.values = #[60, 2, 50, 30, 5, 20]) ∧
    ∃ u, t.add [10, 20, 30, 40, 50, 60] rows = .ok u ∧ u.values = #[61, 2, 93, 34, 5, 36] := by
  intro t rows
  rcases entries_in_row_major_order (α := Int) [2, 3] with ⟨bijective, ordered, visited⟩
  rcases visited rows (by decide) with ⟨visits, positions, operations⟩
  rcases positions 4 (by decide) with ⟨_, number, _, chosen⟩
  rcases operations t rfl [0, 0, 0, 0, 0, 0] (by decide) with ⟨read, _, _⟩
  rcases operations t rfl [10, 20, 30, 40, 50, 60] (by decide) with
    ⟨_, ⟨u, written, values⟩, ⟨v, added, sums⟩⟩
  have upper : [0, 2] ∈ multiIndices [2, 3] := .cons (by decide) (.cons (by decide) .nil)
  have lower : [1, 0] ∈ multiIndices [2, 3] := .cons (by decide) (.cons (by decide) .nil)
  refine ⟨bijective, (ordered _ upper _ lower).mpr (.rel (by decide)), ?_, number, chosen, ?_, ?_,
    ?_⟩
  · exact (visits _ _).trans (by decide)
  · exact read.trans (congrArg Except.ok (by decide))
  · exact ⟨u, written, values.trans (by decide)⟩
  · exact ⟨v, added, sums.trans (by decide)⟩

end Block
end FormAssembly
