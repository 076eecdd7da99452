import FormAssembly.Tensor.Dense

/-!
# Operations on blocks of dense tensors

A block operation on a dense tensor passes its checks exactly if there is one list of indices for
each dimension, all of them in range (`Block.Fits`), and one number for each entry
(`DenseTensor.set_eq_ok_iff`, `DenseTensor.add_eq_ok_iff`). It then changes each value by the
numbers that the block has for its place, in the order of the block
(`DenseTensor.getElem?_modifyEach`).
-/

namespace FormAssembly

namespace Block

variable {dims : List Nat} {rows : List (List Nat)}

/-- There is one list of indices for each dimension, and the indices are in range. -/
def Fits (dims : List Nat) (rows : List (List Nat)) : Prop :=
  rows.length = dims.length ∧ ∀ entry ∈ rows.zip dims, ∀ i ∈ entry.1, i < entry.2

instance : Decidable (Fits dims rows) :=
  inferInstanceAs (Decidable (_ ∧ _))

theorem firstStray?_eq_none_iff :
    firstStray? dims rows = none ↔ ∀ entry ∈ rows.zip dims, ∀ i ∈ entry.1, i < entry.2 := by
  simp [firstStray?, List.findSome?_eq_none_iff]

/-- How a call ends if `count` values are asked for and another number is given. The count is
computed in words, which wrap around. -/
inductive LengthFault (count given : Nat) : Error → Prop
  | shape : count < UInt64.size → LengthFault count given (.blockShape count given)
  /-- The count does not fit a word. What remains of it differs from the number given, too. -/
  | wrapped : UInt64.size ≤ count → given ≠ count % UInt64.size →
      LengthFault count given (.blockShape (count % UInt64.size) given)
  /-- The count does not fit a word, and what remains of it is the number given. -/
  | overrun : UInt64.size ≤ count → given = count % UInt64.size → LengthFault count given .stopped

theorem lengthFault_iff {count given : Nat} {e : Error} (wrong : given ≠ count) :
    LengthFault count given e ↔
      e = if given = count % UInt64.size then .stopped
        else .blockShape (count % UInt64.size) given := by
  constructor
  · intro fault
    cases fault with
    | shape inWords => rw [Nat.mod_eq_of_lt inWords, if_neg wrong]
    | wrapped _ differs => rw [if_neg differs]
    | overrun _ remains => rw [if_pos remains]
  · rintro rfl
    by_cases inWords : count < UInt64.size
    · rw [Nat.mod_eq_of_lt inWords, if_neg wrong]
      exact .shape inWords
    · have beyond : UInt64.size ≤ count := Nat.not_lt.mp inWords
      split
      next remains => exact .overrun beyond remains
      next differs => exact .wrapped beyond differs

/-- The numbers of a block that are for a given place, in the order of the block. -/
def numbersAt {α : Type} (place : Nat) (places : List Nat) (numbers : List α) : List α :=
  ((places.zip numbers).filter fun entry => entry.1 = place).map (·.2)

end Block

/-- A block with the index arrays that say where it goes. -/
structure Addend (α : Type) where
  block : List α
  rows : List (List Nat)
  deriving DecidableEq

/-- A block that can be added to tensors of given dimensions. Its index arrays may be empty and may
name an index more than once. -/
def Addend.Valid {α : Type} (dims : List Nat) (addend : Addend α) : Prop :=
  Block.Fits dims addend.rows ∧ addend.block.length = Block.size addend.rows

instance {α : Type} (dims : List Nat) (addend : Addend α) : Decidable (addend.Valid dims) :=
  inferInstanceAs (Decidable (_ ∧ _))

namespace DenseTensor

variable {α : Type} {t u : DenseTensor α} {block : List α} {rows : List (List Nat)} {e : Error}

theorem checkRows_eq_ok_iff : t.checkRows rows = .ok () ↔ Block.Fits t.dims rows := by
  unfold checkRows
  constructor
  · intro passed
    split at passed
    · cases passed
    next count =>
      split at passed
      · cases passed
      next inRange =>
        exact ⟨Decidable.not_not.mp count, Block.firstStray?_eq_none_iff.mp inRange⟩
  · rintro ⟨count, inRange⟩
    have none : Block.firstStray? t.dims rows = none := Block.firstStray?_eq_none_iff.mpr inRange
    simp [rank, count, none]

theorem checkBlock_of_fits (fits : block.length = Block.size rows) : checkBlock block rows = .ok () :=
  if_pos fits

theorem checkBlock_of_wrong_length (wrong : block.length ≠ Block.size rows) :
    checkBlock block rows = .error e ↔ Block.LengthFault (Block.size rows) block.length e := by
  -- One comparison in words is left, which tells the program that stops from the one that refuses.
  have failed : checkBlock block rows =
      .error (if block.length = Block.size rows % UInt64.size then .stopped
        else .blockShape (Block.size rows % UInt64.size) block.length) := by
    simp only [checkBlock, if_neg wrong, Block.toNat_wordSize, apply_ite Except.error]
  rw [failed, Block.lengthFault_iff wrong, Except.error.injEq, eq_comm]

theorem checkBlock_eq_ok_iff : checkBlock block rows = .ok () ↔ block.length = Block.size rows := by
  by_cases fits : block.length = Block.size rows
  · simp [fits, checkBlock_of_fits fits]
  · have failed := (checkBlock_of_wrong_length fits).mpr ((Block.lengthFault_iff fits).mpr rfl)
    simp [fits, failed]

theorem checks_eq_ok_iff {γ : Type} {result : γ} (value : γ) :
    (do
      t.checkRows rows
      checkBlock block rows
      return value : Except Error γ) = .ok result ↔
      Block.Fits t.dims rows ∧ block.length = Block.size rows ∧ result = value := by
  rw [← checkRows_eq_ok_iff, ← checkBlock_eq_ok_iff]
  cases t.checkRows rows with
  | error e => simp [bind, Except.bind]
  | ok _ =>
      cases checkBlock block rows with
      | error e => simp [bind, Except.bind]
      | ok _ => simp [bind, Except.bind, pure, Except.pure, eq_comm]

theorem set_eq_ok_iff :
    t.set block rows = .ok u ↔ Block.Fits t.dims rows ∧ block.length = Block.size rows ∧
      u = t.modifyBlock (fun _ number => number) block rows :=
  checks_eq_ok_iff _

theorem add_eq_ok_iff [Add α] :
    t.add block rows = .ok u ↔ Block.Fits t.dims rows ∧ block.length = Block.size rows ∧
      u = t.modifyBlock accumulate block rows :=
  checks_eq_ok_iff _

/-- Each value is changed by the numbers for its place, one after another. -/
theorem getElem?_modifyEach (f : α → α → α) (places : List Nat) (numbers : List α)
    (values : Array α) (place : Nat) :
    (modifyEach f places numbers values)[place]? =
      values[place]?.map fun old => (Block.numbersAt place places numbers).foldl f old := by
  unfold modifyEach Block.numbersAt
  induction places.zip numbers generalizing values with
  | nil => simp
  | cons entry later ih =>
      rw [List.foldl_cons, ih]
      -- The first number is for this place or leaves it alone.
      by_cases here : entry.1 = place
      · cases old : values[place]? <;> simp [here, Array.getElem?_modify, old]
      · simp [here, Array.getElem?_modify]

end DenseTensor
end FormAssembly
