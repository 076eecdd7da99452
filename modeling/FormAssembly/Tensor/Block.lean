/-!
# Blocks

A block is a dense part of a tensor in row-major order. It is addressed by one list of indices for
each dimension and covers their cross product, whose last index varies fastest. Its number of values is
a natural number (`size`) or what a program computes in words (`wordSize`).
-/

namespace FormAssembly
namespace Block

/-- Number of values of a block or a tensor with given dimensions. -/
def volume (dims : List Nat) : Nat :=
  dims.foldr (· * ·) 1

@[simp] theorem volume_nil : volume [] = 1 :=
  rfl

@[simp] theorem volume_cons (n : Nat) (dims : List Nat) : volume (n :: dims) = n * volume dims :=
  rfl

/-- Number of values of the block at `rows`: the product of the numbers of indices. -/
def size (rows : List (List Nat)) : Nat :=
  volume (rows.map List.length)

/-- Every choice of one index from each list, the last varying fastest. What follows the first index
is found once for all of its choices, and not at all if there is none. -/
def crossProduct : List (List Nat) → List (List Nat)
  | [] => [[]]
  | [] :: _ => []
  | indices :: rest =>
      let later := crossProduct rest
      indices.flatMap fun i => later.map (i :: ·)

/-- Place of a multi-index in row-major order. -/
def flatIndex (dims index : List Nat) : Nat :=
  (index.zip dims).foldl (fun place (i, n) => place * n + i) 0

/-- Places in a tensor of the entries of the block at `rows`, in the order of the block. -/
def targets (dims : List Nat) (rows : List (List Nat)) : List Nat :=
  (crossProduct rows).map (flatIndex dims)

/-- Visits the entries of the block at `rows`, in the order of the block. A visit is told the
position of the entry in the block and its place in the tensor, and makes a new state of what the
visits before it have left. -/
def forEachEntry {σ : Type} (dims : List Nat) (rows : List (List Nat)) (visit : Nat → Nat → σ → σ)
    (start : σ) : σ :=
  (targets dims rows).zipIdx.foldl (fun state (place, position) => visit position place state) start

/-- The first index that is out of range, with the size of its dimension. -/
def firstStray? (dims : List Nat) (rows : List (List Nat)) : Option (Nat × Nat) :=
  (rows.zip dims).findSome? fun (indices, n) =>
    (indices.find? fun i => n ≤ i).map fun i => (i, n)

/-- Cuts pieces of given lengths off the front of a list, one after another. There is no way to do
so if a piece would end beyond the list. -/
def split? {α : Type} : (lengths : List Nat) → List α → Option (List (List α))
  | [], _ => some []
  | n :: rest, values =>
      if n ≤ values.length then (split? rest (values.drop n)).map (values.take n :: ·) else none

theorem crossProduct_cons (indices : List Nat) (rest : List (List Nat)) :
    crossProduct (indices :: rest) =
      indices.flatMap fun i => (crossProduct rest).map (i :: ·) := by
  cases indices with
  | nil => simp [crossProduct]
  | cons => rfl

/-! ## Counting -/

theorem length_crossProduct (rows : List (List Nat)) :
    (crossProduct rows).length = size rows := by
  induction rows with
  | nil => rfl
  | cons indices rest ih =>
      have : ∀ is : List Nat,
          (is.flatMap fun i => (crossProduct rest).map (i :: ·)).length =
            is.length * size rest := by
        intro is
        induction is with
        | nil => simp
        | cons i is ihIndices => simp [ihIndices, ih, Nat.succ_mul, Nat.add_comm]
      simpa [crossProduct_cons, size] using this indices

@[simp] theorem length_targets (dims : List Nat) (rows : List (List Nat)) :
    (targets dims rows).length = size rows := by
  simp [targets, length_crossProduct]

/-! ## Counting in words

What a program compares with the length of a block or of a list it has computed in 64-bit words,
whose products and sums wrap around. (A build that checks its arithmetic stops at the first product
or sum that does not fit.) -/

/-- `volume` as computed in words. -/
def wordVolume (dims : List Nat) : UInt64 :=
  dims.foldl (fun count n => count * UInt64.ofNat n) 1

/-- `size` as computed in words. -/
def wordSize (rows : List (List Nat)) : UInt64 :=
  wordVolume (rows.map List.length)

/-- Length of a list with parts of given lengths, as computed in words. -/
def wordTotal (lengths : List Nat) : UInt64 :=
  lengths.foldl (fun total n => total + UInt64.ofNat n) 0

theorem toNat_wordVolume (dims : List Nat) :
    (wordVolume dims).toNat = volume dims % UInt64.size := by
  -- Along the dimensions the count starts from any word.
  have along : ∀ (dims : List Nat) (count : UInt64),
      (dims.foldl (fun count n => count * UInt64.ofNat n) count).toNat =
        count.toNat * volume dims % UInt64.size := by
    intro dims
    induction dims with
    | nil =>
        intro count
        simp [Nat.mod_eq_of_lt count.toNat_lt_size]
    | cons n rest ih =>
        intro count
        simp [ih, UInt64.toNat_mul, Nat.mul_assoc]
  simpa [wordVolume] using along dims 1

theorem toNat_wordSize (rows : List (List Nat)) :
    (wordSize rows).toNat = size rows % UInt64.size :=
  toNat_wordVolume _

end Block
end FormAssembly
