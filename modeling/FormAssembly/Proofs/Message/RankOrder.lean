import Mathlib.Data.List.Basic
import FormAssembly.Message.Member

/-!
# Buffers in rank order

A receive buffer consists of one chunk for each rank, all of the same length. `inRankOrder` builds
such a buffer from its chunks, every buffer of the right length arises in this way, and placing a
message replaces one chunk (`Member.place_inRankOrder`). The proofs about gatherings speak of
chunks only, never of positions.
-/

namespace FormAssembly

/-- The chunks of the ranks below `size`, one after another. -/
def inRankOrder {β : Type} (size : Nat) (chunk : Nat → List β) : List β :=
  (List.range size).flatMap chunk

variable {β : Type} {size width : Nat} {chunk other : Nat → List β}

theorem inRankOrder_congr (same : ∀ rank < size, chunk rank = other rank) :
    inRankOrder size chunk = inRankOrder size other := by
  have onRange : ∀ rank ∈ List.range size, chunk rank = other rank :=
    fun rank inside => same rank (List.mem_range.mp inside)
  exact List.flatMap_congr onRange

theorem inRankOrder_succ (size : Nat) (chunk : Nat → List β) :
    inRankOrder (size + 1) chunk = inRankOrder size chunk ++ chunk size := by
  simp [inRankOrder, List.range_succ]

theorem length_inRankOrder (equal : ∀ rank < size, (chunk rank).length = width) :
    (inRankOrder size chunk).length = size * width := by
  induction size with
  | zero => simp [inRankOrder]
  | succ size ih =>
      have below : ∀ rank < size, (chunk rank).length = width :=
        fun rank h => equal rank (Nat.lt_succ_of_lt h)
      have last : (chunk size).length = width := equal size (Nat.lt_succ_self size)
      simp [inRankOrder_succ, ih below, last, Nat.succ_mul]

theorem length_update {rank : Nat} {message : List β}
    (equal : ∀ rank < size, (chunk rank).length = width) (fits : message.length = width) :
    ∀ source < size, (Function.update chunk rank message source).length = width := by
  intro source inside
  by_cases same : source = rank
  · rw [same, Function.update_self, fits]
  · rw [Function.update_of_ne same, equal source inside]

/-- Every buffer that has room for `size` chunks consists of `size` chunks. -/
theorem exists_eq_inRankOrder {buffer : List β} (room : buffer.length = size * width) :
    ∃ chunk : Nat → List β,
      (∀ rank < size, (chunk rank).length = width) ∧ buffer = inRankOrder size chunk := by
  induction size generalizing buffer with
  | zero =>
      have : buffer = [] := List.eq_nil_of_length_eq_zero (by simpa using room)
      exact ⟨fun _ => [], by simp, by simp [this, inRankOrder]⟩
  | succ size ih =>
      have front : (buffer.take (size * width)).length = size * width := by
        simp [room, Nat.succ_mul]
      rcases ih front with ⟨chunk, equal, whole⟩
      -- The last chunk is what lies behind the first `size` chunks.
      refine ⟨Function.update chunk size (buffer.drop (size * width)), ?_, ?_⟩
      · intro rank h
        rcases Nat.lt_succ_iff_lt_or_eq.mp h with below | rfl
        · simpa [Function.update_of_ne (Nat.ne_of_lt below)] using equal rank below
        · simp [room, Nat.succ_mul]
      · have unchanged :
            inRankOrder size (Function.update chunk size (buffer.drop (size * width))) =
              inRankOrder size chunk :=
          inRankOrder_congr fun rank h => Function.update_of_ne (Nat.ne_of_lt h) _ _
        rw [inRankOrder_succ, unchanged, ← whole, Function.update_self, List.take_append_drop]

/-- A message that is placed replaces the chunk of its rank and no other. -/
theorem Member.place_inRankOrder {rank : Nat} {message : List β} (inside : rank < size)
    (equal : ∀ rank < size, (chunk rank).length = width) (fits : message.length = width) :
    Member.place rank message (inRankOrder size chunk) =
      inRankOrder size (Function.update chunk rank message) := by
  induction size with
  | zero => exact absurd inside (Nat.not_lt_zero rank)
  | succ size ih =>
      have below : ∀ rank < size, (chunk rank).length = width :=
        fun rank h => equal rank (Nat.lt_succ_of_lt h)
      have front : (inRankOrder size chunk).length = size * width := length_inRankOrder below
      have last : (chunk size).length = width := equal size (Nat.lt_succ_self size)
      rcases Nat.lt_succ_iff_lt_or_eq.mp inside with earlier | rfl
      · -- The last chunk lies behind everything that is touched.
        have reach : (rank + 1) * width ≤ size * width := Nat.mul_le_mul_right width earlier
        have before : rank * width ≤ size * width :=
          Nat.mul_le_mul_right width (Nat.le_of_lt earlier)
        have step := ih earlier below
        simp only [Member.place, fits] at step ⊢
        rw [inRankOrder_succ, inRankOrder_succ, ← step,
          Function.update_of_ne (Nat.ne_of_gt earlier),
          List.take_append_of_le_length (by rw [front]; exact before),
          List.drop_append_of_le_length (by rw [front]; exact reach)]
        simp [List.append_assoc]
      · -- The last chunk is the one that is replaced, and nothing lies behind it.
        have unchanged : inRankOrder rank (Function.update chunk rank message) =
            inRankOrder rank chunk :=
          inRankOrder_congr fun i h => Function.update_of_ne (Nat.ne_of_lt h) _ _
        have all : (inRankOrder (rank + 1) chunk).length ≤ (rank + 1) * width :=
          Nat.le_of_eq (length_inRankOrder equal)
        rw [Member.place, fits, List.drop_eq_nil_of_le all, inRankOrder_succ, inRankOrder_succ,
          List.take_append_of_le_length (Nat.le_of_eq front.symm), unchanged,
          Function.update_self, List.take_of_length_le (Nat.le_of_eq front), List.append_nil]

/-! ## Values in rank order -/

/-- Entry `i` of the chunk of a rank, found by its place in the whole. -/
theorem getElem?_inRankOrder {rank i : Nat} (inside : rank < size) (early : i < width)
    (equal : ∀ rank < size, (chunk rank).length = width) :
    (inRankOrder size chunk)[rank * width + i]? = (chunk rank)[i]? := by
  -- By induction on the number of chunks: the entry is in the last one or in those before.
  induction size with
  | zero => exact absurd inside (Nat.not_lt_zero rank)
  | succ size ih =>
      have below : ∀ rank < size, (chunk rank).length = width :=
        fun rank h => equal rank (Nat.lt_succ_of_lt h)
      have front : (inRankOrder size chunk).length = size * width := length_inRankOrder below
      rw [inRankOrder_succ]
      rcases Nat.lt_succ_iff_lt_or_eq.mp inside with earlier | rfl
      · have reach : (rank + 1) * width ≤ size * width := Nat.mul_le_mul_right width earlier
        have inFront : rank * width + i < (inRankOrder size chunk).length := by
          rw [front]
          exact Nat.lt_of_lt_of_le (by rw [Nat.succ_mul]; exact Nat.add_lt_add_left early _) reach
        rw [List.getElem?_append_left inFront]
        exact ih earlier below
      · have behind : (inRankOrder rank chunk).length ≤ rank * width + i := by
          rw [front]
          exact Nat.le_add_right _ _
        rw [List.getElem?_append_right behind, front, Nat.add_sub_cancel_left]

variable {α : Type} [Code α β]

theorem encodeAll_inRankOrder (size : Nat) (values : Nat → List α) :
    (Code.encodeAll (inRankOrder size values) : List β) =
      inRankOrder size fun rank => Code.encodeAll (values rank) := by
  induction size with
  | zero => rfl
  | succ size ih => rw [inRankOrder_succ, inRankOrder_succ, Code.encodeAll_append, ih]

/-- What was encoded rank by rank is read back as a whole. -/
theorem decodeAll_inRankOrder {values : Nat → List α}
    (equal : ∀ rank < size, (values rank).length = width) :
    Code.decodeAll α (size * width)
      (inRankOrder size fun rank => (Code.encodeAll (values rank) : List β)) =
      inRankOrder size values := by
  have length : (inRankOrder size values).length = size * width := length_inRankOrder equal
  rw [← encodeAll_inRankOrder, ← length, Code.decodeAll_encodeAll]

end FormAssembly
