import Mathlib.Data.List.Forall2
import FormAssembly.Proofs.Tensor.Blocks

/-!
# Places of a block

A block whose indices are in range addresses only places that a tensor has
(`Block.lt_volume_of_mem_targets`).
-/

namespace FormAssembly
namespace Block

variable {dims : List Nat} {rows : List (List Nat)}

/-- The place of a multi-index in range is in range, whatever it is counted on from. -/
theorem foldl_place_lt {index : List Nat} (inRange : List.Forall₂ (· < ·) index dims)
    {place bound : Nat} (below : place < bound) :
    (index.zip dims).foldl (fun place (i, n) => place * n + i) place < bound * volume dims := by
  induction inRange generalizing place bound with
  | nil => simpa using below
  | @cons i n _ dims first _ ih =>
      have next : place * n + i < bound * n :=
        calc place * n + i
          _ < (place + 1) * n := by rw [Nat.succ_mul]; exact Nat.add_lt_add_left first _
          _ ≤ bound * n := Nat.mul_le_mul_right n below
      rw [volume_cons, ← Nat.mul_assoc]
      exact ih next

theorem lt_of_mem_crossProduct (fits : Fits dims rows) :
    ∀ index ∈ crossProduct rows, List.Forall₂ (· < ·) index dims := by
  rcases fits with ⟨count, inRange⟩
  -- By induction on the rows, each of which has its dimension.
  induction rows generalizing dims with
  | nil =>
      intro index among
      have none : dims = [] := List.eq_nil_of_length_eq_zero count.symm
      have empty : index = [] := by simpa [crossProduct] using among
      rw [none, empty]
      exact .nil
  | cons indices later ih =>
      cases dims with
      | nil => simp at count
      | cons n dims =>
          intro index among
          rw [crossProduct_cons] at among
          rcases List.mem_flatMap.mp among with ⟨i, first, rest⟩
          rcases List.mem_map.mp rest with ⟨tail, found, rfl⟩
          have below : i < n := inRange (indices, n) (by simp) i first
          refine .cons below (ih (by simpa using count) (fun entry listed => ?_) tail found)
          exact inRange entry (by simp [listed])

/-- A block that fits addresses values that there are. -/
theorem lt_volume_of_mem_targets (fits : Fits dims rows) :
    ∀ place ∈ targets dims rows, place < volume dims := by
  intro place among
  rcases List.mem_map.mp among with ⟨index, chosen, rfl⟩
  have below := foldl_place_lt (lt_of_mem_crossProduct fits index chosen) Nat.one_pos
  rwa [Nat.one_mul] at below

end Block
end FormAssembly
