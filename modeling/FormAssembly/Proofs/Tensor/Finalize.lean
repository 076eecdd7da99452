import FormAssembly.Proofs.Message.Values
import FormAssembly.Proofs.Tensor.Blocks
import FormAssembly.Tensor.Scalar

/-!
# Finalization of one tensor

In a group of one `apply` has nothing to do. In a group of several it is a gathering of the values,
whose result is combined into sums (`ScalarTensor.apply_of_group`, `DenseTensor.apply_of_group`). If
the gathering returns the values of all ranks, combining them sums up each place in the order of
ranks (`DenseTensor.combine_inRankOrder`).
-/

namespace FormAssembly

variable {α β : Type} {rank size : Nat}

namespace ScalarTensor

variable [Zero α] [Add α] [SumStart α]

/-- The scalar with the sum over all ranks, given their values. -/
def combine (t : ScalarTensor α) (all : List α) : ScalarTensor α :=
  t.assign (sumByRank all)

theorem apply_of_single [Code α β] {t : ScalarTensor α} (mode : ApplyMode)
    (single : t.member.alone = true ∨ t.member.size = 1) :
    (t.apply mode : Exchange β (Reported (Except Error (ScalarTensor α)))) =
      .done ⟨.ok t, [.scalarApply mode.name t.member.size]⟩ := by
  rcases single with alone | one
  · simp [apply, alone]
  · simp [apply, one]

theorem apply_of_group [Code α β] {t : ScalarTensor α} (mode : ApplyMode)
    (place : t.member = ⟨rank, size, false⟩) (several : size ≠ 1) :
    (t.apply mode : Exchange β (Reported (Except Error (ScalarTensor α)))) =
      ((⟨rank, size, false⟩ : Member).gatherValues [t.value] >>= fun gathered =>
        .done ⟨gathered.map t.combine, [.scalarApply mode.name size]⟩) := by
  have notAlone : (t.member.alone || decide (t.member.size = 1)) = false := by
    simp [place, several]
  have called : (t.apply mode : Exchange β _) =
      (t.member.gatherValues [t.value] >>= fun gathered =>
        .done ⟨gathered.map t.combine, [.scalarApply mode.name t.member.size]⟩) := by
    simp only [apply, notAlone, Bool.false_eq_true, if_false]
    rfl
  rw [called, place]

end ScalarTensor

namespace DenseTensor

/-- A tensor that is computed from its places depends on nothing but its places. -/
theorem tabulate_congr (t : DenseTensor α) {f g : Nat → α}
    (same : ∀ place < t.values.size, f place = g place) : t.tabulate f = t.tabulate g := by
  have onValues : (fun place : Fin t.values.size => f place) =
      fun place : Fin t.values.size => g place :=
    funext fun place => same place place.isLt
  simp only [tabulate, onValues]

/-- Tensors are the same if they have the same shape and the same value at each place. -/
theorem eq_of_getD {t u : DenseTensor α} (other : α) (dims : t.dims = u.dims)
    (member : t.member = u.member)
    (same : ∀ place < t.values.size, t.values.getD place other = u.values.getD place other) :
    t = u := by
  have values : t.values = u.values := by
    refine Array.ext (by rw [t.size_values, u.size_values, dims]) fun place here there => ?_
    simpa [Array.getD_eq_getD_getElem?, here, there] using same place here
  rcases t with ⟨_, _, _, _⟩
  rcases u with ⟨_, _, _, _⟩
  cases dims
  cases member
  cases values
  rfl

theorem getD_tabulate {t : DenseTensor α} (f : Nat → α) (other : α) {place : Nat}
    (early : place < t.values.size) : (t.tabulate f).values.getD place other = f place := by
  simp [tabulate, Array.getD_eq_getD_getElem?, early]

theorem tabulate_of_shape {t u : DenseTensor α} (dims : t.dims = u.dims)
    (member : t.member = u.member) (f : Nat → α) : t.tabulate f = u.tabulate f := by
  have sizes : t.values.size = u.values.size := by rw [t.size_values, u.size_values, dims]
  refine eq_of_getD (f 0) dims member fun place early => ?_
  have here : place < t.values.size := by
    simpa [tabulate] using early
  rw [getD_tabulate f _ here, getD_tabulate f _ (sizes ▸ here)]

variable [Zero α] [Add α] [SumStart α]

/-- The tensor with the sums over all ranks, given the values of all ranks one after another. -/
def combine (t : DenseTensor α) (all : List α) : DenseTensor α :=
  t.tabulate fun place => sumByRank ((List.range t.member.size).map fun rank =>
    all.toArray.getD (rank * t.values.size + place) 0)

/-- Values that come in the order of ranks are summed up place by place. -/
theorem combine_inRankOrder {t : DenseTensor α} {others : Nat → List α}
    (place : t.member = ⟨rank, size, false⟩)
    (same : ∀ source < size, (others source).length = t.values.size) :
    t.combine (inRankOrder size others) =
      t.tabulate fun place =>
        sumByRank ((List.range size).map fun source => (others source).getD place 0) := by
  -- Place `i` of the values of a rank lies `i` places into the chunk of that rank.
  refine tabulate_congr _ fun i early => ?_
  have found : ∀ source ∈ List.range size,
      (inRankOrder size others).toArray.getD (source * t.values.size + i) 0 =
        (others source).getD i 0 := by
    intro source listed
    have inside : source < size := List.mem_range.mp listed
    rw [Array.getD_eq_getD_getElem?, List.getElem?_toArray,
      getElem?_inRankOrder inside early same, List.getD_eq_getElem?_getD]
  rw [place, List.map_congr_left found]

variable [Code α β]

theorem apply_of_single {t : DenseTensor α} (mode : ApplyMode)
    (single : t.member.alone = true ∨ t.member.size = 1) :
    (t.apply mode : Exchange β (Reported (Except Error (DenseTensor α)))) =
      .done ⟨.ok t, [.denseApply mode.name t.values.size t.member.size]⟩ := by
  rcases single with alone | one
  · simp [apply, alone]
  · simp [apply, one]

theorem apply_of_group {t : DenseTensor α} (mode : ApplyMode)
    (place : t.member = ⟨rank, size, false⟩) (several : size ≠ 1) :
    (t.apply mode : Exchange β (Reported (Except Error (DenseTensor α)))) =
      ((⟨rank, size, false⟩ : Member).gatherValues t.values.toList >>= fun gathered =>
        .done ⟨gathered.map t.combine, [.denseApply mode.name t.values.size size]⟩) := by
  have notAlone : (t.member.alone || decide (t.member.size = 1)) = false := by
    simp [place, several]
  have called : (t.apply mode : Exchange β _) =
      (t.member.gatherValues t.values.toList >>= fun gathered =>
        .done ⟨gathered.map t.combine, [.denseApply mode.name t.values.size t.member.size]⟩) := by
    simp only [apply, notAlone, Bool.false_eq_true, if_false]
    rfl
  rw [called, place]

end DenseTensor
end FormAssembly
