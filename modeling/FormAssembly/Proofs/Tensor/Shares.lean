import Mathlib.Algebra.GroupWithZero.Nat
import Mathlib.Order.Monotone.Basic
import FormAssembly.Tensor.Dense

/-!
# Shares of the leading dimension

The ranks of a group divide the indices of the leading dimension of a dense tensor among them. The
share of a rank ends where that of the next rank begins, so the shares are determined by the cuts
between them (`DenseTensor.share_eq`). The cuts never step back and lead from one end of the
dimension to the other. Hence every index is in exactly one share
(`DenseTensor.shares_cover_leading_dimension`).
-/

namespace FormAssembly
namespace DenseTensor

variable {α : Type} {t : DenseTensor α} {n count rank : Nat}

/-! ## Cuts -/

/-- Number of indices in the share of a rank. -/
def shareLength (n count rank : Nat) : Nat :=
  n / count + if rank < n % count then 1 else 0

/-- Number of indices in front of the share of a rank. -/
def cut (n count rank : Nat) : Nat :=
  rank * (n / count) + min rank (n % count)

@[simp] theorem cut_zero (n count : Nat) : cut n count 0 = 0 := by
  simp [cut]

theorem cut_succ (n count rank : Nat) :
    cut n count (rank + 1) = cut n count rank + shareLength n count rank := by
  unfold cut shareLength
  rw [Nat.succ_mul]
  split <;> omega

/-- After the last rank nothing is left over. -/
theorem cut_count (n : Nat) (several : 0 < count) : cut n count count = n := by
  have rest : n % count < count := Nat.mod_lt n several
  calc cut n count count
      = count * (n / count) + n % count := by rw [cut, Nat.min_eq_right rest.le]
    _ = n := Nat.div_add_mod n count

theorem cut_mono (n count : Nat) : Monotone (cut n count) := by
  refine monotone_nat_of_le_succ ?_
  intro rank
  rw [cut_succ]
  exact Nat.le_add_right _ _

theorem share_eq (n count rank : Nat) :
    share n count rank = (cut n count rank, cut n count (rank + 1)) := by
  rw [cut_succ]
  simp only [share, cut, shareLength, Nat.add_assoc]

/-- The share of a later rank has as many indices as that of an earlier one, or one less. -/
theorem shareLength_le {a b : Nat} (order : a ≤ b) :
    shareLength n count b ≤ shareLength n count a ∧
      shareLength n count a ≤ shareLength n count b + 1 := by
  unfold shareLength
  split <;> split <;> omega

/-! ## Owners -/

theorem exists_owner {i : Nat} (below : i < cut n count rank) :
    ∃ owner < rank, cut n count owner ≤ i ∧ i < cut n count (owner + 1) := by
  induction rank with
  | zero => simp at below
  | succ rank ih =>
      by_cases earlier : i < cut n count rank
      · rcases ih earlier with ⟨owner, inside, owns⟩
        exact ⟨owner, Nat.lt_succ_of_lt inside, owns⟩
      · exact ⟨rank, Nat.lt_succ_self rank, Nat.le_of_not_lt earlier, below⟩

theorem owner_unique {i a b : Nat} (ownsA : cut n count a ≤ i ∧ i < cut n count (a + 1))
    (ownsB : cut n count b ≤ i ∧ i < cut n count (b + 1)) : a = b := by
  -- Of two different owners the share of one ends before that of the other begins.
  have apart : ∀ {c d : Nat}, c < d → cut n count d ≤ i → ¬ i < cut n count (c + 1) := by
    intro c d order begun
    exact Nat.not_lt.mpr ((cut_mono n count order).trans begun)
  rcases Nat.lt_trichotomy a b with less | same | more
  · exact absurd ownsA.2 (apart less ownsB.1)
  · exact same
  · exact absurd ownsB.2 (apart more ownsA.1)

/-- The shares, one rank after another, are the indices in their order. -/
theorem flatMap_shares (n count ranks : Nat) :
    (List.range ranks).flatMap (fun rank =>
        List.range' (cut n count rank) (shareLength n count rank)) =
      List.range (cut n count ranks) := by
  induction ranks with
  | zero => simp
  | succ rank ih =>
      calc (List.range (rank + 1)).flatMap (fun rank =>
              List.range' (cut n count rank) (shareLength n count rank))
          = List.range (cut n count rank) ++
              List.range' (cut n count rank) (shareLength n count rank) := by
            simp [List.range_succ, ih]
        _ = List.range (cut n count (rank + 1)) := by
            simpa [cut_succ, List.range_eq_range'] using
              List.range'_append_1 (s := 0) (m := cut n count rank) (n := shareLength n count rank)

/-! ## Ranges of a tensor -/

theorem size_eq_ok {dim length : Nat} (sized : t.dims[dim]? = some length) :
    t.size dim = .ok length := by
  have some : t.dims.isEmpty = false := by
    cases h : t.dims with
    | nil => simp [h] at sized
    | cons => rfl
  simp [size, some, sized]

theorem localRange_zero (several : 0 < t.member.size) (leading : t.dims[0]? = some n) :
    t.localRange 0 =
      .ok (cut n t.member.size t.member.rank, cut n t.member.size (t.member.rank + 1)) := by
  have group : max t.member.size 1 = t.member.size := Nat.max_eq_left several
  simp [localRange, size_eq_ok leading, group, share_eq, bind, Except.bind, pure, Except.pure]

theorem localRange_of_pos {dim length : Nat} (later : 0 < dim)
    (sized : t.dims[dim]? = some length) : t.localRange dim = .ok (0, length) := by
  simp [localRange, size_eq_ok sized, Nat.ne_of_gt later, bind, Except.bind, pure, Except.pure]

/-- The ranks of a group own consecutive ranges of the leading dimension, from its first to its last
index, and the longer ranges come first. Every index has exactly one owner. All other dimensions
every rank owns in full. -/
theorem shares_cover_leading_dimension {size n : Nat} (several : 0 < size)
    {t : (rank : Nat) → DenseTensor α}
    (place : ∀ rank < size, (t rank).member.rank = rank ∧ (t rank).member.size = size)
    (leading : ∀ rank < size, (t rank).dims[0]? = some n) :
    ∃ first last : (rank : Nat) → Nat,
      (∀ rank < size, (t rank).localRange 0 = .ok (first rank, last rank)) ∧
      first 0 = 0 ∧ last (size - 1) = n ∧
      (∀ rank, rank + 1 < size → first (rank + 1) = last rank) ∧
      (∀ rank < size, first rank ≤ last rank ∧ last rank ≤ n) ∧
      (∀ a b, a ≤ b → b < size →
        last b - first b ≤ last a - first a ∧ last a - first a ≤ last b - first b + 1) ∧
      (∀ i < n, ∃! rank, rank < size ∧ first rank ≤ i ∧ i < last rank) ∧
      (List.range size).flatMap (fun rank =>
        List.range' (first rank) (last rank - first rank)) = List.range n ∧
      ∀ rank < size, ∀ dim length, 0 < dim → (t rank).dims[dim]? = some length →
        (t rank).localRange dim = .ok (0, length) := by
  have lengths : ∀ rank, cut n size (rank + 1) - cut n size rank = shareLength n size rank := by
    intro rank
    rw [cut_succ, Nat.add_sub_cancel_left]
  refine ⟨cut n size, fun rank => cut n size (rank + 1), ?_, cut_zero n size, ?_, ?_, ?_, ?_, ?_,
    ?_, ?_⟩
  · intro rank inside
    rcases place rank inside with ⟨atRank, ofSize⟩
    simpa [atRank, ofSize] using localRange_zero (ofSize ▸ several) (leading rank inside)
  · show cut n size (size - 1 + 1) = n
    rw [Nat.sub_add_cancel several, cut_count n several]
  · intro rank _
    rfl
  · intro rank inside
    refine ⟨cut_mono n size (Nat.le_succ rank), ?_⟩
    calc cut n size (rank + 1)
        ≤ cut n size size := cut_mono n size inside
      _ = n := cut_count n several
  · intro a b order _
    simpa only [lengths] using shareLength_le order
  · intro i below
    have covered : i < cut n size size := by rwa [cut_count n several]
    rcases exists_owner covered with ⟨owner, inside, owns⟩
    exact ⟨owner, ⟨inside, owns⟩, fun other also => owner_unique also.2 owns⟩
  · simp only [lengths, flatMap_shares, cut_count n several]
  · intro rank _ dim length later sized
    exact localRange_of_pos later sized

/-- Two indices for three ranks: the last rank owns none. -/
theorem shares_cover_leading_dimension_two_indices :
    let t (rank : Nat) : DenseTensor Nat := .zero ⟨rank, 3, false⟩ [2, 5]
    (∀ rank < 3, (t rank).member.rank = rank ∧ (t rank).member.size = 3) ∧
      (∀ rank < 3, (t rank).dims[0]? = some 2) ∧
      (t 0).localRange 0 = .ok (0, 1) ∧ (t 1).localRange 0 = .ok (1, 2) ∧
      (t 2).localRange 0 = .ok (2, 2) ∧ (t 2).localRange 1 = .ok (0, 5) := by
  intro t
  have place : ∀ rank < 3, (t rank).member.rank = rank ∧ (t rank).member.size = 3 :=
    fun _ _ => ⟨rfl, rfl⟩
  have leading : ∀ rank < 3, (t rank).dims[0]? = some 2 := fun _ _ => rfl
  rcases shares_cover_leading_dimension (by decide) place leading with
    ⟨_, _, _, _, _, _, _, _, _, _, others⟩
  exact ⟨place, leading, by decide, by decide, by decide, others 2 (by decide) 1 5 (by decide) rfl⟩

end DenseTensor
end FormAssembly
