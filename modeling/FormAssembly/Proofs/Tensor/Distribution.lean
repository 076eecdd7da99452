import Mathlib.Algebra.BigOperators.Group.List.Basic
import Mathlib.Algebra.Ring.Int.Defs
import FormAssembly.Proofs.Tensor.Collective

/-!
# Contributions distributed over a group

If sums are exact, it does not matter which rank adds which block in which order: after `apply`
every rank holds what one process holds after adding all blocks (`distributed_addition`). The proof
looks at one place at a time. There a tensor holds the sum of what its blocks have for the place
(`DenseTensor.getD_addEach`), and sums do not depend on the order or the grouping of their summands
(`sum_map_inRankOrder`).
-/

namespace FormAssembly

variable {α β : Type} {dims : List Nat} {size : Nat}

/-! ## Adding blocks -/

namespace DenseTensor

/-- Adds blocks in turn. The first that does not fit ends it. -/
def addAll [Add α] (t : DenseTensor α) (addends : List (Addend α)) :
    Except Error (DenseTensor α) :=
  addends.foldlM (fun t addend => t.add addend.block addend.rows) t

/-- Adds blocks and finalizes the tensor. -/
def addAndApply [Zero α] [Add α] [SumStart α] [Code α β] (addends : List (Addend α)) :
    Except Error (DenseTensor α) → Exchange β (Except Error (DenseTensor α))
  | .error cause => .done (.error cause)
  | .ok t =>
      match t.addAll addends with
      | .error cause => .done (.error cause)
      | .ok total => do
          let report ← total.apply .add
          return report.value

/-- The tensor after blocks that fit were added. -/
def addEach [Add α] (t : DenseTensor α) (addends : List (Addend α)) : DenseTensor α :=
  addends.foldl (fun t addend => t.modifyBlock accumulate addend.block addend.rows) t

theorem shape_addEach [Add α] (t : DenseTensor α) (addends : List (Addend α)) :
    (t.addEach addends).dims = t.dims ∧ (t.addEach addends).member = t.member := by
  induction addends generalizing t with
  | nil => exact ⟨rfl, rfl⟩
  | cons addend later ih => exact ih _

theorem addAll_eq_ok [Add α] {t : DenseTensor α} {addends : List (Addend α)}
    (valid : ∀ addend ∈ addends, addend.Valid t.dims) :
    t.addAll addends = .ok (t.addEach addends) := by
  induction addends generalizing t with
  | nil => rfl
  | cons addend later ih =>
      have first : addend.Valid t.dims := valid addend List.mem_cons_self
      have added : t.add addend.block addend.rows =
          .ok (t.modifyBlock accumulate addend.block addend.rows) :=
        add_eq_ok_iff.mpr ⟨first.1, first.2, rfl⟩
      -- Adding keeps the dimensions, so what fits before fits afterwards.
      have rest : (t.modifyBlock accumulate addend.block addend.rows).addAll later = _ :=
        ih fun addend listed => valid addend (List.mem_cons_of_mem _ listed)
      simp only [addAll, List.foldlM_cons, added] at rest ⊢
      exact rest

theorem addAndApply_eq [Zero α] [Add α] [SumStart α] [Code α β] {t : DenseTensor α}
    {addends : List (Addend α)} (valid : ∀ addend ∈ addends, addend.Valid t.dims) :
    (addAndApply addends (.ok t) : Exchange β (Except Error (DenseTensor α))) =
      ((t.addEach addends).apply .add >>= fun report => .done report.value) := by
  simp only [addAndApply, addAll_eq_ok valid]
  rfl

/-- Ranks that add blocks to zero tensors and finalize them. -/
def additions [Zero α] [Add α] [SumStart α] [Code α β] (size : Nat) (dims : List Nat)
    (part : (rank : Nat) → List (Addend α))
    (valid : ∀ rank < size, ∀ addend ∈ part rank, addend.Valid dims) :
    Lockstep β (Except Error (DenseTensor α)) :=
  let total (rank : Nat) : DenseTensor α := (zero ⟨rank, size, false⟩ dims).addEach (part rank)
  collectives size 1 (Block.volume dims)
    (fun _ rank => addAndApply (part rank))
    (fun
      | 0, rank => .ok (zero ⟨rank, size, false⟩ dims)
      | _ + 1, rank => .ok (finalized size total rank))
    (fun _ => total)
    (fun _ _ report => report.value)
    (fun _ _ _ _ => (shape_addEach _ _).2)
    (fun _ _ _ _ => by rw [DenseTensor.size_values, (shape_addEach _ _).1]; rfl)
    (by
      intro round first rank inside
      -- There is only one round, which begins with the zero tensor.
      obtain rfl : round = 0 := Nat.lt_one_iff.mp first
      exact addAndApply_eq (valid rank inside))
    (fun _ _ _ _ => rfl)

end DenseTensor

/-! ## Exact sums -/

/-- Values with an addition that is commutative and associative, where sums over processes start
from its neutral element. -/
class ExactSum (α : Type) extends AddCommMonoid α, SumStart α where
  start_eq_zero : start = 0

/-- Every commutative monoid has exact sums. -/
@[reducible] def ExactSum.ofMonoid (α : Type) [AddCommMonoid α] : ExactSum α where
  start := 0
  start_eq_zero := rfl

/-- Values that are the units of messages themselves. -/
@[reducible] def Code.plain (α : Type) [Zero α] : Code α α where
  width := 1
  encode value := [value]
  decode units := units.headD 0
  length_encode _ := rfl
  decode_encode _ := rfl

variable [ExactSum α]

theorem sumByRank_eq_sum (values : List α) : sumByRank values = values.sum := by
  rw [sumByRank, ExactSum.start_eq_zero, List.sum_eq_foldl]

theorem foldl_accumulate (old : α) (numbers : List α) :
    numbers.foldl accumulate old = old + numbers.sum := by
  induction numbers generalizing old with
  | nil => simp
  | cons number later ih =>
      calc (number :: later).foldl accumulate old
          = number + old + later.sum := ih (accumulate old number)
        _ = old + (number :: later).sum := by rw [List.sum_cons, add_comm number old, add_assoc]

/-- A sum over the items of all ranks is the sum over the ranks of their sums. -/
theorem sum_map_inRankOrder {γ : Type} (size : Nat) (part : (rank : Nat) → List γ) (f : γ → α) :
    ((inRankOrder size part).map f).sum =
      ((List.range size).map fun rank => ((part rank).map f).sum).sum := by
  induction size with
  | zero => rfl
  | succ size ih => simp [inRankOrder_succ, List.range_succ, ih]

/-- All that a block has for one place of a tensor. -/
def Addend.sumAt (dims : List Nat) (place : Nat) (addend : Addend α) : α :=
  (Block.numbersAt place (Block.targets dims addend.rows) addend.block).sum

namespace DenseTensor

theorem getD_modifyBlock {t : DenseTensor α} (addend : Addend α) {place : Nat}
    (early : place < t.values.size) :
    (t.modifyBlock accumulate addend.block addend.rows).values.getD place 0 =
      t.values.getD place 0 + addend.sumAt t.dims place := by
  have changed : (t.modifyBlock accumulate addend.block addend.rows).values[place]? =
      t.values[place]?.map fun old =>
        (Block.numbersAt place (Block.targets t.dims addend.rows) addend.block).foldl
          accumulate old :=
    getElem?_modifyEach accumulate _ _ t.values place
  simp [Array.getD_eq_getD_getElem?, changed, early, foldl_accumulate, Addend.sumAt]

/-- Every place gets the sum of what the blocks have for it. -/
theorem getD_addEach {t : DenseTensor α} (addends : List (Addend α)) {place : Nat}
    (early : place < t.values.size) :
    (t.addEach addends).values.getD place 0 =
      t.values.getD place 0 + (addends.map (Addend.sumAt t.dims place)).sum := by
  induction addends generalizing t with
  | nil => simp [addEach]
  | cons addend later ih =>
      let middle := t.modifyBlock accumulate addend.block addend.rows
      have still : place < middle.values.size := by
        rw [middle.size_values]
        exact t.size_values ▸ early
      calc (middle.addEach later).values.getD place 0
          = middle.values.getD place 0 + (later.map (Addend.sumAt t.dims place)).sum := ih still
        _ = t.values.getD place 0 + addend.sumAt t.dims place +
              (later.map (Addend.sumAt t.dims place)).sum := by
              rw [getD_modifyBlock addend early]
        _ = t.values.getD place 0 + ((addend :: later).map (Addend.sumAt t.dims place)).sum := by
              rw [List.map_cons, List.sum_cons, add_assoc]

/-- Added to a zero tensor, the blocks are all there is. -/
theorem getD_addEach_zero (member : Member) (addends : List (Addend α)) {place : Nat}
    (early : place < Block.volume dims) :
    ((zero member dims).addEach addends).values.getD place 0 =
      (addends.map (Addend.sumAt dims place)).sum := by
  have inside : place < (zero member dims : DenseTensor α).values.size := by
    rw [DenseTensor.size_values]
    exact early
  have nothing : (zero member dims : DenseTensor α).values.getD place 0 = 0 := by
    simp [zero, Array.getD_eq_getD_getElem?, early]
  rw [getD_addEach addends inside, nothing, zero_add]
  rfl

/-- The sums over all ranks are what one process gets by adding all blocks. -/
theorem values_finalized_addEach {part : (rank : Nat) → List (Addend α)}
    {addends : List (Addend α)} (distributed : (inRankOrder size part).Perm addends) {rank : Nat}
    (inside : rank < size) :
    (finalized size (fun rank => (zero ⟨rank, size, false⟩ dims).addEach (part rank)) rank).values =
      ((zero .serial dims).addEach addends).values := by
  let before (rank : Nat) : DenseTensor α := (zero ⟨rank, size, false⟩ dims).addEach (part rank)
  have shape : (finalized size before rank).dims = dims :=
    (shape_finalized before).1.trans (shape_addEach _ _).1
  -- In a group of one there is a single summand, the value itself.
  have total : ∀ place < Block.volume dims, (finalized size before rank).values.getD place 0 =
      ((List.range size).map fun source => (before source).values.getD place 0).sum := by
    intro place early
    by_cases single : size = 1
    · subst single
      obtain rfl : rank = 0 := Nat.lt_one_iff.mp inside
      simp [finalized]
    · have there : place < (before rank).values.size := by
        rw [DenseTensor.size_values, (shape_addEach _ _).1]
        exact early
      simp [finalized, single, tabulate, there, sumByRank_eq_sum]
  have sizes : (finalized size before rank).values.size =
      ((zero .serial dims).addEach addends).values.size := by
    rw [DenseTensor.size_values, DenseTensor.size_values, shape, (shape_addEach _ _).1]
    rfl
  refine Array.ext sizes fun place here there => ?_
  have early : place < Block.volume dims := by
    rw [DenseTensor.size_values, shape] at here
    exact here
  -- Both sides are the sum of the same summands in another order and grouping.
  have equal : (finalized size before rank).values.getD place 0 =
      ((zero .serial dims).addEach addends).values.getD place 0 := by
    calc (finalized size before rank).values.getD place 0
        = ((List.range size).map fun source => (before source).values.getD place 0).sum :=
          total place early
      _ = ((List.range size).map fun source =>
            ((part source).map (Addend.sumAt dims place)).sum).sum := by
          simp only [before, getD_addEach_zero _ _ early]
      _ = ((inRankOrder size part).map (Addend.sumAt dims place)).sum :=
          (sum_map_inRankOrder size part _).symm
      _ = (addends.map (Addend.sumAt dims place)).sum := (distributed.map _).sum_eq
      _ = ((zero .serial dims).addEach addends).values.getD place 0 :=
          (getD_addEach_zero .serial addends early).symm
  rw [Array.getD_eq_getD_getElem?, Array.getD_eq_getD_getElem?,
    Array.getElem?_eq_getElem here, Array.getElem?_eq_getElem there] at equal
  exact equal

/-- However the blocks are distributed over the ranks of a group, in whatever order a rank adds its
own, and however the ranks are scheduled, every rank ends up with what one process has. -/
theorem distributed_addition [Code α β] {part : (rank : Nat) → List (Addend α)}
    {addends : List (Addend α)} (valid : ∀ addend ∈ addends, addend.Valid dims)
    (distributed : (inRankOrder size part).Perm addends)
    {s : Callers β (Except Error (DenseTensor α))}
    (run : Callers.Run (fun _ rank => addAndApply (part rank)) 1
      (.idle ((List.range size).map fun rank => .ok (.zero ⟨rank, size, false⟩ dims))) s) :
    ∃ serial : DenseTensor α,
      (addAndApply addends (.ok (.zero .serial dims)) :
        Exchange β (Except Error (DenseTensor α))) = .done (.ok serial) ∧
      (∀ rank < size, s.Finished 1 rank → ∃ t, s.Holds rank (.ok t) ∧
        t.dims = serial.dims ∧ t.values = serial.values) ∧
      ((∃ rank < size, ¬ s.Finished 1 rank) →
        ∃ after, Callers.Step (fun _ rank => addAndApply (part rank)) 1 s after) := by
  have validParts : ∀ rank < size, ∀ addend ∈ part rank, addend.Valid dims := by
    intro rank inside addend listed
    have among : addend ∈ inRankOrder size part :=
      List.mem_flatMap.mpr ⟨rank, List.mem_range.mpr inside, listed⟩
    exact valid addend (distributed.mem_iff.mp among)
  let L : Lockstep β (Except Error (DenseTensor α)) := additions size dims part validParts
  rcases L.invariant_of_run run with ⟨_, _, inv⟩
  refine ⟨(zero .serial dims).addEach addends, ?_, ?_, inv.exists_step⟩
  · rw [addAndApply_eq valid, apply_of_single .add (Or.inl ?_)]
    · rfl
    · rw [(shape_addEach _ _).2]
      rfl
  · rintro rank inside ⟨begun, held, holds⟩
    have outcome : held = L.state (s.begun rank) rank := inv.eq_state holds
    rw [begun] at outcome
    rw [outcome] at holds
    refine ⟨_, holds, ?_, values_finalized_addEach distributed inside⟩
    rw [(shape_finalized _).1, (shape_addEach _ _).1, (shape_addEach _ _).1]
    rfl

/-- Three blocks for two ranks, of which one names an index twice and one is empty. -/
theorem distributed_addition_two_ranks :
    let _ : ExactSum Int := .ofMonoid Int
    let _ : Code Int Int := .plain Int
    let addends : List (Addend Int) := [⟨[1, 2], [[0, 0]]⟩, ⟨[], [[]]⟩, ⟨[5, 7], [[1, 0]]⟩]
    let part (rank : Nat) := if rank = 0 then addends.drop 2 else (addends.take 2).reverse
    ∃ s : Callers Int (Except Error (DenseTensor Int)),
      Callers.Run (fun _ rank => addAndApply (part rank)) 1
        (.idle ((List.range 2).map fun rank => .ok (.zero ⟨rank, 2, false⟩ [2]))) s ∧
      ∀ rank < 2, ∃ t, s.Holds rank (.ok t) ∧ t.values = #[10, 5] := by
  intro _ _ addends part
  have valid : ∀ addend ∈ addends, addend.Valid [2] := by decide
  have distributed : (inRankOrder 2 part).Perm addends := by decide
  let schedule : List (Callers.Move Int) := [.call 1, .deal 1, .call 0, .deal 0, .deal 1, .deal 0]
  have together : (Callers.play (fun _ rank => addAndApply (part rank)) 1 schedule
      (.idle ((List.range 2).map fun rank => .ok (.zero ⟨rank, 2, false⟩ [2])))).any
      (Callers.allFinished 1 2) = true := by
    decide +kernel
  rcases Callers.Run.exists_finished together with ⟨s, run, finished⟩
  rcases distributed_addition valid distributed run with ⟨serial, serially, outcome, _⟩
  have values : serial.values = #[10, 5] := by
    have computed : (addAndApply addends (.ok (.zero .serial [2])) :
        Exchange Int (Except Error (DenseTensor Int))) =
        .done (.ok ((DenseTensor.zero .serial [2]).addEach addends)) := rfl
    rw [computed] at serially
    cases serially
    decide
  refine ⟨s, run, ?_⟩
  intro rank inside
  rcases outcome rank inside (finished rank inside) with ⟨t, holds, _, same⟩
  exact ⟨t, holds, same.trans values⟩

end DenseTensor
end FormAssembly
