import FormAssembly.Proofs.Tensor.Finalize

/-!
# Tensors of the ranks of a group

A `Replica` is what one rank holds of a tensor: a scalar or a dense tensor. Its values form a list,
local operations change them without changing their number, and `apply` sends their codes to all
other ranks and stores the sums (`Replica.apply_eq`, `Replica.combine_inRankOrder`).
-/

namespace FormAssembly

/-- A tensor as one rank of a group holds it. -/
inductive Replica (α : Type) where
  | scalar (t : ScalarTensor α)
  | dense (t : DenseTensor α)

/-- What a rank does with its tensor by itself. -/
inductive LocalOperation (α : Type) where
  | add (block : List α) (rows : List (List Nat))
  | set (block : List α) (rows : List (List Nat))
  | zero
  /-- Plain assignment, which only scalars have. -/
  | assign (value : α)

variable {α β : Type}

/-- The scalar after an operation; one that fails leaves it as it was. -/
def ScalarTensor.perform [Zero α] [Add α] (t : ScalarTensor α) :
    LocalOperation α → ScalarTensor α
  | .add block rows => (t.add block rows).toOption.getD t
  | .set block rows => (t.set block rows).toOption.getD t
  | .zero => t.assign 0
  | .assign value => t.assign value

/-- The tensor after an operation; one that fails or does not exist leaves it as it was. -/
def DenseTensor.perform [Zero α] [Add α] (t : DenseTensor α) : LocalOperation α → DenseTensor α
  | .add block rows => (t.add block rows).toOption.getD t
  | .set block rows => (t.set block rows).toOption.getD t
  | .zero => .zero t.member t.dims
  | .assign _ => t

theorem ScalarTensor.member_perform [Zero α] [Add α] (t : ScalarTensor α)
    (operation : LocalOperation α) : (t.perform operation).member = t.member := by
  cases operation with
  | add block rows => cases block <;> rfl
  | set block rows => cases block <;> rfl
  | zero => rfl
  | assign value => rfl

/-- An operation that can be carried out keeps the dimensions, and so does one that cannot. -/
theorem DenseTensor.shape_perform [Zero α] [Add α] (t : DenseTensor α)
    (operation : LocalOperation α) :
    (t.perform operation).dims = t.dims ∧ (t.perform operation).member = t.member := by
  cases operation with
  | add block rows =>
      cases added : t.add block rows with
      | error _ => simp [perform, added, Except.toOption]
      | ok u =>
          rcases add_eq_ok_iff.mp added with ⟨_, _, rfl⟩
          simp [perform, added, Except.toOption, modifyBlock]
  | set block rows =>
      cases written : t.set block rows with
      | error _ => simp [perform, written, Except.toOption]
      | ok u =>
          rcases set_eq_ok_iff.mp written with ⟨_, _, rfl⟩
          simp [perform, written, Except.toOption, modifyBlock]
  | zero => exact ⟨rfl, rfl⟩
  | assign value => exact ⟨rfl, rfl⟩

theorem DenseTensor.shape_foldl_perform [Zero α] [Add α] (t : DenseTensor α)
    (operations : List (LocalOperation α)) :
    (operations.foldl perform t).dims = t.dims ∧
      (operations.foldl perform t).member = t.member := by
  induction operations generalizing t with
  | nil => exact ⟨rfl, rfl⟩
  | cons operation later ih =>
      have first := t.shape_perform operation
      have others := ih (t.perform operation)
      exact ⟨others.1.trans first.1, others.2.trans first.2⟩

namespace Replica

def member : Replica α → Member
  | scalar t => t.member
  | dense t => t.member

/-- The values, those of a dense tensor in row-major order. -/
def values : Replica α → List α
  | scalar t => [t.value]
  | dense t => t.values.toList

/-- The tensor after some operations in turn. -/
def perform [Zero α] [Add α] (t : Replica α) (operations : List (LocalOperation α)) : Replica α :=
  match t with
  | scalar t => scalar (operations.foldl ScalarTensor.perform t)
  | dense t => dense (operations.foldl DenseTensor.perform t)

/-- Finalizes the tensor together with those of the other ranks. -/
def apply [Zero α] [Add α] [SumStart α] [Code α β] (t : Replica α) (mode : ApplyMode) :
    Exchange β (Except Error (Replica α)) :=
  match t with
  | scalar t => do
      let report ← t.apply mode
      return report.value.map scalar
  | dense t => do
      let report ← t.apply mode
      return report.value.map dense

/-- The tensor of the same shape with other values, each computed from its place. -/
def tabulate (t : Replica α) (f : Nat → α) : Replica α :=
  match t with
  | scalar t => scalar (t.assign (f 0))
  | dense t => dense (t.tabulate f)

/-! ## Shape -/

theorem member_perform [Zero α] [Add α] (t : Replica α) (operations : List (LocalOperation α)) :
    (t.perform operations).member = t.member := by
  cases t with
  | scalar t =>
      show (operations.foldl ScalarTensor.perform t).member = t.member
      induction operations generalizing t with
      | nil => rfl
      | cons operation later ih =>
          rw [List.foldl_cons, ih, t.member_perform]
  | dense t => exact (t.shape_foldl_perform operations).2

/-- Local operations do not change the number of values. -/
theorem length_values_perform [Zero α] [Add α] (t : Replica α)
    (operations : List (LocalOperation α)) :
    (t.perform operations).values.length = t.values.length := by
  cases t with
  | scalar t => rfl
  | dense t =>
      have dims := (t.shape_foldl_perform operations).1
      simp only [perform, values, Array.length_toList, DenseTensor.size_values, dims]

@[simp] theorem member_tabulate (t : Replica α) (f : Nat → α) :
    (t.tabulate f).member = t.member := by
  cases t <;> rfl

theorem values_tabulate (t : Replica α) (f : Nat → α) :
    (t.tabulate f).values = (List.range t.values.length).map f := by
  cases t with
  | scalar t => rfl
  | dense t =>
      refine List.ext_getElem (by simp [tabulate, values, DenseTensor.tabulate]) ?_
      intro i _ _
      simp [tabulate, values, DenseTensor.tabulate]

theorem getD_tabulate {t : Replica α} (f : Nat → α) (other : α) {place : Nat}
    (early : place < t.values.length) : (t.tabulate f).values.getD place other = f place := by
  rw [values_tabulate, List.getD_eq_getElem?_getD, List.getElem?_map, List.getElem?_range early]
  rfl

theorem tabulate_tabulate (t : Replica α) (f g : Nat → α) :
    (t.tabulate f).tabulate g = t.tabulate g := by
  cases t with
  | scalar t => rfl
  | dense t =>
      have same : (t.tabulate f).tabulate g = t.tabulate g := by
        refine DenseTensor.tabulate_of_shape ?_ ?_ g <;> rfl
      exact congrArg dense same

theorem tabulate_congr {t : Replica α} {f g : Nat → α}
    (same : ∀ place < t.values.length, f place = g place) : t.tabulate f = t.tabulate g := by
  cases t with
  | scalar t =>
      have first : f 0 = g 0 := same 0 Nat.zero_lt_one
      rw [tabulate, tabulate, first]
  | dense t =>
      exact congrArg dense (t.tabulate_congr fun place early => same place (by simpa [values]))

theorem member_of_shape [Zero α] {t u : Replica α}
    (shape : ∀ f, u.tabulate f = t.tabulate f) : u.member = t.member := by
  rw [← member_tabulate u fun _ => 0, shape, member_tabulate]

/-- A tensor is computed from its own values. -/
theorem tabulate_getD (t : Replica α) (other : α) :
    t.tabulate (fun place => t.values.getD place other) = t := by
  cases t with
  | scalar t => rfl
  | dense t =>
      refine congrArg dense (DenseTensor.eq_of_getD other rfl rfl fun place early => ?_)
      rw [DenseTensor.getD_tabulate _ _ (by simpa [DenseTensor.tabulate] using early)]
      simp [values, Array.getD_eq_getD_getElem?]

/-! ## Finalization -/

variable [Zero α] [Add α] [SumStart α]

/-- The tensor with the sums over all ranks, given the values of all ranks one after another. -/
def combine (t : Replica α) (all : List α) : Replica α :=
  match t with
  | scalar t => scalar (t.combine all)
  | dense t => dense (t.combine all)

/-- In a group of several, `apply` gathers the values of all ranks and keeps their sums. -/
theorem apply_eq [Code α β] {t : Replica α} {rank size : Nat} (mode : ApplyMode)
    (place : t.member = ⟨rank, size, false⟩) (several : size ≠ 1) :
    (t.apply mode : Exchange β (Except Error (Replica α))) =
      ((⟨rank, size, false⟩ : Member).gatherValues t.values >>= fun gathered =>
        .done (gathered.map t.combine)) := by
  cases t with
  | scalar t =>
      rw [apply, ScalarTensor.apply_of_group mode place several, Exchange.bind_assoc]
      refine congrArg _ (funext fun gathered => ?_)
      cases gathered <;> rfl
  | dense t =>
      rw [apply, DenseTensor.apply_of_group mode place several, Exchange.bind_assoc]
      refine congrArg _ (funext fun gathered => ?_)
      cases gathered <;> rfl

/-- The values that a tensor combines are, place by place, the sums in the order of ranks. -/
theorem combine_inRankOrder {t : Replica α} {rank size : Nat} {others : Nat → List α}
    (place : t.member = ⟨rank, size, false⟩)
    (same : ∀ source < size, (others source).length = t.values.length) :
    t.combine (inRankOrder size others) =
      t.tabulate fun place =>
        sumByRank ((List.range size).map fun source => (others source).getD place 0) := by
  cases t with
  | scalar t =>
      -- A scalar is a single value, so the chunks of all ranks make up the list of summands.
      have single : ∀ source < size, others source = [(others source).getD 0 0] := by
        intro source inside
        rcases List.length_eq_one_iff.mp (same source inside) with ⟨value, only⟩
        rw [only]
        rfl
      have listed : inRankOrder size others =
          (List.range size).map fun source => (others source).getD 0 0 := by
        rw [inRankOrder_congr single, inRankOrder]
        exact List.map_eq_flatMap.symm
      rw [combine, ScalarTensor.combine, listed]
      rfl
  | dense t =>
      exact congrArg dense (DenseTensor.combine_inRankOrder place same)

end Replica
end FormAssembly
