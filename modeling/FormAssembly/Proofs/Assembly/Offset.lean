import FormAssembly.Proofs.Assembly.Transport
import FormAssembly.Proofs.Tensor.Distribution

/-!
# Assembly on top of other values

What an assembly adds to a tensor does not depend on the values that are there already. Whatever
maps tensors in such a way that it does not matter whether a block is added before or after
(`Assembly.Commutes`) can be put off until all contributions have been added
(`Assembly.Commutes.localPart`). If sums are exact, adding an offset to all values is such a map, so
an assembly that is not reset adds to a tensor what it adds to zero (`Replica.localPart_offset`).
-/

namespace FormAssembly

variable {τ α β : Type}

/-! ## Maps that commute with additions -/

namespace Assembly

variable [Tensor τ α β] {f : τ → τ}

/-- It does not matter whether a tensor is mapped before or after a block is added. -/
structure Commutes (f : τ → τ) : Prop where
  rank : ∀ t, Tensor.rank (f t) = Tensor.rank t
  add : ∀ t block rows, Tensor.add (f t) block rows = (Tensor.add t block rows).map f

theorem Commutes.carries (commutes : Commutes f) : Carries (fun _ => True) f :=
  ⟨commutes.rank, fun t addend _ => commutes.add t addend.block addend.rows⟩

variable [Zero α]

theorem Commutes.localPart (commutes : Commutes f) {form : Form α} {tensor : τ}
    {added : AssemblyReport τ α}
    (assembled : (assemble { reset := false, finalize := false } form tensor : Exchange β _) =
      .done added)
    (success : added.outcome = .ok ()) :
    (assemble { reset := false, finalize := false } form (f tensor) : Exchange β _) =
      .done (added.map f) := by
  let options : AssemblyOptions := { reset := false, finalize := false }
  have anything : Contributes form fun _ => True := fun _ _ _ _ _ => trivial
  -- Nothing is reset, so the map need not respect zero.
  have mapped := commutes.carries.addContributions anything options nofun tensor
  cases contributed : Assembly.addContributions options form tensor with
  | mk outcome p =>
      rw [contributed] at mapped
      cases outcome with
      | error cause =>
          -- A failure zeroes the tensor, which no map is asked to respect.
          rw [assemble_of_error contributed] at assembled
          cases assembled
          cases success
      | ok _ =>
          have plain : (assemble options form tensor : Exchange β _) = .done (p.report (.ok ())) :=
            assemble_of_ok contributed
          cases plain.symm.trans assembled
          exact assemble_of_ok mapped

end Assembly

/-! ## Offsets -/

section

variable [ExactSum α]

/-- The scalar with an offset added to its value. -/
def ScalarTensor.offset (t : ScalarTensor α) (shift : Nat → α) : ScalarTensor α :=
  t.assign (shift 0 + t.value)

/-- The tensor with an offset added to each value, which depends on the place. -/
def DenseTensor.offset (t : DenseTensor α) (shift : Nat → α) : DenseTensor α :=
  t.tabulate fun place => shift place + t.values.getD place 0

def Replica.offset (t : Replica α) (shift : Nat → α) : Replica α :=
  t.tabulate fun place => shift place + t.values.getD place 0

theorem Replica.offset_dense (t : DenseTensor α) (shift : Nat → α) :
    (dense t).offset shift = dense (t.offset shift) := by
  simp [offset, DenseTensor.offset, tabulate, values, Array.getD_eq_getD_getElem?]

theorem ScalarTensor.add_offset (t : ScalarTensor α) (shift : Nat → α) (block : List α)
    (rows : List (List Nat)) :
    (t.offset shift).add block rows = (t.add block rows).map fun u => u.offset shift := by
  cases block with
  | nil => rfl
  | cons value later =>
      have moved : value + (shift 0 + t.value) = shift 0 + (value + t.value) :=
        add_left_comm _ _ _
      simp only [add, first, offset, assign, accumulate, Except.map, moved]

/-- A block is added to each value by itself, so an offset stays. -/
theorem DenseTensor.modifyBlock_offset (t : DenseTensor α) (shift : Nat → α)
    (addend : Addend α) :
    (t.offset shift).modifyBlock accumulate addend.block addend.rows =
      (t.modifyBlock accumulate addend.block addend.rows).offset shift := by
  refine eq_of_getD 0 rfl rfl fun place early => ?_
  have inOffset : place < (t.offset shift).values.size := by
    simpa [modifyBlock] using early
  have here : place < t.values.size := by
    simpa [offset, tabulate] using inOffset
  have inModified : place < (t.modifyBlock accumulate addend.block addend.rows).values.size := by
    simpa [modifyBlock] using here
  calc ((t.offset shift).modifyBlock accumulate addend.block addend.rows).values.getD place 0
      = (t.offset shift).values.getD place 0 + addend.sumAt t.dims place :=
        getD_modifyBlock addend inOffset
    _ = shift place + t.values.getD place 0 + addend.sumAt t.dims place := by
        rw [offset, getD_tabulate _ _ here]
    _ = shift place + (t.modifyBlock accumulate addend.block addend.rows).values.getD place 0 := by
        rw [getD_modifyBlock addend here, add_assoc]
    _ = _ := by
        rw [offset, getD_tabulate _ _ inModified]

theorem DenseTensor.add_offset (t : DenseTensor α) (shift : Nat → α) (block : List α)
    (rows : List (List Nat)) :
    (t.offset shift).add block rows = (t.add block rows).map fun u => u.offset shift := by
  unfold add
  -- The checks look at the dimensions only.
  have sameCheck : (t.offset shift).checkRows rows = t.checkRows rows := rfl
  rw [sameCheck]
  cases t.checkRows rows with
  | error cause => rfl
  | ok _ =>
      cases checkBlock block rows with
      | error cause => rfl
      | ok _ => exact congrArg Except.ok (t.modifyBlock_offset shift ⟨block, rows⟩)

variable [Code α β]

theorem DenseTensor.commutes_offset (shift : Nat → α) :
    Assembly.Commutes fun t : DenseTensor α => t.offset shift :=
  ⟨fun _ => rfl, fun t block rows => t.add_offset shift block rows⟩

variable [ScalarTensor.Display α]

theorem ScalarTensor.commutes_offset (shift : Nat → α) :
    Assembly.Commutes fun t : ScalarTensor α => t.offset shift :=
  ⟨fun _ => rfl, fun t block rows => t.add_offset shift block rows⟩

/-- What an assembly adds to a tensor does not depend on the values that are there already. -/
theorem Replica.localPart_offset {form : Form α} {t : Replica α}
    {added : AssemblyReport (Replica α) α}
    (assembled : (t.assemble { reset := false, finalize := false } form : Exchange β _) =
      .done added)
    (success : added.outcome = .ok ()) (shift : Nat → α) :
    ((t.offset shift).assemble { reset := false, finalize := false } form : Exchange β _) =
      .done (added.map fun u => u.offset shift) := by
  cases t with
  | scalar t =>
      rcases Assembly.exists_localPart { reset := false } form t with ⟨report, plain, _⟩
      rw [assemble, plain] at assembled
      cases assembled
      have moved := (ScalarTensor.commutes_offset shift).localPart plain success
      show (Assembly.assemble _ form (t.offset shift) >>= fun report => .done _) = _
      rw [moved]
      rfl
  | dense t =>
      rcases Assembly.exists_localPart { reset := false } form t with ⟨report, plain, _⟩
      rw [assemble, plain] at assembled
      cases assembled
      have moved := (DenseTensor.commutes_offset shift).localPart plain success
      rw [offset_dense, assemble, moved]
      simp [AssemblyReport.map, offset_dense]

end

end FormAssembly
