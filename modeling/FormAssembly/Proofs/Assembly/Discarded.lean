import FormAssembly.Message.Script
import FormAssembly.Proofs.Assembly.Correspondence
import FormAssembly.Proofs.Assembly.SharedBuffers
import FormAssembly.Tensor.Scalar

/-!
# Failed assemblies

An assembly that fails zeroes the tensor, wherever it stopped. Up to there it did nothing to the
tensor but zero it and add blocks, so whatever these two keep (`Assembly.Kept`) holds of the tensor
that is zeroed. For the tensors of the library these are its shape and its place in the group
(`failed_assembly_is_discarded`).
-/

namespace FormAssembly
namespace Assembly

variable {τ α β : Type} [Tensor τ α β] {P : τ → Prop}

/-- Zeroing a tensor and adding blocks to it keep a property. -/
structure Kept (P : τ → Prop) : Prop where
  zero : ∀ t, P t → P (Tensor.zero t)
  add : ∀ t block rows sum, P t → Tensor.add t block rows = .ok sum → P sum

/-! ## What a pass keeps -/

/-- A tensor with the property corresponds to itself. -/
theorem Kept.addsAlike (kept : Kept P) :
    AddsAlike (fun _ => True) fun s t : τ => s = t ∧ P s := by
  rintro s _ addend ⟨rfl, holds⟩ _
  cases added : Tensor.add s addend.block addend.rows with
  | error cause => exact .error cause
  | ok sum => exact .ok ⟨rfl, kept.add _ _ _ _ holds added⟩

variable [Zero α]

theorem Kept.addContributions (kept : Kept P) (options : AssemblyOptions) (form : Form α)
    {tensor : τ} (start : P tensor) : P (addContributions options form tensor).2.tensor := by
  have anything : Contributes form fun _ => True := fun _ _ _ _ _ => trivial
  have after := kept.addsAlike.addContributions anything options rfl
    (fun _ => ⟨rfl, kept.zero tensor start⟩) ⟨rfl, start⟩
  exact after.2.tensor.2

/-! ## Failures -/

/-- The tensor of a failed assembly is what zeroing makes of a tensor with all that is kept. -/
theorem Kept.exists_zero (kept : Kept P) {options : AssemblyOptions} {form : Form α} {tensor : τ}
    (start : P tensor) {script : Script β} {cause : Error}
    (failed : ((assemble options form tensor : Exchange β _).perform script).1.outcome =
      .error cause) :
    ∃ last, P last ∧
      ((assemble options form tensor : Exchange β _).perform script).1.tensor =
        Tensor.zero last := by
  have stopped : P (Assembly.addContributions options form tensor).2.tensor :=
    kept.addContributions options form start
  cases added : Assembly.addContributions options form tensor with
  | mk outcome p =>
      rw [added] at stopped
      cases outcome with
      | error first =>
          rw [assemble_of_error added]
          exact ⟨p.tensor, stopped, rfl⟩
      | ok _ =>
          -- All contributions were added, so it is the finalization that failed.
          rw [assemble_of_ok added] at failed ⊢
          cases whether : options.finalize with
          | false =>
              rw [whether] at failed
              cases failed
          | true =>
              simp only [whether, if_true, Exchange.perform_bind, Exchange.perform] at failed ⊢
              generalize ((Tensor.apply p.tensor options.mode : Exchange β _).perform script).1 =
                applied at failed ⊢
              rcases applied with ⟨_ | _, events⟩
              · exact ⟨p.tensor, stopped, rfl⟩
              · cases failed

/-- An assembly into a new tensor fails iff there is no such tensor or the assembly into it
fails. -/
theorem assembleNew_fails_iff (options : AssemblyOptions) (form : Form α)
    (factory : TensorFactory τ) (script : Script β) (cause : Error) :
    ((assembleNew options form factory : Exchange β _).perform script).1.outcome =
        .error cause ↔
      factory.create form.rank form.tensorDims = .error cause ∨
      ∃ tensor, factory.create form.rank form.tensorDims = .ok tensor ∧
        ((assemble options form tensor : Exchange β _).perform script).1.outcome =
          .error cause := by
  unfold assembleNew
  cases factory.create form.rank form.tensorDims with
  | error first => simp [Exchange.perform]
  | ok tensor =>
      let report : AssemblyReport τ α :=
        ((assemble options form tensor : Exchange β _).perform script).1
      have created : (∃ t, (.ok tensor : Except Error τ) = .ok t ∧
          ((assemble options form t : Exchange β _).perform script).1.outcome = .error cause) ↔
          report.outcome = .error cause := by
        simp [report]
      rw [created]
      simp only [Exchange.perform_bind, Exchange.pure_eq, Exchange.perform,
        AssemblyReport.toCreation, reduceCtorEq, false_or]
      show report.outcome.map (fun _ => report.tensor) = _ ↔ _
      cases report.outcome with
      | error first => simp [Except.map]
      | ok _ => simp [Except.map]

end Assembly

/-! ## The tensors of the library -/

section

variable {α β : Type} [Zero α] [Add α] [SumStart α] [Code α β]

/-- Dense tensors that are finalized in a way of their own, as in a group whose collective operation
is not built from single messages. -/
abbrev DenseTensor.finalizedBy
    (apply : DenseTensor α → ApplyMode → Exchange β (Reported (Except Error (DenseTensor α)))) :
    Tensor (DenseTensor α) α β :=
  { (inferInstance : Tensor (DenseTensor α) α β) with apply := apply }

/-- The library's own way is one of them. -/
example :
    DenseTensor.finalizedBy DenseTensor.apply = (inferInstance : Tensor (DenseTensor α) α β) :=
  rfl

abbrev ScalarTensor.finalizedBy [ScalarTensor.Display α]
    (apply : ScalarTensor α → ApplyMode → Exchange β (Reported (Except Error (ScalarTensor α)))) :
    Tensor (ScalarTensor α) α β :=
  { (inferInstance : Tensor (ScalarTensor α) α β) with apply := apply }

theorem DenseTensor.kept_shape (apply) (dims : List Nat) (member : Member) :
    @Assembly.Kept (DenseTensor α) α β (finalizedBy apply) fun t =>
      t.dims = dims ∧ t.member = member := by
  refine @Assembly.Kept.mk _ _ _ (finalizedBy apply) _ ?_ ?_
  · intro t shape
    exact shape
  · intro t block rows sum shape added
    rcases DenseTensor.add_eq_ok_iff.mp added with ⟨_, _, rfl⟩
    exact shape

theorem ScalarTensor.kept_member [ScalarTensor.Display α] (apply) (member : Member) :
    @Assembly.Kept (ScalarTensor α) α β (finalizedBy apply) fun t => t.member = member := by
  refine @Assembly.Kept.mk _ _ _ (finalizedBy apply) _ ?_ ?_
  · intro t place
    exact place
  · intro t block rows sum place added
    have assigned : ∃ value, sum = t.assign value := by
      cases block with
      | nil => cases added
      | cons value later => exact ⟨_, (Except.ok.inj added).symm⟩
    rcases assigned with ⟨value, rfl⟩
    exact place

/-- Whatever the form, the tensor, the options and the peers, and wherever an assembly fails: it
leaves a tensor of the same shape in the same place with all values zero, and if the tensor was to
be a new one, none is handed out. -/
theorem failed_assembly_is_discarded [ScalarTensor.Display α] (options : AssemblyOptions)
    (form : Form α) (script : Script β) :
    (∀ (apply) (t : DenseTensor α) (cause : Error),
      let report := ((@Assembly.assemble _ α β _ (DenseTensor.finalizedBy apply)
        options form t).perform script).1
      report.outcome = .error cause →
        report.tensor.dims = t.dims ∧ report.tensor.rank = t.rank ∧
          report.tensor.member = t.member ∧ ∀ value ∈ report.tensor.values, value = 0) ∧
    (∀ (apply) (t : ScalarTensor α) (cause : Error),
      let report := ((@Assembly.assemble _ α β _ (ScalarTensor.finalizedBy apply)
        options form t).perform script).1
      report.outcome = .error cause → report.tensor.member = t.member ∧ report.tensor.value = 0) ∧
    ∀ (τ : Type) [Tensor τ α β] (factory : TensorFactory τ) (cause : Error),
      ((Assembly.assembleNew options form factory : Exchange β _).perform script).1.outcome =
          .error cause ↔
        factory.create form.rank form.tensorDims = .error cause ∨
        ∃ tensor, factory.create form.rank form.tensorDims = .ok tensor ∧
          ((Assembly.assemble options form tensor : Exchange β _).perform script).1.outcome =
            .error cause := by
  refine ⟨?_, ?_, ?_⟩
  · intro apply t cause report failed
    rcases @Assembly.Kept.exists_zero _ _ _ (DenseTensor.finalizedBy apply) _ _
      (DenseTensor.kept_shape apply t.dims t.member) _ _ _ ⟨rfl, rfl⟩ _ _ failed with
      ⟨last, ⟨sameDims, sameMember⟩, zeroed⟩
    have whole : report.tensor = DenseTensor.zero t.member t.dims := by
      rw [← sameDims, ← sameMember]
      exact zeroed
    rw [whole]
    refine ⟨rfl, rfl, rfl, fun value among => ?_⟩
    exact (Array.mem_replicate.mp among).2
  · intro apply t cause report failed
    rcases @Assembly.Kept.exists_zero _ _ _ (ScalarTensor.finalizedBy apply) _ _
      (ScalarTensor.kept_member apply t.member) _ _ _ rfl _ _ failed with ⟨last, place, zeroed⟩
    have whole : report.tensor = last.assign 0 := zeroed
    rw [whole]
    exact ⟨place, rfl⟩
  · intro τ _ factory cause
    exact Assembly.assembleNew_fails_iff options form factory script cause

end

/-- A tensor that holds something is assembled into without being reset. The second cell has no
degrees of freedom, after the first was added: nothing is left of either. The same is left if the
cells are fine and the peer in a group of two is silent. -/
theorem failed_assembly_is_discarded_two_cells :
    let mesh : Mesh Binary64 := ⟨0, 1, 1, fun _ => 2, fun _ => .ok [0, 1], fun _ => .ok #[], [], ""⟩
    let missing : Error := .indexOutOfRange .cell 1 1
    let space (cells : Nat) : ArgumentSpace Binary64 :=
      ⟨1, 2, mesh, fun cell => if cell.index < cells then .ok [0] else .error missing, ""⟩
    let ones : Kernel Binary64 := ⟨fun block _ _ _ => block.map fun _ => Binary64.ofNat 1⟩
    let form (cells : Nat) : Form Binary64 :=
      ⟨FormDeclaration.toDescriptor ⟨1, [], []⟩, [space cells], none, .const none, .empty,
        .put .empty .cell ⟨none, ones, none⟩, none⟩
    let options : AssemblyOptions := { reset := false }
    let t (m : Member) : DenseTensor Binary64 := ⟨[2], #[⟨5⟩, ⟨7⟩], m, rfl⟩
    let report (m : Member) (cells : Nat) :=
      ((Assembly.assemble options (form cells) (t m) : Exchange UInt8 _).perform .silent).1
    ((report .serial 1).outcome = .error missing ∧
      ∀ value ∈ (report .serial 1).tensor.values, value = 0) ∧
    (report ⟨1, 2, false⟩ 2).outcome = .error (.communication (.silent 0)) ∧
      ∀ value ∈ (report ⟨1, 2, false⟩ 2).tensor.values, value = 0 := by
  intro mesh missing space ones form options t report
  let cause? (outcome : Except Error Unit) : Option Error :=
    match outcome with
    | .error cause => some cause
    | .ok _ => none
  -- Outcomes are compared by their causes, of which equality is decidable.
  have fails : ∀ outcome cause, cause? outcome = some cause → outcome = .error cause := by
    intro outcome cause known
    cases outcome with
    | error first => exact congrArg Except.error (Option.some.inj known)
    | ok _ => cases known
  have cellFails : (report .serial 1).outcome = .error missing :=
    fails _ _ (by decide +kernel)
  have peerFails : (report ⟨1, 2, false⟩ 2).outcome = .error (.communication (.silent 0)) :=
    fails _ _ (by decide +kernel)
  rcases failed_assembly_is_discarded options (form 1) (Script.silent : Script UInt8) with
    ⟨onCell, _, _⟩
  rcases failed_assembly_is_discarded options (form 2) (Script.silent : Script UInt8) with
    ⟨onPeer, _, _⟩
  refine ⟨⟨cellFails, ?_⟩, peerFails, ?_⟩
  · exact (onCell DenseTensor.apply (t .serial) missing cellFails).2.2.2
  · exact (onPeer DenseTensor.apply (t ⟨1, 2, false⟩) _ peerFails).2.2.2

end FormAssembly
