import FormAssembly.Proofs.Assembly.Correspondence
import FormAssembly.Proofs.Assembly.Replicas

/-!
# Assembly into corresponding tensors

A map `f` tells which tensor of one type corresponds to which of another. If it does not matter
whether a block is added before or after the map (`Assembly.Carries`), the same holds of all that an
assembly adds (`Assembly.Carries.addContributions`). If it does not matter for zeroing and
finalizing either (`Assembly.Mirrors`), whole assemblies into corresponding tensors are the same in
all but what they report (`Assembly.Mirrors.assemble`).
-/

namespace FormAssembly

variable {σ τ α β : Type}

/-- What has come of an assembly, with the tensor mapped. -/
def Progress.onTensor (f : σ → τ) (p : Progress σ α) : Progress τ α :=
  ⟨f p.tensor, p.calls, p.events⟩

/-- How an assembly ended, apart from what it reported. -/
def AssemblyReport.unreported (report : AssemblyReport τ α) : AssemblyReport τ α :=
  { report with events := [] }

/-- How an assembly ended whose tensor was finalized here, apart from what was reported. -/
def Progress.concludeQuietly [Tensor τ α β] (p : Progress τ α) (value : Except Error τ) :
    AssemblyReport τ α :=
  (p.conclude ⟨value, []⟩).unreported

theorem Progress.unreported_conclude [Tensor τ α β] (p : Progress τ α)
    (applied : Reported (Except Error τ)) :
    (p.conclude applied).unreported = p.concludeQuietly applied.value := by
  rcases applied with ⟨_ | _, events⟩ <;> rfl

namespace Assembly

variable [Tensor σ α β] [Tensor τ α β] {fits : Addend α → Prop} {f : σ → τ}

/-- It does not matter whether a tensor is mapped before or after a block that fits is added. -/
structure Carries (fits : Addend α → Prop) (f : σ → τ) : Prop where
  rank : ∀ t, Tensor.rank (f t) = Tensor.rank t
  add : ∀ t addend, fits addend →
    Tensor.add (f t) addend.block addend.rows = (Tensor.add t addend.block addend.rows).map f

/-- It does not matter whether a tensor is mapped before or after something is done to it. -/
structure Mirrors (fits : Addend α → Prop) (f : σ → τ) : Prop extends Carries fits f where
  zero : ∀ t, Tensor.zero (f t) = f (Tensor.zero t)
  apply : ∀ t mode,
    (Tensor.apply (f t) mode >>= fun applied => .done applied.value) =
      Tensor.apply t mode >>= fun applied => .done (applied.value.map f)

/-! ## Ends of an assembly -/

theorem Mirrors.report (mirrors : Mirrors fits f) (p : Progress σ α)
    (outcome : Except Error Unit) : (p.onTensor f).report outcome = (p.report outcome).map f := by
  cases outcome with
  | error cause =>
      have zeroed : Tensor.zero (f p.tensor) = f (Tensor.zero p.tensor) := mirrors.zero p.tensor
      simp [Progress.report, Progress.onTensor, AssemblyReport.map, zeroed]
  | ok _ => rfl

theorem Mirrors.concludeQuietly (mirrors : Mirrors fits f) (p : Progress σ α)
    (value : Except Error σ) :
    (p.onTensor f).concludeQuietly (value.map f) = (p.concludeQuietly value).map f := by
  cases value with
  | error cause =>
      have failed := mirrors.report { p with events := p.events ++ [] } (.error cause)
      exact congrArg AssemblyReport.unreported failed
  | ok u => rfl

/-- To finalize a tensor that has been mapped is to map it when it has been finalized. -/
theorem Mirrors.finalize (mirrors : Mirrors fits f) (p : Progress σ α) (mode : ApplyMode) :
    (Tensor.apply (f p.tensor) mode >>= fun applied =>
        .done ((p.onTensor f).conclude applied).unreported : Exchange β _) =
      Tensor.apply p.tensor mode >>= fun applied =>
        .done ((p.conclude applied).map f).unreported := by
  calc (Tensor.apply (f p.tensor) mode >>= fun applied =>
          .done ((p.onTensor f).conclude applied).unreported : Exchange β _)
      = (Tensor.apply (f p.tensor) mode >>= fun applied => .done applied.value) >>= fun value =>
          .done ((p.onTensor f).concludeQuietly value) := by
        simp only [Exchange.bind_assoc, Exchange.bind_done, Progress.unreported_conclude]
    _ = (Tensor.apply p.tensor mode >>= fun applied => .done (applied.value.map f)) >>=
          fun value => .done ((p.onTensor f).concludeQuietly value) := by
        simp only [mirrors.apply]
    _ = Tensor.apply p.tensor mode >>= fun applied =>
          .done ((p.concludeQuietly applied.value).map f) := by
        simp only [Exchange.bind_assoc, Exchange.bind_done, mirrors.concludeQuietly]
    _ = Tensor.apply p.tensor mode >>= fun applied =>
          .done ((p.conclude applied).map f).unreported := by
        simp only [← Progress.unreported_conclude]
        rfl

/-! ## Contributions -/

theorem Carries.addsAlike (carries : Carries fits f) : AddsAlike fits fun s t => f s = t := by
  rintro s _ addend rfl fit
  simp only [carries.add s addend fit]
  cases Tensor.add s addend.block addend.rows with
  | error cause => exact .error cause
  | ok u => exact .ok rfl

variable [Zero α] {form : Form α}

/-- A tensor can be mapped after all contributions have been added, unless it is reset and the map
does not respect that. -/
theorem Carries.addContributions (carries : Carries fits f) (all : Contributes form fits)
    (options : AssemblyOptions)
    (reset : options.reset = true → ∀ t, Tensor.zero (f t) = f (Tensor.zero t)) (t : σ) :
    addContributions options form (f t) =
      ((addContributions options form t).1, (addContributions options form t).2.onTensor f) := by
  have inStep := carries.addsAlike.addContributions all options (carries.rank t).symm
    (fun whether => (reset whether t).symm) rfl
  rcases inStep with ⟨outcome, tensor, calls, events⟩
  simp only [outcome, Progress.onTensor, tensor, calls, events]

/-! ## Whole assemblies -/

/-- Assemblies into corresponding tensors deal with the peers in the same way, call kernels in the
same way, end in the same way and leave corresponding tensors. -/
theorem Mirrors.assemble (mirrors : Mirrors fits f) (all : Contributes form fits)
    (options : AssemblyOptions) (t : σ) :
    (assemble options form (f t) >>= fun report => .done report.unreported : Exchange β _) =
      assemble options form t >>= fun report => .done (report.map f).unreported := by
  have mapped := mirrors.addContributions all options (fun _ => mirrors.zero) t
  cases contributed : Assembly.addContributions options form t with
  | mk outcome p =>
      simp only [contributed] at mapped
      cases outcome with
      | error cause =>
          simp [assemble_of_error contributed, assemble_of_error mapped, mirrors.report]
      | ok _ =>
          simp only [assemble_of_ok contributed, assemble_of_ok mapped]
          cases options.finalize with
          | false => rfl
          | true =>
              simp only [if_true, Exchange.bind_assoc, Exchange.bind_done]
              exact mirrors.finalize p options.mode

end Assembly
end FormAssembly
