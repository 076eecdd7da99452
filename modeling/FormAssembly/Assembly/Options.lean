import FormAssembly.Tensor.Basic

/-!
# Options of assembly
-/

namespace FormAssembly

/-- What one assembly does besides adding contributions. -/
structure AssemblyOptions where
  /-- Zero the tensor first. -/
  reset : Bool := true
  /-- Finalize the tensor once all contributions of this process are added. -/
  finalize : Bool := true
  /-- How the tensor is finalized. -/
  mode : ApplyMode := .add
  deriving DecidableEq, Repr

end FormAssembly
