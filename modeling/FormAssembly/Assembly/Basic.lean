import FormAssembly.Assembly.Options
import FormAssembly.Assembly.Pass

/-!
# Assembly

`assemble` checks a form against a tensor, makes one pass over the mesh for each kind of integral
and finalizes the tensor together with the other processes. If anything fails the tensor is
zeroed, so that a partial result is never taken for a whole one.
-/

namespace FormAssembly

/-- How an assembly ended. -/
structure AssemblyReport (τ α : Type) where
  tensor : τ
  outcome : Except Error Unit
  /-- Kernel calls, oldest first. -/
  calls : List (KernelCall α)
  /-- What was reported, oldest first. -/
  events : List Event

/-- How an assembly into a new tensor ended: there is a tensor only if nothing failed. -/
structure CreationReport (τ α : Type) where
  outcome : Except Error τ
  /-- Kernel calls, oldest first. -/
  calls : List (KernelCall α)
  /-- What was reported, oldest first. -/
  events : List Event

/-- What remains of a report when the tensor is handed out only after success. -/
def AssemblyReport.toCreation {τ α : Type} (report : AssemblyReport τ α) : CreationReport τ α :=
  ⟨report.outcome.map fun _ => report.tensor, report.calls, report.events⟩

namespace Assembly

variable {τ α β : Type}

/-! ## Checks -/

/-- Kinds for which a form has markers, with the dimension of the marked entities. -/
def installedMarkers (form : Form α) : List (IntegralKind × Nat) :=
  IntegralKind.all.filterMap fun kind => (form.markers kind).map fun m => (kind, m.dim)

/-- Passes iff all markers are on entities of the dimension that their integrals run over. The
mesh matters only if there are markers. -/
def checkMarkerDims (form : Form α) : Except Error Unit :=
  match installedMarkers form with
  | [] => .ok ()
  | installed => do
      let mesh ← form.mesh
      installed.forM fun (kind, dim) =>
        let expected := kind.entityDim mesh.topologicalDim
        if dim = expected then .ok ()
        else .error (.configuration (.markerDimension kind dim expected))

/-- Passes iff a form can be assembled into a tensor of rank `rank`, apart from what only the pass
itself can find out. -/
def check (form : Form α) (rank : Nat) : Except Error Unit := do
  if rank ≠ form.rank then
    throw (.unsupportedRank form.rank rank)
  if form.integrals.has .interiorFacet then
    throw (.unsupportedOperation .interiorFacetIntegrals)
  if form.integrals.has .vertex then
    throw (.unsupportedOperation .vertexIntegrals)
  form.coefficients.checkAllSet
  checkMarkerDims form

variable [Zero α] [Tensor τ α β]

/-! ## The local part -/

/-- Checks the form, then adds all contributions of this process to the tensor. -/
def contribute (options : AssemblyOptions) (form : Form α) : Pass τ α Unit := do
  liftM (check form (Tensor.rank (← get).tensor))
  if options.reset then
    modify fun s => { s with tensor := Tensor.zero s.tensor }
  modify fun s => { s with workspace := .ofRoom form.maxElementTensorSize }
  Pass.assembleKind form .cell
  Pass.assembleKind form .exteriorFacet

/-- The report of a failed assembly. -/
def discard (s : PassState τ α) (cause : Error) : AssemblyReport τ α where
  tensor := Tensor.zero s.tensor
  outcome := .error cause
  calls := s.calls.reverse
  events := s.events ++ [.discarded cause]

/-- The report of an assembly that ended well. -/
def accept (s : PassState τ α) : AssemblyReport τ α where
  tensor := s.tensor
  outcome := .ok ()
  calls := s.calls.reverse
  events := s.events

/-! ## The whole -/

/-- Assembles a form into a tensor. -/
def assemble (options : AssemblyOptions) (form : Form α) (tensor : τ) :
    Exchange β (AssemblyReport τ α) :=
  let (outcome, s) :=
    (contribute options form : Pass τ α Unit).run ⟨tensor, .ofRoom 0, [], []⟩
  match outcome with
  | .error cause => return discard s cause
  | .ok () =>
      if options.finalize then do
        let applied ← Tensor.apply s.tensor options.mode
        let s := { s with events := s.events ++ applied.events }
        match applied.value with
        | .ok tensor => return accept { s with tensor }
        | .error cause => return discard s cause
      else
        return accept s

/-- Assembles a form into a new tensor of the dimensions of its argument spaces. -/
def assembleNew (options : AssemblyOptions) (form : Form α) (factory : TensorFactory τ) :
    Exchange β (CreationReport τ α) :=
  match factory.create form.rank form.tensorDims with
  | .error cause => return ⟨.error cause, [], []⟩
  | .ok tensor => do
      let report ← assemble options form tensor
      return report.toCreation

end Assembly
end FormAssembly
