import FormAssembly.Integral.Kind
import FormAssembly.Text.Inspect

/-!
# Errors

Every failure of the library is a value of `Error`, which holds its cause. `Error.message` is the
one place that puts a cause into words. A call that never returns, because the program stops in it,
ends in `Error.stopped`.
-/

namespace FormAssembly

/-- What an index that is out of range was meant to select. -/
inductive Indexed
  | cell
  | vertex
  | coefficient
  | argument
  | dimension
  | tensor
  deriving DecidableEq, Repr

/-- Data that do not fit together. -/
inductive Misconfiguration
  /-- Dimensions of no simplex mesh. -/
  | simplexDimensions (gdim tdim : Nat)
  /-- Coordinates that do not split into points. -/
  | coordinateCount
  /-- Connectivity that does not split into cells. -/
  | connectivityCount
  /-- An interval without cells. -/
  | emptyInterval
  /-- A square without cells. -/
  | emptySquare
  /-- Values that do not split into equal groups, one a cell. -/
  | cellwiseWidth
  /-- A second coefficient of one name. -/
  | repeatedCoefficient (name : String)
  /-- A coefficient without function. -/
  | unboundCoefficient (index : Nat) (name : String)
  /-- A second integral of one kind and subdomain. -/
  | repeatedIntegral (kind : IntegralKind) (subdomain : Option Nat)
  /-- A mask that speaks of more coefficients than there are. -/
  | longMask (kind : IntegralKind) (mask declared : Nat)
  /-- A form of one rank with another number of argument spaces. -/
  | argumentCount (rank given : Nat)
  /-- Argument spaces on more than one mesh. -/
  | mixedMeshes
  /-- A table of degrees of freedom that does not match its mesh. -/
  | dofTableSize (held cells width : Nat)
  /-- A form that no mesh belongs to. -/
  | noMesh
  /-- A rank that contradicts the number of dimensions. -/
  | resizeDimensions (rank given : Nat)
  /-- Markers on entities of another dimension than their integrals run over. -/
  | markerDimension (kind : IntegralKind) (dim expected : Nat)
  /-- A cause that a user's mesh, space or coefficient reports in its own words. -/
  | reported (text : String)
  deriving DecidableEq, Repr

/-- An operation that is not to be had. -/
inductive Unsupported
  | interiorFacetIntegrals
  | vertexIntegrals
  | scalarSize
  | scalarRange
  | rankZeroSize
  deriving DecidableEq, Repr

/-- A gathering of messages that went wrong. -/
inductive GatherFault
  /-- The receive buffer is not as long as all contributions together. -/
  | room (held expected : Nat)
  /-- A peer sent nothing. -/
  | silent (peer : Nat)
  /-- A peer's contribution is not as long as one's own. -/
  | unequal (peer got expected : Nat)
  deriving DecidableEq, Repr

/-- Why a call failed. All causes but the last are told to the caller. -/
inductive Error
  | invalidPointId
  | configuration (cause : Misconfiguration)
  | indexOutOfRange (what : Indexed) (index length : Nat)
  | coefficientNotFound (name : String)
  | coefficientIndexNotFound (index : Nat)
  | unsupportedRank (expected found : Nat)
  | unsupportedOperation (operation : Unsupported)
  | communication (fault : GatherFault)
  | blockShape (expected found : Nat)
  | unknownApplyMode (text : String)
  /-- The program stops in the middle of the call, because it would go beyond the end of a list. -/
  | stopped
  deriving DecidableEq, Repr

/-! ## Messages -/

def Indexed.label : Indexed → String
  | .cell => "cell"
  | .vertex => "vertex"
  | .coefficient => "coefficient"
  | .argument => "argument"
  | .dimension => "dimension"
  | .tensor => "tensor"

def Misconfiguration.message : Misconfiguration → String
  | .simplexDimensions gdim tdim =>
      s!"invalid simplex mesh dimensions (gdim = {gdim}, tdim = {tdim})"
  | .coordinateCount => "coordinate array is not a multiple of the geometric dimension"
  | .connectivityCount => "connectivity array is not a multiple of the cell vertex count"
  | .emptyInterval => "interval needs at least one cell"
  | .emptySquare => "unit square needs nx, ny > 0"
  | .cellwiseWidth => "cellwise values are not a multiple of the per-cell width"
  | .repeatedCoefficient name => s!"coefficient `{name}` declared twice"
  | .unboundCoefficient index name => s!"coefficient {index} (`{name}`) has not been set"
  | .repeatedIntegral kind subdomain =>
      s!"duplicate {kind.label} integral for subdomain {inspect subdomain}"
  | .longMask kind mask declared =>
      s!"{kind.label} integral enables {mask} coefficients, form declares {declared}"
  | .argumentCount rank given => s!"form of rank {rank} given {given} argument space(s)"
  | .mixedMeshes => "argument spaces are defined on different meshes"
  | .dofTableSize held cells width =>
      s!"dof table holds {held} entries, expected {cells} cells x {width} dofs"
  | .noMesh => "form has no mesh and no argument space to take it from"
  | .resizeDimensions rank given => s!"resize to rank {rank} given {given} dimension(s)"
  | .markerDimension kind dim expected =>
      s!"{kind.label} domains label dimension-{dim} entities, expected dimension {expected}"
  | .reported text => text

def Unsupported.message : Unsupported → String
  | .interiorFacetIntegrals => "interior facet integrals are not handled by this assembler"
  | .vertexIntegrals => "vertex integrals are not handled by this assembler"
  | .scalarSize => "size() is not available for scalars"
  | .scalarRange => "local_range() is not available for scalars"
  | .rankZeroSize => "size() is not available for rank-0 tensors"

def GatherFault.message : GatherFault → String
  | .room held expected => s!"allgather receive buffer holds {held} bytes, expected {expected}"
  | .silent peer => s!"no data from rank {peer}"
  | .unequal peer got expected => s!"rank {peer} contributed {got} bytes, expected {expected}"

namespace Error

def message : Error → String
  | invalidPointId => "PointId must be non-zero (0 is reserved as invalid/sentinel)"
  | configuration cause => s!"Configuration error: {cause.message}"
  | indexOutOfRange what index length =>
      s!"Index error: {what.label} index {index} out of range (len = {length})"
  | coefficientNotFound name => s!"No coefficient named `{name}`"
  | coefficientIndexNotFound index => s!"No coefficient name for index {index}"
  | unsupportedRank expected found =>
      s!"Unsupported rank: expected {expected}, found {found}"
  | unsupportedOperation operation => s!"Unsupported operation: {operation.message}"
  | communication fault => s!"Communication error: {fault.message}"
  | blockShape expected found =>
      s!"Block shape mismatch: expected {expected} values, found {found}"
  | unknownApplyMode text => s!"Unknown apply mode `{text}`"
  | stopped => "stopped"

/-- Passes iff `index` is below `length`. -/
def checkIndex (what : Indexed) (index length : Nat) : Except Error Unit :=
  if index < length then .ok () else .error (.indexOutOfRange what index length)

@[simp] theorem checkIndex_eq_ok_iff {what : Indexed} {index length : Nat} {u : Unit} :
    checkIndex what index length = .ok u ↔ index < length := by
  unfold checkIndex
  split <;> simp_all

theorem checkIndex_eq_error_iff {what : Indexed} {index length : Nat} {e : Error} :
    checkIndex what index length = .error e ↔
      length ≤ index ∧ e = .indexOutOfRange what index length := by
  unfold checkIndex
  split
  · simp; omega
  · simp_all [eq_comm]

end Error
end FormAssembly
