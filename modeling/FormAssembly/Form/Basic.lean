import FormAssembly.Coefficient.Registry
import FormAssembly.Event
import FormAssembly.Form.Descriptor
import FormAssembly.Mesh.Markers
import FormAssembly.Space.Basic

/-!
# Forms

A form puts together what assembly needs: argument spaces, a mesh, markers for each kind of
integral, coefficients and integrals. The first argument space numbers the rows of the tensor, the
second its columns, and so on.
-/

namespace FormAssembly

/-- Names of coefficients that stand in for those of a descriptor. -/
structure Resolver where
  indexOf? : String → Option Nat
  nameOf? : Nat → Option String

/-- The resolver that numbers a list of names; a repeated name stands for its first place. -/
def Resolver.ofNames (names : List String) : Resolver where
  indexOf? := fun name => names.findIdx? (· = name)
  nameOf? := fun i => names[i]?

/-- A form of any rank. -/
structure Form (α : Type) where
  descriptor : Descriptor α
  /-- Argument spaces, test space first. -/
  spaces : List (ArgumentSpace α)
  /-- The form's own mesh, which goes before that of its spaces. -/
  ownMesh : Option (Mesh α)
  /-- Markers of the entities that each kind of integral runs over. -/
  markersByKind : PerKind (Option Markers)
  coefficients : CoefficientSet α
  integrals : IntegralSet α
  /-- Names that go before those of the descriptor. -/
  resolver : Option Resolver

namespace Form

variable {α : Type}

/-! ## Building -/

/-- Whether all spaces are on the mesh of the first. -/
def onOneMesh : List (ArgumentSpace α) → Bool
  | [] => true
  | first :: rest => rest.all fun space => first.mesh.same space.mesh

/-- The coefficients of a descriptor, unbound. One without a name is called by its place, and one
without an original position has its place for that. -/
def declareCoefficients (d : Descriptor α) : Except Error (CoefficientSet α) :=
  (List.range d.numCoefficients).foldlM
    (fun set i => do
      let name := (d.coefficientName i).getD s!"w{i}"
      let position := (d.originalPosition i).getD i
      let (_, next) ← set.declare name position
      return next)
    .empty

/-- The form of a descriptor over argument spaces. Its own mesh, its markers and its coefficient
functions are still to be set. -/
def build (descriptor : Descriptor α) (spaces : List (ArgumentSpace α)) :
    Reported (Except Error (Form α)) :=
  let result : Except Error (Form α) := do
    if descriptor.rank ≠ spaces.length then
      throw (.configuration (.argumentCount descriptor.rank spaces.length))
    if !onOneMesh spaces then
      throw (.configuration .mixedMeshes)
    let coefficients ← declareCoefficients descriptor
    let integrals ← IntegralSet.ofRecords descriptor.integrals descriptor.numCoefficients
    return { descriptor, spaces, ownMesh := none, markersByKind := .const none, coefficients,
             integrals, resolver := none }
  match result with
  | .error e => ⟨.error e, []⟩
  | .ok form =>
      ⟨.ok form, [.formBuilt spaces.length form.coefficients.size form.integrals.kinds]⟩

/-! ## Arguments -/

/-- Number of arguments. -/
def rank (form : Form α) : Nat :=
  form.spaces.length

/-- The space of an argument. -/
def space (form : Form α) (i : Nat) : Except Error (ArgumentSpace α) :=
  match form.spaces[i]? with
  | some space => .ok space
  | none => .error (.indexOutOfRange .argument i form.spaces.length)

/-- Largest number of degrees of freedom of a cell, for each argument. -/
def maxElementDofs (form : Form α) : List Nat :=
  form.spaces.map (·.maxElementDofs)

/-- Largest block of one cell. -/
def maxElementTensorSize (form : Form α) : Nat :=
  Block.volume form.maxElementDofs

/-- Largest block of an integral of one kind. -/
def maxElementTensorSizeFor (form : Form α) (kind : IntegralKind) : Nat :=
  form.integrals.maxBlockSize kind form.maxElementDofs

/-- Dimensions of the tensor that the form assembles to. -/
def tensorDims (form : Form α) : List Nat :=
  form.spaces.map (·.dim)

/-! ## Coefficients -/

/-- Place of the coefficient with a name. -/
def coefficientIndex (form : Form α) (name : String) : Except Error Nat :=
  let found := match form.resolver with
    | some resolver => resolver.indexOf? name
    | none => form.descriptor.coefficientIndex name
  match found with
  | some i => .ok i
  | none => .error (.coefficientNotFound name)

/-- Name of the coefficient at a place. -/
def coefficientName (form : Form α) (i : Nat) : Except Error String :=
  let found := match form.resolver with
    | some resolver => resolver.nameOf? i
    | none => form.descriptor.coefficientName i
  match found with
  | some name => .ok name
  | none => .error (.coefficientIndexNotFound i)

/-- Place of a coefficient before unused ones were dropped. -/
def originalCoefficientPosition (form : Form α) (i : Nat) : Except Error Nat :=
  form.coefficients.originalPosition i

/-- Installs names that go before those of the descriptor, or removes them. -/
def setResolver (form : Form α) (resolver : Option Resolver) : Form α :=
  { form with resolver }

/-- The form with other coefficients. -/
def withCoefficients (form : Form α) (coefficients : CoefficientSet α) : Form α :=
  { form with coefficients }

/-! ## Mesh and markers -/

/-- Gives the form a mesh of its own. -/
def setMesh (form : Form α) (mesh : Mesh α) : Reported (Form α) :=
  ⟨{ form with ownMesh := some mesh }, [.meshSet mesh.topologicalDim]⟩

/-- The mesh to integrate over: the form's own, else that of its first argument space. -/
def mesh (form : Form α) : Except Error (Mesh α) :=
  match form.ownMesh, form.spaces with
  | some mesh, _ => .ok mesh
  | none, first :: _ => .ok first.mesh
  | none, [] => .error (.configuration .noMesh)

/-- The markers for one kind of integral. -/
def markers (form : Form α) (kind : IntegralKind) : Option Markers :=
  form.markersByKind.get kind

/-- Replaces the markers for one kind of integral, or removes them. -/
def setMarkers (form : Form α) (kind : IntegralKind) (markers : Option Markers) :
    Reported (Form α) :=
  ⟨{ form with markersByKind := form.markersByKind.set kind markers },
   [.markersChanged kind markers.isSome]⟩

/-- Marker of an entity that integrals of a kind run over. -/
def marker (form : Form α) (kind : IntegralKind) (entity : PointId) : Option Nat :=
  (form.markers kind).bind fun markers => markers.get? entity

instance : Inspect (Form α) :=
  ⟨fun form => Inspect.partialRecord "VariationalForm"
    [("rank", inspect form.rank), ("spaces", inspect form.spaces),
     ("coefficients", inspect form.coefficients), ("integrals", inspect form.integrals),
     ("domains", inspect (IntegralKind.all.map form.markers))]⟩

end Form
end FormAssembly
