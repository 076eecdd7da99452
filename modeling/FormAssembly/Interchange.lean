import FormAssembly.Assembly.Options
import FormAssembly.Json.Fields
import FormAssembly.Json.Reader
import FormAssembly.Mesh.Basic
import FormAssembly.Mesh.Markers

/-!
# Stored form of values

How options, markers and identifiers are written as JSON documents and read from them. `toJson`
and `ofJson?` of one type belong together; reading refuses whatever is not a stored form.
-/

namespace FormAssembly

/-! ## Modes and kinds -/

namespace ApplyMode

def toJson (mode : ApplyMode) : Json :=
  .text mode.name

def ofJson? (json : Json) : Option ApplyMode := do
  if (← json.variant?) = ApplyMode.add.name then some .add else none

end ApplyMode

namespace IntegralKind

def toJson (kind : IntegralKind) : Json :=
  .text kind.constructorName

def ofJson? (json : Json) : Option IntegralKind := do
  let name ← json.variant?
  all.find? fun kind => kind.constructorName = name

end IntegralKind

/-! ## Options -/

namespace AssemblyOptions

def fieldNames : List String :=
  ["reset_tensor", "finalize", "apply_mode"]

def toJson (options : AssemblyOptions) : Json :=
  .record (fieldNames.zip [.bool options.reset, .bool options.finalize, options.mode.toJson])

/-- A field that is there must be readable; one that is missing has its default. -/
def fieldOr {α : Type} (default : α) (read : Json → Option α) (field : Option Json) : Option α :=
  match field with
  | none => some default
  | some json => read json

def ofJson? (json : Json) : Option AssemblyOptions := do
  match ← json.fields? fieldNames with
  | [reset, finalize, mode] =>
      let defaults : AssemblyOptions := {}
      return {
        reset := ← fieldOr defaults.reset Json.bool? reset
        finalize := ← fieldOr defaults.finalize Json.bool? finalize
        mode := ← fieldOr defaults.mode ApplyMode.ofJson? mode }
  | _ => none

end AssemblyOptions

/-! ## Identifiers and facets -/

namespace PointId

/-- The identifier with a given number. -/
def ofNat? (n : Nat) : Option PointId :=
  if n < UInt64.size then (ofRaw (UInt64.ofNat n)).toOption else none

def toJson (p : PointId) : Json :=
  .nat p.toNat

def ofJson? (json : Json) : Option PointId := do
  ofNat? (← json.word?)

/-- The identifier that names a member of an object: an integer as JSON writes it. -/
def ofName? (name : List Char) : Option PointId := do
  match ← JsonReader.number? name with
  | (literal, []) => ofNat? (← literal.word?)
  | _ => none

end PointId

namespace ExteriorFacet

def fieldNames : List String :=
  ["facet", "cell", "local_facet"]

def toJson (f : ExteriorFacet) : Json :=
  .record (fieldNames.zip [f.facet.toJson, f.cell.toJson, .nat f.localFacet])

def ofJson? (json : Json) : Option ExteriorFacet := do
  match ← json.fields? fieldNames with
  | [some facet, some cell, some localFacet] =>
      return ⟨← PointId.ofJson? facet, ← PointId.ofJson? cell, ← localFacet.word?⟩
  | _ => none

end ExteriorFacet

/-! ## Markers -/

namespace Markers

def fieldNames : List String :=
  ["dim", "values"]

/-- The entries as an object with the identifiers as names. -/
def entriesToJson (m : Markers) : Json :=
  .object (m.entries.map fun (entity, number) => (entity.text.toList, .nat number))

def toJson (m : Markers) : Json :=
  .record (fieldNames.zip [.nat m.dim, m.entriesToJson])

/-- Entries in the order of the document. -/
def entriesOfJson? : Json → Option (List (PointId × Nat))
  | .object members =>
      members.mapM fun (name, value) => do return (← PointId.ofName? name, ← value.word?)
  | _ => none

/-- Reads markers; of entries for the same entity the last counts. -/
def ofJson? (json : Json) : Option Markers := do
  match ← json.fields? fieldNames with
  | [some dim, some values] => return ofPairs (← dim.word?) (← entriesOfJson? values)
  | _ => none

end Markers
end FormAssembly
