/-!
# Kinds of integration domain

A form integrates over four kinds of mesh entity. This module fixes their order, the dimension of
the entities that each kind runs over, and the number of cells that one entity couples. What is
kept for each kind separately is a `PerKind`.
-/

namespace FormAssembly

/-- What an integral runs over. -/
inductive IntegralKind
  | cell
  | exteriorFacet
  | interiorFacet
  | vertex
  deriving DecidableEq, Repr

namespace IntegralKind

/-- Every kind, in the order of `position`. -/
def all : List IntegralKind :=
  [.cell, .exteriorFacet, .interiorFacet, .vertex]

/-- Place of a kind in `all`. -/
def position : IntegralKind → Nat
  | .cell => 0
  | .exteriorFacet => 1
  | .interiorFacet => 2
  | .vertex => 3

/-- Dimension of the entities of this kind on a mesh of dimension `tdim`. -/
def entityDim (kind : IntegralKind) (tdim : Nat) : Nat :=
  match kind with
  | .cell => tdim
  | .exteriorFacet | .interiorFacet => tdim - 1
  | .vertex => 0

/-- Number of cells whose degrees of freedom one entity couples. -/
def cellsPerEntity : IntegralKind → Nat
  | .interiorFacet => 2
  | _ => 1

/-- The name used in messages. -/
def label : IntegralKind → String
  | .cell => "cell"
  | .exteriorFacet => "exterior_facet"
  | .interiorFacet => "interior_facet"
  | .vertex => "vertex"

/-- The kind of a name used in messages. -/
def ofLabel? (name : String) : Option IntegralKind :=
  all.find? (·.label = name)

/-- The name used for inspection and in stored documents. -/
def constructorName : IntegralKind → String
  | .cell => "Cell"
  | .exteriorFacet => "ExteriorFacet"
  | .interiorFacet => "InteriorFacet"
  | .vertex => "Vertex"

theorem mem_all (kind : IntegralKind) : kind ∈ all := by
  cases kind <;> simp [all]

theorem ofLabel?_label (kind : IntegralKind) : ofLabel? kind.label = some kind := by
  cases kind <;> decide

theorem all_getElem?_position (kind : IntegralKind) : all[kind.position]? = some kind := by
  cases kind <;> rfl

end IntegralKind

/-! ## Values kept by kind -/

/-- One value for each kind. -/
@[ext] structure PerKind (α : Type) where
  cell : α
  exteriorFacet : α
  interiorFacet : α
  vertex : α

namespace PerKind

variable {α : Type}

/-- The same value for every kind. -/
def const (value : α) : PerKind α :=
  ⟨value, value, value, value⟩

/-- The value of a kind. -/
def get (values : PerKind α) : IntegralKind → α
  | .cell => values.cell
  | .exteriorFacet => values.exteriorFacet
  | .interiorFacet => values.interiorFacet
  | .vertex => values.vertex

/-- Replaces the value of one kind. -/
def set (values : PerKind α) (kind : IntegralKind) (value : α) : PerKind α :=
  match kind with
  | .cell => { values with cell := value }
  | .exteriorFacet => { values with exteriorFacet := value }
  | .interiorFacet => { values with interiorFacet := value }
  | .vertex => { values with vertex := value }

@[simp] theorem get_const (value : α) (kind : IntegralKind) : (const value).get kind = value := by
  cases kind <;> rfl

@[simp] theorem get_set (values : PerKind α) (kind other : IntegralKind) (value : α) :
    (values.set kind value).get other = if other = kind then value else values.get other := by
  cases kind <;> cases other <;> rfl

theorem ext_get {left right : PerKind α} (same : ∀ kind, left.get kind = right.get kind) :
    left = right :=
  PerKind.ext (same .cell) (same .exteriorFacet) (same .interiorFacet) (same .vertex)

end PerKind
end FormAssembly
