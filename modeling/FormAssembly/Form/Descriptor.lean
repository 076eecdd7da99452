import FormAssembly.Integral.Registry

/-!
# Form descriptors

A descriptor tells what a form consists of: its rank, its coefficients and its integrals.
`Descriptor α` is an open interface; `FormDeclaration` builds one item by item.
-/

namespace FormAssembly

/-- What a form is made of. -/
structure Descriptor (α : Type) where
  /-- Number of arguments. -/
  rank : Nat
  numCoefficients : Nat
  coefficientName : Nat → Option String
  coefficientIndex : String → Option Nat
  /-- Place of a coefficient before unused ones were dropped. -/
  originalPosition : Nat → Option Nat
  /-- The integrals, as declared. -/
  integrals : List (IntegralRecord α)

/-- A form declared one coefficient and one integral at a time. Nothing is checked yet. -/
structure FormDeclaration (α : Type) where
  rank : Nat
  /-- Names and original positions. -/
  coefficients : List (String × Nat) := []
  integrals : List (IntegralRecord α) := []

namespace FormDeclaration

variable {α : Type}

/-- Declares the next coefficient, with its original position. -/
def coefficientAt (d : FormDeclaration α) (name : String) (originalPosition : Nat) :
    FormDeclaration α :=
  { d with coefficients := d.coefficients ++ [(name, originalPosition)] }

/-- Declares the next coefficient; its place is its original position. -/
def coefficient (d : FormDeclaration α) (name : String) : FormDeclaration α :=
  d.coefficientAt name d.coefficients.length

/-- Declares an integral. -/
def integral (d : FormDeclaration α) (record : IntegralRecord α) : FormDeclaration α :=
  { d with integrals := d.integrals ++ [record] }

/-- Place of the last coefficient declared under a name. -/
def indexOf? (d : FormDeclaration α) (name : String) : Option Nat :=
  (d.coefficients.zipIdx.reverse.find? fun (declared, _) => declared.1 = name).map (·.2)

/-- The declared names, each once, with the places they stand for. -/
def index (d : FormDeclaration α) : List (String × Nat) :=
  (d.coefficients.map (·.1)).eraseDups.map fun name => (name, (d.indexOf? name).getD 0)

def toDescriptor (d : FormDeclaration α) : Descriptor α where
  rank := d.rank
  numCoefficients := d.coefficients.length
  coefficientName := fun i => d.coefficients[i]?.map (·.1)
  coefficientIndex := d.indexOf?
  originalPosition := fun i => d.coefficients[i]?.map (·.2)
  integrals := d.integrals

instance : Inspect (FormDeclaration α) :=
  ⟨fun d => Inspect.record "FormDescriptor"
    [("rank", inspect d.rank), ("names", inspect (d.coefficients.map (·.1))),
     ("original_positions", inspect (d.coefficients.map (·.2))),
     ("by_name", Inspect.braces (d.index.map fun (name, i) => (inspect name, inspect i))),
     ("integrals", inspect d.integrals)]⟩

end FormDeclaration
end FormAssembly
