import FormAssembly.Number.Decimal
import FormAssembly.Text.Quoted

/-!
# Text for inspection

`inspect` writes a value so that its structure can be read off: records with their field names,
lists in brackets, maps in braces. A record that does not show all it holds ends in two dots.
-/

namespace FormAssembly

/-- Types whose values can be written for inspection. -/
class Inspect (α : Type) where
  inspect : α → String

export Inspect (inspect)

namespace Inspect

/-! ## Compound text -/

/-- Parts with a comma and a space between them. -/
def commas (parts : List String) : String :=
  String.intercalate ", " parts

/-- A record with all of its fields, each a name and the text of its value. -/
def record (name : String) (fields : List (String × String)) : String :=
  name ++ " \x7b " ++ commas (fields.map fun (field, value) => field ++ ": " ++ value) ++ " \x7d"

/-- A record that keeps some of its content to itself. -/
def partialRecord (name : String) (fields : List (String × String)) : String :=
  name ++ " \x7b " ++
    commas (fields.map (fun (field, value) => field ++ ": " ++ value) ++ [".."]) ++ " \x7d"

/-- A name applied to one value. -/
def wrapped (name : String) (value : String) : String :=
  name ++ "(" ++ value ++ ")"

/-- A list of values. -/
def brackets (values : List String) : String :=
  "[" ++ commas values ++ "]"

/-- A map, each entry a key and a value. -/
def braces (entries : List (String × String)) : String :=
  "\x7b" ++ commas (entries.map fun (key, value) => key ++ ": " ++ value) ++ "\x7d"

/-! ## Instances -/

instance : Inspect Nat := ⟨toString⟩

instance : Inspect Bool := ⟨fun b => if b then "true" else "false"⟩

instance : Inspect String := ⟨Quoted.text⟩

instance : Inspect Binary64 := ⟨DecimalStyle.inspection.text⟩

instance {α : Type} [Inspect α] : Inspect (List α) :=
  ⟨fun values => brackets (values.map inspect)⟩

instance {α : Type} [Inspect α] : Inspect (Array α) :=
  ⟨fun values => inspect values.toList⟩

instance {α : Type} [Inspect α] : Inspect (Option α) :=
  ⟨fun value => value.elim "None" fun present => wrapped "Some" (inspect present)⟩

end Inspect
end FormAssembly
