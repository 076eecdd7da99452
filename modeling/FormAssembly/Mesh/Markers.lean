import FormAssembly.Ascending
import FormAssembly.Mesh.Point

/-!
# Markers

Markers divide the entities of one dimension of a mesh into subdomains: each marked entity has one
number, and an entity may be left unmarked. The entries are kept in ascending order of their
entities, so markers are equal iff they give every entity the same number.
-/

namespace FormAssembly

/-- Numbers of some entities of one dimension. -/
structure Markers where
  /-- Dimension of the entities. -/
  dim : Nat
  /-- Marked entities and their numbers. -/
  entries : List (PointId × Nat)
  sorted : Ascending.Sorted (fun entry : PointId × Nat => entry.1.toNat) entries

namespace Markers

/-- Place of an entry among the others. -/
abbrev key (entry : PointId × Nat) : Nat :=
  entry.1.toNat

/-- Markers of no entity. -/
def empty (dim : Nat) : Markers :=
  ⟨dim, [], List.Pairwise.nil⟩

/-- The number of an entity. -/
def get? (m : Markers) (entity : PointId) : Option Nat :=
  (Ascending.find? key entity.toNat m.entries).map (·.2)

/-- Gives an entity a number, in place of the one it had. -/
def mark (m : Markers) (entity : PointId) (number : Nat) : Markers :=
  ⟨m.dim, Ascending.insert key (entity, number) m.entries, Ascending.sorted_insert _ m.sorted⟩

/-- `mark`, together with the number that the entity had before. -/
def replace (m : Markers) (entity : PointId) (number : Nat) : Option Nat × Markers :=
  (m.get? entity, m.mark entity number)

/-- Marks entities one after another, so that the last number of an entity stays. -/
def ofPairs (dim : Nat) (pairs : List (PointId × Nat)) : Markers :=
  pairs.foldl (fun m (entity, number) => m.mark entity number) (empty dim)

/-- Number of marked entities. -/
def size (m : Markers) : Nat :=
  m.entries.length

def isEmpty (m : Markers) : Bool :=
  m.entries.isEmpty

/-- The numbers in use, in ascending order. -/
def numbers (m : Markers) : List Nat :=
  m.entries.foldl (fun seen entry => Ascending.insert id entry.2 seen) []

/-- The entities with a given number, in ascending order. -/
def entitiesWith (m : Markers) (number : Nat) : List PointId :=
  (m.entries.filter fun entry => entry.2 = number).map (·.1)

instance : DecidableEq Markers := fun a b =>
  if h : a.dim = b.dim ∧ a.entries = b.entries then
    .isTrue (by cases a; cases b; simp_all)
  else
    .isFalse (by rintro rfl; exact h ⟨rfl, rfl⟩)

instance : Inspect Markers :=
  ⟨fun m => Inspect.record "DomainMarkers"
    [("dim", inspect m.dim),
     ("values", Inspect.braces (m.entries.map fun entry => (inspect entry.1, inspect entry.2)))]⟩

theorem get?_mark (m : Markers) (entity other : PointId) (number : Nat) :
    (m.mark entity number).get? other = if other = entity then some number else m.get? other := by
  simp only [get?, mark, Ascending.find?_insert, key]
  by_cases h : other = entity
  · simp [h]
  · have : ¬ entity.toNat = other.toNat := fun same => h (PointId.ext_of_toNat same.symm)
    simp [h, this]

@[simp] theorem dim_mark (m : Markers) (entity : PointId) (number : Nat) :
    (m.mark entity number).dim = m.dim :=
  rfl

end Markers
end FormAssembly
