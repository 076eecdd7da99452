import FormAssembly.Error

/-!
# Identifiers of mesh entities

Cells, facets and vertices are addressed by 64-bit words other than 0, which is kept free as the
word of no entity. The entity of index `i` has the identifier `i + 1`.
-/

namespace FormAssembly

/-- Identifier of a mesh entity. -/
structure PointId where
  raw : UInt64
  raw_ne_zero : raw ≠ 0
  deriving DecidableEq

namespace PointId

/-- The identifier with a given word. -/
def ofRaw (raw : UInt64) : Except Error PointId :=
  if h : raw = 0 then .error .invalidPointId else .ok ⟨raw, h⟩

/-- The identifier of the entity of index `index`; indices past the last word all have that
word. -/
def ofIndex (index : Nat) : PointId where
  raw := UInt64.ofNat (min (index + 1) (UInt64.size - 1))
  raw_ne_zero := by
    intro h
    have := congrArg UInt64.toNat h
    simp [UInt64.size] at this
    omega

/-- The word as a number, at least 1. -/
def toNat (p : PointId) : Nat :=
  p.raw.toNat

/-- Index of the entity among those of its dimension. -/
def index (p : PointId) : Nat :=
  p.toNat - 1

instance : Inspect PointId := ⟨fun p => Inspect.wrapped "PointId" (inspect p.toNat)⟩

/-- The plain text of an identifier. -/
def text (p : PointId) : String :=
  toString p.toNat

theorem toNat_pos (p : PointId) : 0 < p.toNat :=
  Nat.pos_of_ne_zero fun h => p.raw_ne_zero (UInt64.toNat_inj.mp h)

theorem toNat_lt (p : PointId) : p.toNat < UInt64.size :=
  p.raw.toNat_lt_size

@[ext] theorem ext_of_toNat {p q : PointId} (h : p.toNat = q.toNat) : p = q := by
  cases p with
  | mk a ha =>
      cases q with
      | mk b hb =>
          have : a = b := UInt64.toNat_inj.mp h
          subst this
          rfl

theorem index_add_one (p : PointId) : p.index + 1 = p.toNat := by
  have := p.toNat_pos
  simp only [index]
  omega

theorem toNat_ofIndex (i : Nat) : (ofIndex i).toNat = min (i + 1) (UInt64.size - 1) := by
  simp only [toNat, ofIndex, UInt64.toNat_ofNat', UInt64.size]
  omega

theorem index_ofIndex {i : Nat} (h : i + 1 < UInt64.size) : (ofIndex i).index = i := by
  simp only [index, toNat_ofIndex]
  omega

end PointId
end FormAssembly
