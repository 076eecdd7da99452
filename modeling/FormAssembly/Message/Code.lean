import FormAssembly.Number.Binary64
import FormAssembly.Number.LittleEndian

/-!
# Codes

How values travel in messages: each value takes the same number of units, and what was written is
read back. A binary64 number travels as the eight bytes of its word, least significant first.
-/

namespace FormAssembly

/-- A code of fixed width for values of `α` in units of `β`. -/
class Code (α : Type) (β : outParam Type) where
  /-- Units of one value. -/
  width : Nat
  encode : α → List β
  decode : List β → α
  length_encode : ∀ value, (encode value).length = width
  decode_encode : ∀ value, decode (encode value) = value

namespace Code

variable {α β : Type} [Code α β]

/-- Values one after another. -/
def encodeAll (values : List α) : List β :=
  values.flatMap encode

/-- The first `count` values of a message. -/
def decodeAll (α : Type) [Code α β] : (count : Nat) → List β → List α
  | 0, _ => []
  | count + 1, units =>
      decode (units.take (width α)) :: decodeAll α count (units.drop (width α))

@[simp] theorem length_encodeAll (values : List α) :
    (encodeAll values : List β).length = values.length * width α := by
  induction values with
  | nil => simp [encodeAll]
  | cons value rest ih =>
      simp only [encodeAll] at ih
      simp [encodeAll, length_encode, ih, Nat.succ_mul, Nat.add_comm]

@[simp] theorem length_decodeAll (count : Nat) (units : List β) :
    (decodeAll α count units).length = count := by
  induction count generalizing units with
  | zero => rfl
  | succ count ih => simp [decodeAll, ih]

theorem encodeAll_append (left right : List α) :
    (encodeAll (left ++ right) : List β) = encodeAll left ++ encodeAll right := by
  simp [encodeAll]

theorem decodeAll_encodeAll_append (values : List α) (units : List β) :
    decodeAll α values.length (encodeAll values ++ units) = values := by
  induction values with
  | nil => rfl
  | cons value rest ih =>
      have h : (encode value : List β).length = width α := length_encode value
      have head : (encodeAll (value :: rest) ++ units).take (width α) = (encode value : List β) := by
        simp [encodeAll, List.append_assoc, ← h]
      have tail : (encodeAll (value :: rest) ++ units).drop (width α) =
          (encodeAll rest ++ units : List β) := by
        simp [encodeAll, List.append_assoc, ← h]
      simp only [List.length_cons, decodeAll, head, tail, decode_encode, ih]

/-- Reading what was written gives the values back. -/
theorem decodeAll_encodeAll (values : List α) :
    decodeAll α values.length (encodeAll values : List β) = values := by
  simpa using decodeAll_encodeAll_append values ([] : List β)

end Code

instance : Code Binary64 UInt8 where
  width := 8
  encode x := LittleEndian.encode 8 x.bits.toNat
  decode bytes := ⟨UInt64.ofNat (LittleEndian.decode bytes)⟩
  length_encode _ := LittleEndian.length_encode _ _
  decode_encode x := by
    rw [LittleEndian.decode_encode x.bits.toNat_lt]
    simp

end FormAssembly
