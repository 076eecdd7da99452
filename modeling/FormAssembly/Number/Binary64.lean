/-!
# Binary64 numbers as words

A value of `Binary64` is a 64-bit word of the IEEE 754 binary64 format. Keeping the word, and not
only the number it stands for, makes the payload and the sign of a NaN part of the value: they
travel with messages between processes.

## Arithmetic

Every operation is correctly rounded and never fused with another. If an operand is a NaN, the
first such operand, made quiet, is the result; an operation that has no meaningful result yields
`indefinite`.
-/

namespace FormAssembly

/-- A binary64 number, held as its word. -/
structure Binary64 where
  /-- Sign, exponent and fraction, from the highest bit down. -/
  bits : UInt64
  deriving DecidableEq, Repr

namespace Binary64

/-! ## Classification -/

/-- The word without its sign. -/
def magnitude (x : Binary64) : UInt64 :=
  x.bits &&& 0x7fffffffffffffff

/-- Whether the sign bit is set, which also -0 and NaNs may have. -/
def isNegative (x : Binary64) : Bool :=
  0x8000000000000000 ≤ x.bits

def isNaN (x : Binary64) : Bool :=
  0x7ff0000000000000 < x.magnitude

def isInfinite (x : Binary64) : Bool :=
  x.magnitude = 0x7ff0000000000000

/-! ## Particular values -/

/-- The NaN that stands for the result of an operation without one. -/
def indefinite : Binary64 :=
  ⟨0xfff8000000000000⟩

/-- The NaN that inputs write without payload. -/
def nan : Binary64 :=
  ⟨0x7ff8000000000000⟩

def negativeZero : Binary64 :=
  ⟨0x8000000000000000⟩

instance : Zero Binary64 := ⟨⟨0⟩⟩

instance : Inhabited Binary64 := ⟨0⟩

/-! ## Operations -/

/-- Sets the bit that distinguishes a quiet NaN from a signalling one. -/
def quiet (x : Binary64) : Binary64 :=
  ⟨x.bits ||| 0x0008000000000000⟩

/-- The number of a word that is no NaN. -/
def toFloat (x : Binary64) : Float :=
  Float.ofBits x.bits

/-- The word of a computed number. -/
def ofFloat (r : Float) : Binary64 :=
  if r.isNaN then indefinite else ⟨r.toBits⟩

/-- Carries an operation on numbers over to words. -/
def lift (op : Float → Float → Float) (x y : Binary64) : Binary64 :=
  if x.isNaN then x.quiet
  else if y.isNaN then y.quiet
  else ofFloat (op x.toFloat y.toFloat)

instance : Add Binary64 := ⟨lift (· + ·)⟩

instance : Sub Binary64 := ⟨lift (· - ·)⟩

instance : Mul Binary64 := ⟨lift (· * ·)⟩

instance : Div Binary64 := ⟨lift (· / ·)⟩

/-- Changes the sign bit, of a NaN too. -/
instance : Neg Binary64 := ⟨fun x => ⟨x.bits ^^^ 0x8000000000000000⟩⟩

/-- Clears the sign bit, of a NaN too. -/
def abs (x : Binary64) : Binary64 :=
  ⟨x.magnitude⟩

def sqrt (x : Binary64) : Binary64 :=
  if x.isNaN then x.quiet else ofFloat x.toFloat.sqrt

/-- The number nearest to `n`, of two the even one. -/
def ofNat (n : Nat) : Binary64 :=
  ofFloat (Float.ofNat n)

/-- The number nearest to `mantissa * 10 ^ exponent`. -/
def ofDecimal (negative : Bool) (mantissa : Nat) (exponent : Int) : Binary64 :=
  let size := ofFloat (Float.ofScientific mantissa (exponent < 0) exponent.natAbs)
  if negative then -size else size

instance : OfScientific Binary64 :=
  ⟨fun mantissa isFraction places => ofDecimal false mantissa (if isFraction then -places else places)⟩

theorem add_of_isNaN_left {x y : Binary64} (h : x.isNaN = true) : x + y = x.quiet := by
  show lift _ x y = _
  simp [lift, h]

theorem add_of_isNaN_right {x y : Binary64} (hx : x.isNaN = false) (hy : y.isNaN = true) :
    x + y = y.quiet := by
  show lift _ x y = _
  simp [lift, hx, hy]

end Binary64
end FormAssembly
