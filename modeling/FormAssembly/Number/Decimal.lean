import FormAssembly.Number.Binary64

/-!
# Decimal text of binary64 numbers

A finite number is written with the fewest digits that still round to it, and of those with the
digits nearest to it; if two are equally near, the larger ones are taken. `Decimal.shortest`
selects the digits in exact arithmetic. How they are laid out is a `DecimalStyle`.
-/

namespace FormAssembly

/-- The positive number `coefficient * 10 ^ exponent`. -/
structure Decimal where
  coefficient : Nat
  exponent : Int
  deriving DecidableEq, Repr

namespace Decimal

/-! ## Selecting the digits -/

/-- An open or closed interval of positive rationals around a value, over one denominator. -/
structure Window where
  low : Nat
  value : Nat
  high : Nat
  denominator : Nat
  /-- Whether the ends belong to it. -/
  closed : Bool

/-- The reals that round to the positive finite number `x`. Its ends lie half way to the
neighbours of `x` and belong to it iff the significand is even. -/
def window (x : Binary64) : Window :=
  let word := x.magnitude.toNat
  let fraction := word % (1 <<< 52)
  let biased := word / (1 <<< 52)
  let significand := if biased = 0 then fraction else fraction + (1 <<< 52)
  -- the unit is a quarter of the last place, 2 ^ (max biased 1 - 1077)
  let below := if fraction = 0 ∧ 1 < biased then 1 else 2
  let power := max biased 1
  let scale := 1 <<< (power - 1077)
  { low := (4 * significand - below) * scale
    value := 4 * significand * scale
    high := (4 * significand + 2) * scale
    denominator := 1 <<< (1077 - power)
    closed := significand % 2 = 0 }

/-- Whether `coefficient * 10 ^ exponent` lies in the window. -/
def Window.contains (w : Window) (coefficient : Nat) (exponent : Int) : Bool :=
  let point := coefficient * Nat.pow 10 exponent.toNat * w.denominator
  let unit := Nat.pow 10 (-exponent).toNat
  if w.closed then w.low * unit ≤ point && point ≤ w.high * unit
  else w.low * unit < point && point < w.high * unit

/-- The point of the grid of multiples of `10 ^ exponent` that is in the window and nearest to its
value; of two equally near the larger. -/
def Window.onGrid? (w : Window) (exponent : Int) : Option Nat :=
  let value := w.value * Nat.pow 10 (-exponent).toNat
  let step := w.denominator * Nat.pow 10 exponent.toNat
  let lower := value / step
  match w.contains lower exponent, w.contains (lower + 1) exponent with
  | true, true => if 2 * (value % step) < step then some lower else some (lower + 1)
  | true, false => some lower
  | false, true => some (lower + 1)
  | false, false => none

/-- Tries finer and finer grids, at most `tries` of them. -/
def Window.coarsest (w : Window) (exponent : Int) : (tries : Nat) → Decimal
  | 0 => ⟨0, 0⟩
  | tries + 1 =>
      match w.onGrid? exponent with
      | some coefficient => ⟨coefficient, exponent⟩
      | none => w.coarsest (exponent - 1) tries

/-- A power of ten above every number of `x`'s binary exponent. -/
def startExponent (x : Binary64) : Int :=
  let w := window x
  let log2 : Int := (Nat.log2 w.value : Int) - (Nat.log2 w.denominator : Int)
  (log2 + 1) * 30103 / 100000 + 1

/-- The decimal with the fewest digits that rounds to the positive finite number `x`, and of those
the nearest to it. -/
def shortest (x : Binary64) : Decimal :=
  -- seventeen digits always suffice, and the start is at most two places too high
  (window x).coarsest (startExponent x) 24

/-! ## Laying out the digits -/

/-- Digits of a positive number, most significant first. -/
def digits (d : Decimal) : List Char :=
  Nat.toDigits 10 d.coefficient

/-- Exponent of the leading digit. -/
def leading (d : Decimal) : Int :=
  d.exponent + d.digits.length - 1

end Decimal

/-- How the digits of a number are laid out. -/
structure DecimalStyle where
  /-- Whether a number without fraction still shows one zero after the point. -/
  keepPoint : Bool
  /-- Range of exponents of the leading digit that are written without an exponent part, if it
  is bounded. -/
  positional : Option (Int × Int)

namespace DecimalStyle

/-- Plain text: never an exponent, and no point on whole numbers. -/
def plain : DecimalStyle :=
  ⟨false, none⟩

/-- Text for inspection: a point or an exponent always shows that the number is no integer. -/
def inspection : DecimalStyle :=
  ⟨true, some (-4, 15)⟩

/-- Digits without exponent part. -/
def positionalText (style : DecimalStyle) (digits : List Char) (leading : Int) : String :=
  if leading < 0 then
    String.ofList ('0' :: '.' :: List.replicate (-leading - 1).toNat '0' ++ digits)
  else
    let whole := leading.toNat + 1
    let before := digits.take whole ++ List.replicate (whole - digits.length) '0'
    let after := digits.drop whole
    if after.isEmpty then
      String.ofList before ++ (if style.keepPoint then ".0" else "")
    else
      String.ofList (before ++ '.' :: after)

/-- Digits with exponent part. -/
def exponentText (digits : List Char) (leading : Int) : String :=
  let tail := if leading < 0 then "e-" ++ toString leading.natAbs else "e" ++ toString leading.natAbs
  match digits with
  | [] => tail
  | [d] => String.ofList [d] ++ tail
  | d :: more => String.ofList (d :: '.' :: more) ++ tail

/-- Text of a number without its sign. -/
def magnitudeText (style : DecimalStyle) (x : Binary64) : String :=
  if x.isInfinite then "inf"
  else if x.magnitude = 0 then
    if style.keepPoint then "0.0" else "0"
  else
    let d := Decimal.shortest x
    let significant := (d.digits.reverse.dropWhile (· = '0')).reverse
    let inRange := match style.positional with
      | none => true
      | some (least, greatest) => least ≤ d.leading && d.leading ≤ greatest
    if inRange then style.positionalText significant d.leading
    else exponentText significant d.leading

/-- Text of a number. A NaN has no sign, -0 has one. -/
def text (style : DecimalStyle) (x : Binary64) : String :=
  if x.isNaN then "NaN"
  else if x.isNegative then "-" ++ style.magnitudeText x
  else style.magnitudeText x

end DecimalStyle
end FormAssembly
