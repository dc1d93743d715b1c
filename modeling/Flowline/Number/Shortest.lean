import Flowline.Number.Decimal

/-!
# Shortest decimal text of a binary number

Among the decimal numerals that read back as a given binary number, the shortest
text takes those of the coarsest power of ten and of these the nearest.  The
layout record then says where positional notation ends and how the exponent is
written.
-/

namespace Flowline.Number

/-- The interval of reals that round to a magnitude, as a fraction with a
common denominator. -/
structure RoundingInterval where
  low : Nat
  centre : Nat
  high : Nat
  denominator : Nat
  /-- Whether the ends belong to the interval. -/
  closed : Bool

/-- The rounding interval of a positive finite magnitude.  Below a power of two
the numbers lie twice as dense. -/
def Format.interval (format : Format) (units : Nat) : RoundingInterval :=
  let coarseness := format.coarseness units
  let gap := 1 <<< coarseness
  let below := if coarseness ≠ 0 ∧ units = 1 <<< units.log2 then gap else 2 * gap
  { low := 4 * units - below
    centre := 4 * units
    high := 4 * units + 2 * gap
    denominator := 4 <<< format.scale
    closed := (units >>> coarseness) % 2 == 0 }

/-- The multiple of a power of ten that lies in an interval and nearest to its
centre, a tie going to the even one. -/
def RoundingInterval.gridPoint (interval : RoundingInterval) (exponent : Int) :
    Option Nat :=
  let stretch := Nat.pow 10 (-exponent).toNat
  let step := interval.denominator * Nat.pow 10 exponent.toNat
  let inside (point : Nat) : Bool :=
    if interval.closed then
      interval.low * stretch ≤ point * step && point * step ≤ interval.high * stretch
    else
      interval.low * stretch < point * step && point * step < interval.high * stretch
  let point := roundQuotient (interval.centre * stretch) step
  let other := if point * step ≤ interval.centre * stretch then point + 1 else point - 1
  if inside point then some point
  else if inside other then some other
  else none

/-- The first power of ten, going down, with a multiple in the interval. -/
def RoundingInterval.coarsest (interval : RoundingInterval) : Nat → Int → Nat × Int
  | 0, exponent => (0, exponent)
  | steps + 1, exponent =>
    match interval.gridPoint exponent with
    | some point => (point, exponent)
    | none => interval.coarsest steps (exponent - 1)

/-- The shortest digits of a positive finite magnitude and the power of ten that
scales them.  The search starts above the magnitude. -/
def Format.shortest (format : Format) (units : Nat) : Nat × Int :=
  let power : Int := (units.log2 : Int) - format.scale
  (format.interval units).coarsest 25 (power * 30103 / 100000 + 2)

/-- How a decimal numeral is laid out. -/
structure Layout where
  /-- The least power of ten of a leading digit that is written positionally. -/
  leastPlain : Int
  /-- The first power of ten of a leading digit that is no longer written
  positionally. -/
  leastRaised : Int

namespace Layout

/-- Positional digits with a point, and at least one digit on either side. -/
def plain (digits : List Char) (exponent : Int) : List Char :=
  if 0 ≤ exponent then
    digits ++ List.replicate exponent.toNat '0' ++ ['.', '0']
  else
    let places := (-exponent).toNat
    if places < digits.length then
      digits.take (digits.length - places) ++ '.' :: digits.drop (digits.length - places)
    else
      ['0', '.'] ++ List.replicate (places - digits.length) '0' ++ digits

/-- One digit before the point, the others behind it if there are any, and a
signed power of ten. -/
def raised (digits : List Char) (leading : Int) : List Char :=
  let mantissa := match digits with
    | first :: second :: rest => first :: '.' :: second :: rest
    | few => few
  let sign := if leading < 0 then '-' else '+'
  mantissa ++ 'e' :: sign :: Nat.toDigits 10 leading.natAbs

/-- The text of a number, for a finite one. -/
def render {format : Format} (layout : Layout) (number : Binary format) : String :=
  let sign := if number.negative then ['-'] else []
  if number.units = 0 then String.ofList (sign ++ ['0', '.', '0'])
  else
    let (significand, exponent) := format.shortest number.units
    let digits := Nat.toDigits 10 significand
    let leading := exponent + digits.length - 1
    String.ofList <| sign ++
      if layout.leastPlain ≤ leading ∧ leading < layout.leastRaised then
        plain digits exponent
      else raised digits leading

end Layout

end Flowline.Number
