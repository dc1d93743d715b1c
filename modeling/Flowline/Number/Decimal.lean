import Flowline.Number.Binary

/-!
# Decimal numerals

A decimal numeral is a whole significand times a power of ten.  Reading one into
a binary format takes the nearest value; the power is only computed when the
result can be finite and other than zero.
-/

namespace Flowline.Number

/-- The value of a run of decimal digits, read from the left. -/
def digitsValue (digits : List Char) : Nat :=
  digits.foldl (fun value digit => 10 * value + (digit.toNat - '0'.toNat)) 0

/-- The leading decimal digits of a text and what follows them. -/
def spanDigits (characters : List Char) : List Char × List Char :=
  (characters.takeWhile Char.isDigit, characters.dropWhile Char.isDigit)

/-- How many decimal digits a positive number has; zero has none. -/
def digitCount (value : Nat) : Nat :=
  if value = 0 then 0 else (Nat.toDigits 10 value).length

/-- A significand times a power of ten, with a sign. -/
structure Decimal where
  negative : Bool
  significand : Nat
  exponent : Int
  deriving DecidableEq, Repr

namespace Decimal

/-- The binary number nearest to a decimal one.  Above a thousand places the
value is infinite in every format, and below minus a thousand it is zero. -/
def toBinary {format : Format} (decimal : Decimal) : Binary format :=
  let places := decimal.exponent + digitCount decimal.significand
  if decimal.significand = 0 then ⟨decimal.negative, 0⟩
  else if 1000 < places then .infinity decimal.negative
  else if places < -1000 then ⟨decimal.negative, 0⟩
  else if 0 ≤ decimal.exponent then
    .ofFraction decimal.negative (decimal.significand * Nat.pow 10 decimal.exponent.toNat) 1
  else
    .ofFraction decimal.negative decimal.significand (Nat.pow 10 (-decimal.exponent).toNat)

/-- The numeral made of the digits before and after the point and a power of
ten. -/
def ofParts (negative : Bool) (whole fraction : List Char) (power : Int) : Decimal :=
  ⟨negative, digitsValue (whole ++ fraction), power - fraction.length⟩

end Decimal

/-- A sign in front of a text, and the text behind it. -/
def takeSign : List Char → Bool × List Char
  | '-' :: rest => (true, rest)
  | '+' :: rest => (false, rest)
  | rest => (false, rest)

/-- The power of ten written behind a significand, up to the end of the text:
nothing, or the letter `e` in either case, an optional sign and digits. -/
def exponentOf : List Char → Option Int
  | [] => some 0
  | letter :: rest =>
    if letter.toLower = 'e' then
      match takeSign rest with
      | (_, []) => none
      | (negative, digits) =>
        if digits.all Char.isDigit then
          some (if negative then -(digitsValue digits : Int) else digitsValue digits)
        else none
    else none

/-- A freely written decimal numeral: digits with or without a point, at least
one digit on either side of it, and an optional power of ten. -/
def decimalOf (negative : Bool) (characters : List Char) : Option Decimal :=
  let (whole, rest) := spanDigits characters
  let (fraction, rest) := match rest with
    | '.' :: rest => spanDigits rest
    | rest => ([], rest)
  if whole.isEmpty && fraction.isEmpty then none
  else (exponentOf rest).map (Decimal.ofParts negative whole fraction)

/-- A freely written number: a sign, then a decimal numeral or a word for
infinity in any case.  The words for the undefined number are refused. -/
def binaryOf {format : Format} (characters : List Char) : Option (Binary format) :=
  let (negative, rest) := takeSign characters
  let word := rest.map Char.toLower
  if word = "inf".toList ∨ word = "infinity".toList then some (.infinity negative)
  else (decimalOf negative rest).map Decimal.toBinary

@[simp] theorem spanDigits_append (characters : List Char) :
    (spanDigits characters).1 ++ (spanDigits characters).2 = characters :=
  List.takeWhile_append_dropWhile

@[simp] theorem digitsValue_nil : digitsValue [] = 0 := rfl

end Flowline.Number
