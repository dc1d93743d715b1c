/-!
# Binary floating numbers

A binary format holds a fixed count of significant bits above a least positive
value.  A number of such a format is kept as its sign and its magnitude counted
in units of that least value, so that comparison and rounding are exact
arithmetic on whole numbers.  Infinity is the first magnitude past the largest
finite one.
-/

namespace Flowline.Number

/-- The shape of a binary floating format. -/
structure Format where
  /-- Count of significant bits. -/
  precision : Nat
  /-- The least positive value is two to the power of minus this. -/
  scale : Nat
  /-- Every finite magnitude is below two to this power. -/
  ceiling : Nat
  deriving DecidableEq, Repr

/-- The format of 64 bits. -/
def Format.double : Format := ⟨53, 1074, 1024⟩

/-- The format of 32 bits. -/
def Format.single : Format := ⟨24, 149, 128⟩

/-- The magnitude of infinity, in units. -/
def Format.limit (format : Format) : Nat :=
  Nat.pow 2 (format.ceiling + format.scale)

/-- A quotient rounded to the nearest whole number, a half going to the even
neighbour. -/
def roundQuotient (numerator denominator : Nat) : Nat :=
  let whole := numerator / denominator
  let twice := 2 * (numerator % denominator)
  if twice < denominator then whole
  else if denominator < twice then whole + 1
  else whole + whole % 2

/-- How many low bits a magnitude of this size cannot keep. -/
def Format.coarseness (format : Format) (units : Nat) : Nat :=
  units.log2 + 1 - format.precision

/-- The magnitude nearest to a fraction, in units; one that is too large
becomes infinity. -/
def Format.nearest (format : Format) (numerator denominator : Nat) : Nat :=
  let scaled := numerator <<< format.scale
  let coarseness := format.coarseness (scaled / denominator)
  let units := roundQuotient scaled (denominator <<< coarseness) <<< coarseness
  min units format.limit

/-- A number of a binary format, other than the undefined one. -/
structure Binary (format : Format) where
  negative : Bool
  /-- The magnitude in units of the least positive value. -/
  units : Nat
  deriving DecidableEq, Repr

abbrev Binary64 := Binary .double
abbrev Binary32 := Binary .single

namespace Binary

variable {format : Format}

/-- Zero without a sign. -/
def zero : Binary format := ⟨false, 0⟩

/-- One end of the number line. -/
def infinity (negative : Bool) : Binary format := ⟨negative, format.limit⟩

/-- The number nearest to a signed fraction. -/
def ofFraction (negative : Bool) (numerator denominator : Nat) : Binary format :=
  ⟨negative, format.nearest numerator denominator⟩

/-- The number nearest to a whole number. -/
def ofInt (value : Int) : Binary format :=
  ofFraction (value < 0) value.natAbs 1

/-- The number nearest to one of another format. -/
def convert {target : Format} (number : Binary format) : Binary target :=
  if number.units = format.limit then infinity number.negative
  else ofFraction number.negative number.units (1 <<< format.scale)

def isFinite (number : Binary format) : Bool :=
  number.units < format.limit

/-- The place of a number on the line, in units; both zeros have one place. -/
def position (number : Binary format) : Int :=
  if number.negative then -(number.units : Int) else number.units

/-- Equality of the values: the zeros are equal. -/
def same (left right : Binary format) : Bool :=
  left.position == right.position

/-- Whether a number is whole. -/
def isWhole (number : Binary format) : Bool :=
  number.isFinite && number.units % (1 <<< format.scale) == 0

/-- The magnitude without its fraction. -/
def wholePart (number : Binary format) : Nat :=
  number.units >>> format.scale

@[simp] theorem position_zero : (zero : Binary format).position = 0 := rfl

@[simp] theorem same_self (number : Binary format) : number.same number = true := by
  simp [same]

theorem same_comm (left right : Binary format) : left.same right = right.same left := by
  simp [same, Bool.beq_comm]

end Binary

end Flowline.Number
