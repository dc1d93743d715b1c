import Flowline.Json.Printer
import Flowline.Regex
import Flowline.Text.Blank
import Flowline.Text.Split

/-!
# Comparison operators

The operators of guards.  Equality is loose: a number, a text that reads as one
and a truth value are equal when their numbers are.  The orderings compare
numbers only and are false when one side has none.
-/

namespace Flowline.Guard

open Number

/-- A comparison operator; a name that stands for none is kept. -/
inductive Operator where
  | eq
  | ne
  | gt
  | gte
  | lt
  | lte
  | contains
  | regex
  | unknown (name : String)
  deriving DecidableEq, Repr

namespace Operator

/-- The operator with a name or a symbol; case and blanks around it do not
count. -/
def parse (name : String) : Operator :=
  match Text.lowered (Text.trimmed name) with
  | "eq" | "==" | "===" | "equals" => eq
  | "ne" | "neq" | "!=" | "!==" | "not_equals" => ne
  | "gt" | ">" => gt
  | "gte" | ">=" => gte
  | "lt" | "<" => lt
  | "lte" | "<=" => lte
  | "contains" => contains
  | "regex" | "matches" => regex
  | _ => unknown name

end Operator

/-- The number that a value is read as.  A blank text and null are zero; lists
and objects have no number. -/
def numberOf? : Json → Option Binary64
  | .number value => some value.toBinary
  | .string text =>
      match Text.trim text.toList with
      | [] => some .zero
      | characters => binaryOf characters
  | .bool value => some (.ofInt (if value then 1 else 0))
  | .null => some .zero
  | .array _ | .object _ => none

/-- Compare the numbers of two values by their places on the line. -/
def compareNumbers (relation : Int → Int → Bool) (left right : Json) : Bool :=
  match numberOf? left, numberOf? right with
  | some left, some right => relation left.position right.position
  | _, _ => false

/-- The bound below which whole numbers are written without a fraction. -/
def wholeBound : Nat := Nat.pow 10 15

/-- The text of a number: a whole one below the bound has no fraction, and minus
zero keeps its sign. -/
def numberText (numeral : Json.Numeral) : String :=
  let number := numeral.toBinary
  if number.isWhole && number.wholePart < wholeBound then
    (if number.negative then "-" else "") ++ toString number.wholePart
  else numeral.render

mutual

/-- The text that a value is read as; the items of a list are joined by
commas. -/
def textOf : Json → String
  | .string text => text
  | .number value => numberText value
  | .array items => ",".intercalate (textsOf items)
  | value => value.compact
termination_by structural value => value

def textsOf : List Json → List String
  | [] => []
  | item :: rest => textOf item :: textsOf rest
termination_by structural items => items

end

/-- Loose equality.  Null equals only itself, and lists and objects only what is
the same value. -/
def looselyEqual (left right : Json) : Bool :=
  match left, right with
  | .null, .null => true
  | .null, _ | _, .null => false
  | .bool left, .bool right => left == right
  | .string left, .string right => left == right
  | .number _, .number _ | .number _, .string _ | .string _, .number _
  | .bool _, .number _ | .bool _, .string _ | .number _, .bool _ | .string _, .bool _ =>
      compareNumbers (· == ·) left right
  | _, _ => left.same right

/-- Whether a list has an item that is loosely equal to a value, or else whether
the text of one value occurs in that of another. -/
def containsValue (actual expected : Json) : Bool :=
  match actual with
  | .array items => items.any fun item => looselyEqual item expected
  | actual => Text.occursIn (textOf expected).toList (textOf actual).toList

/-- Whether an operator holds between a value and the expected one. -/
def Operator.apply (operator : Operator) (actual expected : Json) : Bool :=
  match operator with
  | eq => looselyEqual actual expected
  | ne => !looselyEqual actual expected
  | gt => compareNumbers (fun left right => decide (right < left)) actual expected
  | gte => compareNumbers (fun left right => decide (right ≤ left)) actual expected
  | lt => compareNumbers (fun left right => decide (left < right)) actual expected
  | lte => compareNumbers (fun left right => decide (left ≤ right)) actual expected
  | contains => containsValue actual expected
  | regex => Regex.isMatch (textOf expected) (textOf actual)
  | unknown _ => false

end Flowline.Guard
