import Flowline.Keyed
import Flowline.Number.Decimal

/-!
# JSON values

Values of JSON with exact numbers.  A whole number within 64 bits is kept as
such, every other number is a binary floating number, and the two never equal
each other.  The members of an object are kept in the order of their keys.
-/

namespace Flowline

open Number

/-- A number of a JSON value. -/
inductive Json.Numeral where
  | integer (value : Int)
  | float (value : Binary64)
  deriving DecidableEq, Repr

namespace Json.Numeral

/-- The nearest binary number. -/
def toBinary : Numeral → Binary64
  | integer value => .ofInt value
  | float value => value

/-- Equality of two numbers of one kind; the zeros are equal. -/
def same : Numeral → Numeral → Bool
  | integer left, integer right => left == right
  | float left, float right => left.same right
  | _, _ => false

@[simp] theorem same_self (numeral : Numeral) : numeral.same numeral = true := by
  cases numeral <;> simp [same]

theorem same_comm (left right : Numeral) : left.same right = right.same left := by
  cases left <;> cases right <;> simp [same, Bool.beq_comm, Binary.same_comm]

end Json.Numeral

/-- A JSON value. -/
inductive Json where
  | null
  | bool (value : Bool)
  | number (value : Json.Numeral)
  | string (text : String)
  | array (items : List Json)
  | object (members : List (String × Json))
  deriving Repr, Inhabited

namespace Json

/-- A whole number as a value. -/
def ofInt (value : Int) : Json := .number (.integer value)

/-- A count as a value. -/
def ofNat (value : Nat) : Json := ofInt value

/-- An object of the given members, the last one under a key. -/
def ofMembers (members : List (String × Json)) : Json :=
  .object (Keyed.ofList members)

/-- A text, or null where there is none. -/
def ofText? : Option String → Json
  | some text => .string text
  | none => .null

mutual

/-- Equality of values; numbers of different kinds differ, the floating zeros
do not. -/
def same : Json → Json → Bool
  | null, null => true
  | bool left, bool right => left == right
  | number left, number right => left.same right
  | string left, string right => left == right
  | array left, array right => sameItems left right
  | object left, object right => sameMembers left right
  | _, _ => false
termination_by structural left => left

/-- Equality of the values of two lists in order. -/
def sameItems : List Json → List Json → Bool
  | [], [] => true
  | left :: lefts, right :: rights => left.same right && sameItems lefts rights
  | _, _ => false
termination_by structural lefts => lefts

/-- Equality of the keys and values of two lists in order. -/
def sameMembers : List (String × Json) → List (String × Json) → Bool
  | [], [] => true
  | (leftKey, left) :: lefts, (rightKey, right) :: rights =>
      leftKey == rightKey && left.same right && sameMembers lefts rights
  | _, _ => false
termination_by structural lefts => lefts

end

mutual

private def decideEq : (left right : Json) → Decidable (left = right)
  | null, null => isTrue rfl
  | bool left, bool right => decidable_of_iff (left = right) (by simp)
  | number left, number right => decidable_of_iff (left = right) (by simp)
  | string left, string right => decidable_of_iff (left = right) (by simp)
  | array left, array right =>
      have := decideItems left right
      decidable_of_iff (left = right) (by simp)
  | object left, object right =>
      have := decideMembers left right
      decidable_of_iff (left = right) (by simp)
  | null, bool _ | null, number _ | null, string _ | null, array _ | null, object _
  | bool _, null | bool _, number _ | bool _, string _ | bool _, array _ | bool _, object _
  | number _, null | number _, bool _ | number _, string _ | number _, array _
  | number _, object _
  | string _, null | string _, bool _ | string _, number _ | string _, array _
  | string _, object _
  | array _, null | array _, bool _ | array _, number _ | array _, string _
  | array _, object _
  | object _, null | object _, bool _ | object _, number _ | object _, string _
  | object _, array _ => isFalse (by simp)
termination_by structural left => left

private def decideItems : (left right : List Json) → Decidable (left = right)
  | [], [] => isTrue rfl
  | left :: lefts, right :: rights =>
      have := decideEq left right
      have := decideItems lefts rights
      decidable_of_iff (left = right ∧ lefts = rights) (by simp)
  | [], _ :: _ | _ :: _, [] => isFalse (by simp)
termination_by structural left => left

private def decideMembers : (left right : List (String × Json)) → Decidable (left = right)
  | [], [] => isTrue rfl
  | (leftKey, left) :: lefts, (rightKey, right) :: rights =>
      have := decideEq left right
      have := decideMembers lefts rights
      decidable_of_iff ((leftKey = rightKey ∧ left = right) ∧ lefts = rights) (by simp)
  | [], _ :: _ | _ :: _, [] => isFalse (by simp)
termination_by structural left => left

end

instance : DecidableEq Json := decideEq

end Json

end Flowline
