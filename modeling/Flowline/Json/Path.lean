import Flowline.Json.Basic
import Flowline.Number.Decimal

/-!
# Paths into JSON values

A path is a list of segments.  A segment names the member of an object or counts
the items of an array from zero.
-/

namespace Flowline.Json

open Number

/-- The position that a segment counts: decimal digits, a plus sign in front
being allowed, below two to the power of 64. -/
def indexOf? (segment : String) : Option Nat :=
  let digits := match segment.toList with
    | '+' :: rest => rest
    | rest => rest
  if digits.isEmpty || !digits.all Char.isDigit then none
  else
    let index := digitsValue digits
    if index < UInt64.size then some index else none

/-- The part of a value one segment down. -/
def child? (value : Json) (segment : String) : Option Json :=
  match value with
  | object members => Keyed.get? segment members
  | array items => (indexOf? segment).bind (items[·]?)
  | _ => none

/-- The part of a value at the end of a path. -/
def descend (value : Json) : List String → Option Json
  | [] => some value
  | segment :: rest => (value.child? segment).bind (descend · rest)

@[simp] theorem descend_nil (value : Json) : value.descend [] = some value := rfl

@[simp] theorem descend_cons (value : Json) (segment : String) (rest : List String) :
    value.descend (segment :: rest) = (value.child? segment).bind (descend · rest) := rfl

/-- Descending along two paths, one after the other. -/
theorem descend_append (value : Json) (front back : List String) :
    value.descend (front ++ back) = (value.descend front).bind (descend · back) := by
  induction front generalizing value with
  | nil => rfl
  | cons segment rest ih =>
      simp only [List.cons_append, descend_cons]
      cases value.child? segment with
      | none => rfl
      | some part => exact ih part

end Flowline.Json
