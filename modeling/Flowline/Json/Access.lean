import Flowline.Json.Basic

/-!
# Looking into values

Parts of values for readers that take what is there: a part that is missing, or
is of another kind, counts as null or as empty.
-/

namespace Flowline.Json

/-- A member of an object, if it is there. -/
def member? (value : Json) (key : String) : Option Json :=
  match value with
  | object members => Keyed.get? key members
  | _ => none

/-- A member of an object, or null. -/
def field (value : Json) (key : String) : Json := (value.member? key).getD null

def asText? : Json → Option String
  | string text => some text
  | _ => none

def asText (value : Json) : String := value.asText?.getD ""

def asItems : Json → List Json
  | array items => items
  | _ => []

def asMembers : Json → Keyed Json
  | object members => members
  | _ => []

def asCount? : Json → Option Nat
  | number (.integer value) => some value.toNat
  | _ => none

def asCount (value : Json) : Nat := value.asCount?.getD 0

def isTrue : Json → Bool
  | bool value => value
  | _ => false

/-- The members of an object as texts. -/
def asTexts (value : Json) : Keyed String :=
  value.asMembers.map fun (key, member) => (key, member.asText)

/-- The text under a key. -/
def textAt (value : Json) (key : String) : String := (value.field key).asText

/-- The items under a key. -/
def itemsAt (value : Json) (key : String) : List Json := (value.field key).asItems

/-- The count under a key. -/
def countAt (value : Json) (key : String) : Nat := (value.field key).asCount

/-- The item at a place, or null. -/
def item (value : Json) (index : Nat) : Json := value.asItems[index]?.getD null

end Flowline.Json
