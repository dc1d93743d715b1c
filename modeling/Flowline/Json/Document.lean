import Flowline.Json.Basic

/-!
# JSON documents

A JSON text is first read into a document, which keeps the members of an object
as they were written, repeated keys included.  Some parts of a text are formally
correct and yet have no value: a number that is too large, a text with half of a
surrogate pair, and anything nested too deeply.  They become unreadable leaves,
which a reader may skip but not use.
-/

namespace Flowline.Json

open Number

/-- The tree of a JSON text. -/
inductive Document where
  | null
  | bool (value : Bool)
  | number (value : Numeral)
  | string (text : String)
  | array (items : List Document)
  /-- Members as written; an unreadable key has no text. -/
  | object (members : List (Option String × Document))
  | unreadable
  deriving Repr, Inhabited

namespace Document

mutual

/-- The value of a document, if every part of it is readable.  Of the members
under one key the last counts. -/
def value? : Document → Option Json
  | null => some .null
  | bool value => some (.bool value)
  | number value => some (.number value)
  | string text => some (.string text)
  | array items => (valueItems items).map Json.array
  | object members => (valueMembers members).map Json.ofMembers
  | unreadable => none
termination_by structural document => document

def valueItems : List Document → Option (List Json)
  | [] => some []
  | item :: rest =>
      match item.value?, valueItems rest with
      | some value, some values => some (value :: values)
      | _, _ => none
termination_by structural items => items

def valueMembers : List (Option String × Document) → Option (List (String × Json))
  | [] => some []
  | (key, member) :: rest =>
      match key, member.value?, valueMembers rest with
      | some key, some value, some values => some ((key, value) :: values)
      | _, _, _ => none
termination_by structural members => members

end

mutual

/-- The document that writes a value. -/
def ofValue : Json → Document
  | .null => null
  | .bool value => bool value
  | .number value => number value
  | .string text => string text
  | .array items => array (ofItems items)
  | .object members => object (ofMembers members)
termination_by structural value => value

def ofItems : List Json → List Document
  | [] => []
  | item :: rest => ofValue item :: ofItems rest
termination_by structural items => items

def ofMembers : List (String × Json) → List (Option String × Document)
  | [] => []
  | (key, value) :: rest => (some key, ofValue value) :: ofMembers rest
termination_by structural members => members

end

end Document

end Flowline.Json
