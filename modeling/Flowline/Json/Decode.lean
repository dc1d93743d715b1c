import Flowline.Json.Document
import Flowline.Json.Parser

/-!
# Decoding documents

Readers of typed values from documents.  A record is an object whose unknown
members do not count and whose known members stand only once, or a list of its
fields in order, from whose end fields may be missing.
-/

namespace Flowline.Json

open Number

namespace Document

def text? : Document → Option String
  | string text => some text
  | _ => none

def bool? : Document → Option Bool
  | bool value => some value
  | _ => none

/-- A whole number from zero to below a bound. -/
def natBelow? (bound : Nat) : Document → Option Nat
  | number (.integer value) =>
      if 0 ≤ value ∧ value < bound then some value.toNat else none
  | _ => none

/-- A count of 32 bits. -/
def count32? : Document → Option Nat := natBelow? UInt32.size

/-- A count of 64 bits. -/
def count64? : Document → Option Nat := natBelow? UInt64.size

/-- A number in the format of 32 bits. -/
def binary32? : Document → Option Binary32
  | number (.integer value) => some (.ofInt value)
  | number (.float value) => some value.convert
  | _ => none

/-- Nothing: an object, whose members do not count, or a list without items. -/
def nothing? : Document → Option Unit
  | object _ | array [] => some ()
  | _ => none

/-- The items of a list, each read in the same way. -/
def list? {α : Type} (read : Document → Option α) : Document → Option (List α)
  | array items => items.mapM read
  | _ => none

/-- Null as nothing, and any other document read. -/
def optional? {α : Type} (read : Document → Option α) : Document → Option (Option α)
  | null => some none
  | document => (read document).map some

/-- An object read as keyed values; of several under one key the last stays. -/
def keyed? {α : Type} (read : Document → Option α) : Document → Option (Keyed α)
  | object members =>
      (members.mapM fun (entry : Option String × Document) =>
        match entry.1, read entry.2 with
        | some key, some value => some (key, value)
        | _, _ => none).map Keyed.ofList
  | _ => none

/-- An object read as a free one. -/
def members? (document : Document) : Option (Keyed Json) :=
  match document.value? with
  | some (.object members) => some members
  | _ => none

/-- One of several names: a text, or an object with the name as its only key
and nothing under it.  Where the whole was set aside before it was looked into,
an empty object counts as nothing too. -/
def oneOf? {α : Type} (setAside : Bool) (names : List (String × α)) (document : Document) :
    Option α :=
  match document with
  | string name => Keyed.get? name names
  | object [(some name, null)] => Keyed.get? name names
  | object [(some name, object [])] => if setAside then Keyed.get? name names else none
  | _ => none

mutual

/-- Whether no part of a document is unreadable. -/
def readable : Document → Bool
  | unreadable => false
  | array items => readableItems items
  | object members => readableMembers members
  | _ => true
termination_by structural document => document

def readableItems : List Document → Bool
  | [] => true
  | item :: rest => item.readable && readableItems rest
termination_by structural items => items

def readableMembers : List (Option String × Document) → Bool
  | [] => true
  | (key, member) :: rest => key.isSome && member.readable && readableMembers rest
termination_by structural members => members

end

/-- The fields of a record that are there. -/
structure Record where
  /-- Whether the fields were given in order and not by name. -/
  inOrder : Bool
  found : List (String × Document)

/-- The known members of an object; every key must be readable, and no known
one may be repeated. -/
def knownMembers? (names : List String) :
    List (Option String × Document) → Option (List (String × Document))
  | [] => some []
  | (none, _) :: _ => none
  | (some key, member) :: rest =>
      match knownMembers? names rest with
      | none => none
      | some found =>
          if names.contains key then
            if (Keyed.get? key found).isSome then none else some ((key, member) :: found)
          else some found

/-- The fields of a record with the given names. -/
def record? (names : List String) : Document → Option Record
  | object members => (knownMembers? names members).map (Record.mk false)
  | array items =>
      if items.length ≤ names.length then some ⟨true, names.zip items⟩ else none
  | _ => none

namespace Record

/-- A field that must be there. -/
def required {α : Type} (record : Record) (name : String) (read : Document → Option α) :
    Option α :=
  (Keyed.get? name record.found).bind read

/-- A field that has a value when it is missing. -/
def defaulted {α : Type} (record : Record) (name : String) (read : Document → Option α)
    (missing : α) : Option α :=
  match Keyed.get? name record.found with
  | some document => read document
  | none => some missing

/-- A field that may be null or missing. -/
def optional {α : Type} (record : Record) (name : String) (read : Document → Option α) :
    Option (Option α) :=
  record.defaulted name (optional? read) none

/-- A field that may be null, and may be missing where fields have names. -/
def namedOptional {α : Type} (record : Record) (name : String) (read : Document → Option α) :
    Option (Option α) :=
  match Keyed.get? name record.found with
  | some document => optional? read document
  | none => if record.inOrder then none else some none

end Record

/-- Split off the tag of a tagged union: the member named `type`, or the first
item of a list.  The rest is set aside as a whole, so all of it must be
readable. -/
def tagged? : Document → Option (String × Document)
  | object members =>
      if readableMembers members then
        match members.filter (·.1 == some "type") with
        | [(_, string tag)] => some (tag, object (members.filter (·.1 != some "type")))
        | _ => none
      else none
  | array (string tag :: items) =>
      if readableItems items then some (tag, array items) else none
  | _ => none

end Document

end Flowline.Json
