import Flowline.Json.Basic
import Flowline.Number.Shortest

/-!
# JSON text

The compact text of a value, without spaces, and the indented one, with one
member or item a line.
-/

namespace Flowline.Json

open Number

/-- Numbers from a hundred-thousandth to ten to the sixteenth are written
positionally. -/
def numberLayout : Layout := ⟨-5, 16⟩

def Numeral.render : Numeral → String
  | .integer value => toString value
  | .float value => numberLayout.render value

/-- A digit of the base sixteen. -/
def hexDigit (value : Nat) : Char :=
  if value < 10 then Char.ofNat ('0'.toNat + value)
  else Char.ofNat ('a'.toNat + (value - 10))

/-- The written form of one character of a text. -/
def escape (character : Char) : List Char :=
  match character with
  | '"' => ['\\', '"']
  | '\\' => ['\\', '\\']
  | '\n' => ['\\', 'n']
  | '\r' => ['\\', 'r']
  | '\t' => ['\\', 't']
  | '\x08' => ['\\', 'b']
  | '\x0c' => ['\\', 'f']
  | character =>
      if character.toNat < 0x20 then
        ['\\', 'u', '0', '0', hexDigit (character.toNat / 16), hexDigit (character.toNat % 16)]
      else [character]

/-- A text between quotes. -/
def quote (text : String) : List Char :=
  '"' :: text.toList.flatMap escape ++ ['"']

mutual

/-- The compact text of a value. -/
def compactChars : Json → List Char
  | null => "null".toList
  | bool value => (if value then "true" else "false").toList
  | number value => value.render.toList
  | string text => quote text
  | array items => '[' :: compactItems items ++ [']']
  | object members => '{' :: compactMembers members ++ ['}']
termination_by structural value => value

def compactItems : List Json → List Char
  | [] => []
  | [item] => compactChars item
  | item :: rest => compactChars item ++ ',' :: compactItems rest
termination_by structural items => items

def compactMembers : List (String × Json) → List Char
  | [] => []
  | [(key, value)] => quote key ++ ':' :: compactChars value
  | (key, value) :: rest => quote key ++ ':' :: compactChars value ++ ',' :: compactMembers rest
termination_by structural members => members

end

/-- The compact text of a value. -/
def compact (value : Json) : String :=
  String.ofList value.compactChars

/-- A new line at a depth of nesting. -/
def newLine (depth : Nat) : List Char :=
  '\n' :: List.replicate (2 * depth) ' '

mutual

/-- The indented text of a value at a depth of nesting. -/
def indentedChars (depth : Nat) : Json → List Char
  | array [] => ['[', ']']
  | object [] => ['{', '}']
  | array items => '[' :: indentedItems (depth + 1) items ++ newLine depth ++ [']']
  | object members => '{' :: indentedMembers (depth + 1) members ++ newLine depth ++ ['}']
  | value => compactChars value
termination_by structural value => value

def indentedItems (depth : Nat) : List Json → List Char
  | [] => []
  | [item] => newLine depth ++ indentedChars depth item
  | item :: rest =>
      newLine depth ++ indentedChars depth item ++ ',' :: indentedItems depth rest
termination_by structural items => items

def indentedMembers (depth : Nat) : List (String × Json) → List Char
  | [] => []
  | [(key, value)] => newLine depth ++ quote key ++ [':', ' '] ++ indentedChars depth value
  | (key, value) :: rest =>
      newLine depth ++ quote key ++ [':', ' '] ++ indentedChars depth value ++
        ',' :: indentedMembers depth rest
termination_by structural members => members

end

/-- The indented text of a value. -/
def indented (value : Json) : String :=
  String.ofList (value.indentedChars 0)

end Flowline.Json
