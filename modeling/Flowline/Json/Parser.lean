import Flowline.Json.Document

/-!
# Reading JSON text

The grammar of JSON, read from the left.  Blank space is the four characters of
the grammar only.  Every container counts as one level of nesting, and a
container beyond the allowed levels is unreadable, as is a number past the
largest finite one and a text with half of a surrogate pair.
-/

namespace Flowline.Json

open Number

/-- Reads a part of a text from its front and returns the rest. -/
abbrev Reader (α : Type) := List Char → Option (α × List Char)

/-- The blank space of the grammar. -/
def isSpace (character : Char) : Bool :=
  character == ' ' || character == '\t' || character == '\n' || character == '\r'

/-- Drop blank space. -/
def skipSpace (characters : List Char) : List Char :=
  characters.dropWhile isSpace

/-- The value of a digit of the base sixteen. -/
def hexValue? (character : Char) : Option Nat :=
  if character.isDigit then some (character.toNat - '0'.toNat)
  else
    let lower := character.toLower
    if 'a' ≤ lower ∧ lower ≤ 'f' then some (10 + (lower.toNat - 'a'.toNat)) else none

/-- Four digits of the base sixteen. -/
def fourHex (a b c d : Char) : Option Nat := do
  let a ← hexValue? a
  let b ← hexValue? b
  let c ← hexValue? c
  let d ← hexValue? d
  some (((a * 16 + b) * 16 + c) * 16 + d)

/-- The character that stands behind a backslash for another one. -/
def escapedChar? : Char → Option Char
  | '"' => some '"'
  | '\\' => some '\\'
  | '/' => some '/'
  | 'b' => some '\x08'
  | 'f' => some '\x0c'
  | 'n' => some '\n'
  | 'r' => some '\r'
  | 't' => some '\t'
  | _ => none

/-- The code units of a text up to its closing quote.  A character written as
itself is one unit, whatever its code. -/
def readUnits : Reader (List Nat)
  | [] => none
  | '"' :: rest => some ([], rest)
  | '\\' :: 'u' :: a :: b :: c :: d :: rest => do
      let unit ← fourHex a b c d
      let (units, rest) ← readUnits rest
      some (unit :: units, rest)
  | '\\' :: letter :: rest => do
      let character ← escapedChar? letter
      let (units, rest) ← readUnits rest
      some (character.toNat :: units, rest)
  | character :: rest =>
      if character.toNat < 0x20 ∨ character = '\\' then none
      else do
        let (units, rest) ← readUnits rest
        some (character.toNat :: units, rest)

def isHighSurrogate (unit : Nat) : Bool := 0xD800 ≤ unit && unit < 0xDC00

def isLowSurrogate (unit : Nat) : Bool := 0xDC00 ≤ unit && unit < 0xE000

/-- Join surrogate pairs; half a pair has no character. -/
def joinUnits : List Nat → Option (List Char)
  | [] => some []
  | [unit] =>
      if isHighSurrogate unit || isLowSurrogate unit then none else some [Char.ofNat unit]
  | high :: low :: rest =>
      if isHighSurrogate high then
        if isLowSurrogate low then
          (joinUnits rest).map
            (Char.ofNat (0x10000 + (high - 0xD800) * 0x400 + (low - 0xDC00)) :: ·)
        else none
      else if isLowSurrogate high then none
      else (joinUnits (low :: rest)).map (Char.ofNat high :: ·)

/-- A text behind its opening quote; no text where the units do not join. -/
def readText : Reader (Option String) := fun characters => do
  let (units, rest) ← readUnits characters
  some ((joinUnits units).map String.ofList, rest)

/-- The digits before the point: a zero alone, or digits that start with
another one. -/
def readWhole (characters : List Char) : Option (List Char × List Char) :=
  match spanDigits characters with
  | ([], _) => none
  | (['0'], rest) => some (['0'], rest)
  | ('0' :: _, _) => none
  | (digits, rest) => some (digits, rest)

/-- A point and the digits behind it, if there is a point. -/
def readFraction : Reader (Option (List Char))
  | '.' :: rest =>
      match spanDigits rest with
      | ([], _) => none
      | (digits, rest) => some (some digits, rest)
  | rest => some (none, rest)

/-- A power of ten, if there is one. -/
def readPower : Reader (Option Int)
  | letter :: rest =>
      if letter = 'e' ∨ letter = 'E' then
        let (negative, rest) := takeSign rest
        match spanDigits rest with
        | ([], _) => none
        | (digits, rest) =>
            let size : Int := digitsValue digits
            some (some (if negative then -size else size), rest)
      else some (none, letter :: rest)
  | [] => some (none, [])

/-- The number that a literal denotes.  A literal without point and power that
fits 64 bits is whole, except for minus zero; others are floating and must be
finite. -/
def numeralOf (negative : Bool) (whole : List Char) (fraction : Option (List Char))
    (power : Option Int) : Option Numeral :=
  let size := digitsValue whole
  if fraction.isNone && power.isNone && !negative && size < UInt64.size then
    some (.integer size)
  else if fraction.isNone && power.isNone && negative && size != 0 && size ≤ UInt64.size / 2 then
    some (.integer (-size))
  else
    let number : Binary64 :=
      (Decimal.ofParts negative whole (fraction.getD []) (power.getD 0)).toBinary
    if number.isFinite then some (.float number) else none

/-- A number. -/
def readNumber : Reader Document := fun characters => do
  let (negative, characters) := match characters with
    | '-' :: rest => (true, rest)
    | rest => (false, rest)
  let (whole, rest) ← readWhole characters
  let (fraction, rest) ← readFraction rest
  let (power, rest) ← readPower rest
  match numeralOf negative whole fraction power with
  | some numeral => some (.number numeral, rest)
  | none => some (.unreadable, rest)

/-- The items of an array behind its bracket, at least one of them. -/
def readItems (item : Reader Document) : Nat → Reader (List Document)
  | 0, _ => none
  | steps + 1, characters => do
      let (first, rest) ← item characters
      match skipSpace rest with
      | ']' :: rest => some ([first], rest)
      | ',' :: rest => do
          let (items, rest) ← readItems item steps rest
          some (first :: items, rest)
      | _ => none

/-- The members of an object behind its brace, at least one of them. -/
def readMembers (item : Reader Document) :
    Nat → Reader (List (Option String × Document))
  | 0, _ => none
  | steps + 1, characters => do
      match skipSpace characters with
      | '"' :: rest =>
          let (key, rest) ← readText rest
          match skipSpace rest with
          | ':' :: rest =>
              let (value, rest) ← item rest
              match skipSpace rest with
              | '}' :: rest => some ([(key, value)], rest)
              | ',' :: rest =>
                  let (members, rest) ← readMembers item steps rest
                  some ((key, value) :: members, rest)
              | _ => none
          | _ => none
      | _ => none

/-- A container where nesting is still allowed. -/
def Document.within (levels : Nat) (document : Document) : Document :=
  if levels = 0 then .unreadable else document

/-- A document behind blank space.  The first bound covers every level of
nesting in the text; the second is the count of levels that stay readable. -/
def readDocument : Nat → Nat → Reader Document
  | 0, _, _ => none
  | bound + 1, levels, characters =>
      match skipSpace characters with
      | '{' :: rest =>
          match skipSpace rest with
          | '}' :: rest => some (Document.within levels (.object []), rest)
          | rest => do
              let (members, rest) ←
                readMembers (readDocument bound (levels - 1)) rest.length rest
              some (Document.within levels (.object members), rest)
      | '[' :: rest =>
          match skipSpace rest with
          | ']' :: rest => some (Document.within levels (.array []), rest)
          | rest => do
              let (items, rest) ←
                readItems (readDocument bound (levels - 1)) rest.length rest
              some (Document.within levels (.array items), rest)
      | '"' :: rest => do
          let (text, rest) ← readText rest
          some (text.elim Document.unreadable Document.string, rest)
      | 'n' :: 'u' :: 'l' :: 'l' :: rest => some (.null, rest)
      | 't' :: 'r' :: 'u' :: 'e' :: rest => some (.bool true, rest)
      | 'f' :: 'a' :: 'l' :: 's' :: 'e' :: rest => some (.bool false, rest)
      | rest => readNumber rest

/-- How many levels of containers may be nested. -/
def nestingLimit : Nat := 127

/-- The document of a whole text. -/
def Document.parse? (text : String) : Option Document :=
  let characters := text.toList
  match readDocument (characters.length + 1) nestingLimit characters with
  | some (document, rest) => if (skipSpace rest).isEmpty then some document else none
  | none => none

/-- The value of a whole text. -/
def parse? (text : String) : Option Json :=
  (Document.parse? text).bind Document.value?

end Flowline.Json
