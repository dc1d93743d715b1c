/-!
# Identifiers

Workflows and runs are named by 128-bit identifiers.  The text of one is its
base-32 numeral of 26 digits, most significant first, so texts sort as the
numbers do.  The display form puts a word for the kind in front.
-/

namespace Flowline

/-- A 128-bit identifier: 48 bits of time above 80 random bits. -/
structure Ulid where
  bits : BitVec 128
  deriving DecidableEq, Repr

namespace Ulid

/-- The digits of the base 32: figures and capitals without I, L, O and U. -/
def alphabet : List Char := "0123456789ABCDEFGHJKMNPQRSTVWXYZ".toList

/-- Count of digits in the text of an identifier. -/
def width : Nat := 26

/-- The lowest digits of a number in the base 32, most significant first. -/
def digits : Nat → Nat → List Nat
  | 0, _ => []
  | count + 1, value => digits count (value / 32) ++ [value % 32]

/-- The character of a digit. -/
def digitChar (digit : Nat) : Char := alphabet.getD digit '0'

/-- The digit of a character in either case. -/
def digitOf? (character : Char) : Option Nat :=
  alphabet.idxOf? character.toUpper

/-- The text of an identifier. -/
def text (ulid : Ulid) : String :=
  String.ofList ((digits width ulid.bits.toNat).map digitChar)

/-- Why a text is no identifier. -/
inductive ParseError where
  | invalidLength
  | invalidCharacter
  deriving DecidableEq, Repr

def ParseError.message : ParseError → String
  | invalidLength => "invalid length"
  | invalidCharacter => "invalid character"

/-- Read the digits of an identifier; bits above the width are lost. -/
def ofDigits (digits : List Nat) : Ulid :=
  ⟨BitVec.ofNat 128 (digits.foldl (fun value digit => 32 * value + digit) 0)⟩

/-- Read the text of an identifier.  The length is that of the encoded text in
bytes, and it is looked at first. -/
def parse (text : String) : Except ParseError Ulid :=
  if text.utf8ByteSize ≠ width then .error .invalidLength
  else
    match text.toList.mapM digitOf? with
    | some digits => .ok (ofDigits digits)
    | none => .error .invalidCharacter

/-- An identifier made at a time in milliseconds with random bits. -/
def ofParts (time : BitVec 48) (random : BitVec 80) : Ulid :=
  ⟨time ++ random⟩

/-- The order of identifiers is that of their numbers. -/
def before (left right : Ulid) : Bool :=
  left.bits.toNat < right.bits.toNat

end Ulid

/-- What an identifier names. -/
inductive IdentKind where
  | workflow
  | execution
  deriving DecidableEq, Repr

namespace IdentKind

/-- The word in front of the display form. -/
def word : IdentKind → String
  | workflow => "wf"
  | execution => "exec"

/-- The name of the identifier's type. -/
def typeName : IdentKind → String
  | workflow => "WorkflowId"
  | execution => "ExecutionId"

end IdentKind

/-- An identifier of one kind. -/
structure Ident (kind : IdentKind) where
  ulid : Ulid
  deriving DecidableEq, Repr

abbrev WorkflowId := Ident .workflow
abbrev ExecutionId := Ident .execution

namespace Ident

variable {kind : IdentKind}

/-- The form shown to people. -/
def display (ident : Ident kind) : String :=
  kind.word ++ "_" ++ ident.ulid.text

/-- The text without the word of the kind in front, if that is there. -/
def bareText (kind : IdentKind) (text : String) : String :=
  let mark := (kind.word ++ "_").toList
  if mark.isPrefixOf text.toList then String.ofList (text.toList.drop mark.length) else text

/-- Read an identifier in its display form or as the bare text. -/
def parse (kind : IdentKind) (text : String) : Except Ulid.ParseError (Ident kind) :=
  (Ulid.parse (bareText kind text)).map Ident.mk

/-- What is said of a text that is no identifier. -/
def parseMessage (kind : IdentKind) (error : Ulid.ParseError) : String :=
  s!"failed to parse {kind.typeName}: {error.message}"

end Ident

end Flowline
