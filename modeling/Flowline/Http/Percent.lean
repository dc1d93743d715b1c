/-!
# Percent encoding

Characters that have a meaning of their own in an address, or are not ASCII, are
written as the bytes of their UTF-8 form, each as a percent sign and two
hexadecimal digits.
-/

namespace Flowline.Http

/-- A capital hexadecimal digit. -/
def hexDigit (digit : Nat) : Char := "0123456789ABCDEF".toList.getD digit '0'

/-- A byte behind a percent sign. -/
def percentByte (byte : UInt8) : List Char :=
  ['%', hexDigit (byte.toNat / 16), hexDigit (byte.toNat % 16)]

/-- The bytes of a character behind percent signs. -/
def percentChar (character : Char) : List Char :=
  (String.utf8EncodeChar character).flatMap percentByte

/-- Encode the characters of a class. -/
def percentEncode (encoded : Char → Bool) (characters : List Char) : List Char :=
  characters.flatMap fun character =>
    if encoded character then percentChar character else [character]

/-- Characters that no part of an address may hold as they are. -/
def isControl (character : Char) : Bool :=
  character.toNat < 0x20 || 0x7E < character.toNat

/-- Characters that are encoded behind the number sign. -/
def inFragment (character : Char) : Bool :=
  isControl character || [' ', '"', '<', '>', '\x60'].contains character

/-- Characters that are encoded in a path. -/
def inPath (character : Char) : Bool :=
  inFragment character || ['#', '?', '\x7b', '\x7d'].contains character

/-- Characters that are encoded in a query. -/
def inQuery (character : Char) : Bool :=
  isControl character || [' ', '"', '#', '<', '>', '\x27'].contains character

/-- Characters that stay as they are in a form: letters, figures and four
signs. -/
def isFormPlain (character : Char) : Bool :=
  character.isAlphanum || ['*', '-', '.', '_'].contains character

/-- A text in a form; a space becomes a plus sign. -/
def formEncode (text : String) : List Char :=
  text.toList.flatMap fun character =>
    if character = ' ' then ['+']
    else if isFormPlain character then [character]
    else percentChar character

/-- Named values in a form. -/
def formPairs (pairs : List (String × String)) : List Char :=
  List.intercalate ['&'] (pairs.map fun (key, value) => formEncode key ++ '=' :: formEncode value)

end Flowline.Http
