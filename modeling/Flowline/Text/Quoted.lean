import Flowline.Regex.CharSet

/-!
# Quoted texts

A text between double quotes.  Quotes and backslashes within stand behind a
backslash, and characters that cannot be seen by themselves are written by their
number.
-/

namespace Flowline.Text

/-- Characters that cannot be seen by themselves: blanks other than the space,
controls, unassigned characters and marks that join the character before. -/
def isHidden (character : Char) : Bool :=
  let code := character.toNat
  if code < 0x7F then code < 0x20
  else
    (Regex.CharSet.categories ["Cc", "Cf", "Cn", "Co", "Zl", "Zp", "Zs"]).contains code ||
      ((Regex.CharSet.property? "Grapheme_Extend").getD []).contains code

/-- A character between quotes. -/
def quotedChar (character : Char) : List Char :=
  match character with
  | '"' => ['\\', '"']
  | '\\' => ['\\', '\\']
  | '\n' => ['\\', 'n']
  | '\r' => ['\\', 'r']
  | '\t' => ['\\', 't']
  | '\x00' => ['\\', '0']
  | _ =>
      if isHidden character then
        ['\\', 'u', '\x7b'] ++ Nat.toDigits 16 character.toNat ++ ['\x7d']
      else [character]

/-- A text between double quotes. -/
def quoted (text : String) : String :=
  String.ofList ('"' :: text.toList.flatMap quotedChar ++ ['"'])

/-- Texts between double quotes in a list. -/
def quotedList (texts : List String) : String :=
  "[" ++ ", ".intercalate (texts.map quoted) ++ "]"

end Flowline.Text
