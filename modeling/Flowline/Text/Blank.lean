/-!
# Blank characters

The characters that separate words without being seen, and the removal of such
characters from the ends of a text.  The class is the Unicode property
`White_Space`: no-break spaces belong to it, zero-width marks do not.
-/

namespace Flowline.Text

/-- A character with the property `White_Space`. -/
def isBlank (character : Char) : Bool :=
  let code := character.toNat
  (0x9 ≤ code && code ≤ 0xD) || code == 0x20 || code == 0x85 || code == 0xA0 ||
    code == 0x1680 || (0x2000 ≤ code && code ≤ 0x200A) || code == 0x2028 ||
    code == 0x2029 || code == 0x202F || code == 0x205F || code == 0x3000

/-- Drop the blanks at the front. -/
def trimFront (characters : List Char) : List Char :=
  characters.dropWhile isBlank

/-- Drop the blanks at the back. -/
def trimBack (characters : List Char) : List Char :=
  (characters.reverse.dropWhile isBlank).reverse

/-- Drop the blanks at both ends. -/
def trim (characters : List Char) : List Char :=
  trimBack (trimFront characters)

/-- A text without the blanks at its ends. -/
def trimmed (text : String) : String :=
  String.ofList (trim text.toList)

/-- A text that holds nothing but blanks. -/
def isBlankText (text : String) : Bool :=
  text.toList.all isBlank

/-- A text with its ASCII capitals made small; every other character stays. -/
def lowered (text : String) : String :=
  String.ofList (text.toList.map Char.toLower)

@[simp] theorem trim_nil : trim [] = [] := rfl

end Flowline.Text
