import Flowline.Text.Split
import Flowline.Regex.CaseFolding
import Flowline.Regex.GeneralCategory
import Flowline.Regex.Property
import Flowline.Regex.Script

/-!
# Sets of characters

A set of characters is a list of ranges of codes, ascending and apart from each
other.  Named sets come from the tables of the Unicode properties; the names are
compared without regard to case, blanks, hyphens and underscores.
-/

namespace Flowline.Regex

open Text

/-- Ranges of codes with both ends included, ascending and with gaps between
them. -/
abbrev CharSet := List (Nat × Nat)

namespace CharSet

/-- The greatest code of a character. -/
def lastCode : Nat := 0x10FFFF

def contains (set : CharSet) (code : Nat) : Bool :=
  set.any fun (first, last) => first ≤ code && code ≤ last

/-- Join ranges that are sorted by their first codes. -/
def join : CharSet → CharSet
  | [] => []
  | (first, last) :: rest =>
      match join rest with
      | [] => [(first, last)]
      | (next, bound) :: others =>
          if next ≤ last + 1 then (first, max last bound) :: others
          else (first, last) :: (next, bound) :: others

/-- The set of some ranges in any order. -/
def ofRanges (ranges : List (Nat × Nat)) : CharSet :=
  join (ranges.mergeSort fun left right => left.1 ≤ right.1)

def union (left right : CharSet) : CharSet := ofRanges (left ++ right)

/-- The codes from a start to an end that a set leaves out. -/
def gaps (start bound : Nat) : CharSet → CharSet
  | [] => if start ≤ bound then [(start, bound)] else []
  | (first, last) :: rest =>
      if start < first then (start, first - 1) :: gaps (last + 1) bound rest
      else gaps (last + 1) bound rest

/-- Every other code up to a bound. -/
def complement (bound : Nat) (set : CharSet) : CharSet := gaps 0 bound set

def intersection (bound : Nat) (left right : CharSet) : CharSet :=
  complement bound (union (complement bound left) (complement bound right))

def difference (bound : Nat) (left right : CharSet) : CharSet :=
  intersection bound left (complement bound right)

def symmetricDifference (bound : Nat) (left right : CharSet) : CharSet :=
  union (difference bound left right) (difference bound right left)

/-- The value of a numeral in the base 16. -/
def hexNumber (digits : List Char) : Nat :=
  digits.foldl
    (fun value digit =>
      16 * value + (if digit.isDigit then digit.toNat - '0'.toNat
        else digit.toNat - 'A'.toNat + 10)) 0

/-- The words of a table. -/
def words (text : String) : List (List Char) :=
  ((splitOn ' ' (text.toList.map fun c => if c = '\n' then ' ' else c))).filter (!·.isEmpty)

/-- The ranges of a table's text. -/
def ofTable (text : String) : CharSet :=
  ((words text).foldl
    (fun (state : Nat × CharSet) word =>
      let first := state.1 + hexNumber (word.takeWhile (· ≠ '+'))
      let last := first + hexNumber ((word.dropWhile (· ≠ '+')).drop 1)
      (last, (first, last) :: state.2))
    (0, [])).2.reverse

/-- The characters of one class that differ in case only. -/
def caseClass (word : List Char) : List Nat :=
  match splitOn '+' word with
  | first :: steps =>
      (steps.foldl (fun (codes : List Nat) step => (codes.headD 0 + hexNumber step) :: codes)
        [hexNumber first])
  | [] => []

/-- A set with every character that differs from one of its own in case only. -/
def caseClosure (set : CharSet) : CharSet :=
  let added := (words caseClasses).flatMap fun word =>
    let codes := caseClass word
    if codes.any set.contains then codes.map fun code => (code, code) else []
  union set (ofRanges added)

/-- A set with the other case of its ASCII letters. -/
def asciiCaseClosure (set : CharSet) : CharSet :=
  let added := ("abcdefghijklmnopqrstuvwxyz".toList.map Char.toNat).flatMap fun small =>
    if set.contains small || set.contains (small - 32) then [(small, small), (small - 32, small - 32)]
    else []
  union set (ofRanges added)

/-- A name in the form in which names are compared.  A leading `is` does not
count, unless only the letter `c` would be left. -/
def plainName (name : String) : String :=
  let letters := (name.toList.filter fun c => c.toNat < 128)
  let lower := letters.map Char.toLower
  let kept (cs : List Char) := cs.filter fun c => c ≠ ' ' ∧ c ≠ '_' ∧ c ≠ '-'
  match lower with
  | 'i' :: 's' :: rest =>
      if kept rest = ['c'] then "isc" else String.ofList (kept rest)
  | other => String.ofList (kept other)

/-- The set under a name of a table. -/
def named? (table : List (List String × String)) (plain : String) : Option CharSet :=
  (table.find? fun entry => entry.1.any fun name => plainName name = plain).map
    fun entry => ofTable entry.2

/-- The union of some general categories, given by their short names. -/
def categories (names : List String) : CharSet :=
  ofRanges (names.flatMap fun name => (named? generalCategories (plainName name)).getD [])

/-- The groups of general categories: their names and their members. -/
def categoryGroups : List (List String × List String) := [
  (["C", "Other"], ["Cc", "Cf", "Cn", "Co"]),
  (["L", "Letter"], ["Lu", "Ll", "Lt", "Lm", "Lo"]),
  (["LC", "Cased_Letter"], ["Lu", "Ll", "Lt"]),
  (["M", "Mark", "Combining_Mark"], ["Mc", "Me", "Mn"]),
  (["N", "Number"], ["Nd", "Nl", "No"]),
  (["P", "Punctuation", "Punct"], ["Pc", "Pd", "Pe", "Pf", "Pi", "Po", "Ps"]),
  (["S", "Symbol"], ["Sc", "Sk", "Sm", "So"]),
  (["Z", "Separator"], ["Zl", "Zp", "Zs"]),
  (["Assigned"], ["Lu", "Ll", "Lt", "Lm", "Lo", "Mc", "Me", "Mn", "Nd", "Nl", "No", "Pc", "Pd",
    "Pe", "Pf", "Pi", "Po", "Ps", "Sc", "Sk", "Sm", "So", "Zl", "Zp", "Zs", "Cc", "Cf", "Co"])]

/-- The set of a general category or a group of them. -/
def generalCategory? (plain : String) : Option CharSet :=
  if plain = "any" then some [(0, lastCode)]
  else if plain = "ascii" then some [(0, 0x7F)]
  else
    match categoryGroups.find? fun group => group.1.any fun name => plainName name = plain with
    | some (_, members) => some (categories members)
    | none => named? generalCategories plain

/-- The set of a property, a category or a script named alone.  Three short
names of categories and scripts also name properties with values, and then the
category or script is meant. -/
def property? (name : String) : Option CharSet :=
  let plain := plainName name
  let binary := if plain = "cf" ∨ plain = "sc" ∨ plain = "lc" then none
    else named? binaryProperties plain
  binary.or ((generalCategory? plain).or (named? scripts plain))

/-- The set of the characters for which a property has a value. -/
def propertyValue? (property value : String) : Option CharSet :=
  match plainName property with
  | "gc" | "generalcategory" => generalCategory? (plainName value)
  | "sc" | "script" => named? scripts (plainName value)
  | _ => none

/-- Decimal digits. -/
def digits : CharSet := categories ["Nd"]

/-- Blank characters. -/
def blanks : CharSet := (named? binaryProperties "whitespace").getD []

/-- Characters of words: letters, marks, digits, connectors and joiners. -/
def wordChars : CharSet :=
  ofRanges (((named? binaryProperties "alphabetic").getD []) ++
    categories ["Mn", "Mc", "Me", "Nd", "Pc"] ++
    (named? binaryProperties "joincontrol").getD [])

def asciiDigits : CharSet := [(0x30, 0x39)]

def asciiBlanks : CharSet := [(0x9, 0xD), (0x20, 0x20)]

def asciiWordChars : CharSet := [(0x30, 0x39), (0x41, 0x5A), (0x5F, 0x5F), (0x61, 0x7A)]

/-- The ASCII sets that have a name between colons. -/
def asciiNamed? (name : String) : Option CharSet :=
  match name with
  | "alnum" => some [(0x30, 0x39), (0x41, 0x5A), (0x61, 0x7A)]
  | "alpha" => some [(0x41, 0x5A), (0x61, 0x7A)]
  | "ascii" => some [(0, 0x7F)]
  | "blank" => some [(0x9, 0x9), (0x20, 0x20)]
  | "cntrl" => some [(0, 0x1F), (0x7F, 0x7F)]
  | "digit" => some asciiDigits
  | "graph" => some [(0x21, 0x7E)]
  | "lower" => some [(0x61, 0x7A)]
  | "print" => some [(0x20, 0x7E)]
  | "punct" => some [(0x21, 0x2F), (0x3A, 0x40), (0x5B, 0x60), (0x7B, 0x7E)]
  | "space" => some asciiBlanks
  | "upper" => some [(0x41, 0x5A)]
  | "word" => some asciiWordChars
  | "xdigit" => some [(0x30, 0x39), (0x41, 0x46), (0x61, 0x66)]
  | _ => none

end CharSet

end Flowline.Regex
