import Flowline.Keyed
import Flowline.Number.Shortest

/-!
# Settings

Settings form a tree of tables and lists.  They come from several sources that
do not agree on types, so a reader takes a setting of another type as well if it
can be understood: `"12"` as a count, `on` as a flag, a number as a text.
-/

namespace Flowline

open Number

/-- A setting. -/
inductive Setting where
  | flag (value : Bool)
  | integer (value : Int)
  | decimal (value : Binary64)
  /-- The undefined number. -/
  | undefined
  | text (value : String)
  | list (items : List Setting)
  | table (entries : List (String × Setting))
  deriving Repr, Inhabited

namespace Setting

/-- The words for a flag that is on or off. -/
def flagOfWord? (word : String) : Option Bool :=
  match String.ofList (word.toList.map Char.toLower) with
  | "true" | "on" | "yes" => some true
  | "false" | "off" | "no" => some false
  | _ => none

/-- A whole number with an optional plus sign, and a minus sign if negative ones
are allowed. -/
def integerOfText? (allowNegative : Bool) (text : String) : Option Int :=
  let value? (digits : List Char) : Option Nat :=
    if !digits.isEmpty && digits.all Char.isDigit then some (digitsValue digits) else none
  match text.toList with
  | '-' :: digits => if allowNegative then (value? digits).map fun value => -value else none
  | '+' :: digits => (value? digits).map Int.ofNat
  | digits => (value? digits).map Int.ofNat

/-- Whether a number is one of 64 bits with a sign. -/
def isWord (value : Int) : Bool :=
  -Int.ofNat (UInt64.size / 2) ≤ value && value < Int.ofNat (UInt64.size / 2)

/-- Half of the way to the next whole number and more is rounded up. -/
def rounded (number : Binary64) : Nat :=
  if number.negative then 0
  else if !number.isFinite then UInt64.size - 1
  else min ((2 * number.units + Nat.pow 2 1074) / Nat.pow 2 1075) (UInt64.size - 1)

/-- A setting as a count of 64 bits. -/
def count? : Setting → Option Nat
  | integer value => if 0 ≤ value then some value.toNat else none
  | flag value => some (if value then 1 else 0)
  | decimal value => some (rounded value)
  | undefined => some 0
  | text value =>
      match flagOfWord? value with
      | some value => some (if value then 1 else 0)
      | none =>
          (integerOfText? false value).bind fun value =>
            if value.toNat < UInt64.size then some value.toNat else none
  | list _ | table _ => none

/-- A setting as a flag. -/
def flag? : Setting → Option Bool
  | flag value => some value
  | integer value => some (value ≠ 0)
  | decimal value => some (value.units ≠ 0)
  | undefined => some true
  | text "1" => some true
  | text "0" => some false
  | text value => flagOfWord? value
  | list _ | table _ => none

/-- The text of a number: all digits before the point, and a fraction only if it
has one. -/
def decimalText (number : Binary64) : String :=
  if !number.isFinite then if number.negative then "-inf" else "inf"
  else
    let digits := (Layout.render ⟨-400, 400⟩ number).toList
    String.ofList (if ".0".toList.isSuffixOf digits then digits.take (digits.length - 2) else digits)

/-- A setting as a text. -/
def text? : Setting → Option String
  | text value => some value
  | flag value => some (if value then "true" else "false")
  | integer value => some (toString value)
  | decimal value => some (decimalText value)
  | undefined => some "NaN"
  | list _ | table _ => none

def list? {α : Type} (read : Setting → Option α) : Setting → Option (List α)
  | list items => items.mapM read
  | _ => none

/-- The fields of a record: the entries of a table, or the items of a list in
the order of the names. -/
def fields? (names : List String) : Setting → Option (Keyed Setting)
  | table entries => some (.ofList entries)
  | list items => some (.ofList (names.zip items))
  | _ => none

/-- A field that has a value when it is missing. -/
def defaulted {α : Type} (fields : Keyed Setting) (name : String) (read : Setting → Option α)
    (missing : α) : Option α :=
  match Keyed.get? name fields with
  | some setting => read setting
  | none => some missing

/-- A field that must be there. -/
def required {α : Type} (fields : Keyed Setting) (name : String) (read : Setting → Option α) :
    Option α :=
  (Keyed.get? name fields).bind read

mutual

/-- Put a setting under a key.  A table goes into the table that is there, entry
by entry; anything else takes its place. -/
def put (key : String) : Setting → Keyed Setting → Keyed Setting
  | table entries, target =>
      let inner := match Keyed.get? key target with
        | some (table inner) => inner
        | _ => []
      Keyed.insert key (table (putAll entries inner)) target
  | setting, target => Keyed.insert key setting target
termination_by structural setting => setting

def putAll : List (String × Setting) → Keyed Setting → Keyed Setting
  | [], target => target
  | (key, setting) :: rest, target => putAll rest (put key setting target)
termination_by structural entries => entries

end

/-- Put a setting at a path of keys; what is no table on the way becomes one. -/
def putAt : List String → Setting → Keyed Setting → Keyed Setting
  | [], _, target => target
  | [key], setting, target => put key setting target
  | key :: path, setting, target =>
      let inner := match Keyed.get? key target with
        | some (table inner) => inner
        | _ => []
      Keyed.insert key (table (putAt path setting inner)) target

/-- The path that a key with points stands for.  A key that holds other signs is
one step by itself. -/
def pathOf (key : String) : List String :=
  let steps := List.splitOnP (· == '.') key.toList
  let isPlain (step : List Char) :=
    !step.isEmpty && step.all fun c => c.isAlphanum || c = '_' || c = '-'
  if steps.all isPlain then steps.map String.ofList else [key]

end Setting

end Flowline
