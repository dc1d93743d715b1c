import Flowline.Http.Percent
import Flowline.Number.Decimal

/-!
# Web addresses

Addresses are read generously and written in one normal form: blanks around them
do not count, schemes and hosts are in small letters, the number behind a host is
left out if it is the usual one of the scheme, steps up in a path are taken, and
special characters are percent encoded.  Hosts are ASCII names or numbers.
-/

namespace Flowline.Http

open Number

/-- A web address in parts; path, query and fragment are encoded. -/
structure Address where
  scheme : String
  /-- The host, if the address names one. -/
  host : Option String := none
  /-- The number behind the host, unless it is the usual one of the scheme. -/
  portNumber : Option Nat := none
  path : String
  query : Option String := none
  fragment : Option String := none
  deriving DecidableEq, Repr

namespace Address

/-- The numbers that are usual for the schemes of the web. -/
def usualPortNumber? : String → Option Nat
  | "http" | "ws" => some 80
  | "https" | "wss" => some 443
  | "ftp" => some 21
  | _ => none

/-- Whether addresses of a scheme always have a host and a path of steps. -/
def isSpecial (scheme : String) : Bool := (usualPortNumber? scheme).isSome

/-- An address without the blanks around it and the line breaks within. -/
def bare (text : String) : List Char :=
  let trimmed := (text.toList.dropWhile (· ≤ ' ')).reverse.dropWhile (· ≤ ' ')
  trimmed.reverse.filter fun c => c ≠ '\t' && c ≠ '\n' && c ≠ '\r'

/-- The scheme in front of the first colon. -/
def takeScheme? (characters : List Char) : Option (String × List Char) :=
  let (scheme, rest) := characters.span (· ≠ ':')
  match scheme, rest with
  | first :: more, _ :: rest =>
      if first.isAlpha && more.all (fun c => c.isAlphanum || ['+', '-', '.'].contains c) then
        some (String.ofList (scheme.map Char.toLower), rest)
      else none
  | _, _ => none

/-- Split at the last occurrence of a character. -/
def cutLast? (mark : Char) (characters : List Char) : Option (List Char × List Char) :=
  let (after, before) := characters.reverse.span (· ≠ mark)
  match before with
  | _ :: before => some (before.reverse, after.reverse)
  | [] => none

/-- The value of digits in a base. -/
def numberIn? (base : Nat) (digits : List Char) : Option Nat :=
  digits.foldlM (fun value digit =>
    match "0123456789abcdef".toList.idxOf? digit.toLower with
    | some d => if d < base then some (base * value + d) else none
    | none => none) 0

/-- One part of a numerical host: decimal, octal behind a zero, or hexadecimal
behind a zero and an x. -/
def hostNumber? : List Char → Option Nat
  | [] => none
  | '0' :: 'x' :: digits | '0' :: 'X' :: digits => numberIn? 16 digits
  | ['0'] => some 0
  | '0' :: digits => numberIn? 8 digits
  | digits => numberIn? 10 digits

/-- The four bytes of a numerical host.  The last part stands for all bytes that
are left. -/
def hostBytes? (parts : List (List Char)) : Option (List Nat) := do
  let numbers ← parts.mapM hostNumber?
  let last ← numbers.getLast?
  let leading := numbers.dropLast
  if 4 < numbers.length || leading.any (255 < ·) || Nat.pow 256 (4 - leading.length) ≤ last then none
  else
    let value := leading.zipIdx.foldl (fun sum (n, i) => sum + n * Nat.pow 256 (3 - i)) last
    some [value / 0x1000000 % 256, value / 0x10000 % 256, value / 0x100 % 256, value % 256]

/-- Whether a host ends in a number, so that all of it must be one. -/
def isNumerical (parts : List (List Char)) : Bool :=
  match parts.getLast? with
  | some last => !last.isEmpty && (last.all Char.isDigit || (hostNumber? last).isSome)
  | none => false

/-- Characters that a host cannot hold. -/
def isForbiddenInHost (character : Char) : Bool :=
  isControl character || " #/:<>?@[\\]^|%".toList.contains character

/-- A host in normal form. -/
def host? (characters : List Char) : Option String :=
  match characters with
  | [] => none
  | '[' :: inner =>
      let digits := inner.dropLast
      if inner.getLast? = some ']' &&
          digits.all (fun c => c = ':' || c = '.' || (numberIn? 16 [c]).isSome) then
        some (String.ofList (characters.map Char.toLower))
      else none
  | _ =>
      let name := characters.map Char.toLower
      if name.any isForbiddenInHost then none
      else
        let parts := List.splitOnP (· == '.') name
        let parts := if 1 < parts.length && parts.getLast? = some [] then parts.dropLast else parts
        if isNumerical parts then
          (hostBytes? parts).map fun bytes => ".".intercalate (bytes.map fun byte => s!"{byte}")
        else some (String.ofList name)

/-- The number behind a colon; none is written as nothing. -/
def portNumber? (digits : List Char) : Option (Option Nat) :=
  if digits.isEmpty then some none
  else if digits.all Char.isDigit && digitsValue digits < 65536 then some (digitsValue digits)
  else none

/-- The host of an authority and the number behind it.  Names and passwords
before an at sign are not part of the address. -/
def authority? (scheme : String) (characters : List Char) : Option (String × Option Nat) :=
  let site := match cutLast? '@' characters with
    | some (_, site) => site
    | none => characters
  let (host, digits) := match cutLast? ':' site with
    | some (host, digits) => if digits.contains ']' then (site, []) else (host, digits)
    | none => (site, [])
  match host? host, portNumber? digits with
  | some host, some number =>
      some (host, if number = usualPortNumber? scheme then none else number)
  | _, _ => none

/-- The characters of a step with its encoded dots as dots. -/
def plainDots : List Char → List Char
  | '%' :: '2' :: 'e' :: rest => '.' :: plainDots rest
  | character :: rest => character :: plainDots rest
  | [] => []

/-- A step of a path, dots possibly encoded. -/
def stepName (step : List Char) : String :=
  String.ofList (plainDots (step.map Char.toLower))

/-- Take the steps of a path one after the other: a dot stays, two dots go up.
The steps taken so far are the last ones first. -/
def takeSteps (taken : List (List Char)) : List (List Char) → List (List Char)
  | [] => taken.reverse
  | step :: rest =>
      let taken := match stepName step with
        | "." => if rest.isEmpty then [] :: taken else taken
        | ".." => if rest.isEmpty then [] :: taken.drop 1 else taken.drop 1
        | _ => step :: taken
      takeSteps taken rest

/-- A path of steps in normal form. -/
def pathText (characters : List Char) : String :=
  let separated := characters.map fun c => if c = '\\' then '/' else c
  let steps := List.splitOnP (· == '/') (if separated.head? = some '/' then separated.tail else separated)
  let taken := takeSteps [] steps
  String.ofList (taken.flatMap fun step => '/' :: percentEncode inPath step)

/-- Split off a query and a fragment. -/
def takeTail (characters : List Char) : List Char × Option String × Option String :=
  let (front, fragment) := characters.span (· ≠ '#')
  let (path, query) := front.span (· ≠ '?')
  let query := match query with
    | [] => none
    | _ :: query => some (String.ofList (percentEncode inQuery query))
  let fragment := match fragment with
    | [] => none
    | _ :: fragment => some (String.ofList (percentEncode inFragment fragment))
  (path, query, fragment)

/-- Read an address. -/
def parse? (text : String) : Option Address := do
  let (scheme, rest) ← takeScheme? (bare text)
  if isSpecial scheme then
    let (site, rest) := (rest.dropWhile fun c => c = '/' || c = '\\').span fun c =>
      c ∉ ['/', '\\', '?', '#']
    let (host, portNumber) ← authority? scheme site
    let (path, query, fragment) := takeTail rest
    some { scheme, host := some host, portNumber, path := pathText path, query, fragment }
  else
    let (path, query, fragment) := takeTail rest
    some { scheme, path := String.ofList (percentEncode isControl path), query, fragment }

/-- The written form of an address. -/
def text (address : Address) : String :=
  let site := match address.host with
    | some host => "//" ++ host ++ (match address.portNumber with
        | some number => s!":{number}"
        | none => "")
    | none => ""
  let query := match address.query with
    | some query => "?" ++ query
    | none => ""
  let fragment := match address.fragment with
    | some fragment => "#" ++ fragment
    | none => ""
  address.scheme ++ ":" ++ site ++ address.path ++ query ++ fragment

/-- Append named values to the query; a query without any text is left out. -/
def withQuery (address : Address) (pairs : List (String × String)) : Address :=
  let added := String.ofList (formPairs pairs)
  let query := match address.query with
    | none | some "" => added
    | some query => if pairs.isEmpty then query else query ++ "&" ++ added
  { address with query := if query.isEmpty then none else some query }

/-- Whether requests can be sent to an address. -/
def isWeb (address : Address) : Bool :=
  (address.scheme = "http" || address.scheme = "https") && address.host.isSome

end Address

end Flowline.Http
