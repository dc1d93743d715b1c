import Flowline.Number.Decimal
import Flowline.Text.Blank

/-!
# Instants

Points in time with nanoseconds, counted from the start of the year 1970 in
universal time.  They are written in the extended form of RFC 3339 with the
letter `Z` and read from a more generous one: any offset from universal time,
blanks around the parts, and a space between the date and the time of day.
-/

namespace Flowline

open Number Text

/-- A point in time.  Within a leap second the fraction is a second or more. -/
structure Instant where
  seconds : Int
  nanoseconds : Nat
  deriving DecidableEq, Repr, Inhabited

/-- A day of the calendar. -/
structure CalendarDay where
  year : Int
  month : Nat
  day : Nat
  deriving DecidableEq, Repr

namespace CalendarDay

def isLeapYear (year : Int) : Bool :=
  year % 4 = 0 && (year % 100 ≠ 0 || year % 400 = 0)

def daysInMonth (year : Int) (month : Nat) : Nat :=
  if month = 2 then if isLeapYear year then 29 else 28
  else if month = 4 ∨ month = 6 ∨ month = 9 ∨ month = 11 then 30
  else 31

/-- Whether there is such a day. -/
def exists? (date : CalendarDay) : Bool :=
  1 ≤ date.month && date.month ≤ 12 && 1 ≤ date.day &&
    date.day ≤ daysInMonth date.year date.month

/-- The count of days from the start of 1970.  Years begin in March here, so the
leap day ends a year, and 400 years are one cycle. -/
def toDays (date : CalendarDay) : Int :=
  let year := if date.month ≤ 2 then date.year - 1 else date.year
  let cycle := year.fdiv 400
  let yearOfCycle := year - cycle * 400
  let month := (date.month + 9) % 12
  let dayOfYear : Int := (153 * month + 2) / 5 + date.day - 1
  let dayOfCycle := yearOfCycle * 365 + yearOfCycle / 4 - yearOfCycle / 100 + dayOfYear
  cycle * 146097 + dayOfCycle - 719468

/-- The day at a count of days from the start of 1970. -/
def ofDays (days : Int) : CalendarDay :=
  let shifted := days + 719468
  let cycle := shifted.fdiv 146097
  let dayOfCycle := (shifted - cycle * 146097).toNat
  let yearOfCycle :=
    (dayOfCycle - dayOfCycle / 1460 + dayOfCycle / 36524 - dayOfCycle / 146096) / 365
  let dayOfYear := dayOfCycle - (365 * yearOfCycle + yearOfCycle / 4 - yearOfCycle / 100)
  let shiftedMonth := (5 * dayOfYear + 2) / 153
  let day := dayOfYear - (153 * shiftedMonth + 2) / 5 + 1
  let month := if shiftedMonth < 10 then shiftedMonth + 3 else shiftedMonth - 9
  let year : Int := yearOfCycle + cycle * 400
  ⟨if month ≤ 2 then year + 1 else year, month, day⟩

end CalendarDay

namespace Instant

/-- Count of nanoseconds in a second. -/
def nanosecondsPerSecond : Nat := 1000000000

/-- The nanoseconds from the start of 1970. -/
def position (instant : Instant) : Int :=
  instant.seconds * nanosecondsPerSecond + instant.nanoseconds

/-- The whole milliseconds from one instant to a later one, and none to an
earlier one.  A clock never reads an instant within a leap second, so none is
counted between two of its readings. -/
def millisecondsTo (start finish : Instant) : Nat :=
  ((finish.position - start.position) / 1000000).toNat

/-- A number with at least some digits, zeros in front. -/
def padded (width value : Nat) : List Char :=
  let digits := Nat.toDigits 10 value
  List.replicate (width - digits.length) '0' ++ digits

/-- A year: four digits, with a sign where it is negative or longer. -/
def yearText (year : Int) : List Char :=
  if 0 ≤ year ∧ year ≤ 9999 then padded 4 year.toNat
  else (if year < 0 then '-' else '+') :: padded 4 year.natAbs

/-- A fraction of a second with as many groups of three digits as it needs. -/
def fractionText (nanoseconds : Nat) : List Char :=
  if nanoseconds = 0 then []
  else if nanoseconds % 1000000 = 0 then '.' :: padded 3 (nanoseconds / 1000000)
  else if nanoseconds % 1000 = 0 then '.' :: padded 6 (nanoseconds / 1000)
  else '.' :: padded 9 nanoseconds

/-- The written form of an instant in universal time. -/
def text (instant : Instant) : String :=
  let days := instant.seconds.fdiv 86400
  let secondOfDay := (instant.seconds - days * 86400).toNat
  let date := CalendarDay.ofDays days
  let leap := instant.nanoseconds / nanosecondsPerSecond
  String.ofList (
    yearText date.year ++ '-' :: padded 2 date.month ++ '-' :: padded 2 date.day ++
    'T' :: padded 2 (secondOfDay / 3600) ++ ':' :: padded 2 (secondOfDay / 60 % 60) ++
    ':' :: padded 2 (secondOfDay % 60 + leap) ++
    fractionText (instant.nanoseconds % nanosecondsPerSecond) ++ ['Z'])

/-- Reads a part of a text from its front and returns the rest. -/
abbrev Scanner (α : Type) := List Char → Option (α × List Char)

/-- A number of at most some digits behind blanks. -/
def scanNumber (width : Nat) : Scanner Nat := fun characters =>
  let rest := trimFront characters
  let digits := (rest.take width).takeWhile Char.isDigit
  if digits.isEmpty then none else some (digitsValue digits, rest.drop digits.length)

/-- A year: up to four digits, or any number of them behind a sign. -/
def scanYear : Scanner Int := fun characters =>
  let signed (negative : Bool) (rest : List Char) : Option (Int × List Char) :=
    match spanDigits rest with
    | ([], _) => none
    | (digits, rest) =>
        let year : Int := digitsValue digits
        some (if negative then -year else year, rest)
  match trimFront characters with
  | '-' :: rest => signed true rest
  | '+' :: rest => signed false rest
  | rest => (scanNumber 4 rest).map fun (year, rest) => ((year : Int), rest)

/-- One character behind blanks. -/
def scanMark (mark : Char) (characters : List Char) : Option (List Char) :=
  match trimFront characters with
  | first :: rest => if first = mark then some rest else none
  | [] => none

/-- A point and digits, of which the first nine count, if there is a point. -/
def scanFraction : Scanner Nat
  | '.' :: rest =>
      match spanDigits rest with
      | ([], _) => none
      | (digits, rest) =>
          let kept := digits.take 9
          some (digitsValue kept * Nat.pow 10 (9 - kept.length), rest)
  | rest => some (0, rest)

/-- An offset from universal time in seconds: a name of universal time, or a
sign, two digits of hours and two of minutes. -/
def scanOffset : Scanner Int := fun characters =>
  let hoursAndMinutes (negative : Bool) (rest : List Char) : Option (Int × List Char) :=
    match rest with
    | h :: k :: rest =>
        match rest.dropWhile fun c => c == ':' || isBlank c with
        | m :: n :: rest =>
            if h.isDigit && k.isDigit && m.isDigit && n.isDigit && m < '6' then
              let size : Int := digitsValue [h, k] * 3600 + digitsValue [m, n] * 60
              if size < 86400 then some (if negative then -size else size, rest) else none
            else none
        | _ => none
    | _ => none
  match characters with
  | 'Z' :: rest | 'z' :: rest => some (0, rest)
  | '+' :: rest => hoursAndMinutes false rest
  | '-' :: rest | '\u2212' :: rest => hoursAndMinutes true rest
  | u :: t :: c :: rest =>
      if [u, t, c].map Char.toLower = ['u', 't', 'c'] then some (0, rest) else none
  | _ => none

/-- Whether a year is one that instants may lie in. -/
def yearAllowed (year : Int) : Bool := -262143 ≤ year && year ≤ 262142

/-- Read an instant. -/
def parse? (text : String) : Option Instant := do
  let (year, rest) ← scanYear text.toList
  let (month, rest) ← scanNumber 2 (← scanMark '-' rest)
  let (day, rest) ← scanNumber 2 (← scanMark '-' rest)
  let rest ← match rest with
    | 'T' :: rest | 't' :: rest | ' ' :: rest => some rest
    | _ => none
  let (hour, rest) ← scanNumber 2 rest
  let (minute, rest) ← scanNumber 2 (← scanMark ':' rest)
  let (second, rest) ← scanNumber 2 (← scanMark ':' rest)
  let (fraction, rest) ← scanFraction rest
  let (offset, rest) ← scanOffset (trimFront rest)
  let date : CalendarDay := ⟨year, month, day⟩
  if (trimFront rest).isEmpty && yearAllowed year && date.exists? &&
      hour < 24 && minute < 60 && second ≤ 60 then
    let leap := second / 60
    some
      { seconds := date.toDays * 86400 + hour * 3600 + minute * 60 + (second - leap : Nat) - offset
        nanoseconds := fraction + leap * nanosecondsPerSecond }
  else none

end Instant

end Flowline
