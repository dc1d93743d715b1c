import Flowline.Instant
import Flowline.Settings.Basic

/-!
# Settings in TOML

A text in TOML is a row of lines: headers, which open a table or the next table
of a list, and entries, which put a value under a key of the open table.  A key
is written once; a table is opened once, but tables within it may come before.
-/

namespace Flowline.Settings.Toml

open Number

/-! ## Texts and keys -/

/-- Reads a part of a text from its front and returns the rest. -/
abbrev Scanner (α : Type) := List Char → Option (α × List Char)

def isSpace (character : Char) : Bool := character = ' ' || character = '\t'

def skipSpaces (characters : List Char) : List Char := characters.dropWhile isSpace

/-- Controls may not stand in texts and comments, apart from the tab. -/
def isForbidden (character : Char) : Bool :=
  (character.toNat < 0x20 && character ≠ '\t') || character = '\x7f'

/-- The character with a hexadecimal number. -/
def charNumbered? (digits : List Char) : Option Char := do
  let code ← digits.foldlM (fun value digit =>
    ("0123456789abcdef".toList.idxOf? digit.toLower).map fun d => 16 * value + d) 0
  if h : code.isValidChar then some (Char.ofNatAux code h) else none

/-- The character that a letter behind a backslash stands for. -/
def escaped? : Char → Option Char
  | 'b' => some '\x08'
  | 't' => some '\t'
  | 'n' => some '\n'
  | 'f' => some '\x0c'
  | 'r' => some '\r'
  | '"' => some '"'
  | '\\' => some '\\'
  | _ => none

/-- Put a character in front of what a scanner read. -/
def prepend (character : Option Char) (read : Option (List Char × List Char)) :
    Option (List Char × List Char) :=
  match character, read with
  | some character, some (text, rest) => some (character :: text, rest)
  | _, _ => none

/-- A text up to its closing double quote. -/
def scanBasic : Scanner (List Char)
  | '"' :: rest => some ([], rest)
  | '\\' :: 'u' :: a :: b :: c :: d :: rest =>
      prepend (charNumbered? [a, b, c, d]) (scanBasic rest)
  | '\\' :: 'U' :: a :: b :: c :: d :: e :: f :: g :: h :: rest =>
      prepend (charNumbered? [a, b, c, d, e, f, g, h]) (scanBasic rest)
  | '\\' :: letter :: rest => prepend (escaped? letter) (scanBasic rest)
  | character :: rest =>
      if isForbidden character then none else prepend (some character) (scanBasic rest)
  | [] => none

/-- The quotes that stand in front of three closing ones belong to the text. -/
def closingQuotes (quote : Char) : List Char → List Char × List Char
  | first :: second :: rest =>
      if first = quote ∧ second = quote then ([quote, quote], rest)
      else if first = quote then ([quote], second :: rest)
      else ([], first :: second :: rest)
  | [first] => if first = quote then ([quote], []) else ([], [first])
  | [] => ([], [])

/-- A text of several lines up to its three closing double quotes.  A backslash
at the end of a line joins the line with the next word. -/
def scanLong : (joining : Bool) → Scanner (List Char)
  | _, '"' :: '"' :: '"' :: rest => some (closingQuotes '"' rest)
  | _, '\\' :: 'u' :: a :: b :: c :: d :: rest =>
      prepend (charNumbered? [a, b, c, d]) (scanLong false rest)
  | _, '\\' :: 'U' :: a :: b :: c :: d :: e :: f :: g :: h :: rest =>
      prepend (charNumbered? [a, b, c, d, e, f, g, h]) (scanLong false rest)
  | _, '\\' :: letter :: rest =>
      if (skipSpaces (letter :: rest)).head? = some '\n' then scanLong true rest
      else prepend (escaped? letter) (scanLong false rest)
  | joining, character :: rest =>
      if joining && (isSpace character || character = '\n') then scanLong true rest
      else if isForbidden character && character ≠ '\n' then none
      else prepend (some character) (scanLong false rest)
  | _, [] => none

/-- A text up to its closing single quote. -/
def scanLiteral : Scanner (List Char)
  | '\x27' :: rest => some ([], rest)
  | character :: rest =>
      if isForbidden character then none else prepend (some character) (scanLiteral rest)
  | [] => none

/-- A text of several lines up to its three closing single quotes. -/
def scanLongLiteral : Scanner (List Char)
  | '\x27' :: '\x27' :: '\x27' :: rest => some (closingQuotes '\x27' rest)
  | character :: rest =>
      if isForbidden character && character ≠ '\n' then none
      else prepend (some character) (scanLongLiteral rest)
  | [] => none

/-- A line break right behind the opening quotes does not count. -/
def dropBreak : List Char → List Char
  | '\n' :: rest => rest
  | rest => rest

/-- A text in any of its four forms. -/
def scanText : Scanner (List Char)
  | '"' :: '"' :: '"' :: rest => scanLong false (dropBreak rest)
  | '\x27' :: '\x27' :: '\x27' :: rest => scanLongLiteral (dropBreak rest)
  | '"' :: rest => scanBasic rest
  | '\x27' :: rest => scanLiteral rest
  | _ => none

def isBare (character : Char) : Bool :=
  character.isAlphanum || character = '_' || character = '-'

/-- One step of a key. -/
def scanStep : Scanner String
  | '"' :: rest => (scanBasic rest).map fun (text, rest) => (String.ofList text, rest)
  | '\x27' :: rest => (scanLiteral rest).map fun (text, rest) => (String.ofList text, rest)
  | rest =>
      let (step, rest) := rest.span isBare
      if step.isEmpty then none else some (String.ofList step, rest)

/-- A key of one or more steps with points between them. -/
def scanKey : (fuel : Nat) → Scanner (List String)
  | 0, _ => none
  | fuel + 1, characters => do
      let (step, rest) ← scanStep (skipSpaces characters)
      match skipSpaces rest with
      | '.' :: rest =>
          let (steps, rest) ← scanKey fuel rest
          some (step :: steps, rest)
      | rest => some ([step], rest)

/-! ## Tables under construction -/

/-- How a table came about. -/
inductive Origin where
  /-- A table within it was opened. -/
  | implicit
  /-- A header opened it. -/
  | header
  /-- A key with points runs through it. -/
  | dotted
  deriving DecidableEq

/-- What stands under a key. -/
inductive Slot where
  | closed (setting : Setting)
  | table (origin : Origin) (slots : List (String × Slot))
  /-- A list of tables, of which the last one is open. -/
  | tables (before : List Setting) (last : List (String × Slot))

mutual

def Slot.setting : Slot → Setting
  | .closed setting => setting
  | .table _ slots => .table (settings slots)
  | .tables before last => .list (before ++ [.table (settings last)])
termination_by structural slot => slot

def settings : List (String × Slot) → List (String × Setting)
  | [] => []
  | (key, slot) :: rest => (key, slot.setting) :: settings rest
termination_by structural slots => slots

end

/-- Open the table at a path, or the next table of the list there. -/
def openTable (isList : Bool) : List String → Keyed Slot → Option (Keyed Slot)
  | [], _ => none
  | [key], slots =>
      match Keyed.get? key slots, isList with
      | none, false => some (Keyed.insert key (.table .header []) slots)
      | none, true => some (Keyed.insert key (.tables [] []) slots)
      | some (.table .implicit inner), false => some (Keyed.insert key (.table .header inner) slots)
      | some (.tables before last), true =>
          some (Keyed.insert key (.tables (before ++ [.table (settings last)]) []) slots)
      | _, _ => none
  | key :: path, slots =>
      match Keyed.get? key slots with
      | none =>
          (openTable isList path []).map fun inner =>
            Keyed.insert key (.table .implicit inner) slots
      | some (.table origin inner) =>
          (openTable isList path inner).map fun inner =>
            Keyed.insert key (.table origin inner) slots
      | some (.tables before last) =>
          (openTable isList path last).map fun last =>
            Keyed.insert key (.tables before last) slots
      | some (.closed _) => none

/-- Put a setting under a key that is not taken. -/
def assign : List String → Setting → Keyed Slot → Option (Keyed Slot)
  | [], _, _ => none
  | [key], setting, slots =>
      if Keyed.has key slots then none else some (Keyed.insert key (.closed setting) slots)
  | key :: path, setting, slots =>
      match Keyed.get? key slots with
      | none =>
          (assign path setting []).map fun inner => Keyed.insert key (.table .dotted inner) slots
      | some (.table .header _) => none
      | some (.table origin inner) =>
          (assign path setting inner).map fun inner =>
            Keyed.insert key (.table origin inner) slots
      | some _ => none

/-- Put a setting under a key of the table that is open at a path. -/
def assignAt : List String → List String → Setting → Keyed Slot → Option (Keyed Slot)
  | [], key, setting, slots => assign key setting slots
  | step :: path, key, setting, slots =>
      match Keyed.get? step slots with
      | some (.table origin inner) =>
          (assignAt path key setting inner).map fun inner =>
            Keyed.insert step (.table origin inner) slots
      | some (.tables before last) =>
          (assignAt path key setting last).map fun last =>
            Keyed.insert step (.tables before last) slots
      | _ => none

/-! ## Plain values -/

/-- Digits with single underlines between them. -/
def digitsOf? (isDigit : Char → Bool) (characters : List Char) : Option (List Char) :=
  let groups := List.splitOnP (· == '_') characters
  if groups.all fun group => !group.isEmpty && group.all isDigit then some groups.flatten else none

/-- Digits without a leading zero. -/
def wholeOf? (characters : List Char) : Option (List Char) := do
  let digits ← digitsOf? Char.isDigit characters
  match digits with
  | '0' :: _ :: _ => none
  | _ => some digits

/-- The value of digits in a base. -/
def valueIn (base : Nat) (digits : List Char) : Nat :=
  digits.foldl (fun value digit =>
    base * value + ("0123456789abcdef".toList.idxOf digit.toLower)) 0

def isDigitIn (base : Nat) (character : Char) : Bool :=
  "0123456789abcdef".toList.idxOf character.toLower < base

def integer? (characters : List Char) : Option Int := do
  let value : Int ← match characters with
    | '0' :: 'x' :: digits => (digitsOf? (isDigitIn 16) digits).map fun ds => (valueIn 16 ds : Int)
    | '0' :: 'o' :: digits => (digitsOf? (isDigitIn 8) digits).map fun ds => (valueIn 8 ds : Int)
    | '0' :: 'b' :: digits => (digitsOf? (isDigitIn 2) digits).map fun ds => (valueIn 2 ds : Int)
    | _ =>
        let (negative, digits) := takeSign characters
        (wholeOf? digits).map fun ds =>
          let value : Int := digitsValue ds
          if negative then -value else value
  if Setting.isWord value then some value else none

/-- A number with a fraction, a power of ten or both. -/
def decimal? (characters : List Char) : Option Setting := do
  let (negative, rest) := takeSign characters
  if rest = "inf".toList then some (.decimal (.infinity negative))
  else if rest = "nan".toList then some .undefined
  else
    let isMark (c : Char) := c = '.' || c = 'e' || c = 'E'
    let (whole, rest) := rest.span (!isMark ·)
    let whole ← wholeOf? whole
    let (fraction, rest) ← match rest with
      | '.' :: rest =>
          let (fraction, rest) := rest.span (!isMark ·)
          (digitsOf? Char.isDigit fraction).map fun digits => (digits, rest)
      | rest => some ([], rest)
    let power : Int ← match rest with
      | [] => if fraction.isEmpty then none else some 0
      | mark :: rest =>
          if mark = '.' then none
          else
            let (negative, digits) := takeSign rest
            (digitsOf? Char.isDigit digits).map fun digits =>
              let power : Int := digitsValue digits
              if negative then -power else power
    some (.decimal (Decimal.toBinary (Decimal.ofParts negative whole fraction power)))

/-- Whether characters follow a pattern in which `0` stands for any digit. -/
def follows (pattern : String) (characters : List Char) : Bool :=
  let marks := pattern.toList
  marks.length == characters.length && (marks.zip characters).all fun (mark, character) =>
    if mark = '0' then character.isDigit else mark = character

/-- A time of day, possibly with a fraction of a second. -/
def isTime (characters : List Char) : Bool :=
  let (time, fraction) := characters.span (· ≠ '.')
  follows "00:00:00" time && digitsValue (time.take 2) < 24 &&
    digitsValue ((time.drop 3).take 2) < 60 && digitsValue (time.drop 6) ≤ 60 &&
    match fraction with
    | [] => true
    | _ :: digits => !digits.isEmpty && digits.all Char.isDigit

/-- A time of day with an offset from universal time, if there is one. -/
def isTimeWithOffset (characters : List Char) : Bool :=
  let (time, offset) := characters.span fun c => c ∉ ['Z', 'z', '+', '-']
  isTime time && match offset with
    | [] | ['Z'] | ['z'] => true
    | _ :: offset =>
        follows "00:00" offset && digitsValue (offset.take 2) < 24 && digitsValue (offset.drop 3) < 60

def isDate (characters : List Char) : Bool :=
  follows "0000-00-00" characters &&
    CalendarDay.exists?
      ⟨digitsValue (characters.take 4), digitsValue ((characters.drop 5).take 2),
        digitsValue (characters.drop 8)⟩

/-- A date, a time of day, or both; it is kept as a text. -/
def moment? (characters : List Char) : Option Setting :=
  let date := characters.take 10
  let known := isTime characters ||
    (isDate date && match characters.drop 10 with
      | [] => true
      | mark :: time => ['T', 't', ' '].contains mark && isTimeWithOffset time)
  if known then
    some (.text (String.ofList (characters.zipIdx.map fun (character, index) =>
      if index = 10 then 'T' else character.toUpper)))
  else none

/-- A value that is no text, list or table. -/
def plain? (characters : List Char) : Option Setting :=
  match characters with
  | ['t', 'r', 'u', 'e'] => some (.flag true)
  | ['f', 'a', 'l', 's', 'e'] => some (.flag false)
  | _ => ((integer? characters).map Setting.integer).or
      ((decimal? characters).or (moment? characters))

/-- The characters of a plain value.  A date may be followed by a space and a
time. -/
def scanPlain : Scanner Setting := fun characters =>
  let isPart (c : Char) := !isSpace c && c ∉ ['\n', ',', ']', '\x7d', '#']
  let (first, rest) := characters.span isPart
  match rest with
  | ' ' :: digit :: rest =>
      if isDate first && digit.isDigit then
        let (second, rest) := (digit :: rest).span isPart
        (plain? (first ++ ' ' :: second)).map fun value => (value, rest)
      else (plain? first).map fun value => (value, ' ' :: digit :: rest)
  | rest => (plain? first).map fun value => (value, rest)

/-! ## Values and lines -/

/-- Skip a comment, if there is one. -/
def skipComment : List Char → Option (List Char)
  | '#' :: rest =>
      let (comment, rest) := rest.span (· ≠ '\n')
      if comment.any isForbidden then none else some rest
  | rest => some rest

/-- Skip spaces, line breaks and comments. -/
def skipLines : (fuel : Nat) → List Char → Option (List Char)
  | 0, _ => none
  | fuel + 1, characters =>
      match skipSpaces characters with
      | '\n' :: rest => skipLines fuel rest
      | '#' :: rest => (skipComment ('#' :: rest)).bind (skipLines fuel)
      | rest => some rest

mutual

/-- A value. -/
def scanValue : (fuel : Nat) → Scanner Setting
  | 0, _ => none
  | fuel + 1, characters =>
      match characters with
      | '[' :: rest => (scanItems fuel rest).map fun (items, rest) => (.list items, rest)
      | '\x7b' :: rest =>
          match skipSpaces rest with
          | '\x7d' :: rest => some (.table [], rest)
          | rest => (scanEntries fuel [] rest).map fun (slots, rest) =>
              (.table (settings slots), rest)
      | '"' :: _ | '\x27' :: _ =>
          (scanText characters).map fun (text, rest) => (.text (String.ofList text), rest)
      | _ => scanPlain characters

/-- The items of a list up to its closing bracket. -/
def scanItems : (fuel : Nat) → Scanner (List Setting)
  | 0, _ => none
  | fuel + 1, characters => do
      match ← skipLines (characters.length + 1) characters with
      | ']' :: rest => some ([], rest)
      | characters =>
          let (item, rest) ← scanValue fuel characters
          match ← skipLines (rest.length + 1) rest with
          | ',' :: rest =>
              let (items, rest) ← scanItems fuel rest
              some (item :: items, rest)
          | ']' :: rest => some ([item], rest)
          | _ => none

/-- The entries of a table in braces up to the closing one. -/
def scanEntries : (fuel : Nat) → Keyed Slot → Scanner (Keyed Slot)
  | 0, _, _ => none
  | fuel + 1, slots, characters => do
      let (key, rest) ← scanKey (characters.length + 1) characters
      match rest with
      | '=' :: rest =>
          let (value, rest) ← scanValue fuel (skipSpaces rest)
          let slots ← assign key value slots
          match skipSpaces rest with
          | ',' :: rest => scanEntries fuel slots rest
          | '\x7d' :: rest => some (slots, rest)
          | _ => none
      | _ => none

end

/-- The end of a line: spaces, perhaps a comment, and a line break or nothing. -/
def scanLineEnd (characters : List Char) : Option (List Char) := do
  match ← skipComment (skipSpaces characters) with
  | '\n' :: rest => some rest
  | [] => some []
  | _ => none

/-- Read lines into the tables so far, of which one is open. -/
def readLines : (fuel : Nat) → (current : List String) → Keyed Slot → List Char →
    Option (Keyed Slot)
  | 0, _, _, _ => none
  | fuel + 1, current, slots, characters =>
      match skipSpaces characters with
      | [] => some slots
      | '\n' :: rest => readLines fuel current slots rest
      | '#' :: rest => (skipComment ('#' :: rest)).bind (readLines fuel current slots)
      | '[' :: '[' :: rest => do
          match ← scanKey (rest.length + 1) rest with
          | (key, ']' :: ']' :: rest) =>
              readLines fuel key (← openTable true key slots) (← scanLineEnd rest)
          | _ => none
      | '[' :: rest => do
          match ← scanKey (rest.length + 1) rest with
          | (key, ']' :: rest) =>
              readLines fuel key (← openTable false key slots) (← scanLineEnd rest)
          | _ => none
      | characters => do
          match ← scanKey (characters.length + 1) characters with
          | (key, '=' :: rest) =>
              let (value, rest) ← scanValue (rest.length + 1) (skipSpaces rest)
              readLines fuel current (← assignAt current key value slots) (← scanLineEnd rest)
          | _ => none

/-- A text with line breaks of one form and without a mark in front. -/
def plainLines : List Char → List Char
  | '\r' :: '\n' :: rest => '\n' :: plainLines rest
  | character :: rest => character :: plainLines rest
  | [] => []

/-- Read settings in TOML. -/
def parse? (text : String) : Option (Keyed Setting) :=
  let characters := match plainLines text.toList with
    | '\ufeff' :: rest => rest
    | characters => characters
  (readLines (characters.length + 1) [] [] characters).map settings

end Flowline.Settings.Toml
