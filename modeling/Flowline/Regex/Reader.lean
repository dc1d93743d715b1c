import Flowline.Regex.Pattern
import Flowline.Text.Blank

/-!
# Reading patterns

The grammar of patterns: alternatives, repetitions, groups with names or flags,
bracketed sets with set operations, escapes and assertions.  There is no looking
around and no reference back, so matching takes one pass.  Flags hold from where
they are set to the end of their group.  A text that is no pattern has no
reading, and no reading is given of one that nests or expands too far.
-/

namespace Flowline.Regex

open Text

/-- The flags that are in force at a place of a pattern. -/
structure Flags where
  ignoreCase : Bool := false
  multiLine : Bool := false
  dotAll : Bool := false
  withReturn : Bool := false
  unicode : Bool := true
  /-- Blanks and comments in the pattern do not count. -/
  spaced : Bool := false

/-- A pattern with the height of its tree as written. -/
structure Reading where
  pattern : Pattern
  height : Nat

/-- Reads a part from the front of a text and returns the rest. -/
abbrev PartReader (α : Type) := List Char → Option (α × List Char)

namespace Flags

/-- The greatest code that a set may hold. -/
def lastCode (flags : Flags) : Nat := if flags.unicode then CharSet.lastCode else 0xFF

/-- A set under the flag for case. -/
def folded (flags : Flags) (set : CharSet) : CharSet :=
  if flags.ignoreCase then
    if flags.unicode then CharSet.caseClosure set else CharSet.asciiCaseClosure set
  else set

/-- A set, or what it leaves out. -/
def signed (flags : Flags) (negated : Bool) (set : CharSet) : CharSet :=
  if negated then CharSet.complement flags.lastCode set else set

end Flags

/-- Drop a comment up to the end of its line. -/
def skipComment (characters : List Char) : List Char :=
  (characters.dropWhile (· ≠ '\n')).drop 1

/-- Drop blanks and comments, at most as many as there are characters. -/
def skipSpaced : Nat → List Char → List Char
  | 0, characters => characters
  | steps + 1, characters =>
      match characters with
      | '#' :: rest => skipSpaced steps (skipComment rest)
      | character :: rest => if isBlank character then skipSpaced steps rest else characters
      | [] => []

/-- Drop blanks and comments where they do not count. -/
def Flags.skip (flags : Flags) (characters : List Char) : List Char :=
  if flags.spaced then skipSpaced characters.length characters else characters

/-- A single part of a pattern, before it is known whether it stands in a set. -/
inductive Atom where
  | char (character : Char)
  /-- A character given by two digits of the base 16, which may mean a byte. -/
  | byte (code : Nat)
  | set (ranges : CharSet)
  | look (look : Look)

/-- Characters that have a meaning of their own in patterns. -/
def isMeta (character : Char) : Bool :=
  "\\.+*?()|[]\x7b\x7d^$#&-~".toList.contains character

/-- Characters that a backslash leaves as they are. -/
def isEscapable (character : Char) : Bool :=
  isMeta character ||
    (character.toNat < 128 && !character.isAlphanum && character != '<' && character != '>')

def isHex (character : Char) : Bool :=
  character.isDigit || ('a' ≤ character && character ≤ 'f') || ('A' ≤ character && character ≤ 'F')

/-- The value of digits of the base 16 in either case. -/
def hexOf (digits : List Char) : Nat := CharSet.hexNumber (digits.map Char.toUpper)

/-- The character with a code, if there is one. -/
def charOf? (code : Nat) : Option Char :=
  if h : code.isValidChar then some (Char.ofNatAux code h) else none

/-- A count of digits of the base 16. -/
def readHexDigits (flags : Flags) : Nat → PartReader (List Char)
  | 0, characters => some ([], characters)
  | count + 1, characters =>
      match characters with
      | [] => none
      | digit :: rest =>
          if isHex digit then do
            let (digits, rest) ← readHexDigits flags count (flags.skip rest)
            some (digit :: digits, rest)
          else none

/-- Characters up to a closing brace, blanks and comments dropped where they do
not count. -/
def readBraced (flags : Flags) : Nat → PartReader (List Char)
  | 0, _ => none
  | steps + 1, characters =>
      match flags.skip characters with
      | [] => none
      | '\x7d' :: rest => some ([], rest)
      | character :: rest => do
          let (inside, rest) ← readBraced flags steps rest
          some (character :: inside, rest)

/-- A character given by its code, behind the letter for the count of digits. -/
def readCode (flags : Flags) (count : Nat) : PartReader Atom := fun characters =>
  match flags.skip characters with
  | '\x7b' :: rest => do
      let (digits, rest) ← readBraced flags rest.length.succ rest
      if digits.isEmpty || !digits.all isHex then none
      else (charOf? (hexOf digits)).map fun c => (.char c, flags.skip rest)
  | rest => do
      let (digits, rest) ← readHexDigits flags count rest
      let character ← charOf? (hexOf digits)
      some (if count = 2 then .byte (hexOf digits) else .char character, rest)

/-- The set of a property as it is written between braces: a name, or a name and
a value with an equals sign, an unequal sign or a colon between them. -/
def propertySet? (text : List Char) : Option (Bool × CharSet) :=
  let value (name rest : List Char) (negated : Bool) : Option (Bool × CharSet) :=
    (CharSet.propertyValue? (String.ofList name) (String.ofList rest)).map fun set => (negated, set)
  match cutAt '!' '=' text with
  | some (name, rest) => value name rest true
  | none =>
      if text.contains ':' then
        value (text.takeWhile (· ≠ ':')) ((text.dropWhile (· ≠ ':')).drop 1) false
      else if text.contains '=' then
        value (text.takeWhile (· ≠ '=')) ((text.dropWhile (· ≠ '=')).drop 1) false
      else (CharSet.property? (String.ofList text)).map fun set => (false, set)

/-- A named property behind its letter. -/
def readProperty (flags : Flags) (negated : Bool) : PartReader Atom := fun characters => do
  let (name, rest) ← match flags.skip characters with
    | '\x7b' :: rest => readBraced flags rest.length.succ rest
    | '\\' :: _ => none
    | letter :: rest => some ([letter], flags.skip rest)
    | [] => none
  let (opposite, set) ← propertySet? name
  if flags.unicode then
    some (.set (flags.signed (negated != opposite) (flags.folded set)), rest)
  else none

/-- The set behind a letter for digits, blanks or word characters. -/
def letterSet (flags : Flags) (letter : Char) : CharSet :=
  let set := match letter.toLower with
    | 'd' => if flags.unicode then CharSet.digits else CharSet.asciiDigits
    | 's' => if flags.unicode then CharSet.blanks else CharSet.asciiBlanks
    | _ => if flags.unicode then CharSet.wordChars else CharSet.asciiWordChars
  flags.signed letter.isUpper set

/-- The edge of a word that a name between braces stands for. -/
def wordEdge? (name : String) : Option WordEdge :=
  match name with
  | "start" => some .first
  | "end" => some .last
  | "start-half" => some .beforeFirst
  | "end-half" => some .afterLast
  | _ => none

/-- The letters of a name between braces. -/
def readEdgeName (flags : Flags) : Nat → PartReader (List Char)
  | 0, characters => some ([], characters)
  | steps + 1, characters =>
      match characters with
      | [] => some ([], [])
      | character :: rest =>
          if character.isAlpha || character == '-' then do
            let (name, rest) ← readEdgeName flags steps (flags.skip rest)
            some (character :: name, rest)
          else some ([], characters)

/-- The edge of a word behind the letter `b`: any edge, unless braces name a
special one.  Braces that hold no name are left for a repetition. -/
def readWordEdge (flags : Flags) : PartReader Atom := fun characters =>
  let plain := some (Atom.look (.word .either (!flags.unicode)), characters)
  match characters with
  | '\x7b' :: rest =>
      match flags.skip rest with
      | [] => none
      | first :: rest =>
          if first.isAlpha || first == '-' then do
            let (name, rest) ← readEdgeName flags rest.length.succ (first :: rest)
            match rest with
            | '\x7d' :: rest =>
                (wordEdge? (String.ofList name)).map fun edge =>
                  (.look (.word edge (!flags.unicode)), rest)
            | _ => none
          else plain
  | _ => plain

/-- What stands behind a backslash. -/
def readEscape (flags : Flags) : PartReader Atom
  | [] => none
  | letter :: rest =>
      match letter with
      | 'x' => readCode flags 2 rest
      | 'u' => readCode flags 4 rest
      | 'U' => readCode flags 8 rest
      | 'p' => readProperty flags false rest
      | 'P' => readProperty flags true rest
      | 'd' | 's' | 'w' | 'D' | 'S' | 'W' => some (.set (letterSet flags letter), rest)
      | 'a' => some (.char '\x07', rest)
      | 'f' => some (.char '\x0c', rest)
      | 't' => some (.char '\t', rest)
      | 'n' => some (.char '\n', rest)
      | 'r' => some (.char '\r', rest)
      | 'v' => some (.char '\x0b', rest)
      | 'A' => some (.look .textStart, rest)
      | 'z' => some (.look .textEnd, rest)
      | 'b' => readWordEdge flags rest
      | 'B' => some (.look (.word .neither (!flags.unicode)), rest)
      | '<' => some (.look (.word .first (!flags.unicode)), rest)
      | '>' => some (.look (.word .last (!flags.unicode)), rest)
      | letter => if isEscapable letter then some (.char letter, rest) else none

/-- The code of an atom within a bracketed set. -/
def Atom.code? (flags : Flags) : Atom → Option Nat
  | char character =>
      if flags.unicode || character.toNat < 0x80 then some character.toNat else none
  | byte code => some code
  | _ => none

/-- An atom as a part of a bracketed set. -/
def Atom.memberSet? (flags : Flags) : Atom → Option CharSet
  | set ranges => some ranges
  | .look _ => none
  | atom => (atom.code? flags).map fun code => [(code, code)]

/-- How two parts of a bracketed set are put together. -/
inductive SetOperation where
  | intersection
  | difference
  | symmetricDifference

/-- The part of a bracketed set that has been read: the finished left side with
the operation that waits for its right side, and the members since then. -/
structure SetState where
  waiting : Option (SetOperation × CharSet × Nat) := none
  members : CharSet := []
  count : Nat := 0
  height : Nat := 0

namespace SetState

def add (state : SetState) (set : CharSet) (height : Nat) : SetState :=
  { state with
    members := state.members ++ set
    count := state.count + 1
    height := max state.height height }

/-- The set so far and the height of its tree. -/
def total (flags : Flags) (state : SetState) : CharSet × Nat :=
  let members := CharSet.ofRanges state.members
  let height := if 1 < state.count then state.height + 1 else state.height
  match state.waiting with
  | none => (members, height)
  | some (operation, left, leftHeight) =>
      let left := flags.folded left
      let right := flags.folded members
      let set := match operation with
        | .intersection => CharSet.intersection flags.lastCode left right
        | .difference => CharSet.difference flags.lastCode left right
        | .symmetricDifference => CharSet.symmetricDifference flags.lastCode left right
      (set, max leftHeight height + 1)

/-- Close the members so far as the left side of an operation. -/
def operate (flags : Flags) (state : SetState) (operation : SetOperation) : SetState :=
  let (set, height) := state.total flags
  { waiting := some (operation, set, height) }

end SetState

/-- One character or escape within a bracketed set. -/
def readMember (flags : Flags) : PartReader Atom
  | [] => none
  | '\\' :: rest => readEscape flags rest
  | character :: rest => some (.char character, rest)

/-- A member of a bracketed set or a range of them. -/
def readRange (flags : Flags) : PartReader CharSet := fun characters => do
  let (first, rest) ← readMember flags characters
  let rest := flags.skip rest
  let single := (first.memberSet? flags).map fun set => (set, rest)
  match rest with
  | [] => none
  | '-' :: behind =>
      match flags.skip behind with
      | [] => none
      | next :: _ =>
          if next = ']' ∨ next = '-' then single
          else do
            let (last, rest) ← readMember flags (flags.skip behind)
            let first ← first.code? flags
            let last ← last.code? flags
            if first ≤ last then some ([(first, last)], rest) else none
  | _ => single

/-- An ASCII set named between colons, behind its bracket. -/
def readNamedSet (flags : Flags) : PartReader CharSet
  | ':' :: rest =>
      let (negated, rest) := match rest with
        | '^' :: rest => (true, rest)
        | rest => (false, rest)
      match rest.dropWhile (· ≠ ':') with
      | ':' :: ']' :: behind =>
          (CharSet.asciiNamed? (String.ofList (rest.takeWhile (· ≠ ':')))).map fun set =>
            (flags.signed negated (flags.folded set), behind)
      | _ => none
  | _ => none

/-- Hyphens at the start of a bracketed set. -/
def readHyphens (flags : Flags) : Nat → SetState → List Char → SetState × List Char
  | steps + 1, state, '-' :: rest =>
      readHyphens flags steps (state.add [(0x2D, 0x2D)] 0) (flags.skip rest)
  | _, state, rest => (state, rest)

/-- The start of a bracketed set behind its bracket: the sign, hyphens, and a
closing bracket that stands first. -/
def openSet (flags : Flags) (characters : List Char) : Bool × SetState × List Char :=
  let (negated, rest) := match flags.skip characters with
    | '^' :: rest => (true, flags.skip rest)
    | rest => (false, rest)
  let (state, rest) := readHyphens flags rest.length {} rest
  match state.count, rest with
  | 0, ']' :: rest => (negated, state.add [(0x5D, 0x5D)] 0, flags.skip rest)
  | _, rest => (negated, state, rest)

/-- A bracketed set behind its opening.  The open sets around it wait on a
list, the innermost first. -/
def readSet (flags : Flags) :
    Nat → List (Bool × SetState) → Bool → SetState → List Char →
      Option ((CharSet × Nat) × List Char)
  | 0, _, _, _, _ => none
  | steps + 1, outer, negated, state, characters =>
      match flags.skip characters with
      | [] => none
      | '[' :: rest =>
          match readNamedSet flags rest with
          | some (set, rest) => readSet flags steps outer negated (state.add set 0) rest
          | none =>
              let (inner, opened, rest) := openSet flags rest
              readSet flags steps ((negated, state) :: outer) inner opened rest
      | ']' :: rest =>
          let (set, height) := state.total flags
          let closed := flags.signed negated (flags.folded set)
          match outer with
          | [] => some ((closed, height + 1), rest)
          | (negated, state) :: outer =>
              readSet flags steps outer negated (state.add closed (height + 1)) rest
      | '&' :: '&' :: rest =>
          readSet flags steps outer negated (state.operate flags .intersection) rest
      | '-' :: '-' :: rest =>
          readSet flags steps outer negated (state.operate flags .difference) rest
      | '~' :: '~' :: rest =>
          readSet flags steps outer negated (state.operate flags .symmetricDifference) rest
      | rest => do
          let (set, rest) ← readRange flags rest
          readSet flags steps outer negated (state.add set 0) rest

/-- A set as a pattern; without the flag for Unicode only ASCII may be in it. -/
def Flags.setPattern? (flags : Flags) (set : CharSet) : Option Pattern :=
  if flags.unicode || set.all (·.2 < 0x80) then some (.chars set) else none

/-- A single character as a pattern. -/
def Flags.charPattern (flags : Flags) (character : Char) : Pattern :=
  .chars (flags.folded [(character.toNat, character.toNat)])

/-- The characters that a dot stands for. -/
def Flags.dot (flags : Flags) : CharSet :=
  let left := if flags.dotAll then []
    else if flags.withReturn then [(0xA, 0xA), (0xD, 0xD)] else [(0xA, 0xA)]
  CharSet.complement flags.lastCode left

/-- An atom as a pattern. -/
def Atom.pattern? (flags : Flags) : Atom → Option Pattern
  | char character => some (flags.charPattern character)
  | byte code =>
      if flags.unicode || code < 0x80 then some (flags.charPattern (Char.ofNat code)) else none
  | set ranges => flags.setPattern? ranges
  | look assertion => some (.look assertion)

/-- A decimal number with blanks around it, below two to the power of 32. -/
def readCount (flags : Flags) (characters : List Char) : Option (Option Nat) × List Char :=
  let rest := characters.dropWhile isBlank
  let (digits, rest) := digitsFrom rest.length.succ rest
  let rest := flags.skip (rest.dropWhile isBlank)
  let value := digits.foldl (fun value digit => 10 * value + (digit.toNat - '0'.toNat)) 0
  (if digits.isEmpty then some none
    else if value < UInt32.size then some (some value) else none, rest)
where
  digitsFrom : Nat → List Char → List Char × List Char
    | steps + 1, digit :: rest =>
        if digit.isDigit then
          let (digits, rest) := digitsFrom steps (flags.skip rest)
          (digit :: digits, rest)
        else ([], digit :: rest)
    | _, rest => ([], rest)

/-- The bounds of a counted repetition behind its brace. -/
def readBounds (flags : Flags) : PartReader (Nat × Option Nat) := fun characters => do
  match readCount flags (flags.skip characters) with
  | (none, _) => none
  | (some least, rest) =>
      match rest with
      | '\x7d' :: rest => least.map fun count => ((count, some count), rest)
      | ',' :: rest =>
          match flags.skip rest with
          | '\x7d' :: rest => least.map fun count => ((count, none), rest)
          | rest =>
              match least, readCount flags rest with
              | some least, (some (some most), '\x7d' :: rest) =>
                  if least ≤ most then some ((least, some most), rest) else none
              | _, _ => none
      | _ => none

/-- A mark behind a repetition that turns its preference, which does not change
what matches. -/
def skipPreference : List Char → List Char
  | '?' :: rest => rest
  | rest => rest

/-- The letters of flags up to a colon or a closing bracket.  No letter may
stand twice, and a minus sign must not come last or twice. -/
def readFlags : Nat → Flags → Bool → List Char → List Char →
    Option (Flags × List Char × List Char)
  | 0, _, _, _, _ => none
  | steps + 1, flags, enable, seen, characters =>
      match characters with
      | [] => none
      | letter :: rest =>
          if letter = ':' ∨ letter = ')' then
            if seen.head? = some '-' then none else some (flags, seen, characters)
          else if seen.contains letter then none
          else
            let next (flags : Flags) := readFlags steps flags enable (letter :: seen) rest
            match letter with
            | '-' => readFlags steps flags false (letter :: seen) rest
            | 'i' => next { flags with ignoreCase := enable }
            | 'm' => next { flags with multiLine := enable }
            | 's' => next { flags with dotAll := enable }
            | 'U' => next flags
            | 'u' => next { flags with unicode := enable }
            | 'R' => next { flags with withReturn := enable }
            | 'x' => next { flags with spaced := enable }
            | _ => none

/-- The name of a group up to its closing angle. -/
def readGroupName (characters : List Char) : Option (List Char × List Char) :=
  let name := characters.takeWhile (· ≠ '>')
  let isLetter (c : Char) := (CharSet.named? binaryProperties "alphabetic").any (·.contains c.toNat)
  let isNumber (c : Char) := (CharSet.categories ["Nd", "Nl", "No"]).contains c.toNat
  let valid := match name with
    | [] => false
    | first :: rest =>
        (first == '_' || isLetter first) &&
          rest.all fun c =>
            c == '_' || c == '.' || c == '[' || c == ']' || isLetter c || isNumber c
  match characters.dropWhile (· ≠ '>') with
  | '>' :: rest => if valid then some (name, rest) else none
  | _ => none

/-- What a bracket opens. -/
inductive GroupHead where
  /-- Flags for the rest of the group around. -/
  | setting (flags : Flags)
  /-- A group under flags of its own. -/
  | opened (flags : Flags) (captures : Bool) (name : Option (List Char))

/-- The start of a group behind its bracket. -/
def readGroupHead (flags : Flags) : PartReader GroupHead := fun characters =>
  let named (rest : List Char) : Option (GroupHead × List Char) :=
    (readGroupName rest).map fun (name, rest) => (.opened flags true (some name), rest)
  match flags.skip characters with
  | '?' :: '=' :: _ | '?' :: '!' :: _ | '?' :: '<' :: '=' :: _ | '?' :: '<' :: '!' :: _ => none
  | '?' :: 'P' :: '<' :: rest => named rest
  | '?' :: '<' :: rest => named rest
  | '?' :: rest => do
      let (inner, seen, rest) ← readFlags rest.length.succ flags true [] rest
      match rest with
      | ')' :: rest => if seen.isEmpty then none else some (.setting inner, rest)
      | _ :: rest => some (.opened inner false none, rest)
      | [] => none
  | rest => some (.opened flags true none, rest)

/-- A group or the whole pattern while it is read: the finished alternatives and
the parts of the current one, both with the last one first.  Parts without a
pattern only set flags. -/
structure Level where
  flags : Flags
  captures : Bool := false
  alternatives : List Reading := []
  parts : List (Option Reading) := []

namespace Level

/-- The parts of the current alternative in a row.  A single part is not one
level higher than itself. -/
def row (level : Level) : Reading :=
  let height := (level.parts.map fun part => (part.map Reading.height).getD 0).foldl max 0
  { pattern := .sequence ((level.parts.reverse.filterMap id).map Reading.pattern)
    height := if 1 < level.parts.length then height + 1 else height }

/-- Everything read on the level. -/
def whole (level : Level) : Reading :=
  match level.alternatives with
  | [] => level.row
  | others =>
      let all := (level.row :: others).reverse
      { pattern := .choice (all.map Reading.pattern)
        height := (all.map Reading.height).foldl max 0 + 1 }

def push (level : Level) (reading : Reading) : Level :=
  { level with parts := some reading :: level.parts }

/-- Repeat the last part; there must be one, and it must not only set flags. -/
def repeatLast (level : Level) (least : Nat) (most : Option Nat) : Option Level :=
  match level.parts with
  | some last :: others =>
      some { level with
        parts := some ⟨.repeated least most last.pattern, last.height + 1⟩ :: others }
  | _ => none

end Level

/-- Read a pattern; the groups around the current level wait on a list, the
innermost first. -/
def readLevels : Nat → List Level → Level → List (List Char) → List Char → Option Reading
  | 0, _, _, _, _ => none
  | steps + 1, outer, level, names, characters =>
      let continueWith (level : Level) (rest : List Char) := readLevels steps outer level names rest
      let flags := level.flags
      match flags.skip characters with
      | [] => if outer.isEmpty then some level.whole else none
      | '(' :: rest => do
          let (head, rest) ← readGroupHead flags rest
          match head with
          | .setting flags =>
              continueWith { level with flags, parts := none :: level.parts } rest
          | .opened inner captures name =>
              if name.any names.contains then none
              else
                readLevels steps (level :: outer) { flags := inner, captures }
                  (name.toList ++ names) rest
      | ')' :: rest =>
          match outer with
          | [] => none
          | around :: outer =>
              let inner := level.whole
              let pattern := if level.captures then .captured inner.pattern else inner.pattern
              readLevels steps outer (around.push ⟨pattern, inner.height + 1⟩) names rest
      | '|' :: rest =>
          continueWith
            { level with alternatives := level.row :: level.alternatives, parts := [] } rest
      | '[' :: rest => do
          let (negated, opened, rest) := openSet flags rest
          let ((set, height), rest) ← readSet flags rest.length.succ [] negated opened rest
          let pattern ← flags.setPattern? set
          continueWith (level.push ⟨pattern, height⟩) rest
      | '?' :: rest => do continueWith (← level.repeatLast 0 (some 1)) (skipPreference rest)
      | '*' :: rest => do continueWith (← level.repeatLast 0 none) (skipPreference rest)
      | '+' :: rest => do continueWith (← level.repeatLast 1 none) (skipPreference rest)
      | '\x7b' :: rest => do
          let ((least, most), rest) ← readBounds flags rest
          continueWith (← level.repeatLast least most) (skipPreference (flags.skip rest))
      | '.' :: rest => do continueWith (level.push ⟨← flags.setPattern? flags.dot, 0⟩) rest
      | '^' :: rest =>
          continueWith
            (level.push ⟨.look (if flags.multiLine then .lineStart flags.withReturn else .textStart), 0⟩)
            rest
      | '$' :: rest =>
          continueWith
            (level.push ⟨.look (if flags.multiLine then .lineEnd flags.withReturn else .textEnd), 0⟩)
            rest
      | '\\' :: rest => do
          let (atom, rest) ← readEscape flags rest
          continueWith (level.push ⟨← atom.pattern? flags, 0⟩) rest
      | character :: rest => continueWith (level.push ⟨flags.charPattern character, 0⟩) rest

/-- How high the tree of a pattern may grow. -/
def heightLimit : Nat := 250

/-- The pattern that a text writes. -/
def Pattern.parse? (text : String) : Option Pattern :=
  let characters := text.toList
  match readLevels characters.length.succ [] { flags := {} } [] characters with
  | some reading => if reading.height ≤ heightLimit then some reading.pattern else none
  | none => none

end Flowline.Regex
