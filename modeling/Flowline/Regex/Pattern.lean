import Flowline.Regex.CharSet

/-!
# Patterns and matching

A pattern is matched on the positions between the characters of a text.  For a
set of positions at which a match may start it gives the set of positions at
which it may end.  Sets of positions are the bits of a whole number, so a
character moves a set up by one and an assertion keeps a part of it.  A pattern
matches a text if some position leads to any other.
-/

namespace Flowline.Regex

/-- Where an edge of a word is wanted. -/
inductive WordEdge where
  | either
  | neither
  | first
  | last
  | beforeFirst
  | afterLast
  deriving DecidableEq, Repr

/-- An assertion on the place between two characters. -/
inductive Look where
  | textStart
  | textEnd
  /-- The start of a line; with the flag, a return may end a line too. -/
  | lineStart (withReturn : Bool)
  | lineEnd (withReturn : Bool)
  | word (edge : WordEdge) (ascii : Bool)
  deriving DecidableEq, Repr

/-- A pattern whose flags have been taken in. -/
inductive Pattern where
  | chars (set : CharSet)
  | look (look : Look)
  | sequence (parts : List Pattern)
  | choice (alternatives : List Pattern)
  | repeated (least : Nat) (most : Option Nat) (body : Pattern)
  | captured (body : Pattern)
  deriving Repr, Inhabited

/-- Whether an assertion holds between two neighbours, the ends of the text
having none. -/
def Look.holds (words : CharSet) (before after : Option Char) : Look → Bool
  | .textStart => before.isNone
  | .textEnd => after.isNone
  | .lineStart false => before.isNone || before == some '\n'
  | .lineStart true =>
      before.isNone || before == some '\n' || (before == some '\r' && after != some '\n')
  | .lineEnd false => after.isNone || after == some '\n'
  | .lineEnd true =>
      after.isNone || after == some '\r' || (after == some '\n' && before != some '\r')
  | .word edge ascii =>
      let set := if ascii then CharSet.asciiWordChars else words
      let left := before.any fun c => set.contains c.toNat
      let right := after.any fun c => set.contains c.toNat
      match edge with
      | .either => left != right
      | .neither => left == right
      | .first => !left && right
      | .last => left && !right
      | .beforeFirst => !left
      | .afterLast => !right

/-- A pattern on one text: the characters and assertions are replaced by the
sets of positions at which they hold. -/
inductive Placed where
  | advance (positions : Nat)
  | stay (positions : Nat)
  | sequence (parts : List Placed)
  | choice (alternatives : List Placed)
  | repeated (least : Nat) (most : Option Nat) (body : Placed)

/-- The set of the positions from one on at which a test holds; the test sees
the characters on both sides. -/
def positionsFrom (test : Option Char → Option Char → Bool) (before : Option Char)
    (bit : Nat) : List Char → Nat
  | [] => if test before none then bit else 0
  | character :: rest =>
      (if test before (some character) then bit else 0) +
        positionsFrom test (some character) (2 * bit) rest

/-- The set of the positions at which a test holds. -/
def positionsOf (test : Option Char → Option Char → Bool) (subject : List Char) : Nat :=
  positionsFrom test none 1 subject

mutual

/-- Place a pattern on a text. -/
def Pattern.place (words : CharSet) (subject : List Char) : Pattern → Placed
  | .chars set =>
      .advance (positionsOf (fun _ after => after.any fun c => set.contains c.toNat) subject)
  | .look look => .stay (positionsOf (fun before after => look.holds words before after) subject)
  | .sequence parts => .sequence (placeAll words subject parts)
  | .choice alternatives => .choice (placeAll words subject alternatives)
  | .repeated least most body => .repeated least most (body.place words subject)
  | .captured body => body.place words subject
termination_by structural pattern => pattern

def placeAll (words : CharSet) (subject : List Char) : List Pattern → List Placed
  | [] => []
  | pattern :: rest => pattern.place words subject :: placeAll words subject rest
termination_by structural patterns => patterns

end

/-- Apply a step a number of times. -/
def iterate (step : Nat → Nat) : Nat → Nat → Nat
  | 0, positions => positions
  | count + 1, positions => iterate step count (step positions)

/-- Add what a step reaches, at most a number of times and until nothing is
new. -/
def reach (step : Nat → Nat) : Nat → Nat → Nat
  | 0, positions => positions
  | count + 1, positions =>
      let more := positions ||| step positions
      if more = positions then positions else reach step count more

mutual

/-- The positions at which a match can end that starts at one of the given.
Every repetition beyond the count of positions either moves past the end or
stands still, so more of them than the bound are never needed. -/
def Placed.ends (bound : Nat) : Placed → Nat → Nat
  | .advance positions, starts => (starts &&& positions) <<< 1
  | .stay positions, starts => starts &&& positions
  | .sequence parts, starts => endsInTurn bound parts starts
  | .choice alternatives, starts => endsOfAny bound alternatives starts
  | .repeated least most body, starts =>
      let required := iterate (body.ends bound) (min least bound) starts
      match most with
      | none => reach (body.ends bound) bound required
      | some most => reach (body.ends bound) (min (most - least) bound) required
termination_by structural placed => placed

def endsInTurn (bound : Nat) : List Placed → Nat → Nat
  | [], starts => starts
  | part :: rest, starts => endsInTurn bound rest (part.ends bound starts)
termination_by structural parts => parts

def endsOfAny (bound : Nat) : List Placed → Nat → Nat
  | [], _ => 0
  | part :: rest, starts => part.ends bound starts ||| endsOfAny bound rest starts
termination_by structural parts => parts

end

/-- Whether a pattern matches somewhere in a text. -/
def Pattern.matchesIn (pattern : Pattern) (subject : List Char) : Bool :=
  let count := subject.length + 1
  let words := CharSet.wordChars
  (pattern.place words subject).ends (count + 1) (Nat.pow 2 count - 1) != 0

end Flowline.Regex
