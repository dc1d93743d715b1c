import Flowline.Regex.Pattern

/-!
# The expansion of a pattern

A pattern is refused if its expansion takes too much room.  In the expansion
every repetition is written out as often as it is counted, every set of
characters becomes ranges of the bytes that encode them, and each step, each
further way of a choice and each further range has a fixed size.  The expansion
for reading forwards shares equal ends of encodings; the one for reading
backwards shares equal beginnings.
-/

namespace Flowline.Regex

/-- The bytes that encode a code. -/
def encode (code : Nat) : List Nat :=
  if code < 0x80 then [code]
  else if code < 0x800 then [0xC0 + code / 64, 0x80 + code % 64]
  else if code < 0x10000 then
    [0xE0 + code / 4096, 0x80 + code / 64 % 64, 0x80 + code % 64]
  else
    [0xF0 + code / 262144, 0x80 + code / 4096 % 64, 0x80 + code / 64 % 64, 0x80 + code % 64]

/-- Cut a range of codes at every place where the count of bytes changes and
leave out the codes of surrogates. -/
def cutByWidth (range : Nat × Nat) : List (Nat × Nat) :=
  [(0, 0x7F), (0x80, 0x7FF), (0x800, 0xD7FF), (0xE000, 0xFFFF), (0x10000, 0x10FFFF)].filterMap
    fun (first, last) =>
      let first := max first range.1
      let last := min last range.2
      if first ≤ last then some (first, last) else none

/-- Cut a range of codes of one width so that in each piece the bytes range
independently: what does not fill whole blocks at either end stands alone.  The
first number counts the sizes of blocks to look at. -/
def cutByBlock : Nat → Nat → Nat × Nat → List (Nat × Nat)
  | 0, _, range => [range]
  | sizes + 1, block, (first, last) =>
      let pieces :=
        if first / block = last / block then [(first, last)]
        else
          let start := (first + block - 1) / block * block
          let bound := (last + 1) / block * block
          (if first < start then [(first, start - 1)] else []) ++
            (if start < bound then [(start, bound - 1)] else []) ++
            (if bound ≤ last then [(bound, last)] else [])
      pieces.flatMap (cutByBlock sizes (block * 64))

/-- The ranges of bytes that encode a range of codes. -/
def byteRanges (range : Nat × Nat) : List (List (Nat × Nat)) :=
  (cutByWidth range).flatMap fun piece =>
    (cutByBlock 3 64 piece).map fun (first, last) => (encode first).zip (encode last)

/-- How many different beginnings some sorted sequences have behind an earlier
one. -/
def countBeginnings {α : Type} [BEq α] (previous : List α) : List (List α) → Nat
  | [] => 0
  | sequence :: rest =>
      let shared := (previous.zip sequence).takeWhile fun (left, right) => left == right
      (sequence.length - shared.length) + countBeginnings sequence rest

/-- The room that the expansions take, in bytes. -/
structure Room where
  forwards : Nat
  backwards : Nat

namespace Room

def none : Room := ⟨0, 0⟩

/-- The size of one step. -/
def step : Nat := 32

def both (size : Nat) : Room := ⟨size, size⟩

def add (left right : Room) : Room :=
  ⟨left.forwards + right.forwards, left.backwards + right.backwards⟩

def times (room : Room) (count : Nat) : Room :=
  ⟨room.forwards * count, room.backwards * count⟩

/-- The room of a set of characters.  Forwards, each final range of bytes and
each different last byte of a sequence is a step that sequences share. -/
def ofSet (set : CharSet) : Room :=
  match set with
  | [] => both step
  | [(first, last)] =>
      if last < 0x80 then both step
      else ofSequences (byteRanges (first, last))
  | ranges =>
      if ranges.all (·.2 < 0x80) then both (2 * step + 8 * ranges.length)
      else ofSequences (ranges.flatMap byteRanges)
where
  ofSequences (sequences : List (List (Nat × Nat))) : Room :=
    let leads := (sequences.map fun sequence => sequence.dropLast)
    { forwards := step + (countBeginnings [] leads) * step + 8 * sequences.length
      backwards := 2 * step + (countBeginnings [] sequences) * step + 4 * sequences.length }

end Room

mutual

/-- The room of a pattern. -/
def Pattern.room : Pattern → Room
  | .chars set => Room.ofSet set
  | .look _ => Room.both Room.step
  | .sequence [] => Room.both Room.step
  | .sequence parts => roomOfAll 0 parts
  | .choice alternatives => (Room.both (2 * Room.step)).add (roomOfAll 4 alternatives)
  | .repeated least most body =>
      let room := body.room
      let loop := Room.both (Room.step + 8)
      match most with
      | none => (room.times (max least 1)).add (loop.times 2)
      | some most =>
          (room.times least).add (((room.add loop).times (most - least)).add
            (Room.both Room.step))
  | .captured body => body.room.add ⟨2 * Room.step, 0⟩
termination_by structural pattern => pattern

/-- The room of several patterns with a fixed addition for each. -/
def roomOfAll (addition : Nat) : List Pattern → Room
  | [] => Room.none
  | pattern :: rest => (pattern.room.add (Room.both addition)).add (roomOfAll addition rest)
termination_by structural patterns => patterns

end

/-- The room that the expansion of a pattern may take. -/
def Room.limit : Nat := 10 * Nat.pow 2 20

/-- Whether the expansions of a pattern fit the limit. -/
def Pattern.fits (pattern : Pattern) : Bool :=
  let room := pattern.room
  room.forwards ≤ Room.limit && room.backwards ≤ Room.limit

end Flowline.Regex
