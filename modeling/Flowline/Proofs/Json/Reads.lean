import Flowline.Json.Parser

/-!
# How documents are read

A reader that succeeds has gone one of few ways.  Each reader of a part of a document gets a
relation here with one rule for every way, and what a reader gives is in its relation.
-/

namespace Flowline.Json

/-- A number: an optional minus, its digits, and a fraction and a power of ten where they
stand. -/
inductive ReadsNumber : List Char → Document → List Char → Prop where
  | intro {characters unsigned behind further rest whole : List Char}
      {fraction : Option (List Char)} {power : Option Int} {negative : Bool}
      (sign : characters = unsigned ∨ characters = '-' :: unsigned)
      (digits : readWhole unsigned = some (whole, behind))
      (point : readFraction behind = some (fraction, further))
      (exponent : readPower further = some (power, rest)) :
      ReadsNumber characters
        ((numeralOf negative whole fraction power).elim .unreadable .number) rest

/-- Items up to the bracket that closes their array. -/
inductive ReadsItems (item : Reader Document) :
    List Char → List Document → List Char → Prop where
  | last {characters behind rest : List Char} {document : Document}
      (begins : item characters = some (document, behind))
      (closes : skipSpace behind = ']' :: rest) : ReadsItems item characters [document] rest
  | more {characters behind further rest : List Char} {document : Document}
      {items : List Document} (begins : item characters = some (document, behind))
      (continues : skipSpace behind = ',' :: further)
      (others : ReadsItems item further items rest) :
      ReadsItems item characters (document :: items) rest

/-- A key in quotes, a colon and the value behind it. -/
inductive ReadsMember (item : Reader Document) :
    List Char → Option String × Document → List Char → Prop where
  | intro {characters quoted named valued behind : List Char} {key : Option String}
      {value : Document} (opens : skipSpace characters = '"' :: quoted)
      (keyed : readText quoted = some (key, named)) (colon : skipSpace named = ':' :: valued)
      (begins : item valued = some (value, behind)) :
      ReadsMember item characters (key, value) behind

/-- Members up to the brace that closes their object. -/
inductive ReadsMembers (item : Reader Document) :
    List Char → List (Option String × Document) → List Char → Prop where
  | last {characters behind rest : List Char} {member : Option String × Document}
      (begins : ReadsMember item characters member behind)
      (closes : skipSpace behind = '}' :: rest) : ReadsMembers item characters [member] rest
  | more {characters behind further rest : List Char} {member : Option String × Document}
      {members : List (Option String × Document)}
      (begins : ReadsMember item characters member behind)
      (continues : skipSpace behind = ',' :: further)
      (others : ReadsMembers item further members rest) :
      ReadsMembers item characters (member :: members) rest

/-- A document without blanks before it, whose parts are read by a reader of their own. -/
inductive ReadsDocument (item : Reader Document) (levels : Nat) :
    List Char → Document → List Char → Prop where
  | emptyObject {inner rest : List Char} (closes : skipSpace inner = '}' :: rest) :
      ReadsDocument item levels ('{' :: inner) (.within levels (.object [])) rest
  | object {inner rest : List Char} {members : List (Option String × Document)}
      (inside : ReadsMembers item (skipSpace inner) members rest) :
      ReadsDocument item levels ('{' :: inner) (.within levels (.object members)) rest
  | emptyArray {inner rest : List Char} (closes : skipSpace inner = ']' :: rest) :
      ReadsDocument item levels ('[' :: inner) (.within levels (.array [])) rest
  | array {inner rest : List Char} {items : List Document}
      (inside : ReadsItems item (skipSpace inner) items rest) :
      ReadsDocument item levels ('[' :: inner) (.within levels (.array items)) rest
  | text {inner rest : List Char} {text : Option String}
      (quoted : readText inner = some (text, rest)) :
      ReadsDocument item levels ('"' :: inner) (text.elim .unreadable .string) rest
  | null (rest : List Char) : ReadsDocument item levels ("null".toList ++ rest) .null rest
  | bool (value : Bool) (rest : List Char) :
      ReadsDocument item levels ((if value then "true" else "false").toList ++ rest)
        (.bool value) rest
  | number {characters rest : List Char} {document : Document}
      (digits : ReadsNumber characters document rest) :
      ReadsDocument item levels characters document rest

variable {item : Reader Document} {steps bound levels : Nat} {characters rest : List Char}
  {document : Document}

theorem readsNumber_of_readNumber (read : readNumber characters = some (document, rest)) :
    ReadsNumber characters document rest := by
  unfold readNumber at read
  split at read
  next negative unsigned signs =>
    obtain ⟨⟨whole, behind⟩, digits, read⟩ := Option.bind_eq_some_iff.mp read
    obtain ⟨⟨fraction, further⟩, point, read⟩ := Option.bind_eq_some_iff.mp read
    obtain ⟨⟨power, last⟩, exponent, read⟩ := Option.bind_eq_some_iff.mp read
    have sign : characters = unsigned ∨ characters = '-' :: unsigned := by
      split at signs
      · cases signs
        exact .inr rfl
      · cases signs
        exact .inl rfl
    have reads := @ReadsNumber.intro _ _ _ _ _ _ _ _ negative sign digits point exponent
    simp only at read
    split at read
    next numeral found =>
      cases read
      rwa [found] at reads
    next none =>
      cases read
      rwa [none] at reads

theorem readsItems_of_readItems {items : List Document}
    (read : readItems item steps characters = some (items, rest)) :
    ReadsItems item characters items rest := by
  induction steps generalizing characters items with
  | zero => cases read
  | succ steps ih =>
      obtain ⟨⟨first, behind⟩, begins, read⟩ := Option.bind_eq_some_iff.mp read
      simp only at read
      split at read
      next closes =>
        cases read
        exact .last begins closes
      next continues =>
        obtain ⟨⟨others, last⟩, further, same⟩ := Option.bind_eq_some_iff.mp read
        cases same
        exact .more begins continues (ih further)
      next => cases read

theorem readsMembers_of_readMembers {members : List (Option String × Document)}
    (read : readMembers item steps characters = some (members, rest)) :
    ReadsMembers item characters members rest := by
  induction steps generalizing characters members with
  | zero => cases read
  | succ steps ih =>
      rw [readMembers] at read
      split at read
      next quoted opens =>
        obtain ⟨⟨key, named⟩, keyed, read⟩ := Option.bind_eq_some_iff.mp read
        simp only at read
        split at read
        next valued colon =>
          obtain ⟨⟨value, behind⟩, begins, read⟩ := Option.bind_eq_some_iff.mp read
          have first : ReadsMember item characters (key, value) behind :=
            .intro opens keyed colon begins
          simp only at read
          split at read
          next closes =>
            cases read
            exact .last first closes
          next continues =>
            obtain ⟨⟨others, last⟩, further, same⟩ := Option.bind_eq_some_iff.mp read
            cases same
            exact .more first continues (ih further)
          next => cases read
        next => cases read
      next => cases read

theorem readsDocument_of_readDocument
    (read : readDocument (bound + 1) levels characters = some (document, rest)) :
    ReadsDocument (readDocument bound (levels - 1)) levels (skipSpace characters) document
      rest := by
  rw [readDocument] at read
  split at read
  next inner opens =>
    rw [opens]
    split at read
    next closes =>
      cases read
      exact .emptyObject closes
    next =>
      obtain ⟨⟨members, last⟩, inside, same⟩ := Option.bind_eq_some_iff.mp read
      cases same
      exact .object (readsMembers_of_readMembers inside)
  next inner opens =>
    rw [opens]
    split at read
    next closes =>
      cases read
      exact .emptyArray closes
    next =>
      obtain ⟨⟨items, last⟩, inside, same⟩ := Option.bind_eq_some_iff.mp read
      cases same
      exact .array (readsItems_of_readItems inside)
  next inner opens =>
    rw [opens]
    obtain ⟨⟨text, last⟩, quoted, same⟩ := Option.bind_eq_some_iff.mp read
    cases same
    exact .text quoted
  next behind word =>
    cases read
    exact word ▸ .null rest
  next behind word =>
    cases read
    exact word ▸ .bool true rest
  next behind word =>
    cases read
    exact word ▸ .bool false rest
  next => exact .number (readsNumber_of_readNumber read)

/-- Nothing but blanks stands behind the document of a whole text. -/
theorem exists_read_of_parse? {text : String} (parsed : Document.parse? text = some document) :
    ∃ rest, readDocument (text.toList.length + 1) nestingLimit text.toList =
      some (document, rest) ∧ skipSpace rest = [] := by
  rw [Document.parse?] at parsed
  split at parsed
  next read =>
    split at parsed
    next blank =>
      cases parsed
      exact ⟨_, read, List.isEmpty_iff.mp blank⟩
    next => cases parsed
  next => cases parsed

end Flowline.Json
