import Flowline.Proofs.Guard.Recursion
import Flowline.Proofs.Template.Grammar

/-!
# Comparisons in infix form

A comparison that is written in one line is the one that an object with the same field,
operator and value writes.  The text is no JSON, since a symbol stands behind its field; of the
symbols the table finds the one that was written; and a value between quotes is taken as it is.
-/

namespace Flowline.Guard

open Text
open Template (NameCharacter isNameChar_iff)

/-! ## Spellings -/

/-- A character of a field: one of a name, or a dot. -/
def FieldCharacter (character : Char) : Prop := NameCharacter character ∨ character = '.'

/-- A field without a dot at its ends. -/
structure SpellsField (text : List Char) : Prop where
  nonempty : text ≠ []
  characters : ∀ character ∈ text, FieldCharacter character
  begins : text.head? ≠ some '.'
  ends : text.getLast? ≠ some '.'

/-- The values that are written as they are, whole numbers of 64 bits among them. -/
inductive SpellsBare : Json → List Char → Prop where
  | integer {value : Int} (above : -(UInt64.size / 2 : Nat) ≤ value)
      (below : value < UInt64.size) :
      SpellsBare (.number (.integer value)) (toString value).toList
  | bool (value : Bool) : SpellsBare (.bool value) (if value then "true" else "false").toList
  | null : SpellsBare .null "null".toList

/-- What is written behind a symbol for a value.  Any text may stand between two quotes of a
kind, the quote itself included. -/
inductive SpellsOperand : Json → List Char → Prop where
  | quoted {quote : Char} (kind : quote ∈ ['\'', '"']) (text : String) :
      SpellsOperand (.string text) (quote :: text.toList ++ [quote])
  | bare {value : Json} {text : List Char} (spells : SpellsBare value text) :
      SpellsOperand value text

/-- A comparison in infix form.  Blanks may stand around the symbol, and have to around a
word. -/
inductive SpellsInfix (field symbol : String) (value : Json) : List Char → Prop where
  | around {before behind operand : List Char} (named : SpellsField field.toList)
      (listed : symbol ∈ infixSymbols)
      (beforeBlank : ∀ character ∈ before, isBlank character = true)
      (behindBlank : ∀ character ∈ behind, isBlank character = true)
      (apart : symbol = "contains" → before ≠ [] ∧ behind ≠ [])
      (spells : SpellsOperand value operand) :
      SpellsInfix field symbol value
        (field.toList ++ (before ++ (symbol.toList ++ (behind ++ operand))))

/-! ## Fields -/

variable {field symbol : String} {value : Json} {text rest : List Char}

theorem isFieldChar_iff (character : Char) :
    isFieldChar character = true ↔ FieldCharacter character := by
  have tested : isFieldChar character = (Template.isNameChar character || character == '.') := rfl
  rw [tested, Bool.or_eq_true, isNameChar_iff, beq_iff_eq, FieldCharacter]

theorem FieldCharacter.unblank {character : Char} (own : FieldCharacter character) :
    isBlank character = false := by
  rcases own with name | rfl
  · exact name.unblank
  · rfl

theorem FieldCharacter.beginsScalar {character : Char} (own : FieldCharacter character) :
    Json.isSpace character = false ∧ character ∉ ['{', '[', '"'] := by
  have accepted := (isFieldChar_iff character).mpr own
  constructor
  · rw [Bool.eq_false_iff]
    intro space
    simp only [Json.isSpace, Bool.or_eq_true, beq_iff_eq] at space
    rcases space with ((rfl | rfl) | rfl) | rfl <;> cases accepted
  · intro member
    simp only [List.mem_cons, List.not_mem_nil, or_false] at member
    rcases member with rfl | rfl | rfl <;> cases accepted

theorem isFieldChar_of_isBlank {character : Char} (blank : isBlank character = true) :
    isFieldChar character = false := by
  rw [Bool.eq_false_iff]
  intro own
  rw [((isFieldChar_iff character).mp own).unblank] at blank
  cases blank

/-- A field ends where a character follows that is none of a field. -/
theorem SpellsField.scanned (named : SpellsField text)
    (stops : ∀ character ∈ rest.head?, isFieldChar character = false) :
    (text ++ rest).takeWhile isFieldChar = text ∧ (text ++ rest).dropWhile isFieldChar = rest :=
  takeWhile_dropWhile_run
    (fun character member => (isFieldChar_iff character).mpr (named.characters character member))
    stops

theorem SpellsField.edged (named : SpellsField text) : Edged text :=
  .of_visible named.nonempty fun character member => (named.characters character member).unblank

/-! ## Symbols -/

/-- A symbol of the table begins no later one, and where a later one begins it, it goes on with
an equals sign. -/
theorem infixSymbols_ordered : infixSymbols.Pairwise fun earlier later =>
    ¬ earlier.toList <+: later.toList ∧
      (later.toList <+: earlier.toList →
        (earlier.toList.drop later.toList.length).head? = some '=') := by
  decide

/-- The symbol that was written is found, if no equals sign follows it. -/
theorem find?_infixSymbols (listed : symbol ∈ infixSymbols) (unequal : rest.head? ≠ some '=') :
    infixSymbols.find? (fun candidate => candidate.toList.isPrefixOf (symbol.toList ++ rest)) =
      some symbol := by
  obtain ⟨earlier, later, parts⟩ := List.append_of_mem listed
  refine List.find?_eq_some_iff_append.mpr
    ⟨List.isPrefixOf_iff_prefix.mpr (List.prefix_append _ _), earlier, later, parts, ?_⟩
  intro candidate member
  have ordered := infixSymbols_ordered
  rw [parts, List.pairwise_append] at ordered
  obtain ⟨unbegun, continues⟩ := ordered.2.2 candidate member symbol List.mem_cons_self
  rw [Bool.not_eq_true', Bool.eq_false_iff]
  intro matched
  have matched := List.isPrefixOf_iff_prefix.mp matched
  rcases List.prefix_or_prefix_of_prefix matched (List.prefix_append symbol.toList rest) with
    within | ⟨more, longer⟩
  · exact unbegun within
  · have equals := continues ⟨more, longer⟩
    rw [← longer, List.prefix_append_right_inj] at matched
    rw [← longer, List.drop_left] at equals
    obtain ⟨others, rfl⟩ := matched
    exact unequal (by simp [List.head?_append, equals])

/-- A symbol is seen, and is no part of a scalar; only a word could go on with a field. -/
theorem exists_mark (listed : symbol ∈ infixSymbols) :
    ∃ mark more, symbol.toList = mark :: more ∧ isBlank mark = false ∧
      (symbol ≠ "contains" → isFieldChar mark = false) ∧
      ¬ Json.ScalarCharacter mark ∧ Json.isSpace mark = false := by
  simp only [infixSymbols, List.mem_cons, List.not_mem_nil, or_false] at listed
  rcases listed with rfl | rfl | rfl | rfl | rfl | rfl | rfl | rfl | rfl <;>
    exact ⟨_, _, rfl, by decide⟩

/-! ## Values -/

/-- The digits of a whole number, with a minus or without, could be a name. -/
theorem isName_integer (value : Int) : Template.SpellsName (toString value).toList := by
  have digits (size : Nat) : ∀ character ∈ Nat.toDigits 10 size, NameCharacter character :=
    fun character member => .of_isDigit (Number.isDigit_of_mem_toDigits member)
  by_cases negative : value < 0
  · obtain ⟨size, rfl⟩ : ∃ size : Nat, value = -size := ⟨value.natAbs, by omega⟩
    have text : (toString (-(size : Int))).toList = '-' :: Nat.toDigits 10 size :=
      Json.Numeral.toList_render_of_neg (by omega)
    rw [text]
    have minus : NameCharacter '-' := (isNameChar_iff '-').mp (by decide)
    exact ⟨List.cons_ne_nil _ _, List.forall_mem_cons.mpr ⟨minus, digits size⟩⟩
  · obtain ⟨size, rfl⟩ : ∃ size : Nat, value = size := ⟨value.toNat, by omega⟩
    have text : (toString (size : Int)).toList = Nat.toDigits 10 size :=
      Json.Numeral.toList_render_of_nonneg size
    obtain ⟨digit, more, begins, -⟩ := (Json.leads_toDigits size).exists_cons
    rw [text]
    exact ⟨by simp [begins], digits size⟩

/-- What is written bare could be a name. -/
theorem SpellsBare.isName (spells : SpellsBare value text) :
    Template.SpellsName text := by
  cases spells with
  | @integer value above below => exact isName_integer value
  | bool value => cases value <;> exact (Template.isName_iff _).mp (by decide)
  | null => exact (Template.isName_iff _).mp (by decide)

/-- What is written bare is JSON, and no text. -/
theorem SpellsBare.parse? (spells : SpellsBare value text) :
    Json.parse? (String.ofList text) = some value := by
  have read {value : Json} (spelled : Json.Spells Json.nestingLimit value text)
      (stays : (Json.Document.ofValue value).value? = some value) :
      Json.parse? (String.ofList text) = some value := by
    rw [Json.parse?, Json.Spells.parse? (by rwa [String.toList_ofList]), Option.bind_some, stays]
  cases spells with
  | integer above below => exact read (.number (Json.Numeral.legible_integer above below)) rfl
  | bool value => exact read (.bool value) rfl
  | null => exact read .null rfl

theorem unquoted?_quoted (quote : Char) (inside : List Char) :
    unquoted? quote (quote :: inside ++ [quote]) = some inside := by
  obtain ⟨second, more, same⟩ : ∃ second more, inside ++ [quote] = second :: more :=
    List.exists_cons_of_ne_nil (by simp)
  rw [List.cons_append, same, unquoted?, ← same, if_pos (by simp), List.dropLast_concat]

theorem unquoted?_eq_none {quote : Char} {characters : List Char}
    (other : characters.head? ≠ some quote) : unquoted? quote characters = none := by
  unfold unquoted?
  split
  next first second more =>
    rw [if_neg]
    rintro ⟨rfl, -⟩
    exact other rfl
  next => rfl

/-- The value behind a symbol is the one that was written. -/
theorem SpellsOperand.infixValue_eq (spells : SpellsOperand value text) :
    infixValue text = value := by
  cases spells with
  | @quoted quote kind text =>
      simp only [List.mem_cons, List.not_mem_nil, or_false] at kind
      rcases kind with rfl | rfl
      · rw [infixValue, unquoted?_quoted, Option.some_or]
        exact congrArg Json.string String.ofList_toList
      · rw [infixValue, unquoted?_eq_none (by simp), unquoted?_quoted, Option.none_or]
        exact congrArg Json.string String.ofList_toList
  | bare spells =>
      have unquoted (quote : Char) (other : ¬ Template.isNameChar quote = true) :
          unquoted? quote text = none :=
        unquoted?_eq_none fun begins => other ((isNameChar_iff quote).mpr
          (spells.isName.characters quote (List.mem_of_mem_head? begins)))
      rw [infixValue, unquoted '\'' (by decide), unquoted '"' (by decide), Option.none_or]
      simp only [spells.parse?]
      cases spells <;> rfl

/-- What is written behind a symbol is seen at its ends and begins with no equals sign. -/
theorem SpellsOperand.edged (spells : SpellsOperand value text) :
    Edged text ∧ text.head? ≠ some '=' := by
  cases spells with
  | @quoted quote kind text =>
      have seen : isBlank quote = false ∧ quote ≠ '=' := by
        simp only [List.mem_cons, List.not_mem_nil, or_false] at kind
        rcases kind with rfl | rfl <;> decide
      have mark : Edged [quote] :=
        .of_visible (List.cons_ne_nil _ _) (List.forall_mem_singleton.mpr seen.1)
      exact ⟨mark.append mark, by simpa using seen.2⟩
  | bare spells =>
      have name := spells.isName
      refine ⟨.of_visible name.nonempty fun character member =>
        (name.characters character member).unblank, fun begins => ?_⟩
      have own := (isNameChar_iff '=').mpr
        (name.characters '=' (List.mem_of_mem_head? begins))
      exact absurd own (by decide)

/-! ## Comparisons -/

theorem SpellsInfix.edged (spells : SpellsInfix field symbol value text) : Edged text := by
  obtain @⟨before, behind, operand, named, -, -, -, -, spells⟩ := spells
  have edged : Edged (field.toList ++ (before ++ symbol.toList ++ behind) ++ operand) :=
    named.edged.append spells.edged.1
  simpa only [List.append_assoc] using edged

/-- The symbol stands in the way of reading a text in infix form as JSON. -/
theorem parse?_eq_none_of_infixOf? {condition : Condition} (found : infixOf? text = some condition) :
    Json.parse? (String.ofList text) = none := by
  unfold infixOf? at found
  simp only at found
  split at found
  · cases found
  next filled =>
    split at found
    · cases found
    next symbol first =>
      obtain ⟨mark, more, same, -, -, strange, visible⟩ :=
        exists_mark (List.mem_of_find?_eq_some first)
      have stands : symbol.toList <+: trimFront (text.dropWhile isFieldChar) := by
        have matched := List.find?_some first
        exact List.isPrefixOf_iff_prefix.mp matched
      have behind : trimFront (text.dropWhile isFieldChar) <:+ text :=
        (List.dropWhile_suffix _).trans (List.dropWhile_suffix _)
      have within : mark ∈ text := behind.subset (stands.subset (by simp [same]))
      refine Json.parse?_eq_none ?_ within strange visible
      intro character begins
      obtain ⟨others, rfl⟩ := List.head?_eq_some_iff.mp begins
      refine FieldCharacter.beginsScalar ((isFieldChar_iff character).mp ?_)
      by_contra other
      simp [other] at filled

/-- A text in infix form is read as its comparison. -/
theorem parse_of_infixOf? {expression : String} {condition : Condition}
    (found : infixOf? (trim expression.toList) = some condition) :
    Condition.parse expression = .ok condition := by
  have filled : ¬ (trim expression.toList).isEmpty = true := by
    intro empty
    rw [List.isEmpty_iff.mp empty] at found
    cases found
  rw [parse_eq_textBy, textBy, if_neg filled, trimmed, parse?_eq_none_of_infixOf? found, found]

/-- The parts of a text in infix form are found again. -/
theorem SpellsInfix.infixOf?_eq (spells : SpellsInfix field symbol value text) :
    infixOf? text = some (.comparison field (Operator.parse symbol) value) := by
  obtain @⟨before, behind, operand, named, listed, beforeBlank, behindBlank, apart, spells⟩ :=
    spells
  obtain ⟨mark, more, same, seen, ends, -⟩ := exists_mark listed
  obtain ⟨edged, unequal⟩ := spells.edged
  have stops : ∀ character ∈ (before ++ (symbol.toList ++ (behind ++ operand))).head?,
      isFieldChar character = false := by
    cases before with
    | nil => simpa [same] using ends fun word => (apart word).1 rfl
    | cons blank before =>
        simpa using isFieldChar_of_isBlank (beforeBlank blank List.mem_cons_self)
  have symbolNext : trimFront (before ++ (symbol.toList ++ (behind ++ operand))) =
      symbol.toList ++ (behind ++ operand) := by
    rw [trimFront_blank_append beforeBlank, trimFront_of_head (by simpa [same] using seen)]
  have unequal : (behind ++ operand).head? ≠ some '=' := by
    cases behind with
    | nil => exact unequal
    | cons blank behind =>
        have kind := behindBlank blank List.mem_cons_self
        rintro ⟨⟩
        cases kind
  have wordApart : (symbol == "contains" && !(behind ++ operand).head?.any isBlank) = false := by
    by_cases word : symbol = "contains"
    · obtain ⟨blank, others, rfl⟩ := List.exists_cons_of_ne_nil (apart word).2
      simp [behindBlank blank List.mem_cons_self]
    · simp [word]
  obtain ⟨taken, left⟩ := named.scanned stops
  unfold infixOf?
  simp only [taken, left, symbolNext, find?_infixSymbols listed unequal, List.drop_left,
    wordApart, edged.trim_blank_append behindBlank, spells.infixValue_eq, String.ofList_toList]
  rw [if_neg, if_neg, if_neg]
  · simpa using edged.nonempty
  · simp
  · simp [named.nonempty, named.begins, named.ends]

/-- What is written in infix form is read as its comparison. -/
theorem SpellsInfix.parse_eq (spells : SpellsInfix field symbol value text) :
    Condition.parse (String.ofList text) =
      .ok (.comparison field (Operator.parse symbol) value) := by
  refine parse_of_infixOf? ?_
  rw [String.toList_ofList, spells.edged.trim_eq, spells.infixOf?_eq]

/-! ## Objects -/

variable {members : List (String × Json)}

theorem comparisonOf?_ofList (listed : members.Perm
      [("field", .string field), ("operator", .string symbol), ("value", value)]) :
    comparisonOf? (Keyed.ofList members) =
      some (.comparison field (Operator.parse symbol) value) := by
  have distinct : (members.map Prod.fst).Nodup := by
    rw [(listed.map Prod.fst).nodup_iff]
    exact (by decide : ["field", "operator", "value"].Nodup)
  have found {key : String} {held : Json} (member : (key, held) ∈ members) :=
    (Keyed.get?_ofList_of_nodup distinct).mpr member
  have fieldFound := found (listed.mem_iff.mpr (by simp) : ("field", .string field) ∈ members)
  have operatorFound :=
    found (listed.mem_iff.mpr (by simp) : ("operator", .string symbol) ∈ members)
  have valueFound := found (listed.mem_iff.mpr (by simp) : ("value", value) ∈ members)
  simp only [comparisonOf?, fieldFound, operatorFound, valueFound, operatorOf, Option.getD_some]

/-- A text that is JSON for a comparison is read as the comparison. -/
theorem parse_of_json {expression : String} {comparison : Condition}
    (json : Json.parse? (trimmed expression) = some (.ofMembers members))
    (compares : comparisonOf? (Keyed.ofList members) = some comparison) :
    Condition.parse expression = .ok comparison := by
  rw [parse_of_parse? json, Json.ofMembers, ofJson_comparison compares]

/-- What stands behind a symbol is read back from JSON. -/
theorem SpellsOperand.value?_eq (spells : SpellsOperand value text) :
    (Json.Document.ofValue value).value? = some value := by
  rcases spells with _ | spells
  · rfl
  · cases spells <;> rfl

/-- The members of a comparison are written as JSON in any order, and with blanks around them. -/
theorem parse?_comparison {front back : List Char} (spells : SpellsOperand value text)
    (listed : members.Perm
      [("field", .string field), ("operator", .string symbol), ("value", value)])
    (blank : ∀ character ∈ front ++ back, isBlank character = true)
    {chars : List Char} (spelled : Json.Spells Json.nestingLimit (.object members) chars) :
    Json.parse? (trimmed (String.ofList (front ++ chars ++ back))) =
      some (.ofMembers members) := by
  obtain ⟨frontBlank, backBlank⟩ := List.forall_mem_append.mp blank
  rw [trimmed, String.toList_ofList,
    trim_between frontBlank backBlank spelled.edged]
  refine Json.parse?_of_spells_object spelled fun member held => ?_
  have known := listed.mem_iff.mp held
  simp only [List.mem_cons, List.not_mem_nil, or_false] at known
  rcases known with rfl | rfl | rfl
  · rfl
  · rfl
  · exact spells.value?_eq

/-- A comparison in infix form and one written as an object are the same condition, and so are
all texts of the object: each of them holds where the other ones do. -/
theorem infix_agrees_json (spells : SpellsInfix field symbol value text)
    (listed : members.Perm
      [("field", .string field), ("operator", .string symbol), ("value", value)]) :
    Condition.parse (String.ofList text) = .ok (.comparison field (Operator.parse symbol) value) ∧
    Condition.ofJson (.ofMembers members) = .comparison field (Operator.parse symbol) value ∧
    (∀ json, Json.parse? (trimmed json) = some (.ofMembers members) →
      Condition.parse json = .ok (.comparison field (Operator.parse symbol) value) ∧
      ∀ context, holds (String.ofList text) context = holds json context) ∧
    ∀ {front chars back : List Char}, (∀ character ∈ front ++ back, isBlank character = true) →
      Json.Spells Json.nestingLimit (.object members) chars →
      Json.parse? (trimmed (String.ofList (front ++ chars ++ back))) =
        some (.ofMembers members) := by
  have compares := comparisonOf?_ofList listed
  refine ⟨spells.parse_eq, ?_, fun json reads => ?_, fun blank spelled => ?_⟩
  · rw [Condition.ofJson, Json.ofMembers, conditionOf]
    simp only [compares]
  · have parses := parse_of_json reads compares
    refine ⟨parses, fun context => ?_⟩
    simp only [holds, spells.parse_eq, parses]
  · obtain ⟨-, -, -, -, -, operand⟩ := spells
    exact parse?_comparison operand listed blank spelled

/-- Quotes, a symbol and a blank in the value, and no blank around the symbol. -/
theorem infix_agrees_json_quotes :
    Condition.parse "status!=='it's \"x\" >= 1 '" =
      .ok (.comparison "status" .ne (.string "it's \"x\" >= 1 ")) ∧
    holds "status!=='it's \"x\" >= 1 '" (Context.start .null) =
      holds (Json.compact (.object [("field", .string "status"), ("operator", .string "!=="),
        ("value", .string "it's \"x\" >= 1 ")])) (Context.start .null) := by
  have accepted : "status".toList.all isFieldChar = true := by decide
  have named : SpellsField "status".toList :=
    ⟨by decide, fun character member =>
      (isFieldChar_iff character).mp (List.all_eq_true.mp accepted character member),
      by decide, by decide⟩
  have quoted : SpellsOperand (.string "it's \"x\" >= 1 ") _ :=
    .quoted (by decide : '\'' ∈ ['\'', '"']) "it's \"x\" >= 1 "
  have spells : SpellsInfix "status" "!==" _ _ :=
    @SpellsInfix.around _ _ _ [] [] _ named (by decide) (by simp) (by simp) (by decide) quoted
  obtain ⟨parses, -, agrees, reads⟩ := infix_agrees_json spells (.refl _)
  have compact := Json.spells_compactChars Json.nestingLimit
    (.object [("field", .string "status"), ("operator", .string "!=="),
      ("value", .string "it's \"x\" >= 1 ")]) ⟨trivial, trivial, trivial, trivial⟩
  exact ⟨parses, (agrees _ (@reads [] _ [] (by simp) compact)).2 _⟩

end Flowline.Guard
