import Flowline.Proofs.Json.Numeral
import Flowline.Proofs.Json.Text

/-!
# JSON texts

The texts of a value, with blanks wherever the grammar has them.  Whatever text a value
is given, that value is read from it.
-/

namespace Flowline.Json

open Document

/-! ## Blanks -/

/-- Blanks of the grammar and nothing else. -/
def Blank (characters : List Char) : Prop := ∀ character ∈ characters, isSpace character = true

theorem blank_nil : Blank [] := by simp [Blank]

/-- What a value may begin with. -/
def Begins (characters : List Char) : Prop :=
  ∃ character rest, characters = character :: rest ∧ isSpace character = false ∧
    character ≠ ']' ∧ character ≠ '}'

variable {blank chars rest : List Char}

theorem Begins.append (begins : Begins chars) (rest : List Char) : Begins (chars ++ rest) := by
  obtain ⟨character, more, rfl, visible⟩ := begins
  exact ⟨character, more ++ rest, rfl, visible⟩

/-- Blanks are skipped up to what is none. -/
theorem skipSpace_blank_cons {character : Char} (blanks : Blank blank)
    (visible : isSpace character = false) (rest : List Char) :
    skipSpace (blank ++ character :: rest) = character :: rest := by
  rw [skipSpace, List.dropWhile_append_of_pos blanks,
    List.dropWhile_cons_of_neg (by simp [visible])]

theorem skipSpace_blank (blanks : Blank blank) (begins : Begins chars) :
    skipSpace (blank ++ chars) = chars := by
  obtain ⟨character, more, rfl, visible, -⟩ := begins
  exact skipSpace_blank_cons blanks visible more

theorem ends_blank (blanks : Blank blank) (ends : Ends rest) : Ends (blank ++ rest) := by
  cases blank with
  | nil => exact ends
  | cons character more =>
      have space := blanks character List.mem_cons_self
      simp only [isSpace, Bool.or_eq_true, beq_iff_eq] at space
      rcases space with ((rfl | rfl) | rfl) | rfl <;> exact ends_cons rfl (by decide) (by decide)

theorem ends_closing {character : Char} (closing : character ∈ [',', ']', '}'])
    (rest : List Char) : Ends (character :: rest) := by
  simp only [List.mem_cons, List.not_mem_nil, or_false] at closing
  rcases closing with rfl | rfl | rfl <;> exact ends_cons rfl (by decide) (by decide)

/-! ## Texts of values -/

mutual

/-- The texts of a value whose containers are nested within some levels. -/
inductive Spells : Nat → Json → List Char → Prop where
  | null {levels : Nat} : Spells levels .null "null".toList
  | bool {levels : Nat} (value : Bool) :
      Spells levels (.bool value) (if value then "true" else "false").toList
  | number {levels : Nat} {numeral : Numeral} (legible : numeral.Legible) :
      Spells levels (.number numeral) numeral.render.toList
  | string {levels : Nat} (text : String) : Spells levels (.string text) (quote text)
  | noItems {levels : Nat} {blank : List Char} (inside : Blank blank) :
      Spells (levels + 1) (.array []) ('[' :: (blank ++ [']']))
  | items {levels : Nat} {blank chars : List Char} {items : List Json} (inside : Blank blank)
      (spells : SpellsItems levels items chars) :
      Spells (levels + 1) (.array items) ('[' :: (blank ++ chars))
  | noMembers {levels : Nat} {blank : List Char} (inside : Blank blank) :
      Spells (levels + 1) (.object []) ('{' :: (blank ++ ['}']))
  | members {levels : Nat} {blank chars : List Char} {members : List (String × Json)}
      (inside : Blank blank) (spells : SpellsMembers levels members chars) :
      Spells (levels + 1) (.object members) ('{' :: (blank ++ chars))

/-- The texts of items up to the bracket behind the last one. -/
inductive SpellsItems : Nat → List Json → List Char → Prop where
  | last {levels : Nat} {item : Json} {chars after : List Char}
      (spells : Spells levels item chars) (blank : Blank after) :
      SpellsItems levels [item] (chars ++ (after ++ [']']))
  | cons {levels : Nat} {item : Json} {items : List Json} {chars after before more : List Char}
      (spells : Spells levels item chars) (blanks : Blank after ∧ Blank before)
      (others : SpellsItems levels items more) :
      SpellsItems levels (item :: items) (chars ++ (after ++ ',' :: (before ++ more)))

/-- The texts of members up to the brace behind the last one. -/
inductive SpellsMembers : Nat → List (String × Json) → List Char → Prop where
  | last {levels : Nat} {key : String} {value : Json} {front back chars after : List Char}
      (colon : Blank front ∧ Blank back) (spells : Spells levels value chars)
      (blank : Blank after) :
      SpellsMembers levels [(key, value)]
        (quote key ++ (front ++ ':' :: (back ++ (chars ++ (after ++ ['}'])))))
  | cons {levels : Nat} {key : String} {value : Json} {members : List (String × Json)}
      {front back chars after before more : List Char}
      (colon : Blank front ∧ Blank back) (spells : Spells levels value chars)
      (blanks : Blank after ∧ Blank before) (others : SpellsMembers levels members more) :
      SpellsMembers levels ((key, value) :: members)
        (quote key ++ (front ++ ':' :: (back ++ (chars ++ (after ++ ',' :: (before ++ more))))))

end

variable {levels : Nat}

theorem begins_digit_or_minus {first : Char} (kind : first.isDigit = true ∨ first = '-')
    (more : List Char) : Begins (first :: more) := by
  refine ⟨first, more, rfl, ?_⟩
  rcases kind with digit | rfl
  · refine ⟨?_, ?_, ?_⟩
    · rw [Bool.eq_false_iff]
      intro space
      simp only [isSpace, Bool.or_eq_true, beq_iff_eq] at space
      rcases space with ((rfl | rfl) | rfl) | rfl <;> cases digit
    · rintro rfl
      cases digit
    · rintro rfl
      cases digit
  · decide

theorem begins_quote (text : String) : Begins (quote text) := ⟨'"', _, rfl, by decide⟩

theorem Spells.begins {value : Json} (spells : Spells levels value chars) : Begins chars := by
  cases spells with
  | null => exact ⟨'n', _, rfl, by decide⟩
  | bool value => cases value <;> exact ⟨_, _, rfl, by decide⟩
  | number legible =>
      obtain ⟨first, more, begins, kind⟩ := legible.begins
      rw [begins]
      exact begins_digit_or_minus kind more
  | string text => exact begins_quote text
  | noItems | items => exact ⟨'[', _, rfl, by decide⟩
  | noMembers | members => exact ⟨'{', _, rfl, by decide⟩

theorem SpellsItems.begins {items : List Json} (spells : SpellsItems levels items chars) :
    Begins chars := by
  cases spells with
  | last spells | cons spells => exact spells.begins.append _

theorem SpellsMembers.begins {members : List (String × Json)}
    (spells : SpellsMembers levels members chars) : Begins chars := by
  cases spells with
  | last | cons => exact (begins_quote _).append _

/-- The bracket behind the last item is the last character. -/
theorem SpellsItems.getLast?_eq : ∀ {levels : Nat} {items : List Json} {chars : List Char},
    SpellsItems levels items chars → chars.getLast? = some ']'
  | _, _, _, .last _ _ => by simp [List.getLast?_append]
  | _, _, _, .cons _ _ others => by
      simp [List.getLast?_append, List.getLast?_cons, others.getLast?_eq]
termination_by structural _ _ _ spells => spells

/-- The brace behind the last member is the last character. -/
theorem SpellsMembers.getLast?_eq : ∀ {levels : Nat} {members : List (String × Json)}
    {chars : List Char}, SpellsMembers levels members chars → chars.getLast? = some '}'
  | _, _, _, .last _ _ _ => by simp [List.getLast?_append, List.getLast?_cons]
  | _, _, _, .cons _ _ _ others => by
      simp [List.getLast?_append, List.getLast?_cons, others.getLast?_eq]
termination_by structural _ _ _ spells => spells

/-- What does not begin as any other value is a number. -/
theorem readDocument_number {first : Char} {more : List Char} (bound : Nat)
    (kind : first.isDigit = true ∨ first = '-') (same : skipSpace chars = first :: more) :
    readDocument (bound + 1) levels chars = readNumber (first :: more) := by
  unfold readDocument
  rw [same]
  have other {character : Char} (digit : character.isDigit = false) (minus : character ≠ '-') :
      first ≠ character := by
    rintro rfl
    simp [digit, minus] at kind
  split <;> rename_i equal
  all_goals first
    | rfl
    | (cases equal; exact (other rfl (by decide) rfl).elim)

/-! ## Reading -/

variable {steps bound : Nat} {before : List Char}

theorem readText_of_quote (text : String) (rest : List Char) : ∃ quoted,
    quote text ++ rest = '"' :: quoted ∧ readText quoted = some (some text, rest) := by
  obtain ⟨quoted, same, reads⟩ := readText_quote text rest
  exact ⟨quoted ++ rest, by rw [same]; rfl, reads⟩

/-- Items are read where a bracket opens and something stands in it. -/
theorem readDocument_items {inner body : List Char} {items : List Document}
    (opens : skipSpace chars = '[' :: inner) (skipped : skipSpace inner = body)
    (begins : Begins body)
    (reads : readItems (readDocument bound levels) body.length body = some (items, rest)) :
    readDocument (bound + 1) (levels + 1) chars = some (.array items, rest) := by
  obtain ⟨character, more, rfl, -, unclosed, -⟩ := begins
  unfold readDocument
  rw [opens]
  simp only [skipped]
  split
  next same =>
    cases same
    exact (unclosed rfl).elim
  next => exact Option.bind_eq_some_iff.mpr ⟨_, reads, rfl⟩

/-- Members are read where a brace opens and something stands in it. -/
theorem readDocument_members {inner body : List Char}
    {members : List (Option String × Document)}
    (opens : skipSpace chars = '{' :: inner) (skipped : skipSpace inner = body)
    (begins : Begins body)
    (reads : readMembers (readDocument bound levels) body.length body = some (members, rest)) :
    readDocument (bound + 1) (levels + 1) chars = some (.object members, rest) := by
  obtain ⟨character, more, rfl, -, -, unclosed⟩ := begins
  unfold readDocument
  rw [opens]
  simp only [skipped]
  split
  next same =>
    cases same
    exact (unclosed rfl).elim
  next => exact Option.bind_eq_some_iff.mpr ⟨_, reads, rfl⟩

theorem skipSpace_begins (begins : Begins chars) : skipSpace chars = chars :=
  skipSpace_blank blank_nil begins

theorem readDocument_blank (blanks : Blank blank) (begins : Begins chars) :
    readDocument bound levels (blank ++ chars) = readDocument bound levels chars := by
  cases bound with
  | zero => rfl
  | succ bound =>
      unfold readDocument
      rw [skipSpace_blank blanks begins, skipSpace_begins begins]

theorem readItems_blank (blanks : Blank blank) (begins : Begins chars) :
    readItems (readDocument bound levels) steps (blank ++ chars) =
      readItems (readDocument bound levels) steps chars := by
  cases steps with
  | zero => rfl
  | succ steps => rw [readItems, readItems, readDocument_blank blanks begins]

theorem readMembers_blank (blanks : Blank blank) (begins : Begins chars) {item : Reader Document} :
    readMembers item steps (blank ++ chars) = readMembers item steps chars := by
  cases steps with
  | zero => rfl
  | succ steps =>
      rw [readMembers, readMembers, skipSpace_blank blanks begins, skipSpace_begins begins]

/-- Behind its key and a colon the value of a member is read; then the members end, or
others follow. -/
theorem readMembers_value {key : String} {front back more : List Char} {member : Document}
    (colon : Blank front ∧ Blank back) (begins : Begins chars)
    (reads : readDocument bound levels chars = some (member, rest)) :
    (skipSpace rest = '}' :: more →
      readMembers (readDocument bound levels) (steps + 1)
          (quote key ++ (front ++ ':' :: (back ++ chars))) =
        some ([(some key, member)], more)) ∧
    ∀ {members : List (Option String × Document)} {last : List Char},
      skipSpace rest = ',' :: more →
      readMembers (readDocument bound levels) steps more = some (members, last) →
      readMembers (readDocument bound levels) (steps + 1)
          (quote key ++ (front ++ ':' :: (back ++ chars))) =
        some ((some key, member) :: members, last) := by
  obtain ⟨quoted, same, text⟩ := readText_of_quote key (front ++ ':' :: (back ++ chars))
  have separated := skipSpace_blank_cons colon.1 (by rfl : isSpace ':' = false) (back ++ chars)
  have value := (readDocument_blank colon.2 begins).trans reads
  rw [readMembers, skipSpace_begins ((begins_quote key).append _), same]
  constructor
  · intro closes
    refine Option.bind_eq_some_iff.mpr ⟨_, text, ?_⟩
    simp only [separated]
    refine Option.bind_eq_some_iff.mpr ⟨_, value, ?_⟩
    simp only [closes]
  · intro members last continues others
    refine Option.bind_eq_some_iff.mpr ⟨_, text, ?_⟩
    simp only [separated]
    refine Option.bind_eq_some_iff.mpr ⟨_, value, ?_⟩
    simp only [continues]
    exact Option.bind_eq_some_iff.mpr ⟨_, others, rfl⟩

mutual

/-- A value is read from each of its texts. -/
theorem Spells.reads : ∀ {levels : Nat} {value : Json} {chars : List Char},
    Spells levels value chars → ∀ ⦃bound : Nat⦄ ⦃rest : List Char⦄,
    chars.length ≤ bound → Ends rest →
    readDocument (bound + 1) levels (chars ++ rest) = some (ofValue value, rest)
  | _, _, _, .null => by
      intro bound rest long ends
      rfl
  | _, _, _, .bool value => by
      intro bound rest long ends
      cases value <;> rfl
  | _, _, _, .number legible => by
      intro bound rest long ends
      obtain ⟨first, more, begins, kind⟩ := legible.begins
      have reads := legible.reads rest ends
      rw [begins] at reads ⊢
      exact (readDocument_number bound kind
        (skipSpace_begins (begins_digit_or_minus kind _))).trans reads
  | _, _, _, .string text => by
      intro bound rest long ends
      obtain ⟨quoted, same, reads⟩ := readText_of_quote text rest
      rw [same]
      exact Option.bind_eq_some_iff.mpr ⟨_, reads, rfl⟩
  | _, _, _, .noItems inside => by
      intro bound rest long ends
      have closes := skipSpace_blank_cons inside (by rfl : isSpace ']' = false) rest
      rw [List.cons_append, List.append_assoc]
      unfold readDocument
      rw [skipSpace_begins ⟨'[', _, rfl, by decide⟩]
      simp only [List.singleton_append, closes]
      rfl
  | _, _, _, .items inside items => by
      intro bound rest long ends
      have begins := items.begins.append rest
      rw [List.cons_append, List.append_assoc]
      simp only [List.length_cons, List.length_append] at long
      exact readDocument_items (skipSpace_begins ⟨'[', _, rfl, by decide⟩)
        (skipSpace_blank inside begins) begins (items.reads (by omega) (by simp))
  | _, _, _, .noMembers inside => by
      intro bound rest long ends
      have closes := skipSpace_blank_cons inside (by rfl : isSpace '}' = false) rest
      rw [List.cons_append, List.append_assoc]
      unfold readDocument
      rw [skipSpace_begins ⟨'{', _, rfl, by decide⟩]
      simp only [List.singleton_append, closes]
      rfl
  | _, _, _, .members inside members => by
      intro bound rest long ends
      have begins := members.begins.append rest
      rw [List.cons_append, List.append_assoc]
      simp only [List.length_cons, List.length_append] at long
      exact readDocument_members (skipSpace_begins ⟨'{', _, rfl, by decide⟩)
        (skipSpace_blank inside begins) begins (members.reads (by omega) (by simp))
termination_by structural _ _ _ spells => spells

theorem SpellsItems.reads : ∀ {levels : Nat} {items : List Json} {chars : List Char},
    SpellsItems levels items chars → ∀ ⦃bound steps : Nat⦄ ⦃rest : List Char⦄,
    chars.length ≤ bound → chars.length ≤ steps →
    readItems (readDocument bound levels) steps (chars ++ rest) = some (ofItems items, rest)
  | _, _, _, .last spells behind => by
      intro bound steps rest deep long
      simp only [List.length_append, List.length_singleton] at deep long
      obtain ⟨bound, rfl⟩ := Nat.exists_eq_add_one_of_ne_zero (by omega : bound ≠ 0)
      obtain ⟨steps, rfl⟩ := Nat.exists_eq_add_one_of_ne_zero (by omega : steps ≠ 0)
      simp only [List.append_assoc, List.singleton_append]
      refine Option.bind_eq_some_iff.mpr ⟨_, spells.reads (by omega)
        (ends_blank behind (ends_closing (by decide) _)), ?_⟩
      simp only [skipSpace_blank_cons behind (by rfl : isSpace ']' = false)]
      rfl
  | _, _, _, .cons spells blanks others => by
      intro bound steps rest deep long
      simp only [List.length_append, List.length_cons] at deep long
      obtain ⟨bound, rfl⟩ := Nat.exists_eq_add_one_of_ne_zero (by omega : bound ≠ 0)
      obtain ⟨steps, rfl⟩ := Nat.exists_eq_add_one_of_ne_zero (by omega : steps ≠ 0)
      simp only [List.append_assoc, List.cons_append]
      refine Option.bind_eq_some_iff.mpr ⟨_, spells.reads (by omega)
        (ends_blank blanks.1 (ends_closing (by decide) _)), ?_⟩
      simp only [skipSpace_blank_cons blanks.1 (by rfl : isSpace ',' = false),
        readItems_blank blanks.2 (others.begins.append rest)]
      exact Option.bind_eq_some_iff.mpr ⟨_, others.reads (by omega) (by omega), rfl⟩
termination_by structural _ _ _ spells => spells

theorem SpellsMembers.reads : ∀ {levels : Nat} {members : List (String × Json)}
    {chars : List Char}, SpellsMembers levels members chars →
    ∀ ⦃bound steps : Nat⦄ ⦃rest : List Char⦄, chars.length ≤ bound → chars.length ≤ steps →
    readMembers (readDocument bound levels) steps (chars ++ rest) =
      some (Document.ofMembers members, rest)
  | _, _, _, .last colon spells behind => by
      intro bound steps rest deep long
      simp only [List.length_append, List.length_cons] at deep long
      obtain ⟨bound, rfl⟩ := Nat.exists_eq_add_one_of_ne_zero (by omega : bound ≠ 0)
      obtain ⟨steps, rfl⟩ := Nat.exists_eq_add_one_of_ne_zero (by omega : steps ≠ 0)
      simp only [List.append_assoc, List.cons_append, List.nil_append]
      exact (readMembers_value colon (spells.begins.append _) (spells.reads (by omega)
        (ends_blank behind (ends_closing (by decide) _)))).1 (skipSpace_blank_cons behind rfl rest)
  | _, _, _, .cons colon spells blanks others => by
      intro bound steps rest deep long
      simp only [List.length_append, List.length_cons] at deep long
      obtain ⟨bound, rfl⟩ := Nat.exists_eq_add_one_of_ne_zero (by omega : bound ≠ 0)
      obtain ⟨steps, rfl⟩ := Nat.exists_eq_add_one_of_ne_zero (by omega : steps ≠ 0)
      simp only [List.append_assoc, List.cons_append]
      have behind := (readMembers_blank blanks.2 (others.begins.append rest)).trans
        (others.reads (by omega : _ ≤ bound + 1) (by omega : _ ≤ steps))
      exact (readMembers_value colon (spells.begins.append _) (spells.reads (by omega)
        (ends_blank blanks.1 (ends_closing (by decide) _)))).2
        (skipSpace_blank_cons blanks.1 rfl _) behind
termination_by structural _ _ _ spells => spells

end

/-- From a text of a value its document is read. -/
theorem Spells.parse? {text : String} {value : Json}
    (spells : Spells nestingLimit value text.toList) :
    Document.parse? text = some (ofValue value) := by
  have reads := spells.reads le_rfl ends_nil
  rw [List.append_nil] at reads
  rw [Document.parse?]
  simp only [reads]
  rfl

/-! ## Printing -/

mutual

/-- A value whose numbers are read back and whose containers are nested within some levels. -/
def Printable : Nat → Json → Prop
  | _, .null | _, .bool _ | _, .string _ => True
  | _, .number numeral => numeral.Legible
  | 0, .array _ | 0, .object _ => False
  | levels + 1, .array items => PrintableItems levels items
  | levels + 1, .object members => PrintableMembers levels members
termination_by structural _ value => value

def PrintableItems : Nat → List Json → Prop
  | _, [] => True
  | levels, item :: items => Printable levels item ∧ PrintableItems levels items
termination_by structural _ items => items

def PrintableMembers : Nat → List (String × Json) → Prop
  | _, [] => True
  | levels, (_, value) :: members => Printable levels value ∧ PrintableMembers levels members
termination_by structural _ members => members

end

theorem blank_space : Blank [' '] := by simp [Blank, isSpace]

theorem blank_newLine (depth : Nat) : Blank (newLine depth) := by
  intro character member
  rcases List.mem_cons.mp member with rfl | member
  · rfl
  · rw [List.eq_of_mem_replicate member]
    rfl

mutual

/-- The indented text of a value is one of its texts. -/
theorem spells_indentedChars : ∀ (levels depth : Nat) (value : Json), Printable levels value →
    Spells levels value (indentedChars depth value)
  | _, _, .null, _ => .null
  | _, _, .bool value, _ => .bool value
  | _, _, .number _, legible => .number legible
  | _, _, .string text, _ => .string text
  | 0, _, .array _, unprintable => unprintable.elim
  | 0, _, .object _, unprintable => unprintable.elim
  | _ + 1, _, .array [], _ => .noItems blank_nil
  | _ + 1, _, .object [], _ => .noMembers blank_nil
  | levels + 1, depth, .array (item :: items), printable => by
      obtain ⟨chars, same, spells⟩ := spells_indentedItems levels (depth + 1) (item :: items)
        printable (List.cons_ne_nil item items) (blank_newLine depth)
      have text : indentedChars depth (.array (item :: items)) =
          '[' :: (newLine (depth + 1) ++ chars) := by
        rw [← same, indentedChars, List.cons_append, List.cons_append, List.append_assoc]
        exact fun same => (List.cons_ne_nil item items same).elim
      rw [text]
      exact .items (blank_newLine (depth + 1)) spells
  | levels + 1, depth, .object (member :: members), printable => by
      obtain ⟨chars, same, spells⟩ := spells_indentedMembers levels (depth + 1)
        (member :: members) printable (List.cons_ne_nil member members) (blank_newLine depth)
      have text : indentedChars depth (.object (member :: members)) =
          '{' :: (newLine (depth + 1) ++ chars) := by
        rw [← same, indentedChars, List.cons_append, List.cons_append, List.append_assoc]
        exact fun same => (List.cons_ne_nil member members same).elim
      rw [text]
      exact .members (blank_newLine (depth + 1)) spells
termination_by structural _ _ value => value

theorem spells_indentedItems : ∀ (levels depth : Nat) (items : List Json),
    PrintableItems levels items → items ≠ [] → ∀ ⦃behind : List Char⦄, Blank behind →
    ∃ chars, indentedItems depth items ++ (behind ++ [']']) = newLine depth ++ chars ∧
      SpellsItems levels items chars
  | _, _, [], _, filled => (filled rfl).elim
  | levels, depth, [item], printable, _ => by
      intro behind blank
      have spells := spells_indentedChars levels depth item printable.1
      refine ⟨_, ?_, .last spells blank⟩
      rw [indentedItems, List.append_assoc]
  | levels, depth, item :: next :: items, printable, _ => by
      intro behind blank
      have spells := spells_indentedChars levels depth item printable.1
      obtain ⟨chars, same, others⟩ := spells_indentedItems levels depth (next :: items)
        printable.2 (List.cons_ne_nil next items) blank
      refine ⟨_, ?_, .cons spells ⟨blank_nil, blank_newLine depth⟩ others⟩
      rw [indentedItems, ← same]
      · simp only [List.append_assoc, List.cons_append, List.nil_append]
      · exact fun same => (List.cons_ne_nil next items same).elim
termination_by structural _ _ items => items

theorem spells_indentedMembers : ∀ (levels depth : Nat) (members : List (String × Json)),
    PrintableMembers levels members → members ≠ [] → ∀ ⦃behind : List Char⦄, Blank behind →
    ∃ chars, indentedMembers depth members ++ (behind ++ ['}']) = newLine depth ++ chars ∧
      SpellsMembers levels members chars
  | _, _, [], _, filled => (filled rfl).elim
  | levels, depth, [(key, value)], printable, _ => by
      intro behind blank
      have spells := spells_indentedChars levels depth value printable.1
      refine ⟨_, ?_, .last ⟨blank_nil, blank_space⟩ spells blank⟩
      rw [indentedMembers]
      simp only [List.append_assoc, List.cons_append, List.nil_append]
  | levels, depth, (key, value) :: next :: members, printable, _ => by
      intro behind blank
      have spells := spells_indentedChars levels depth value printable.1
      obtain ⟨chars, same, others⟩ := spells_indentedMembers levels depth (next :: members)
        printable.2 (List.cons_ne_nil next members) blank
      refine ⟨_, ?_, .cons ⟨blank_nil, blank_space⟩ spells ⟨blank_nil, blank_newLine depth⟩ others⟩
      rw [indentedMembers, ← same]
      · simp only [List.append_assoc, List.cons_append, List.nil_append]
      · exact fun same => (List.cons_ne_nil next members same).elim
termination_by structural _ _ members => members

end

mutual

/-- The compact text of a value is one of its texts. -/
theorem spells_compactChars : ∀ (levels : Nat) (value : Json), Printable levels value →
    Spells levels value (compactChars value)
  | _, .null, _ => .null
  | _, .bool value, _ => .bool value
  | _, .number _, legible => .number legible
  | _, .string text, _ => .string text
  | 0, .array _, unprintable => unprintable.elim
  | 0, .object _, unprintable => unprintable.elim
  | _ + 1, .array [], _ => .noItems blank_nil
  | _ + 1, .object [], _ => .noMembers blank_nil
  | levels + 1, .array (item :: items), printable => by
      have spells := spells_compactItems levels (item :: items) printable
        (List.cons_ne_nil item items)
      rw [compactChars, List.cons_append, ← List.nil_append (compactItems (item :: items) ++ [']'])]
      exact .items blank_nil spells
  | levels + 1, .object (member :: members), printable => by
      have spells := spells_compactMembers levels (member :: members) printable
        (List.cons_ne_nil member members)
      rw [compactChars, List.cons_append,
        ← List.nil_append (compactMembers (member :: members) ++ ['}'])]
      exact .members blank_nil spells
termination_by structural _ value => value

theorem spells_compactItems : ∀ (levels : Nat) (items : List Json),
    PrintableItems levels items → items ≠ [] →
    SpellsItems levels items (compactItems items ++ [']'])
  | _, [], _, filled => (filled rfl).elim
  | levels, [item], printable, _ =>
      .last (spells_compactChars levels item printable.1) blank_nil
  | levels, item :: next :: items, printable, _ => by
      have spells := spells_compactChars levels item printable.1
      have others := spells_compactItems levels (next :: items) printable.2
        (List.cons_ne_nil next items)
      have text : compactItems (item :: next :: items) ++ [']'] =
          compactChars item ++ ([] ++ ',' :: ([] ++ (compactItems (next :: items) ++ [']']))) := by
        rw [compactItems]
        · simp only [List.append_assoc, List.cons_append, List.nil_append]
        · exact fun same => (List.cons_ne_nil next items same).elim
      rw [text]
      exact .cons spells ⟨blank_nil, blank_nil⟩ others
termination_by structural _ items => items

theorem spells_compactMembers : ∀ (levels : Nat) (members : List (String × Json)),
    PrintableMembers levels members → members ≠ [] →
    SpellsMembers levels members (compactMembers members ++ ['}'])
  | _, [], _, filled => (filled rfl).elim
  | levels, [(key, value)], printable, _ => by
      have spells := spells_compactChars levels value printable.1
      have text : compactMembers [(key, value)] ++ ['}'] =
          quote key ++ ([] ++ ':' :: ([] ++ (compactChars value ++ ([] ++ ['}'])))) := by
        rw [compactMembers]
        simp only [List.append_assoc, List.cons_append, List.nil_append]
      rw [text]
      exact .last ⟨blank_nil, blank_nil⟩ spells blank_nil
  | levels, (key, value) :: next :: members, printable, _ => by
      have spells := spells_compactChars levels value printable.1
      have others := spells_compactMembers levels (next :: members) printable.2
        (List.cons_ne_nil next members)
      have text : compactMembers ((key, value) :: next :: members) ++ ['}'] =
          quote key ++ ([] ++ ':' :: ([] ++ (compactChars value ++ ([] ++ ',' ::
            ([] ++ (compactMembers (next :: members) ++ ['}'])))))) := by
        rw [compactMembers]
        · simp only [List.append_assoc, List.cons_append, List.nil_append]
        · exact fun same => (List.cons_ne_nil next members same).elim
      rw [text]
      exact .cons ⟨blank_nil, blank_nil⟩ spells ⟨blank_nil, blank_nil⟩ others
termination_by structural _ members => members

end

/-- What is printed in one line is read back. -/
theorem parse?_compact {value : Json} (printable : Printable nestingLimit value) :
    Document.parse? value.compact = some (ofValue value) := by
  apply Spells.parse?
  rw [compact, String.toList_ofList]
  exact spells_compactChars nestingLimit value printable

/-- What is printed is read back. -/
theorem parse?_indented {value : Json} (printable : Printable nestingLimit value) :
    Document.parse? value.indented = some (ofValue value) := by
  apply Spells.parse?
  rw [indented, String.toList_ofList]
  exact spells_indentedChars nestingLimit 0 value printable

end Flowline.Json
