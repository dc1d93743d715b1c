import Flowline.Proofs.Json.Document
import Flowline.Proofs.Json.Float
import Flowline.Proofs.Json.Scalar
import Flowline.Proofs.Text.Runs

/-!
# What is read from a text

The numbers of a document that was read from a text are read back from theirs, and its
containers are nested no deeper than allowed.  So the value of a part of it can be written
again, and what is read then is that value.
-/

namespace Flowline

namespace Json

open Number Document

/-! ## Documents of a kind -/

namespace Document

/-- A document whose numbers are of some kind and whose containers are nested within some
levels.  Nothing is asked of its unreadable parts. -/
inductive Within (kind : Numeral → Prop) : Nat → Document → Prop where
  | null {levels : Nat} : Within kind levels .null
  | bool {levels : Nat} (value : Bool) : Within kind levels (.bool value)
  | number {levels : Nat} {numeral : Numeral} (holds : kind numeral) :
      Within kind levels (.number numeral)
  | string {levels : Nat} (text : String) : Within kind levels (.string text)
  | array {levels : Nat} {items : List Document} (each : ∀ item ∈ items, Within kind levels item) :
      Within kind (levels + 1) (.array items)
  | object {levels : Nat} {members : List (Option String × Document)}
      (each : ∀ member ∈ members, Within kind levels member.2) :
      Within kind (levels + 1) (.object members)
  | unreadable {levels : Nat} : Within kind levels .unreadable

mutual

/-- The numbers in a document. -/
def numbers : Document → List Numeral
  | .number numeral => [numeral]
  | .array items => numbersOfItems items
  | .object members => numbersOfMembers members
  | .null | .bool _ | .string _ | .unreadable => []
termination_by structural document => document

def numbersOfItems : List Document → List Numeral
  | [] => []
  | item :: rest => item.numbers ++ numbersOfItems rest
termination_by structural items => items

def numbersOfMembers : List (Option String × Document) → List Numeral
  | [] => []
  | (_, member) :: rest => member.numbers ++ numbersOfMembers rest
termination_by structural members => members

end

variable {kind other : Numeral → Prop} {levels : Nat} {document : Document}

theorem mem_numbersOfItems {items : List Document} {item : Document} (listed : item ∈ items)
    {numeral : Numeral} (occurs : numeral ∈ item.numbers) : numeral ∈ numbersOfItems items := by
  induction items with
  | nil => cases listed
  | cons first rest ih =>
      rw [numbersOfItems, List.mem_append]
      rcases List.mem_cons.mp listed with rfl | behind
      · exact .inl occurs
      · exact .inr (ih behind)

theorem mem_numbersOfMembers {members : List (Option String × Document)}
    {member : Option String × Document} (listed : member ∈ members) {numeral : Numeral}
    (occurs : numeral ∈ member.2.numbers) : numeral ∈ numbersOfMembers members := by
  induction members with
  | nil => cases listed
  | cons first rest ih =>
      rw [numbersOfMembers, List.mem_append]
      rcases List.mem_cons.mp listed with rfl | behind
      · exact .inl occurs
      · exact .inr (ih behind)

theorem Within.mono (within : Within kind levels document)
    (weaker : ∀ {numeral}, kind numeral → other numeral) : Within other levels document := by
  induction within with
  | null => exact .null
  | bool value => exact .bool value
  | number holds => exact .number (weaker holds)
  | string text => exact .string text
  | array _ ih => exact .array ih
  | object _ ih => exact .object ih
  | unreadable => exact .unreadable

/-- What holds of all numbers in a document can be added to their kind. -/
theorem Within.and (within : Within kind levels document)
    (all : ∀ numeral ∈ document.numbers, other numeral) :
    Within (fun numeral => kind numeral ∧ other numeral) levels document := by
  induction within with
  | null => exact .null
  | bool value => exact .bool value
  | number holds => exact .number ⟨holds, all _ (List.mem_singleton.mpr rfl)⟩
  | string text => exact .string text
  | array _ ih =>
      exact .array fun item listed =>
        ih item listed fun numeral occurs => all numeral (mem_numbersOfItems listed occurs)
  | object _ ih =>
      exact .object fun member listed =>
        ih member listed fun numeral occurs => all numeral (mem_numbersOfMembers listed occurs)
  | unreadable => exact .unreadable

end Document

/-! ## Readers -/

section Readers

variable {item : Reader Document} {good : Document → Prop}

theorem ReadsItems.forall {characters rest : List Char} {items : List Document}
    (reads : ReadsItems item characters items rest)
    (each : ∀ {characters document rest}, item characters = some (document, rest) → good document) :
    ∀ document ∈ items, good document := by
  induction reads with
  | last begins => exact List.forall_mem_singleton.mpr (each begins)
  | more begins _ _ ih => exact List.forall_mem_cons.mpr ⟨each begins, ih⟩

theorem ReadsMembers.forall {characters rest : List Char}
    {members : List (Option String × Document)}
    (reads : ReadsMembers item characters members rest)
    (each : ∀ {characters document rest}, item characters = some (document, rest) → good document) :
    ∀ member ∈ members, good member.2 := by
  have value {characters behind : List Char} {member : Option String × Document} :
      ReadsMember item characters member behind → good member.2
    | .intro _ _ _ begins => each begins
  induction reads with
  | last begins => exact List.forall_mem_singleton.mpr (value begins)
  | more begins _ _ ih => exact List.forall_mem_cons.mpr ⟨value begins, ih⟩

end Readers

/-- A number that is read is read back from its text. -/
theorem legible_of_numeralOf {negative : Bool} {whole : List Char} {fraction : Option (List Char)}
    {power : Option Int} {numeral : Numeral}
    (read : numeralOf negative whole fraction power = some numeral) : numeral.Legible := by
  unfold numeralOf at read
  simp only at read
  split at read
  next holds =>
    cases read
    simp only [Bool.and_eq_true, decide_eq_true_eq] at holds
    exact Numeral.legible_natCast holds.2
  next =>
    split at read
    next holds =>
      cases read
      simp only [Bool.and_eq_true, decide_eq_true_eq, bne_iff_ne] at holds
      exact Numeral.legible_neg (Nat.pos_of_ne_zero holds.1.2) holds.2
    next =>
      split at read
      next finite =>
        cases read
        exact Numeral.legible_float ⟨Decimal.held_toBinary (by decide) _, of_decide_eq_true finite⟩
      next => cases read

variable {levels : Nat} {characters rest : List Char} {document : Document}

theorem ReadsNumber.within (reads : ReadsNumber characters document rest) :
    document.Within Numeral.Legible levels := by
  cases reads with
  | @intro _ _ _ _ whole fraction power negative =>
      cases found : numeralOf negative whole fraction power with
      | none => exact .unreadable
      | some numeral => exact .number (legible_of_numeralOf found)

/-- A container that is not too deep is kept, and any other one is unreadable. -/
theorem within_array {kind : Numeral → Prop} {items : List Document}
    (each : ∀ item ∈ items, item.Within kind (levels - 1)) :
    (Document.within levels (.array items)).Within kind levels := by
  cases levels with
  | zero => exact .unreadable
  | succ levels => exact .array each

theorem within_object {kind : Numeral → Prop} {members : List (Option String × Document)}
    (each : ∀ member ∈ members, member.2.Within kind (levels - 1)) :
    (Document.within levels (.object members)).Within kind levels := by
  cases levels with
  | zero => exact .unreadable
  | succ levels => exact .object each

theorem ReadsDocument.within {item : Reader Document}
    (reads : ReadsDocument item levels characters document rest)
    (each : ∀ {characters document rest}, item characters = some (document, rest) →
      document.Within Numeral.Legible (levels - 1)) : document.Within Numeral.Legible levels := by
  cases reads with
  | emptyObject => exact within_object (by simp)
  | object inside => exact within_object (inside.forall each)
  | emptyArray => exact within_array (by simp)
  | array inside => exact within_array (inside.forall each)
  | @text _ _ text =>
      cases text with
      | none => exact .unreadable
      | some text => exact .string text
  | null => exact .null
  | bool value => exact .bool value
  | number digits => exact digits.within

theorem within_of_readDocument {bound : Nat}
    (read : readDocument bound levels characters = some (document, rest)) :
    document.Within Numeral.Legible levels := by
  induction bound generalizing levels characters document rest with
  | zero => cases read
  | succ bound ih => exact (readsDocument_of_readDocument read).within ih

/-- The document of a text. -/
theorem within_of_parse {text : String} (parsed : Document.parse? text = some document) :
    document.Within Numeral.Legible nestingLimit := by
  obtain ⟨rest, read, -⟩ := exists_read_of_parse? parsed
  exact within_of_readDocument read

/-! ## Values that stay -/

/-- A value that is printed and read back as it is. -/
structure Stays (levels : Nat) (value : Json) : Prop where
  printable : Printable levels value
  reads : (ofValue value).value? = some value

theorem stays_array {items : List Json} (each : ∀ item ∈ items, Stays levels item) :
    Stays (levels + 1) (.array items) := by
  have all : PrintableItems levels items ∧ valueItems (ofItems items) = some items := by
    induction items with
    | nil => exact ⟨trivial, rfl⟩
    | cons item rest ih =>
        obtain ⟨first, behind⟩ := List.forall_mem_cons.mp each
        obtain ⟨printable, reads⟩ := ih behind
        exact ⟨⟨first.printable, printable⟩, by rw [ofItems, valueItems, first.reads, reads]⟩
  exact ⟨all.1, by rw [ofValue, value?, all.2, Option.map_some]⟩

/-- Members are read back in the order in which they were written. -/
theorem valueMembers_ofMembers {members : List (String × Json)}
    (each : ∀ member ∈ members, (ofValue member.2).value? = some member.2) :
    valueMembers (Document.ofMembers members) = some members := by
  induction members with
  | nil => rfl
  | cons member rest ih =>
      obtain ⟨first, behind⟩ := List.forall_mem_cons.mp each
      simp only [Document.ofMembers, valueMembers, first, ih behind]

/-- A text of an object is JSON for its members, whatever their order. -/
theorem parse?_of_spells_object {members : List (String × Json)} {text : List Char}
    (spells : Spells nestingLimit (.object members) text)
    (each : ∀ member ∈ members, (ofValue member.2).value? = some member.2) :
    Json.parse? (String.ofList text) = some (.ofMembers members) := by
  rw [Json.parse?, Spells.parse? (by rwa [String.toList_ofList]), Option.bind_some, ofValue,
    value?, valueMembers_ofMembers each, Option.map_some]

theorem stays_object {members : Keyed Json} (ascending : members.Ascending)
    (each : ∀ member ∈ members, Stays levels member.2) : Stays (levels + 1) (.object members) := by
  have reads := valueMembers_ofMembers fun member listed => (each member listed).reads
  refine ⟨printableMembers_of_forall fun member listed => (each member listed).printable, ?_⟩
  rw [ofValue, value?, reads, Option.map_some, Json.ofMembers, ascending.ofList]

theorem forall_of_valueItems {good : Json → Prop} {items : List Document} {values : List Json}
    (each : ∀ item ∈ items, ∀ value, item.value? = some value → good value)
    (found : valueItems items = some values) : ∀ value ∈ values, good value := by
  induction items generalizing values with
  | nil =>
      cases found
      simp
  | cons item rest ih =>
      obtain ⟨first, behind⟩ := List.forall_mem_cons.mp each
      rw [valueItems] at found
      split at found
      next reads others =>
        cases found
        exact List.forall_mem_cons.mpr ⟨first _ reads, ih behind others⟩
      next => cases found

theorem forall_of_valueMembers {good : Json → Prop} {members : List (Option String × Document)}
    {entries : List (String × Json)}
    (each : ∀ member ∈ members, ∀ value, member.2.value? = some value → good value)
    (found : valueMembers members = some entries) : ∀ entry ∈ entries, good entry.2 := by
  induction members generalizing entries with
  | nil =>
      cases found
      simp
  | cons member rest ih =>
      obtain ⟨first, behind⟩ := List.forall_mem_cons.mp each
      unfold valueMembers at found
      split at found
      next reads others =>
        cases found
        exact List.forall_mem_cons.mpr ⟨first _ reads, ih behind others⟩
      next => cases found

theorem eq_null_of_value? (found : document.value? = some .null) : document = .null := by
  cases document with
  | null => rfl
  | array items =>
      obtain ⟨_, -, same⟩ := Option.map_eq_some_iff.mp found
      cases same
  | object members =>
      obtain ⟨_, -, same⟩ := Option.map_eq_some_iff.mp found
      cases same
  | _ => cases found

/-- The value of a document stays. -/
theorem stays_of_value? {value : Json} (within : document.Within Numeral.Legible levels)
    (found : document.value? = some value) : Stays levels value := by
  induction within generalizing value with
  | null =>
      cases found
      exact ⟨trivial, rfl⟩
  | bool value =>
      cases found
      exact ⟨trivial, rfl⟩
  | number legible =>
      cases found
      exact ⟨legible, rfl⟩
  | string text =>
      cases found
      exact ⟨trivial, rfl⟩
  | array _ ih =>
      obtain ⟨values, all, rfl⟩ := Option.map_eq_some_iff.mp found
      exact stays_array (forall_of_valueItems (fun item listed _ => ih item listed) all)
  | object _ ih =>
      obtain ⟨entries, all, rfl⟩ := Option.map_eq_some_iff.mp found
      refine stays_object (Keyed.ascending_ofList entries) fun member listed => ?_
      exact forall_of_valueMembers (fun member listed _ => ih member listed) all member
        (Keyed.mem_ofList listed)
  | unreadable => cases found

/-! ## Blanks around texts -/

theorem ScalarCharacter.unblank {character : Char} (scalar : ScalarCharacter character) :
    Text.isBlank character = false := by
  rcases scalar with digit | letter
  · exact Text.isBlank_of_isDigit digit
  · have visible : "+-.eEnultrfas".toList.all (!Text.isBlank ·) = true := by decide
    simpa using List.all_eq_true.mp visible character letter

/-- No text of a value has blanks at its ends. -/
theorem Spells.edged {value : Json} {chars : List Char} (spells : Spells levels value chars) :
    Text.Edged chars := by
  have marks : Text.isBlank '"' = false ∧ Text.isBlank '[' = false ∧ Text.isBlank ']' = false ∧
      Text.isBlank '{' = false ∧ Text.isBlank '}' = false := by decide
  have word {letters : List Char} (filled : letters ≠ [])
      (visible : letters.all (!Text.isBlank ·) = true) : Text.Edged letters :=
    .of_visible filled (by simpa using visible)
  obtain ⟨quoted, opens, closes, begins, ends⟩ := marks
  cases spells with
  | null => exact word (by decide) (by decide)
  | bool value => cases value <;> exact word (by decide) (by decide)
  | @number _ numeral legible =>
      obtain ⟨first, more, begins, -⟩ := legible.begins
      obtain ⟨taken, same, kind⟩ := (readsNumber_of_readNumber (legible.reads [] ends_nil)).takes
      rw [List.append_nil, List.append_nil] at same
      subst same
      exact .of_visible (by simp [begins]) fun character member => (kind character member).unblank
  | string text =>
      exact ⟨by simp [quote], by simpa [quote] using quoted,
        by simpa [quote, List.getLast?_cons] using quoted⟩
  | noItems inside =>
      exact ⟨by simp, by simpa using opens, by simpa [List.getLast?_cons] using closes⟩
  | items inside spells =>
      exact ⟨by simp, by simpa using opens,
        by simpa [List.getLast?_cons, List.getLast?_append, spells.getLast?_eq] using closes⟩
  | noMembers inside =>
      exact ⟨by simp, by simpa using begins, by simpa [List.getLast?_cons] using ends⟩
  | members inside spells =>
      exact ⟨by simp, by simpa using begins,
        by simpa [List.getLast?_cons, List.getLast?_append, spells.getLast?_eq] using ends⟩

/-- What is printed for a value in one line is a text of it. -/
theorem Stays.parse?_compact {value : Json} (stays : Stays nestingLimit value) :
    Json.parse? (Text.trimmed value.compact) = some value := by
  have edged := (spells_compactChars nestingLimit value stays.printable).edged
  rw [Text.trimmed, compact, String.toList_ofList, edged.trim_eq, ← compact, Json.parse?,
    Json.parse?_compact stays.printable, Option.bind_some, stays.reads]

theorem Stays.parse?_indented {value : Json} (stays : Stays nestingLimit value) :
    Json.parse? (Text.trimmed value.indented) = some value := by
  have edged := (spells_indentedChars nestingLimit 0 value stays.printable).edged
  rw [Text.trimmed, indented, String.toList_ofList, edged.trim_eq, ← indented, Json.parse?,
    Json.parse?_indented stays.printable, Option.bind_some, stays.reads]

/-! ## Fields of what is read -/

namespace Document

variable {kind : Numeral → Prop} {levels : Nat} {document : Document}

theorem mem_of_knownMembers? {names : List String} {members : List (Option String × Document)}
    {found : List (String × Document)} (known : knownMembers? names members = some found) :
    ∀ entry ∈ found, (some entry.1, entry.2) ∈ members := by
  induction members generalizing found with
  | nil =>
      cases known
      simp
  | cons member rest ih =>
      obtain ⟨key, member⟩ := member
      cases key with
      | none => cases known
      | some key =>
          rw [knownMembers?] at known
          split at known
          next => cases known
          next others all =>
            have behind : ∀ entry ∈ others, (some entry.1, entry.2) ∈ (some key, member) :: rest :=
              fun entry listed => List.mem_cons_of_mem _ (ih all entry listed)
            split at known
            · split at known
              · cases known
              · cases known
                exact List.forall_mem_cons.mpr ⟨List.mem_cons_self, behind⟩
            · cases known
              exact behind

/-- The fields of a record. -/
theorem within_of_record? {names : List String} {record : Record}
    (within : document.Within kind (levels + 1)) (found : document.record? names = some record) :
    ∀ entry ∈ record.found, entry.2.Within kind levels := by
  intro entry listed
  cases within with
  | object each =>
      obtain ⟨known, all, rfl⟩ := Option.map_eq_some_iff.mp found
      exact each _ (mem_of_knownMembers? all entry listed)
  | array each =>
      rw [record?] at found
      split at found
      · cases found
        exact each _ (List.of_mem_zip listed).2
      · cases found
  | _ => cases found

/-- What stands behind a tag. -/
theorem within_of_tagged? {tag : String} {rest : Document} (within : document.Within kind levels)
    (found : document.tagged? = some (tag, rest)) : rest.Within kind levels := by
  cases within with
  | object each =>
      rw [tagged?] at found
      split at found
      · split at found
        · cases found
          exact .object fun member listed => each member (List.mem_of_mem_filter listed)
        · cases found
      · cases found
  | @array _ items each =>
      unfold tagged? at found
      split at found
      next same => cases same
      next same =>
        cases same
        split at found
        · cases found
          exact .array fun item listed => each item (List.mem_cons_of_mem _ listed)
        · cases found
      next => cases found
  | _ => cases found

namespace Record

variable {α : Type} {record : Record} {name : String} {read : Document → Option α} {value : α}

theorem exists_of_required (within : ∀ entry ∈ record.found, entry.2.Within kind levels)
    (reads : record.required name read = some value) :
    ∃ document, document.Within kind levels ∧ read document = some value := by
  obtain ⟨document, found, reads⟩ := Option.bind_eq_some_iff.mp reads
  exact ⟨document, within _ (Keyed.mem_of_get? found), reads⟩

theorem exists_of_defaulted {missing : α}
    (within : ∀ entry ∈ record.found, entry.2.Within kind levels)
    (reads : record.defaulted name read missing = some value) :
    value = missing ∨ ∃ document, document.Within kind levels ∧ read document = some value := by
  rw [defaulted] at reads
  split at reads
  next document found => exact .inr ⟨document, within _ (Keyed.mem_of_get? found), reads⟩
  next => exact .inl (Option.some.inj reads).symm

theorem exists_of_optional {field : Option α}
    (within : ∀ entry ∈ record.found, entry.2.Within kind levels)
    (reads : record.optional name read = some field) :
    ∀ value ∈ field, ∃ document, document ≠ .null ∧ document.Within kind levels ∧
      read document = some value := by
  rintro value rfl
  rcases exists_of_defaulted within reads with missing | ⟨document, inside, reads⟩
  · cases missing
  · unfold optional? at reads
    split at reads
    next => cases reads
    next filled =>
      obtain ⟨_, reads, same⟩ := Option.map_eq_some_iff.mp reads
      cases same
      exact ⟨document, filled, inside, reads⟩

end Record

/-- What the items of a list are read from. -/
theorem exists_of_list? {α : Type} {read : Document → Option α} {values : List α}
    (within : document.Within kind (levels + 1)) (reads : document.list? read = some values) :
    ∀ value ∈ values, ∃ item : Document, item.Within kind levels ∧ read item = some value := by
  cases within with
  | @array _ items each =>
      rw [list?] at reads
      induction items generalizing values with
      | nil =>
          cases reads
          simp
      | cons item rest ih =>
          obtain ⟨first, behind⟩ := List.forall_mem_cons.mp each
          rw [List.mapM_cons] at reads
          obtain ⟨value, begins, reads⟩ := Option.bind_eq_some_iff.mp reads
          obtain ⟨others, continues, same⟩ := Option.bind_eq_some_iff.mp reads
          cases same
          exact List.forall_mem_cons.mpr ⟨⟨item, first, begins⟩, ih behind continues⟩
  | _ => cases reads

/-- What is read as keyed values has its keys in order. -/
theorem ascending_of_keyed? {α : Type} {read : Document → Option α} {entries : Keyed α}
    (reads : document.keyed? read = some entries) : entries.Ascending := by
  cases document with
  | object members =>
      obtain ⟨listed, -, rfl⟩ := Option.map_eq_some_iff.mp reads
      exact Keyed.ascending_ofList listed
  | _ => cases reads

theorem lt_of_natBelow? {bound count : Nat} (reads : document.natBelow? bound = some count) :
    count < bound := by
  unfold natBelow? at reads
  split at reads
  next =>
    split at reads
    next holds =>
      cases reads
      omega
    next => cases reads
  next => cases reads

end Document

end Json

end Flowline
