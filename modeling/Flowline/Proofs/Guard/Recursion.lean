import Flowline.Guard.Reader
import Flowline.Proofs.Json.Extent
import Mathlib.Data.List.Chain
import Mathlib.Logic.Relation

/-!
# Guards within guards

To read a guard is to read the value that its text writes, and the members of a compound are read
as values or as texts again.  A member of a value is a part of it, and a text in a value is shorter
than the text that the value was read from.  So no guard is read for ever, and what one level of
reading does determines what reading does.
-/

namespace Flowline.Guard

open Text

/-! ## One level of reading -/

/-- The condition of a text, which is false if the text is no guard. -/
def orFalse (read : Except ReadError Condition) : Condition := read.toOption.getD (.literal false)

/-- The condition of a text, where the value that it writes is read by a given function. -/
def textBy (readValue : Json → Condition) (expression : String) : Except ReadError Condition :=
  if (trim expression.toList).isEmpty then .error .empty
  else
    match Json.parse? (trimmed expression) with
    | some value => .ok (readValue value)
    | none =>
        match infixOf? (trim expression.toList) with
        | some condition => .ok condition
        | none => .error (.unrecognised (trimmed expression))

/-- The condition of a member of a compound, where texts and values are read by given
functions. -/
def memberBy (readText : String → Condition) (readValue : Json → Condition) : Json → Condition
  | .string text => readText text
  | value => readValue value

/-- The condition of a value, where the members of a compound are read by given functions. -/
def valueBy (readText : String → Condition) (readValue : Json → Condition) : Json → Condition
  | .bool value => .literal value
  | .object members =>
      match comparisonOf? members, Keyed.get? "conditions" members with
      | some comparison, _ => comparison
      | none, some (.array items) =>
          .compound (logicOf (Keyed.get? "logic" members))
            (items.map (memberBy readText readValue))
      | none, _ => .literal false
  | _ => .literal false

variable {readText otherText : String → Condition} {readValue otherValue : Json → Condition}

theorem membersOf_eq (readText : String → Condition) (items : List Json) :
    membersOf readText items = items.map (memberBy readText (conditionOf readText)) := by
  induction items with
  | nil => rfl
  | cons item rest ih => cases item <;> simp [membersOf, memberBy, ih]

theorem conditionsIn_eq (readText : String → Condition) (members : List (String × Json)) :
    conditionsIn readText members =
      match Keyed.get? "conditions" members with
      | some (.array items) => some (membersOf readText items)
      | _ => none := by
  induction members with
  | nil => rfl
  | cons member rest ih =>
      obtain ⟨key, value⟩ := member
      by_cases named : key = "conditions"
      · subst named
        cases value <;> simp [conditionsIn, Keyed.get?]
      · have other : "conditions" ≠ key := fun same => named same.symm
        cases value <;> simp [conditionsIn, Keyed.get?, named, other, ih]

/-- Reading a value reads the members of a compound. -/
theorem conditionOf_eq (readText : String → Condition) (value : Json) :
    conditionOf readText value = valueBy readText (conditionOf readText) value := by
  cases value with
  | object members =>
      rw [conditionOf, conditionsIn_eq, valueBy]
      cases comparisonOf? members with
      | some comparison => rfl
      | none =>
          cases Keyed.get? "conditions" members with
          | none => rfl
          | some value => cases value <;> simp [membersOf_eq]
  | null | bool value | number value | string text | array items => rfl

theorem readWithin_eq (depth : Nat) (expression : String) :
    readWithin depth expression = textBy (conditionOf fun inner =>
      match depth with
      | 0 => .literal false
      | depth + 1 => orFalse (readWithin depth inner)) expression := by
  conv_lhs => unfold readWithin
  unfold textBy
  by_cases empty : (trim expression.toList).isEmpty = true
  · exact (if_pos empty).trans (if_pos empty).symm
  · refine (if_neg empty).trans (Eq.trans ?_ (if_neg empty).symm)
    rw [trimmed]
    cases Json.parse? (String.ofList (trim expression.toList)) <;>
      cases infixOf? (trim expression.toList) <;> rfl

/-! ## Calls -/

/-- What is read: a text or a value. -/
inductive Call where
  | text (expression : String)
  | value (value : Json)

/-- What the reading of a text or a value makes another reading of. -/
inductive Calls : Call → Call → Prop where
  | document {expression : String} {value : Json}
      (reads : Json.parse? (trimmed expression) = some value) :
      Calls (.text expression) (.value value)
  | text {members : Keyed Json} {items : List Json} {text : String}
      (compound : comparisonOf? members = none)
      (listed : Keyed.get? "conditions" members = some (.array items))
      (member : .string text ∈ items) : Calls (.value (.object members)) (.text text)
  | value {members : Keyed Json} {items : List Json} {item : Json}
      (compound : comparisonOf? members = none)
      (listed : Keyed.get? "conditions" members = some (.array items)) (member : item ∈ items)
      (other : ∀ text, item ≠ .string text) : Calls (.value (.object members)) (.value item)

/-- The readings of values decide that of a text. -/
theorem textBy_congr {expression : String}
    (same : ∀ value, Calls (.text expression) (.value value) → readValue value = otherValue value) :
    textBy readValue expression = textBy otherValue expression := by
  unfold textBy
  split
  · rfl
  · split
    next value reads => rw [same value (.document reads)]
    next => rfl

/-- The readings of members decide that of a value. -/
theorem valueBy_congr {value : Json}
    (texts : ∀ text, Calls (.value value) (.text text) → readText text = otherText text)
    (values : ∀ item, Calls (.value value) (.value item) → readValue item = otherValue item) :
    valueBy readText readValue value = valueBy otherText otherValue value := by
  unfold valueBy
  split
  next => rfl
  next members =>
    split
    next => rfl
    next items compound listed =>
      refine congrArg (Condition.compound _) (List.map_congr_left fun item member => ?_)
      unfold memberBy
      split
      next text => exact texts text (.text compound listed member)
      next other => exact values item (.value compound listed member fun text same => other text same)
    next => rfl
  next => rfl

/-! ## Ends -/

/-- A measure of what is still to be read. -/
def Call.extent (measure : Measure) : Call → Nat
  | .text expression => measure.of expression.toList + 1
  | .value json => json.extent measure

variable {measure : Measure} {caller callee : Call}

/-- The members of a compound have smaller extents. -/
theorem extent_lt_of_listed {members : Keyed Json} {items : List Json} {item : Json}
    (listed : Keyed.get? "conditions" members = some (.array items)) (member : item ∈ items) :
    item.extent measure < (Json.object members).extent measure :=
  (Json.extent_lt_array member).trans (Json.extent_lt_object (Keyed.mem_of_get? listed))

/-- What is read next has a smaller extent. -/
theorem Calls.extent_lt (calls : Calls caller callee) :
    callee.extent measure < caller.extent measure := by
  cases calls with
  | @document expression value reads =>
      have within : value.extent measure ≤ measure.of (trimmed expression).toList :=
        Json.extent_le_of_parse? reads
      rw [trimmed, String.toList_ofList] at within
      exact Nat.lt_succ_of_le (within.trans (measure.of_le_of_sublist (trim_sublist _)))
  | text _ listed member => exact extent_lt_of_listed listed member
  | value _ listed member _ => exact extent_lt_of_listed listed member

theorem extent_lt_of_transGen (later : Relation.TransGen Calls caller callee) :
    callee.extent measure < caller.extent measure := by
  induction later with
  | single calls => exact calls.extent_lt
  | tail _ calls ih => exact calls.extent_lt.trans ih

theorem wellFounded_calls : WellFounded fun callee caller => Calls caller callee :=
  Subrelation.wf (fun calls => calls.extent_lt)
    (InvImage.wf (Call.extent Measure.characters) Nat.lt_wfRel.wf)

/-- A member of a value is a part of it. -/
theorem sizeOf_lt {value item : Json} (calls : Calls (.value value) (.value item)) :
    sizeOf item < sizeOf value := by
  cases calls with
  | @value members items _ _ listed member _ =>
      have inner := List.sizeOf_lt_of_mem member
      have outer := List.sizeOf_lt_of_mem (Keyed.mem_of_get? listed)
      simp only [Json.object.sizeOf_spec, Json.array.sizeOf_spec, Prod.mk.sizeOf_spec] at outer ⊢
      omega

/-- Calls that stand within each other are no more than the outermost one allows. -/
theorem length_le_of_isChain {pending : List Call} (chain : (caller :: pending).IsChain Calls) :
    pending.length ≤ caller.extent measure := by
  induction pending generalizing caller with
  | nil => exact Nat.zero_le _
  | cons next rest ih =>
      obtain ⟨calls, others⟩ := List.isChain_cons_cons.mp chain
      have less : next.extent measure < caller.extent measure := calls.extent_lt
      exact (Nat.succ_le_succ (ih others)).trans less

/-! ## What is read -/

/-- The texts that are read on the way decide what is read for a value. -/
theorem conditionOf_congr (value : Json)
    (same : ∀ text, Relation.TransGen Calls (.value value) (.text text) →
      readText text = otherText text) :
    conditionOf readText value = conditionOf otherText value := by
  rw [conditionOf_eq, conditionOf_eq otherText]
  exact valueBy_congr (fun text calls => same text (.single calls)) fun item calls =>
    conditionOf_congr item fun text later => same text (.head calls later)
termination_by sizeOf value
decreasing_by exact sizeOf_lt calls

/-- A text that is read on the way from another text measures less. -/
theorem of_lt_of_transGen {outer inner : String}
    (later : Relation.TransGen Calls (.text outer) (.text inner)) :
    measure.of inner.toList < measure.of outer.toList :=
  Nat.lt_of_succ_lt_succ (extent_lt_of_transGen later)

theorem length_lt_of_transGen {outer inner : String}
    (later : Relation.TransGen Calls (.text outer) (.text inner)) :
    inner.length < outer.length := by
  have less : Measure.characters.of inner.toList < Measure.characters.of outer.toList :=
    of_lt_of_transGen later
  rwa [Measure.characters_of, Measure.characters_of, String.length_toList,
    String.length_toList] at less

/-- Texts within texts are read as deep as they can stand in a text. -/
theorem readWithin_eq_textBy {depth : Nat} {expression : String}
    (enough : expression.length ≤ depth) :
    readWithin depth expression = textBy Condition.ofJson expression := by
  induction depth using Nat.strongRecOn generalizing expression with
  | ind depth ih =>
      rw [readWithin_eq]
      refine textBy_congr fun value calls => conditionOf_congr value fun text later => ?_
      -- What is read within is shorter, so one level less is as good as its own length.
      have shorter := length_lt_of_transGen (.head calls later)
      cases depth with
      | zero => omega
      | succ depth =>
          have deep : readWithin depth text = Condition.parse text :=
            (ih depth (Nat.lt_succ_self depth) (by omega)).trans
              (ih text.length (by omega) le_rfl).symm
          exact congrArg orFalse deep

theorem parse_eq_textBy (expression : String) :
    Condition.parse expression = textBy Condition.ofJson expression :=
  readWithin_eq_textBy le_rfl

/-- A text that is JSON is read as its value. -/
theorem parse_of_parse? {expression : String} {value : Json}
    (reads : Json.parse? (trimmed expression) = some value) :
    Condition.parse expression = .ok (Condition.ofJson value) := by
  have filled : ¬ (trim expression.toList).isEmpty = true := by
    intro empty
    rw [trimmed, List.isEmpty_iff.mp empty] at reads
    cases reads
  rw [parse_eq_textBy, textBy, if_neg filled, reads]

theorem ofJson_eq_valueBy (value : Json) :
    Condition.ofJson value =
      valueBy (fun text => orFalse (Condition.parse text)) Condition.ofJson value :=
  conditionOf_eq _ value

theorem ofJson_comparison {members : Keyed Json} {condition : Condition}
    (compares : comparisonOf? members = some condition) :
    Condition.ofJson (.object members) = condition := by
  rw [ofJson_eq_valueBy, valueBy, compares]

/-- Two readings of which each is one level of reading with itself within. -/
structure Solves (readText : String → Except ReadError Condition) (readValue : Json → Condition) :
    Prop where
  text : ∀ expression, readText expression = textBy readValue expression
  value : ∀ json, readValue json = valueBy (fun text => orFalse (readText text)) readValue json

theorem solves_parse : Solves Condition.parse Condition.ofJson :=
  ⟨parse_eq_textBy, ofJson_eq_valueBy⟩

/-- Two solutions agree, since every reading ends. -/
theorem Solves.unique {readText otherText : String → Except ReadError Condition}
    {readValue otherValue : Json → Condition} (solves : Solves readText readValue)
    (others : Solves otherText otherValue) : readText = otherText ∧ readValue = otherValue := by
  -- One induction on calls for both kinds, since texts call values and values call texts.
  have agree (call : Call) : (∀ expression, call = .text expression →
      readText expression = otherText expression) ∧
      ∀ json, call = .value json → readValue json = otherValue json := by
    induction call using wellFounded_calls.induction with
    | _ call ih =>
        refine ⟨?_, ?_⟩
        · rintro expression rfl
          rw [solves.text, others.text]
          exact textBy_congr fun value calls => (ih _ calls).2 value rfl
        · rintro json rfl
          rw [solves.value, others.value]
          exact valueBy_congr
            (fun text calls => congrArg orFalse ((ih _ calls).1 text rfl))
            fun item calls => (ih _ calls).2 item rfl
  exact ⟨funext fun expression => (agree _).1 expression rfl,
    funext fun json => (agree _).2 json rfl⟩

/-- No reading calls for others without end.  A text that is read on the way from another text,
through whatever values and texts, has fewer characters and fewer bytes than that one, a member of
a value is a smaller value, and calls that stand within each other are at most one more than the
text has characters.  So the two functions that read texts and values are the only ones of which
each is one level of reading with the two of them within. -/
theorem reading_ends :
    (WellFounded fun callee caller => Calls caller callee) ∧
    (∀ outer inner, Relation.TransGen Calls (.text outer) (.text inner) →
      inner.length < outer.length ∧ inner.utf8ByteSize < outer.utf8ByteSize) ∧
    (∀ value item, Calls (.value value) (.value item) → sizeOf item < sizeOf value) ∧
    (∀ expression pending, (Call.text expression :: pending).IsChain Calls →
      pending.length ≤ expression.length + 1) ∧
    ∀ readText readValue, Solves readText readValue ↔
      readText = Condition.parse ∧ readValue = Condition.ofJson := by
  refine ⟨wellFounded_calls, fun outer inner later => ⟨length_lt_of_transGen later, ?_⟩,
    fun value item => sizeOf_lt, fun expression pending chain => ?_, fun readText readValue =>
    ⟨fun solves => solves.unique solves_parse, ?_⟩⟩
  · have less : Measure.bytes.of inner.toList < Measure.bytes.of outer.toList :=
      of_lt_of_transGen later
    rwa [Measure.bytes_of, Measure.bytes_of] at less
  · have bound : pending.length ≤ (Call.text expression).extent Measure.characters :=
      length_le_of_isChain chain
    rwa [Call.extent, Measure.characters_of, String.length_toList] at bound
  · rintro ⟨rfl, rfl⟩
    exact solves_parse

/-- A comparison in a compound in a compound, which is a text in a compound. -/
theorem reading_ends_nested :
    let compound (item : Json) := Json.object [("conditions", .array [item])]
    let comparison := "x == 1"
    let middle := (compound (compound (.string comparison))).compact
    let outer := (compound (.string middle)).compact
    let pending := [.value (compound (.string middle)), .text middle,
      .value (compound (compound (.string comparison))), .value (compound (.string comparison)),
      .text comparison]
    (Call.text outer :: pending).IsChain Calls ∧ pending.length ≤ outer.length + 1 ∧
    (middle.length < outer.length ∧ middle.utf8ByteSize < outer.utf8ByteSize) ∧
    (comparison.length < outer.length ∧ comparison.utf8ByteSize < outer.utf8ByteSize) ∧
    sizeOf (compound (.string comparison)) < sizeOf (compound (compound (.string comparison))) := by
  intro compound comparison middle outer pending
  have outermost : Calls (.text outer) (.value (compound (.string middle))) :=
    .document (by decide +kernel)
  have between : Calls (.value (compound (.string middle))) (.text middle) :=
    .text rfl rfl List.mem_cons_self
  have document : Calls (.text middle) (.value (compound (compound (.string comparison)))) :=
    .document (by decide +kernel)
  have member : Calls (.value (compound (compound (.string comparison))))
      (.value (compound (.string comparison))) :=
    .value rfl rfl List.mem_cons_self (by rintro text ⟨⟩)
  have innermost : Calls (.value (compound (.string comparison))) (.text comparison) :=
    .text rfl rfl List.mem_cons_self
  have chain : (Call.text outer :: pending).IsChain Calls := by
    simp only [pending, List.isChain_cons_cons, List.isChain_singleton, and_true]
    exact ⟨outermost, between, document, member, innermost⟩
  have first : Relation.TransGen Calls (.text outer) (.text middle) :=
    .head outermost (.single between)
  have second : Relation.TransGen Calls (.text middle) (.text comparison) :=
    .head document (.head member (.single innermost))
  obtain ⟨-, shorter, smaller, bounded, -⟩ := reading_ends
  exact ⟨chain, bounded outer pending chain, shorter outer middle first,
    shorter outer comparison (first.trans second), smaller _ _ member⟩

end Flowline.Guard
