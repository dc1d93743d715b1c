import Flowline.Guard.Condition
import Flowline.Proofs.Context
import Flowline.Proofs.Number.Digits

/-!
# Items of lists

A list has an item that equals a value exactly if one of the paths to its items leads to such an
item.  The digits of a position are read as the position, and what stands behind the path of a
list is looked up in the list.
-/

namespace Flowline

namespace Json

/-- The digits of a position count it. -/
theorem indexOf?_toString {index : Nat} (counted : index < UInt64.size) :
    indexOf? (toString index) = some index := by
  have areDigits : (Nat.toDigits 10 index).all Char.isDigit = true :=
    List.all_eq_true.mpr fun _ member => Number.isDigit_of_mem_toDigits member
  rw [indexOf?, Nat.toString_eq_repr, Nat.toList_repr]
  split
  next same =>
    rw [same] at areDigits
    cases areDigits
  next => simp [areDigits, counted, Nat.toDigits_ne_nil]

theorem child?_toString {index : Nat} (counted : index < UInt64.size) (items : List Json) :
    (array items).child? (toString index) = items[index]? := by
  rw [child?, indexOf?_toString counted, Option.bind_some]

end Json

namespace Context

/-- The path to the item of a list. -/
def itemPath (path : String) (index : Nat) : String := path ++ "." ++ toString index

variable {context : Context} {path : String} {items : List Json}

theorem split_itemPath (path : String) (index : Nat) :
    Text.split '.' (itemPath path index) = Text.split '.' path ++ [toString index] := by
  have unsplit : '.' ∉ (toString index).toList := by
    rw [Nat.toString_eq_repr, Nat.toList_repr]
    intro member
    cases Number.isDigit_of_mem_toDigits member
  rw [itemPath, Text.split_append, Text.split_unsplit unsplit]

/-- The path to an item leads to the item.  The bare names of the two scopes are no paths to
lists whose items are looked up behind them. -/
theorem lookup_itemPath (leads : context.lookup path = some (.array items))
    (unscoped : path ≠ "variables") (unshadowed : path = "input" → context.result? "input" = none)
    {index : Nat} (counted : index < UInt64.size) :
    context.lookup (itemPath path index) = items[index]? := by
  rw [lookup] at leads
  rw [lookup, split_itemPath, lookupSegments_append (Text.split_ne_nil '.' path)
    (fun single => unscoped (Text.eq_of_split single))
    (fun single => unshadowed (Text.eq_of_split single)), leads, Option.bind_some,
    Json.descend_cons, Json.child?_toString counted]
  cases items[index]? <;> rfl

end Context

namespace Guard

open Context (itemPath)

variable {context : Context} {field : String} {items : List Json}

/-- Whether the item at a position is equal to a value. -/
theorem evaluate_itemPath (leads : context.lookup field = some (.array items))
    (unscoped : field ≠ "variables")
    (unshadowed : field = "input" → context.result? "input" = none) (value : Json)
    {index : Nat} (counted : index < UInt64.size) :
    (Condition.comparison (itemPath field index) .eq value).evaluate context =
      (items[index]?).any fun item => looselyEqual item value := by
  rw [Condition.evaluate, compareField,
    Context.lookup_itemPath leads unscoped unshadowed counted]
  cases items[index]? <;> rfl

theorem evaluate_contains (leads : context.lookup field = some (.array items)) (value : Json) :
    (Condition.comparison field .contains value).evaluate context =
      items.any fun item => looselyEqual item value := by
  rw [Condition.evaluate, compareField, leads]
  rfl

/-- A list contains a value exactly if the item at one of its positions is equal to the value,
each item being looked up by the path of the list and the digits of the position.  So the
conditions for all positions, joined by `or`, hold where the one condition on the list holds.
The positions of a list are counted in 64 bits. -/
theorem contains_iff_item_eq (context : Context) (field : String) (value : Json)
    (items : List Json) (leads : context.lookup field = some (.array items))
    (counted : items.length ≤ UInt64.size) (unscoped : field ≠ "variables")
    (unshadowed : field = "input" → context.result? "input" = none) :
    ((Condition.comparison field .contains value).evaluate context = true ↔
      ∃ index < items.length,
        (Condition.comparison (itemPath field index) .eq value).evaluate context = true) ∧
    (Condition.compound .or ((List.range items.length).map fun index =>
        .comparison (itemPath field index) .eq value)).evaluate context =
      (Condition.comparison field .contains value).evaluate context := by
  have items_eq {index : Nat} (inside : index < items.length) :=
    evaluate_itemPath leads unscoped unshadowed value (Nat.lt_of_lt_of_le inside counted)
  have found : (Condition.comparison field .contains value).evaluate context = true ↔
      ∃ index < items.length,
        (Condition.comparison (itemPath field index) .eq value).evaluate context = true := by
    rw [evaluate_contains leads, List.any_eq_true]
    constructor
    · rintro ⟨item, listed, equal⟩
      obtain ⟨index, inside, rfl⟩ := List.getElem_of_mem listed
      refine ⟨index, inside, ?_⟩
      rw [items_eq inside, List.getElem?_eq_getElem inside]
      exact equal
    · rintro ⟨index, inside, equal⟩
      rw [items_eq inside, List.getElem?_eq_getElem inside] at equal
      exact ⟨items[index], List.getElem_mem inside, equal⟩
  refine ⟨found, ?_⟩
  rw [Bool.eq_iff_iff, found, Condition.evaluate, anyHolds_eq_any, List.any_map,
    List.any_eq_true]
  simp only [List.mem_range, Function.comp_apply]

/-- A context with a list two names down in a variable, and an empty list at the same path in
its input. -/
def labelled : Context where
  input := .object [("order", .object [("tags", .array [])])]
  bindings := [("order", .object [("tags", .array [.string "vip", .null, .ofInt 7])])]

/-- The number is equal to a text that reads as it, so the list contains the text. -/
theorem contains_iff_item_eq_labelled :
    let items := [.string "vip", .null, .ofInt 7]
    labelled.lookup "order.tags" = some (.array items) ∧ items.length ≤ UInt64.size ∧
      "order.tags" ≠ "variables" ∧
      ("order.tags" = "input" → labelled.result? "input" = none) ∧
      (Condition.comparison "order.tags.2" .eq (.string " 7.0")).evaluate labelled = true ∧
      (Condition.comparison "order.tags" .contains (.string " 7.0")).evaluate labelled = true := by
  intro items
  have leads : labelled.lookup "order.tags" = some (.array items) := by decide
  have counted : items.length ≤ UInt64.size := by decide
  have unscoped : "order.tags" ≠ "variables" := by decide
  have unshadowed : "order.tags" = "input" → labelled.result? "input" = none := by decide
  have equal : (Condition.comparison (itemPath "order.tags" 2) .eq
      (.string " 7.0")).evaluate labelled = true := by decide +kernel
  obtain ⟨found, -⟩ := contains_iff_item_eq labelled "order.tags" (.string " 7.0") items leads
    counted unscoped unshadowed
  exact ⟨leads, counted, unscoped, unshadowed, equal, found.mpr ⟨2, by decide, equal⟩⟩

end Guard

end Flowline
