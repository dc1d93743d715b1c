import Flowline.Json.Basic

/-!
# Induction on JSON values

A statement about all values is proved for arrays and objects from what holds of the values
in them.
-/

namespace Flowline.Json

/-- What holds of a container if it holds of everything in it, and holds of every other value,
holds of all values. -/
@[elab_as_elim]
theorem nested_induction {motive : Json → Prop} (null : motive null)
    (bool : ∀ value, motive (bool value)) (number : ∀ numeral, motive (number numeral))
    (string : ∀ text, motive (string text))
    (array : ∀ items, (∀ item ∈ items, motive item) → motive (array items))
    (object : ∀ members, (∀ member ∈ members, motive member.2) → motive (object members)) :
    ∀ value, motive value
  | .null => null
  | .bool value => bool value
  | .number numeral => number numeral
  | .string text => string text
  | .array items => array items fun item _ =>
      nested_induction null bool number string array object item
  | .object members => object members fun member _ =>
      nested_induction null bool number string array object member.2
termination_by value => sizeOf value
decreasing_by
  · have smaller := List.sizeOf_lt_of_mem ‹item ∈ items›
    simp only [Json.array.sizeOf_spec]
    omega
  · have smaller := List.sizeOf_lt_of_mem ‹member ∈ members›
    obtain ⟨key, value⟩ := member
    simp only [Json.object.sizeOf_spec, Prod.mk.sizeOf_spec] at smaller ⊢
    omega

end Flowline.Json
