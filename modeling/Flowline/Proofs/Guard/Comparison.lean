import Flowline.Guard.Condition
import Flowline.Proofs.Json.Induction

/-!
# Comparisons

Equality and the orderings are told apart by kinds of values, and agree nevertheless: what is
compared by numbers is equal exactly if neither number lies before the other, and an ordering
is read backwards as its converse.  Two values without numbers are ordered in no way.
-/

namespace Flowline

namespace Json

/-! ## Equality of values -/

theorem sameItems_self {items : List Json} (each : ∀ item ∈ items, item.same item = true) :
    sameItems items items = true := by
  induction items with
  | nil => rfl
  | cons item rest ih =>
      obtain ⟨first, others⟩ := List.forall_mem_cons.mp each
      rw [sameItems, first, ih others, Bool.and_self]

theorem sameMembers_self {members : List (String × Json)}
    (each : ∀ member ∈ members, member.2.same member.2 = true) :
    sameMembers members members = true := by
  induction members with
  | nil => rfl
  | cons member rest ih =>
      obtain ⟨first, others⟩ := List.forall_mem_cons.mp each
      rw [sameMembers, first, ih others, beq_self_eq_true, Bool.and_self, Bool.and_self]

theorem same_self (value : Json) : value.same value = true := by
  induction value using nested_induction with
  | null => rfl
  | bool value => exact beq_self_eq_true value
  | number numeral => exact numeral.same_self
  | string text => exact beq_self_eq_true text
  | array items each => exact sameItems_self each
  | object members each => exact sameMembers_self each

theorem sameItems_comm {lefts : List Json}
    (each : ∀ left ∈ lefts, ∀ right : Json, left.same right = right.same left)
    (rights : List Json) : sameItems lefts rights = sameItems rights lefts := by
  induction lefts generalizing rights with
  | nil => cases rights <;> rfl
  | cons left lefts ih =>
      obtain ⟨first, others⟩ := List.forall_mem_cons.mp each
      cases rights with
      | nil => rfl
      | cons right rights => rw [sameItems, sameItems, first, ih others]

theorem sameMembers_comm {lefts : List (String × Json)}
    (each : ∀ left ∈ lefts, ∀ right : Json, left.2.same right = right.same left.2)
    (rights : List (String × Json)) : sameMembers lefts rights = sameMembers rights lefts := by
  induction lefts generalizing rights with
  | nil => cases rights <;> rfl
  | cons left lefts ih =>
      obtain ⟨first, others⟩ := List.forall_mem_cons.mp each
      cases rights with
      | nil => rfl
      | cons right rights =>
          rw [sameMembers, sameMembers, first, ih others, Bool.beq_comm]

theorem same_comm (left right : Json) : left.same right = right.same left := by
  induction left using nested_induction generalizing right with
  | null => cases right <;> rfl
  | bool value =>
      cases right with
      | bool other => exact Bool.beq_comm
      | _ => rfl
  | number numeral =>
      cases right with
      | number other => exact numeral.same_comm other
      | _ => rfl
  | string text =>
      cases right with
      | string other => exact Bool.beq_comm
      | _ => rfl
  | array items each =>
      cases right with
      | array others => exact sameItems_comm each others
      | _ => rfl
  | object members each =>
      cases right with
      | object others => exact sameMembers_comm each others
      | _ => rfl

end Json

namespace Guard

open Number

/-- A truth value, a number or a text. -/
inductive IsScalar : Json → Prop where
  | bool (value : Bool) : IsScalar (.bool value)
  | number (numeral : Json.Numeral) : IsScalar (.number numeral)
  | string (text : String) : IsScalar (.string text)

/-- One of three statements holds and the other two do not. -/
def ExactlyOne (first second third : Prop) : Prop :=
  (first ∧ ¬ second ∧ ¬ third) ∨ (¬ first ∧ second ∧ ¬ third) ∨ (¬ first ∧ ¬ second ∧ third)

/-- No ordering holds between two values. -/
structure Unordered (actual expected : Json) : Prop where
  lt : Operator.lt.apply actual expected = false
  lte : Operator.lte.apply actual expected = false
  gt : Operator.gt.apply actual expected = false
  gte : Operator.gte.apply actual expected = false

/-- One of two values has no number. -/
def Unread (left right : Json) : Prop := numberOf? left = none ∨ numberOf? right = none

variable {left right : Json}

/-! ## Numbers -/

theorem compareNumbers_eq {first second : Binary64} (reads : numberOf? left = some first)
    (others : numberOf? right = some second) (relation : Int → Int → Bool) :
    compareNumbers relation left right = relation first.position second.position := by
  rw [compareNumbers, reads, others]

theorem compareNumbers_of_unread (unread : Unread left right) (relation : Int → Int → Bool) :
    compareNumbers relation left right = false := by
  rcases unread with none | none
  · rw [compareNumbers, none]
  · rw [compareNumbers, none]
    cases numberOf? left <;> rfl

theorem unread_or_reads (left right : Json) : Unread left right ∨
    ∃ first second, numberOf? left = some first ∧ numberOf? right = some second := by
  cases reads : numberOf? left with
  | none => exact .inl (.inl reads)
  | some first =>
      cases others : numberOf? right with
      | none => exact .inl (.inr others)
      | some second => exact .inr ⟨first, second, rfl, rfl⟩

/-- Two values compare as they do the other way round by the converse relation. -/
theorem compareNumbers_swap (relation : Int → Int → Bool) (left right : Json) :
    compareNumbers relation left right =
      compareNumbers (fun first second => relation second first) right left := by
  rcases unread_or_reads left right with unread | ⟨first, second, reads, others⟩
  · rw [compareNumbers_of_unread unread, compareNumbers_of_unread unread.symm]
  · rw [compareNumbers_eq reads others, compareNumbers_eq others reads]

/-- The truth values have different numbers. -/
theorem position_truth (first second : Bool) :
    (Binary.ofInt (if first then 1 else 0) : Binary64).position =
        (Binary.ofInt (if second then 1 else 0) : Binary64).position ↔
      first = second := by
  revert first second
  decide +kernel

/-! ## Equality -/

theorem looselyEqual_self (value : Json) : looselyEqual value value = true := by
  cases value with
  | null => rfl
  | bool value => exact beq_self_eq_true value
  | number numeral => exact beq_self_eq_true numeral.toBinary.position
  | string text => exact beq_self_eq_true text
  | array items => exact Json.same_self _
  | object members => exact Json.same_self _

/-- A truth value, a number or a text is compared by numbers, unless both are texts. -/
theorem looselyEqual_eq_compareNumbers (first : IsScalar left) (second : IsScalar right)
    (mixed : ¬ ∃ text other, left = .string text ∧ right = .string other) :
    looselyEqual left right = compareNumbers (· == ·) left right := by
  cases first with
  | bool value =>
      cases second with
      | bool other =>
          rw [compareNumbers_eq rfl rfl, looselyEqual, Bool.eq_iff_iff, beq_iff_eq, beq_iff_eq]
          exact (position_truth value other).symm
      | number other => rfl
      | string other => rfl
  | number numeral => cases second <;> rfl
  | string text =>
      cases second with
      | bool other => rfl
      | number other => rfl
      | string other => exact (mixed ⟨text, other, rfl, rfl⟩).elim

theorem looselyEqual_comm (left right : Json) :
    looselyEqual left right = looselyEqual right left := by
  have swapped := compareNumbers_swap (· == ·) left right
  simp only [Bool.beq_comm] at swapped
  -- Every pair of kinds is equal by null, by the values, by their parts or by their numbers.
  cases left <;> cases right <;>
    first
      | rfl
      | exact Bool.beq_comm
      | exact Json.same_comm _ _
      | exact swapped

/-! ## Orderings -/

section Orderings

variable {first second : Binary64} (reads : numberOf? left = some first)
  (others : numberOf? right = some second)

include reads others

theorem lt_iff : Operator.lt.apply left right = true ↔ first.position < second.position := by
  rw [Operator.apply, compareNumbers_eq reads others, decide_eq_true_eq]

theorem gt_iff : Operator.gt.apply left right = true ↔ second.position < first.position := by
  rw [Operator.apply, compareNumbers_eq reads others, decide_eq_true_eq]

theorem lte_iff : Operator.lte.apply left right = true ↔ first.position ≤ second.position := by
  rw [Operator.apply, compareNumbers_eq reads others, decide_eq_true_eq]

theorem gte_iff : Operator.gte.apply left right = true ↔ second.position ≤ first.position := by
  rw [Operator.apply, compareNumbers_eq reads others, decide_eq_true_eq]

/-- Of two numbers one lies before the other, or they have one place. -/
theorem exactlyOne_of_reads :
    ExactlyOne (Operator.lt.apply left right = true) (Operator.gt.apply left right = true)
      (Operator.lte.apply left right = true ∧ Operator.gte.apply left right = true) := by
  rw [lt_iff reads others, gt_iff reads others, lte_iff reads others, gte_iff reads others]
  unfold ExactlyOne
  omega

end Orderings

theorem unordered_of_unread (unread : Unread left right) : Unordered left right where
  lt := compareNumbers_of_unread unread fun left right => decide (left < right)
  lte := compareNumbers_of_unread unread fun left right => decide (left ≤ right)
  gt := compareNumbers_of_unread unread fun left right => decide (right < left)
  gte := compareNumbers_of_unread unread fun left right => decide (right ≤ left)

/-- Two numbers are ordered in some way. -/
theorem unordered_iff (left right : Json) : Unordered left right ↔ Unread left right := by
  refine ⟨fun unordered => ?_, unordered_of_unread⟩
  rcases unread_or_reads left right with unread | ⟨first, second, reads, others⟩
  · exact unread
  · have ordered := exactlyOne_of_reads reads others
    simp [ExactlyOne, unordered.lt, unordered.gt, unordered.lte] at ordered

/-- Equality by numbers holds where neither number lies before the other. -/
theorem eq_iff_lte_and_gte (first : IsScalar left) (second : IsScalar right)
    (mixed : ¬ ∃ text other, left = .string text ∧ right = .string other) :
    Operator.eq.apply left right = true ↔
      Operator.lte.apply left right = true ∧ Operator.gte.apply left right = true := by
  rw [Operator.apply, looselyEqual_eq_compareNumbers first second mixed]
  rcases unread_or_reads left right with unread | ⟨first, second, reads, others⟩
  · simp [compareNumbers_of_unread unread, (unordered_of_unread unread).lte]
  · rw [compareNumbers_eq reads others, lte_iff reads others, gte_iff reads others, beq_iff_eq]
    omega

/-! ## Conditions -/

/-- A field that leads nowhere is unequal to everything, any other one is equal or unequal. -/
theorem evaluate_ne (context : Context) (field : String) (value : Json) :
    (Condition.comparison field .ne value).evaluate context =
      !(Condition.comparison field .eq value).evaluate context := by
  rw [Condition.evaluate, Condition.evaluate, compareField, compareField]
  cases context.lookup field <;> rfl

/-- Equality is reflexive and symmetric, and each ordering is the converse of another.  Either
a value has no number and no ordering holds, or exactly one of before, behind and both of the
weak orderings does.  Truth values, numbers and texts that are not both texts are equal exactly
where both weak orderings hold.  A condition that asks for unequal is the negation of the one
that asks for equal, whether or not its field leads anywhere. -/
theorem comparisons_agree (left right : Json) :
    Operator.eq.apply left left = true ∧
      Operator.eq.apply left right = Operator.eq.apply right left ∧
      Operator.lt.apply left right = Operator.gt.apply right left ∧
      Operator.lte.apply left right = Operator.gte.apply right left ∧
      (Unordered left right ∨
        ExactlyOne (Operator.lt.apply left right = true) (Operator.gt.apply left right = true)
          (Operator.lte.apply left right = true ∧ Operator.gte.apply left right = true)) ∧
      (Unordered left right ↔ Unread left right) ∧
      (IsScalar left → IsScalar right →
        (¬ ∃ text other, left = .string text ∧ right = .string other) →
        (Operator.eq.apply left right = true ↔
          Operator.lte.apply left right = true ∧ Operator.gte.apply left right = true)) ∧
      ∀ context field,
        (Condition.comparison field .ne right).evaluate context =
          !(Condition.comparison field .eq right).evaluate context :=
  ⟨looselyEqual_self left, looselyEqual_comm left right,
    compareNumbers_swap (fun left right => decide (left < right)) left right,
    compareNumbers_swap (fun left right => decide (left ≤ right)) left right,
    (unread_or_reads left right).imp unordered_of_unread
      fun ⟨_, _, reads, others⟩ => exactlyOne_of_reads reads others,
    unordered_iff left right, eq_iff_lte_and_gte,
    fun context field => evaluate_ne context field right⟩

/-- The truth value is equal to the text of its number, and so both weak orderings hold. -/
theorem comparisons_agree_truth :
    IsScalar (.bool true) ∧ IsScalar (.string " 1e0") ∧
      Operator.eq.apply (.bool true) (.string " 1e0") = true ∧
      Operator.lte.apply (.bool true) (.string " 1e0") = true ∧
      Operator.gte.apply (.bool true) (.string " 1e0") = true := by
  have equal : Operator.eq.apply (.bool true) (.string " 1e0") = true := by decide +kernel
  obtain ⟨-, -, -, -, -, -, between, -⟩ := comparisons_agree (.bool true) (.string " 1e0")
  exact ⟨.bool true, .string _, equal, (between (.bool true) (.string _) (by simp)).mp equal⟩

end Guard

end Flowline
