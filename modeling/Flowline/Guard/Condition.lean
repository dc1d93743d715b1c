import Flowline.Context
import Flowline.Guard.Operator

/-!
# Conditions

A condition is a truth value, a comparison of a field with a value, or several
conditions joined by `and` or `or`.  A field that leads nowhere is unequal to
everything and compares in no other way.
-/

namespace Flowline.Guard

/-- How the members of a compound condition are joined. -/
inductive Logic where
  | and
  | or
  deriving DecidableEq, Repr

/-- A condition on a context. -/
inductive Condition where
  | literal (value : Bool)
  | comparison (field : String) (operator : Operator) (value : Json)
  | compound (logic : Logic) (conditions : List Condition)
  deriving Repr, Inhabited

/-- Whether a comparison holds. -/
def compareField (context : Context) (field : String) (operator : Operator) (value : Json) :
    Bool :=
  match context.lookup field with
  | some actual => operator.apply actual value
  | none => operator == .ne

mutual

/-- Whether a condition holds in a context. -/
def Condition.evaluate (context : Context) : Condition → Bool
  | .literal value => value
  | .comparison field operator value => compareField context field operator value
  | .compound .and conditions => allHold context conditions
  | .compound .or conditions => anyHolds context conditions
termination_by structural condition => condition

def allHold (context : Context) : List Condition → Bool
  | [] => true
  | condition :: rest => condition.evaluate context && allHold context rest
termination_by structural conditions => conditions

def anyHolds (context : Context) : List Condition → Bool
  | [] => false
  | condition :: rest => condition.evaluate context || anyHolds context rest
termination_by structural conditions => conditions

end

theorem anyHolds_eq_any (context : Context) (conditions : List Condition) :
    anyHolds context conditions = conditions.any (Condition.evaluate context) := by
  induction conditions with
  | nil => rfl
  | cons condition rest ih => simp [anyHolds, ih]

end Flowline.Guard
