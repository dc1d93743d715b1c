import Flowline.Guard.Condition
import Flowline.Json.Parser

/-!
# Reading guards

A guard is written as JSON or as one infix comparison, and both forms read as
the same condition.  A member of a compound may be a text, which is then a guard
of its own.  Such a text is shorter than the guard around it, so the length of
the outermost text bounds how deep texts stand within texts.
-/

namespace Flowline.Guard

open Text

/-- Why a text is no guard. -/
inductive ReadError where
  | empty
  | unrecognised (expression : String)
  deriving DecidableEq, Repr

def ReadError.message : ReadError → String
  | empty => "empty condition"
  | unrecognised expression => "unrecognised condition: " ++ expression

/-- The operator of a comparison written as an object. -/
def operatorOf : Option Json → Operator
  | some (.string name) => Operator.parse name
  | some value => .unknown value.compact
  | none => .eq

/-- The logic of a compound written as an object. -/
def logicOf : Option Json → Logic
  | some (.string name) => if lowered name = "or" then .or else .and
  | _ => .and

/-- The comparison that an object writes: it has a text as its field. -/
def comparisonOf? (members : Keyed Json) : Option Condition :=
  match Keyed.get? "field" members with
  | some (.string field) =>
      some (.comparison field (operatorOf (Keyed.get? "operator" members))
        ((Keyed.get? "value" members).getD .null))
  | _ => none

mutual

/-- The condition that a value writes.  Its members that are texts are read by
the given function. -/
def conditionOf (readText : String → Condition) : Json → Condition
  | .bool value => .literal value
  | .object members =>
      match comparisonOf? members with
      | some comparison => comparison
      | none =>
          match conditionsIn readText members with
          | some conditions =>
              .compound (logicOf (Keyed.get? "logic" members)) conditions
          | none => .literal false
  | _ => .literal false
termination_by structural value => value

/-- The conditions under the key for the members of a compound, if a list is
there. -/
def conditionsIn (readText : String → Condition) :
    List (String × Json) → Option (List Condition)
  | [] => none
  | (key, .array items) :: rest =>
      if key = "conditions" then some (membersOf readText items)
      else conditionsIn readText rest
  | (key, _) :: rest => if key = "conditions" then none else conditionsIn readText rest
termination_by structural members => members

/-- The members of a compound in order; a text is a guard of its own. -/
def membersOf (readText : String → Condition) : List Json → List Condition
  | [] => []
  | .string text :: rest => readText text :: membersOf readText rest
  | item :: rest => conditionOf readText item :: membersOf readText rest
termination_by structural items => items

end

/-- The symbols of infix comparisons in the order in which they are tried. -/
def infixSymbols : List String := ["===", "!==", "==", "!=", ">=", "<=", ">", "<", "contains"]

/-- A character of a field. -/
def isFieldChar (character : Char) : Bool :=
  character.isAlphanum || character == '_' || character == '$' || character == '-' ||
    character == '.'

/-- The inside of a text that has the same quote at both ends. -/
def unquoted? (quote : Char) (characters : List Char) : Option (List Char) :=
  match characters with
  | first :: second :: rest =>
      if first = quote ∧ (second :: rest).getLast? = some quote then
        some (second :: rest).dropLast
      else none
  | _ => none

/-- The value behind an infix symbol: a quoted text, a number, a truth value or
null, and otherwise the text as it is. -/
def infixValue (raw : List Char) : Json :=
  match (unquoted? '\'' raw).or (unquoted? '"' raw) with
  | some inside => .string (String.ofList inside)
  | none =>
      match Json.parse? (String.ofList raw) with
      | some (.number value) => .number value
      | some (.bool value) => .bool value
      | some .null => .null
      | _ => .string (String.ofList raw)

/-- The comparison that a trimmed text writes in infix form. -/
def infixOf? (characters : List Char) : Option Condition :=
  let field := characters.takeWhile isFieldChar
  let rest := trimFront (characters.dropWhile isFieldChar)
  if field.isEmpty || field.head? == some '.' || field.getLast? == some '.' then none
  else
    match infixSymbols.find? fun symbol => symbol.toList.isPrefixOf rest with
    | none => none
    | some symbol =>
        let after := rest.drop symbol.toList.length
        if symbol == "contains" && !(after.head?.any isBlank) then none
        else
          let raw := trim after
          if raw.isEmpty then none
          else some (.comparison (String.ofList field) (Operator.parse symbol) (infixValue raw))

/-- The condition of a text, with texts within texts read down to a depth. -/
def readWithin (depth : Nat) (expression : String) : Except ReadError Condition :=
  let text := trim expression.toList
  if text.isEmpty then .error .empty
  else
    match Json.parse? (String.ofList text) with
    | some value =>
        .ok (conditionOf
          (fun inner =>
            match depth with
            | 0 => .literal false
            | depth + 1 => ((readWithin depth inner).toOption).getD (.literal false))
          value)
    | none =>
        match infixOf? text with
        | some condition => .ok condition
        | none => .error (.unrecognised (String.ofList text))

/-- The condition that a text writes. -/
def Condition.parse (expression : String) : Except ReadError Condition :=
  readWithin expression.length expression

/-- The condition that a value writes. -/
def Condition.ofJson (value : Json) : Condition :=
  conditionOf (fun text => ((Condition.parse text).toOption).getD (.literal false)) value

/-- Whether a guard holds; one that cannot be read does not. -/
def holds (expression : String) (context : Context) : Bool :=
  match Condition.parse expression with
  | .ok condition => condition.evaluate context
  | .error _ => false

end Flowline.Guard
