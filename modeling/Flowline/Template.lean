import Flowline.Context
import Flowline.Json.Printer
import Flowline.Text.Blank

/-!
# Templates

A template is a text with tokens: a dotted path between double braces.  A token
stands for the value at its path.  In the middle of a text the value is written
out, and a token that leads nowhere leaves no trace; a template that is nothing
but one token takes the value itself.
-/

namespace Flowline

/-- A part of a template. -/
inductive Template.Piece where
  | literal (characters : List Char)
  | token (path : List Char)
  deriving DecidableEq, Repr

namespace Template

open Text

/-- A character of a path segment. -/
def isNameChar (character : Char) : Bool :=
  character.isAlphanum || character == '_' || character == '$' || character == '-'

/-- Whether a text is a dotted path of names. -/
def isPath (candidate : List Char) : Bool :=
  (splitOn '.' candidate).all fun segment => !segment.isEmpty && segment.all isNameChar

/-- The parts of a template from the left.  Opening braces that no path follows
up to the next closing braces are literal text. -/
def pieces (characters : List Char) : List Piece :=
  match _opened : cutAt '{' '{' characters with
  | none => [.literal characters]
  | some (before, body) =>
      match _closed : cutAt '}' '}' body with
      | none => [.literal characters]
      | some (inner, rest) =>
          if isPath (trim inner) then
            .literal before :: .token (trim inner) :: pieces rest
          else .literal (before ++ ['{', '{']) :: pieces body
termination_by characters.length
decreasing_by
  · have outer := length_of_cutAt _opened
    have inside := length_of_cutAt _closed
    omega
  · have outer := length_of_cutAt _opened
    omega

/-- The text of a value within a template: a text as it is, null as nothing,
anything else as JSON. -/
def display : Json → String
  | .null => ""
  | .string text => text
  | value => value.compact

/-- What a part contributes to the text. -/
def Piece.render (context : Context) : Piece → List Char
  | literal characters => characters
  | token path =>
      match context.lookup (String.ofList path) with
      | some value => (display value).toList
      | none => []

/-- A template with every token written out. -/
def render (context : Context) (template : String) : String :=
  String.ofList ((pieces template.toList).flatMap (Piece.render context))

/-- Whether a part is no text at all. -/
def Piece.isEmpty : Piece → Bool
  | literal characters => characters.isEmpty
  | token _ => false

/-- The path of a template that is one token and nothing else. -/
def wholeToken? (characters : List Char) : Option (List Char) :=
  match (pieces characters).filter (!·.isEmpty) with
  | [.token path] => some path
  | _ => none

/-- The value of a template text.  A lone token that leads nowhere stays as it
was written. -/
def resolveText (context : Context) (template : String) : Json :=
  match wholeToken? template.toList with
  | some path => (context.lookup (String.ofList path)).getD (.string template)
  | none => .string (render context template)

mutual

/-- A value with every text in it resolved; keys are left alone. -/
def resolve (context : Context) : Json → Json
  | .string text => resolveText context text
  | .array items => .array (resolveItems context items)
  | .object members => .object (resolveMembers context members)
  | value => value
termination_by structural value => value

def resolveItems (context : Context) : List Json → List Json
  | [] => []
  | item :: rest => resolve context item :: resolveItems context rest
termination_by structural items => items

/-- The members of an object with every text in their values resolved. -/
def resolveMembers (context : Context) : List (String × Json) → List (String × Json)
  | [] => []
  | (key, value) :: rest => (key, resolve context value) :: resolveMembers context rest
termination_by structural members => members

end

/-! ## Texts without tokens -/

section Plain

variable {template : String} (plain : cutAt '{' '{' template.toList = none) (context : Context)

include plain

theorem pieces_of_plain : pieces template.toList = [.literal template.toList] := by
  rw [pieces]
  split
  · rfl
  · simp_all

theorem render_of_plain : render context template = template := by
  simp [render, pieces_of_plain plain, Piece.render]

theorem resolveText_of_plain : resolveText context template = .string template := by
  have notWhole : wholeToken? template.toList = none := by
    rw [wholeToken?, pieces_of_plain plain]
    cases template.toList <;> rfl
  simp [resolveText, notWhole, render_of_plain plain]

end Plain

end Template

end Flowline
