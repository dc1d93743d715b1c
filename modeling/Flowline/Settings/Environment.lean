import Flowline.Settings.Basic
import Flowline.Text.Split

/-!
# Settings from the environment

A variable whose name starts with a given word and two underlines is a setting;
two underlines in the rest of its name separate the steps of its path, and case
does not count.
-/

namespace Flowline.Settings.Environment

open Number

/-- The words for the undefined number. -/
def isUndefined (characters : List Char) : Bool :=
  (takeSign characters).2.map Char.toLower = "nan".toList

/-- What the text of a variable says: a flag, a number, or the text. -/
def valueOf (text : String) : Setting :=
  match text.toList.map Char.toLower with
  | ['t', 'r', 'u', 'e'] => .flag true
  | ['f', 'a', 'l', 's', 'e'] => .flag false
  | _ =>
      match Setting.integerOfText? true text with
      | some value =>
          if Setting.isWord value then .integer value else .decimal (.ofInt value)
      | none =>
          match binaryOf text.toList with
          | some value => .decimal value
          | none => if isUndefined text.toList then .undefined else .text text

/-- The key that the name of a variable stands for, with points between its
steps. -/
def keyOf? (word name : String) : Option String :=
  let mark := (word ++ "__").toList.map Char.toLower
  let name := name.toList.map Char.toLower
  if mark.isPrefixOf name then
    some ((String.ofList (name.drop mark.length)).replace "__" ".")
  else none

/-- Put the settings of some variables over others. -/
def apply (word : String) (environment : List (String × String)) (settings : Keyed Setting) :
    Keyed Setting :=
  environment.foldl (fun settings entry =>
    match keyOf? word entry.1 with
    | some key => Setting.putAt (Setting.pathOf key) (valueOf entry.2) settings
    | none => settings) settings

end Flowline.Settings.Environment
