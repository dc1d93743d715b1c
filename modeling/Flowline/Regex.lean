import Flowline.Regex.Expansion
import Flowline.Regex.Reader

/-!
# Regular expressions

Whether a text holds a match of a regular expression.  A text that is no
expression, or one whose expansion is too large, matches nothing.
-/

namespace Flowline.Regex

/-- Whether a regular expression matches somewhere in a text. -/
def isMatch (expression subject : String) : Bool :=
  match Pattern.parse? expression with
  | some pattern => pattern.fits && pattern.matchesIn subject.toList
  | none => false

end Flowline.Regex
