/-!
# Splitting texts

A text is cut at every occurrence of a separator, so there is always one piece
more than there are separators.
-/

namespace Flowline.Text

/-- The pieces between the separators. -/
def splitOn (separator : Char) : List Char → List (List Char)
  | [] => [[]]
  | character :: rest =>
      if character = separator then [] :: splitOn separator rest
      else
        match splitOn separator rest with
        | [] => [[character]]
        | piece :: pieces => (character :: piece) :: pieces

/-- The texts between the separators. -/
def split (separator : Char) (text : String) : List String :=
  (splitOn separator text.toList).map String.ofList

/-- The text in front of the first occurrence of a pair of characters, and the
text behind it. -/
def cutAt (first second : Char) : List Char → Option (List Char × List Char)
  | left :: right :: rest =>
      if left = first ∧ right = second then some ([], rest)
      else (cutAt first second (right :: rest)).map fun (before, after) => (left :: before, after)
  | _ => none

/-- Whether one list of characters occurs within another. -/
def occursIn (part : List Char) : List Char → Bool
  | [] => part.isEmpty
  | character :: rest =>
      part.isPrefixOf (character :: rest) || occursIn part rest

theorem splitOn_ne_nil (separator : Char) (characters : List Char) :
    splitOn separator characters ≠ [] := by
  cases characters with
  | nil => simp [splitOn]
  | cons character rest =>
      unfold splitOn
      split
      · simp
      · split <;> simp

/-- What is cut off in front and at the pair itself shortens the text. -/
theorem length_of_cutAt {first second : Char} {characters before after : List Char}
    (cut : cutAt first second characters = some (before, after)) :
    characters.length = before.length + 2 + after.length := by
  fun_induction cutAt first second characters generalizing before with
  | case1 left right rest _ =>
      obtain ⟨rfl, rfl⟩ : [] = before ∧ rest = after := by simpa using cut
      simp
      omega
  | case2 left right rest _ ih =>
      simp only [Option.map_eq_some_iff, Prod.mk.injEq, Prod.exists] at cut
      obtain ⟨inner, _, found, rfl, rfl⟩ := cut
      have := ih found
      simp only [List.length_cons] at this ⊢
      omega
  | case3 => simp at cut

end Flowline.Text
