import Flowline.Text.Split

/-!
# Pieces of a text

A text is cut as the standard library cuts a list, so its pieces joined by the separator are the
text again, and the pieces of two texts with a separator between them are those of the one and
then those of the other.
-/

namespace Flowline.Text

theorem splitOn_eq (separator : Char) (text : List Char) :
    splitOn separator text = text.splitOn separator := by
  induction text with
  | nil => rfl
  | cons character rest ih =>
      rw [List.splitOn_eq_splitOnP] at ih ⊢
      rw [List.splitOnP_cons_eq_if_modifyHead, ← ih, splitOn]
      by_cases same : character = separator
      · simp [same]
      · cases pieces : splitOn separator rest with
        | nil => exact absurd pieces (splitOn_ne_nil separator rest)
        | cons piece pieces => simp [same]

/-- The pieces on both sides of a separator. -/
theorem splitOn_append_cons (separator : Char) (front back : List Char) :
    splitOn separator (front ++ separator :: back) =
      splitOn separator front ++ splitOn separator back := by
  simp only [splitOn_eq, List.splitOn_eq_splitOnP]
  exact List.splitOnP_append_cons front back (beq_self_eq_true separator)

theorem splitOn_unsplit {separator : Char} {text : List Char} (unsplit : separator ∉ text) :
    splitOn separator text = [text] := by
  rw [splitOn_eq, List.splitOn_eq_splitOnP]
  refine List.splitOnP_eq_singleton fun character member => beq_eq_false_iff_ne.mpr ?_
  rintro rfl
  exact unsplit member

/-- Text in front of the first separator is the first piece. -/
theorem splitOn_append {separator : Char} {text : List Char} (unsplit : separator ∉ text)
    (rest : List Char) :
    splitOn separator (text ++ separator :: rest) = text :: splitOn separator rest := by
  rw [splitOn_append_cons, splitOn_unsplit unsplit, List.singleton_append]

/-- The pieces of a text, joined by the separator, are the text. -/
theorem intercalate_splitOn (separator : Char) (text : List Char) :
    [separator].intercalate (splitOn separator text) = text := by
  rw [splitOn_eq, List.intercalate_splitOn]

theorem split_ne_nil (separator : Char) (text : String) : split separator text ≠ [] := by
  rw [split, ne_eq, List.map_eq_nil_iff]
  exact splitOn_ne_nil separator text.toList

/-! ## Texts joined by points -/

theorem split_append (front back : String) :
    split '.' (front ++ "." ++ back) = split '.' front ++ split '.' back := by
  have joined : (front ++ "." ++ back).toList = front.toList ++ '.' :: back.toList := by
    simp
  rw [split, joined, splitOn_append_cons, List.map_append]
  rfl

theorem split_unsplit {text : String} (unsplit : '.' ∉ text.toList) : split '.' text = [text] := by
  rw [split, splitOn_unsplit unsplit, List.map_singleton, String.ofList_toList]

/-- A text of one piece is that piece. -/
theorem eq_of_split {text piece : String} (single : split '.' text = [piece]) : text = piece := by
  obtain ⟨characters, pieces, rfl⟩ := List.map_eq_singleton_iff.mp single
  have whole := intercalate_splitOn '.' text.toList
  rw [pieces] at whole
  rw [← String.ofList_toList (s := text), ← whole]
  simp

end Flowline.Text
