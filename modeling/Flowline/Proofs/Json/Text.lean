import Flowline.Json.Parser
import Flowline.Json.Printer
import Mathlib.Data.List.Basic

/-!
# Quoted texts

A text between quotes is read back, whatever its characters are.  The reader sees code
units, and no character of a text is half of a surrogate pair.
-/

namespace Flowline.Json

open Number

/-! ## Characters -/

theorem fourHex_hexDigit {code : Nat} (control : code < 0x20) :
    fourHex '0' '0' (hexDigit (code / 16)) (hexDigit (code % 16)) = some code := by
  have every : ∀ code : Fin 0x20,
      fourHex '0' '0' (hexDigit (code.val / 16)) (hexDigit (code.val % 16)) = some code.val := by
    decide
  exact every ⟨code, control⟩

/-- A backslash and a letter stand for one character. -/
theorem readUnits_backslash {letter character : Char}
    (stands : escapedChar? letter = some character) (rest : List Char) :
    readUnits ('\\' :: letter :: rest) =
      (readUnits rest).map fun read => (character.toNat :: read.1, read.2) := by
  have other : letter ≠ 'u' := by
    rintro rfl
    cases stands
  rw [readUnits]
  · rw [stands]
    cases readUnits rest <;> rfl
  · intro a b c d more same
    exact (other same).elim

/-- A character that needs no backslash stands for itself. -/
theorem readUnits_plain {character : Char} (visible : 0x20 ≤ character.toNat)
    (unquoted : character ≠ '"') (unescaped : character ≠ '\\') (rest : List Char) :
    readUnits (character :: rest) =
      (readUnits rest).map fun read => (character.toNat :: read.1, read.2) := by
  rw [readUnits]
  · rw [if_neg (by simp [unescaped]; omega)]
    cases readUnits rest <;> rfl
  all_goals simp [unquoted, unescaped]

/-- A character that is written is read as one unit. -/
theorem readUnits_escape (character : Char) (rest : List Char) :
    readUnits (escape character ++ rest) =
      (readUnits rest).map fun read => (character.toNat :: read.1, read.2) := by
  unfold escape
  split
  case h_8 unquoted unescaped _ _ _ _ _ =>
    split
    next control =>
      simp only [List.cons_append, List.nil_append, readUnits, fourHex_hexDigit control]
      cases readUnits rest <;> rfl
    next visible => exact readUnits_plain (by omega) unquoted unescaped rest
  all_goals exact readUnits_backslash rfl rest

/-- A text is read up to its closing quote. -/
theorem readUnits_flatMap_escape (characters rest : List Char) :
    readUnits (characters.flatMap escape ++ '"' :: rest) =
      some (characters.map Char.toNat, rest) := by
  induction characters with
  | nil => simp [readUnits]
  | cons character characters ih =>
      rw [List.flatMap_cons, List.append_assoc, readUnits_escape, ih]
      rfl

/-! ## Units -/

theorem not_surrogate (character : Char) :
    isHighSurrogate character.toNat = false ∧ isLowSurrogate character.toNat = false := by
  have valid : character.toNat < 0xD800 ∨ 0xDFFF < character.toNat ∧ character.toNat < 0x110000 :=
    character.valid
  simp only [isHighSurrogate, isLowSurrogate, Bool.and_eq_false_iff, decide_eq_false_iff_not]
  omega

/-- The units of characters join to these. -/
theorem joinUnits_toNat (characters : List Char) :
    joinUnits (characters.map Char.toNat) = some characters := by
  induction characters with
  | nil => rfl
  | cons character rest ih =>
      obtain ⟨high, low⟩ := not_surrogate character
      cases rest with
      | nil => simp [joinUnits, high, low]
      | cons next rest =>
          rw [List.map_cons, List.map_cons, joinUnits]
          rw [List.map_cons] at ih
          simp [high, low, ih]

/-- What is quoted is read back. -/
theorem readText_quote (text : String) (rest : List Char) :
    ∃ quoted, quote text = '"' :: quoted ∧
      readText (quoted ++ rest) = some (some text, rest) := by
  refine ⟨text.toList.flatMap escape ++ ['"'], rfl, ?_⟩
  rw [List.append_assoc, List.singleton_append, readText, readUnits_flatMap_escape]
  simp [joinUnits_toNat]

end Flowline.Json
