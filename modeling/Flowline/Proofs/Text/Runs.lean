import Flowline.Text.Blank
import Mathlib.Data.List.Basic
import Mathlib.Data.List.TakeWhile

/-!
# Runs of characters

A run of characters of one kind ends where a character of another kind follows.  Removing the
runs of blanks at the ends of a text leaves what stands between them, if that neither begins
nor ends with a blank.
-/

namespace Flowline.Text

variable {front back text rest : List Char}

theorem takeWhile_dropWhile_run {kind : Char → Bool}
    (inside : ∀ character ∈ text, kind character = true)
    (stops : ∀ character ∈ rest.head?, kind character = false) :
    (text ++ rest).takeWhile kind = text ∧ (text ++ rest).dropWhile kind = rest := by
  rw [List.takeWhile_append_of_pos inside, List.dropWhile_append_of_pos inside]
  cases rest with
  | nil => simp
  | cons character rest => simp [stops character rfl]

/-! ## Blanks at the ends -/

theorem isBlank_of_isDigit {character : Char} (digit : character.isDigit = true) :
    isBlank character = false := by
  have bounds : 48 ≤ character.toNat ∧ character.toNat ≤ 57 := by
    simpa [Char.isDigit, UInt32.le_iff_toNat_le] using digit
  simp [isBlank]
  omega

/-- What does not begin with a blank loses nothing at its front. -/
theorem trimFront_of_head (unblank : ∀ character ∈ text.head?, isBlank character = false) :
    trimFront text = text := by
  cases text with
  | nil => rfl
  | cons character rest => simp [trimFront, unblank character rfl]

theorem trimFront_blank_append (frontBlank : ∀ character ∈ front, isBlank character = true)
    (text : List Char) : trimFront (front ++ text) = trimFront text :=
  List.dropWhile_append_of_pos frontBlank

/-- The back of a text is the front of the text backwards. -/
theorem trimBack_eq (text : List Char) : trimBack text = (trimFront text.reverse).reverse := rfl

theorem trimBack_of_last (unblank : ∀ character ∈ text.getLast?, isBlank character = false) :
    trimBack text = text := by
  rw [trimBack_eq, trimFront_of_head (by simpa using unblank), List.reverse_reverse]

theorem trimBack_append_blank (backBlank : ∀ character ∈ back, isBlank character = true)
    (text : List Char) : trimBack (text ++ back) = trimBack text := by
  rw [trimBack_eq, List.reverse_append, trimFront_blank_append (by simpa using backBlank),
    ← trimBack_eq]

/-- Trimming only takes characters away. -/
theorem trim_sublist (text : List Char) : (trim text).Sublist text := by
  have back : (trimBack (trimFront text)).Sublist (trimFront text) := by
    have sublist := (List.dropWhile_sublist isBlank (l := (trimFront text).reverse)).reverse
    rwa [List.reverse_reverse] at sublist
  exact back.trans (List.dropWhile_sublist isBlank)

/-- A text that is seen at both of its ends. -/
structure Edged (text : List Char) : Prop where
  nonempty : text ≠ []
  head : ∀ character ∈ text.head?, isBlank character = false
  last : ∀ character ∈ text.getLast?, isBlank character = false

theorem Edged.of_visible (nonempty : text ≠ [])
    (visible : ∀ character ∈ text, isBlank character = false) : Edged text :=
  ⟨nonempty, fun character member => visible character (List.mem_of_mem_head? member),
    fun character member => visible character (List.mem_of_mem_getLast? member)⟩

/-- Between two texts that are seen at their outer ends anything may stand. -/
theorem Edged.append {middle last : List Char} (first : Edged text) (final : Edged last) :
    Edged (text ++ middle ++ last) where
  nonempty := by simp [first.nonempty]
  head := by
    rw [List.append_assoc, List.head?_append_of_ne_nil _ first.nonempty]
    exact first.head
  last := by
    rw [List.getLast?_append_of_ne_nil _ final.nonempty]
    exact final.last

/-- Between blanks a text that is seen at both ends is what remains. -/
theorem trim_between (frontBlank : ∀ character ∈ front, isBlank character = true)
    (backBlank : ∀ character ∈ back, isBlank character = true) (edged : Edged text) :
    trim (front ++ text ++ back) = text := by
  have begins : ∀ character ∈ (text ++ back).head?, isBlank character = false := by
    rw [List.head?_append_of_ne_nil _ edged.nonempty]
    exact edged.head
  rw [trim, List.append_assoc, trimFront_blank_append frontBlank, trimFront_of_head begins,
    trimBack_append_blank backBlank, trimBack_of_last edged.last]

/-- Of a text with blanks in front of it only the blanks are lost. -/
theorem Edged.trim_blank_append (edged : Edged text)
    (frontBlank : ∀ character ∈ front, isBlank character = true) : trim (front ++ text) = text := by
  have nothing : ∀ character ∈ ([] : List Char), isBlank character = true := by simp
  have trimmed := trim_between frontBlank nothing edged
  rwa [List.append_nil] at trimmed

theorem Edged.trim_eq (edged : Edged text) : trim text = text := by
  have nothing : ∀ character ∈ ([] : List Char), isBlank character = true := by simp
  exact edged.trim_blank_append nothing

end Flowline.Text
