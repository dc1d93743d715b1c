import Mathlib.Data.List.Basic
import Mathlib.Data.String.Basic

/-!
# Bytes of texts

A character of ASCII takes one byte, so texts of such characters sort by their bytes as they do by
their characters.  What is said of the number of characters and of the number of bytes alike is
said of any measure of texts that counts characters of ASCII alike.
-/

namespace Flowline.Text

/-- A character of ASCII takes one byte. -/
theorem utf8Size_of_ascii {character : Char} (small : character.toNat < 128) :
    character.utf8Size = 1 := by
  rw [Char.utf8Size_eq_one_iff, UInt32.le_iff_toNat_le]
  exact Nat.le_of_lt_succ small

/-! ## Order -/

/-- The bytes of a text. -/
def bytes (text : String) : List UInt8 := text.toUTF8.data.toList

/-- A text whose characters take one byte each. -/
def IsAscii (text : String) : Prop := ∀ character ∈ text.toList, character.toNat < 128

instance (text : String) : Decidable (IsAscii text) :=
  decidable_of_iff (text.toList.all (·.toNat < 128)) (by simp [IsAscii])

variable {left right : String}

theorem IsAscii.append (first : IsAscii left) (second : IsAscii right) :
    IsAscii (left ++ right) := by
  rw [IsAscii, String.toList_append]
  exact List.forall_mem_append.mpr ⟨first, second⟩

theorem flatMap_utf8EncodeChar {characters : List Char}
    (ascii : ∀ character ∈ characters, character.toNat < 128) :
    characters.flatMap String.utf8EncodeChar = characters.map Char.toUInt8 := by
  induction characters with
  | nil => rfl
  | cons character rest ih =>
      obtain ⟨first, behind⟩ := List.forall_mem_cons.mp ascii
      rw [List.flatMap_cons, String.utf8EncodeChar_eq_singleton (utf8Size_of_ascii first),
        ih behind]
      rfl

theorem bytes_of_ascii (ascii : IsAscii left) : bytes left = left.toList.map Char.toUInt8 := by
  obtain ⟨characters, rfl⟩ : ∃ characters, left = String.ofList characters :=
    ⟨left.toList, String.ofList_toList.symm⟩
  rw [IsAscii, String.toList_ofList] at ascii
  rw [bytes, String.toUTF8_eq_toByteArray, String.toByteArray_ofList, List.utf8Encode,
    List.data_toByteArray, flatMap_utf8EncodeChar ascii, String.toList_ofList]

theorem toNat_toUInt8 {character : Char} (small : character.toNat < 128) :
    character.toUInt8.toNat = character.toNat :=
  (UInt32.toNat_toUInt8 character.val).trans (Nat.mod_eq_of_lt (Nat.lt_trans small (by decide)))

theorem map_toUInt8_lt_iff {front back : List Char}
    (first : ∀ character ∈ front, character.toNat < 128)
    (second : ∀ character ∈ back, character.toNat < 128) :
    front.map Char.toUInt8 < back.map Char.toUInt8 ↔ front < back := by
  induction front generalizing back with
  | nil => cases back <;> simp
  | cons character front ih =>
      cases back with
      | nil => simp
      | cons other back =>
          obtain ⟨small, first⟩ := List.forall_mem_cons.mp first
          obtain ⟨fits, second⟩ := List.forall_mem_cons.mp second
          rw [List.map_cons, List.map_cons, List.cons_lt_cons_iff, List.cons_lt_cons_iff,
            ih first second, UInt8.lt_iff_toNat_lt, ← UInt8.toNat_inj, toNat_toUInt8 small,
            toNat_toUInt8 fits, Char.toNat_inj]
          rfl

/-- Texts of one byte for each character sort by their bytes as they do by their characters. -/
theorem bytes_lt_iff (first : IsAscii left) (second : IsAscii right) :
    bytes left < bytes right ↔ left < right := by
  rw [bytes_of_ascii first, bytes_of_ascii second, map_toUInt8_lt_iff first second,
    String.lt_iff_toList_lt]

/-! ## Measures -/

/-- A measure of texts.  Every character counts, those of ASCII count one and no other counts more
than four. -/
structure Measure where
  weight : Char → Nat
  pos : ∀ character, 0 < weight character
  ascii : ∀ character : Char, character.toNat < 128 → weight character = 1
  le_four : ∀ character, weight character ≤ 4

namespace Measure

/-- The measure of a text. -/
def of (measure : Measure) : List Char → Nat
  | [] => 0
  | character :: rest => measure.weight character + of measure rest

variable (measure : Measure)

@[simp] theorem of_nil : measure.of [] = 0 := rfl

@[simp] theorem of_cons (character : Char) (rest : List Char) :
    measure.of (character :: rest) = measure.weight character + measure.of rest := rfl

theorem of_le_of_sublist {text part : List Char} (sublist : part.Sublist text) :
    measure.of part ≤ measure.of text := by
  induction sublist with
  | slnil => exact le_rfl
  | cons character _ ih =>
      rw [of_cons]
      exact ih.trans (Nat.le_add_left _ _)
  | cons_cons character _ ih =>
      rw [of_cons, of_cons]
      exact Nat.add_le_add_left ih _

/-- The number of characters. -/
def characters : Measure :=
  ⟨fun _ => 1, fun _ => Nat.one_pos, fun _ _ => rfl, fun _ => by decide⟩

/-- The number of bytes. -/
def bytes : Measure where
  weight := Char.utf8Size
  pos := Char.utf8Size_pos
  ascii _ := utf8Size_of_ascii
  le_four := Char.utf8Size_le_four

theorem characters_of (text : List Char) : characters.of text = text.length := by
  induction text with
  | nil => rfl
  | cons character rest ih =>
      rw [of_cons, ih, List.length_cons]
      exact Nat.add_comm 1 rest.length

theorem bytes_of (text : String) : bytes.of text.toList = text.utf8ByteSize := by
  have each (text : List Char) : bytes.of text = String.utf8Len text := by
    induction text with
    | nil => rfl
    | cons character rest ih =>
        rw [of_cons, ih, String.utf8Len_cons]
        exact Nat.add_comm character.utf8Size _
  rw [each, ← String.utf8ByteSize_ofList, String.ofList_toList]

end Measure

end Flowline.Text
