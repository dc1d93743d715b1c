import Flowline.Proofs.Store.Folder
import Flowline.Proofs.Text.Bytes

/-!
# Names of identifiers

An identifier is read back from its text, in whatever case and with or without the word of its
kind in front, and its display form is none of the other kind.  The bytes of display forms and of
the names of documents sort as the identifiers do, so what was made earlier comes first.
-/

namespace Flowline

/-! ## Cases of letters -/

namespace Ulid

/-- Only the small letters have capitals. -/
theorem toUpper_eq_or (character : Char) : character.toUpper = character ∨
    ∃ letter : Fin 26, character = Char.ofNat ('a'.toNat + letter) := by
  unfold Char.toUpper
  split
  next small =>
    rw [UInt32.le_iff_toNat_le, UInt32.le_iff_toNat_le] at small
    have bounds : 97 ≤ character.toNat ∧ character.toNat ≤ 122 := small
    refine .inr ⟨⟨character.toNat - 97, by omega⟩, ?_⟩
    have place : 'a'.toNat + (character.toNat - 97) = character.toNat :=
      Nat.add_sub_cancel' bounds.1
    rw [place, Char.ofNat_toNat]
  next => exact .inl rfl

theorem toUpper_toUpper (character : Char) : character.toUpper.toUpper = character.toUpper := by
  have every : ∀ letter : Fin 26, (Char.ofNat ('a'.toNat + letter)).toUpper.toUpper =
      (Char.ofNat ('a'.toNat + letter)).toUpper := by decide
  rcases toUpper_eq_or character with same | ⟨letter, rfl⟩
  · rw [same, same]
  · exact every letter

theorem utf8Size_toUpper (character : Char) : character.toUpper.utf8Size = character.utf8Size := by
  have every : ∀ letter : Fin 26, (Char.ofNat ('a'.toNat + letter)).toUpper.utf8Size =
      (Char.ofNat ('a'.toNat + letter)).utf8Size := by decide
  rcases toUpper_eq_or character with same | ⟨letter, rfl⟩
  · rw [same]
  · exact every letter

/-- The capitals of a text. -/
def capitals (text : String) : List Char := text.toList.map Char.toUpper

theorem utf8ByteSize_eq (text : String) : text.utf8ByteSize = String.utf8Len (capitals text) := by
  have each (characters : List Char) :
      String.utf8Len (characters.map Char.toUpper) = String.utf8Len characters := by
    induction characters with
    | nil => rfl
    | cons character rest ih => simp [ih, utf8Size_toUpper]
  rw [capitals, each, ← String.utf8ByteSize_ofList, String.ofList_toList]

theorem mapM_digitOf?_eq (text : String) :
    text.toList.mapM digitOf? = (capitals text).mapM digitOf? := by
  rw [capitals, List.mapM_map]
  refine congrArg (text.toList.mapM ·) (funext fun character => ?_)
  rw [digitOf?, Function.comp_apply, digitOf?, toUpper_toUpper]

/-- Texts that differ in the cases of letters only are read alike. -/
theorem parse_eq_of_capitals {left right : String} (same : capitals left = capitals right) :
    parse left = parse right := by
  rw [parse, parse, utf8ByteSize_eq, utf8ByteSize_eq, mapM_digitOf?_eq, mapM_digitOf?_eq, same]

theorem isAscii_text (ulid : Ulid) : Text.IsAscii ulid.text := by
  have every : ∀ digit : Fin 32, (digitChar digit.val).toNat < 128 := by decide
  rw [Text.IsAscii, toList_text, List.forall_mem_map]
  exact fun digit member => every ⟨digit, lt_of_mem_digits member⟩

/-- No letter of a text is the mark behind the word of a kind. -/
theorem mark_not_mem_capitals (ulid : Ulid) : '_' ∉ capitals ulid.text := by
  have every : ∀ digit : Fin 32, '_' ≠ (digitChar digit.val).toUpper := by decide
  rw [capitals, toList_text, List.map_map, List.mem_map]
  rintro ⟨digit, member, same⟩
  exact every ⟨digit, lt_of_mem_digits member⟩ same.symm

/-- An identifier that was made earlier comes first, whatever its random bits are. -/
theorem before_ofParts {time later : BitVec 48} (earlier : time < later)
    (random other : BitVec 80) : (ofParts time random).before (ofParts later other) = true := by
  have value (time : BitVec 48) (random : BitVec 80) :
      (ofParts time random).bits.toNat = time.toNat * 2 ^ 80 + random.toNat := by
    rw [ofParts, BitVec.toNat_append, ← Nat.shiftLeft_add_eq_or_of_lt random.isLt,
      Nat.shiftLeft_eq]
  have bound := random.isLt
  rw [before, decide_eq_true_eq, value, value]
  rw [BitVec.lt_def] at earlier
  omega

end Ulid

/-! ## Forms of identifiers -/

namespace Ident

open Ulid (capitals)

variable {kind other : IdentKind}

theorem bareText_marked (kind : IdentKind) (text : String) :
    bareText kind (kind.word ++ "_" ++ text) = text := by
  have marked : ((kind.word ++ "_").toList.isPrefixOf (kind.word ++ "_" ++ text).toList) = true := by
    rw [String.toList_append (s := kind.word ++ "_")]
    exact List.isPrefixOf_iff_prefix.mpr (List.prefix_append _ _)
  rw [bareText]
  simp only [if_pos marked]
  rw [String.toList_append (s := kind.word ++ "_"), List.drop_left, String.ofList_toList]

/-- A text without a mark has no word in front. -/
theorem bareText_unmarked (kind : IdentKind) {text : String} (unmarked : '_' ∉ text.toList) :
    bareText kind text = text := by
  rw [bareText, if_neg]
  intro marked
  refine unmarked ((List.isPrefixOf_iff_prefix.mp marked).mem ?_)
  simp

/-- An identifier is read from its text in any case, with the word of its kind in front or
without. -/
theorem parse_of_capitals {ident : Ident kind} {text : String}
    (same : capitals text = capitals ident.ulid.text) :
    parse kind text = .ok ident ∧ parse kind (kind.word ++ "_" ++ text) = .ok ident := by
  have read := (Ulid.parse_eq_of_capitals same).trans ident.ulid.parse_text
  have unmarked : '_' ∉ text.toList := fun member => by
    have mark : '_' ∈ capitals text := List.mem_map.mpr ⟨'_', member, rfl⟩
    rw [same] at mark
    exact ident.ulid.mark_not_mem_capitals mark
  rw [parse, parse, bareText_unmarked kind unmarked, bareText_marked, read]
  exact ⟨rfl, rfl⟩

/-- A display form is too long for an identifier of another kind, since its word stays. -/
theorem parse_foreign (different : other ≠ kind) (ident : Ident kind) :
    parse other ident.display = .error .invalidLength := by
  have kept : bareText other ident.display = ident.display := by
    rw [bareText, if_neg]
    rw [toList_display]
    cases kind <;> cases other <;> simp [IdentKind.word] at different ⊢
  have long : ident.display.utf8ByteSize ≠ Ulid.width := by
    rw [display, String.utf8ByteSize_append, String.utf8ByteSize_append, Ulid.utf8ByteSize_text]
    cases kind <;> decide
  rw [parse, kept, Ulid.parse, if_pos long]
  rfl

theorem isAscii_display (ident : Ident kind) : Text.IsAscii ident.display := by
  have mark : Text.IsAscii (kind.word ++ "_") := by cases kind <;> decide
  exact mark.append ident.ulid.isAscii_text

/-- The bytes of display forms sort as the identifiers do. -/
theorem bytes_display_lt_iff {left right : Ident kind} :
    Text.bytes left.display < Text.bytes right.display ↔ left.ulid.before right.ulid = true :=
  (Text.bytes_lt_iff left.isAscii_display right.isAscii_display).trans display_lt_iff

/-- The bytes of display forms with one ending sort as the identifiers do. -/
theorem bytes_display_append_lt_iff {ending : String} (ascii : Text.IsAscii ending)
    {left right : Ident kind} :
    Text.bytes (left.display ++ ending) < Text.bytes (right.display ++ ending) ↔
      left.ulid.before right.ulid = true :=
  (Text.bytes_lt_iff (left.isAscii_display.append ascii)
    (right.isAscii_display.append ascii)).trans (display_append_lt_iff ending)

open Store.Folder (documentName lockName)

/-- Every identifier is read back from its display form and from its bare text, both also in any
other case, and its display form is none of another kind.  The bytes of display forms sort as the
identifiers do; so no two identifiers share the name of a document or of a lock, and these names
sort as the identifiers do as well.  An identifier with an earlier time comes before one with a
later time. -/
theorem names_keep_order :
    (∀ (kind : IdentKind) (ident : Ident kind),
      parse kind ident.display = .ok ident ∧ parse kind ident.ulid.text = .ok ident ∧
      (∀ text, capitals text = capitals ident.ulid.text →
        parse kind (kind.word ++ "_" ++ text) = .ok ident ∧ parse kind text = .ok ident) ∧
      ∀ other, other ≠ kind → parse other ident.display = .error .invalidLength) ∧
    (∀ (kind : IdentKind) (left right : Ident kind),
      Text.bytes left.display < Text.bytes right.display ↔
        left.ulid.before right.ulid = true) ∧
    (∀ left right : ExecutionId, ∀ name ∈ [documentName, lockName],
      (name left = name right ↔ left = right) ∧
      (Text.bytes (name left) < Text.bytes (name right) ↔
        left.ulid.before right.ulid = true)) ∧
    ∀ time later : BitVec 48, time < later → ∀ random other : BitVec 80,
      (Ulid.ofParts time random).before (Ulid.ofParts later other) = true := by
  refine ⟨fun kind ident => ?_, fun kind left right => bytes_display_lt_iff,
    fun left right => ?_, fun time later earlier => Ulid.before_ofParts earlier⟩
  · obtain ⟨bare, marked⟩ := @parse_of_capitals kind ident ident.ulid.text rfl
    exact ⟨marked, bare, fun text same => (parse_of_capitals same).symm,
      fun other different => parse_foreign different ident⟩
  · have ascii : Text.IsAscii ".json" ∧ Text.IsAscii ".lock" := by decide
    rw [List.forall_mem_cons, List.forall_mem_singleton]
    exact ⟨⟨display_append_inj ".json", bytes_display_append_lt_iff ascii.1⟩,
      display_append_inj ".lock", bytes_display_append_lt_iff ascii.2⟩

/-- The largest identifier, written in both cases, and two times whose random bits sort the other
way. -/
theorem names_keep_order_last :
    let last : WorkflowId := ⟨⟨BitVec.allOnes 128⟩⟩
    capitals "7zzzzzzzzzzzzzZZZZZZZZZZZZ" = capitals last.ulid.text ∧
      parse .workflow "wf_7zzzzzzzzzzzzzZZZZZZZZZZZZ" = .ok last ∧
      IdentKind.execution ≠ IdentKind.workflow ∧
      parse .execution last.display = .error .invalidLength ∧
      documentName ∈ [documentName, lockName] ∧
      (1 : BitVec 48) < 2 ∧
      (Ulid.ofParts 1 (BitVec.allOnes 80)).before (Ulid.ofParts 2 0) = true := by
  intro last
  have same : capitals "7zzzzzzzzzzzzzZZZZZZZZZZZZ" = capitals last.ulid.text := by
    decide +kernel
  have other : IdentKind.execution ≠ IdentKind.workflow := by decide
  have earlier : (1 : BitVec 48) < 2 := by decide
  obtain ⟨reads, -, -, sorts⟩ := names_keep_order
  obtain ⟨-, -, either, foreign⟩ := reads .workflow last
  exact ⟨same, (either _ same).1, other, foreign _ other, List.mem_cons_self, earlier,
    sorts 1 2 earlier _ 0⟩

end Ident

end Flowline
