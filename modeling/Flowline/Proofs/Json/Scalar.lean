import Flowline.Proofs.Json.Reads
import Mathlib.Data.List.Basic
import Mathlib.Data.List.TakeWhile

/-!
# Texts of scalars

A text that begins neither a container nor a text in quotes can only be that of a number, a
truth value or null.  These are made of few characters, so that any other character in the
text makes it unreadable.
-/

namespace Flowline.Json

open Number

/-- A character of a number, a truth value or null. -/
def ScalarCharacter (character : Char) : Prop :=
  character.isDigit = true ∨ character ∈ "+-.eEnultrfas".toList

instance : DecidablePred ScalarCharacter := fun character =>
  inferInstanceAs (Decidable (character.isDigit = true ∨ character ∈ "+-.eEnultrfas".toList))

/-- Nothing but characters of scalars stands in front of the rest. -/
def TakesScalar (characters rest : List Char) : Prop :=
  ∃ taken, characters = taken ++ rest ∧ ∀ character ∈ taken, ScalarCharacter character

/-- What begins neither with a blank nor as a container or a text in quotes. -/
def BeginsScalar (characters : List Char) : Prop :=
  ∀ character ∈ characters.head?, isSpace character = false ∧ character ∉ ['{', '[', '"']

namespace TakesScalar

variable {characters middle rest : List Char}

theorem refl (characters : List Char) : TakesScalar characters characters := ⟨[], rfl, by simp⟩

theorem word (letters : List Char) (kind : ∀ letter ∈ letters, ScalarCharacter letter)
    (rest : List Char) : TakesScalar (letters ++ rest) rest := ⟨letters, rfl, kind⟩

theorem trans (first : TakesScalar characters middle) (second : TakesScalar middle rest) :
    TakesScalar characters rest := by
  obtain ⟨taken, rfl, kind⟩ := first
  obtain ⟨more, rfl, others⟩ := second
  exact ⟨taken ++ more, (List.append_assoc _ _ _).symm, List.forall_mem_append.mpr ⟨kind, others⟩⟩

theorem cons {character : Char} (kind : ScalarCharacter character)
    (takes : TakesScalar characters rest) : TakesScalar (character :: characters) rest := by
  obtain ⟨taken, rfl, others⟩ := takes
  exact ⟨character :: taken, rfl, List.forall_mem_cons.mpr ⟨kind, others⟩⟩

/-- A character of another kind is not taken. -/
theorem mem_rest (takes : TakesScalar characters rest) {character : Char}
    (member : character ∈ characters) (other : ¬ ScalarCharacter character) :
    character ∈ rest := by
  obtain ⟨taken, rfl, kind⟩ := takes
  exact (List.mem_append.mp member).resolve_left fun inside => other (kind character inside)

end TakesScalar

/-! ## Numbers -/

variable {characters rest : List Char}

theorem takes_spanDigits (characters : List Char) :
    TakesScalar characters (spanDigits characters).2 :=
  ⟨(spanDigits characters).1, (spanDigits_append characters).symm,
    fun _ member => .inl (List.mem_takeWhile_imp member)⟩

theorem takes_of_spanDigits {digits : List Char} (spans : spanDigits characters = (digits, rest)) :
    TakesScalar characters rest := by
  have takes := takes_spanDigits characters
  rwa [spans] at takes

theorem takes_takeSign (characters : List Char) :
    TakesScalar characters (takeSign characters).2 := by
  unfold takeSign
  split
  · exact (TakesScalar.refl _).cons (by decide)
  · exact (TakesScalar.refl _).cons (by decide)
  · exact TakesScalar.refl _

theorem takes_readWhole {digits : List Char} (read : readWhole characters = some (digits, rest)) :
    TakesScalar characters rest := by
  unfold readWhole at read
  split at read
  · cases read
  next spans =>
    cases read
    exact takes_of_spanDigits spans
  · cases read
  next spans =>
    cases read
    exact takes_of_spanDigits spans

theorem takes_readFraction {digits : Option (List Char)}
    (read : readFraction characters = some (digits, rest)) : TakesScalar characters rest := by
  unfold readFraction at read
  split at read
  · split at read
    · cases read
    next spans =>
      cases read
      exact (takes_of_spanDigits spans).cons (by decide)
  · cases read
    exact TakesScalar.refl _

theorem takes_readPower {power : Option Int}
    (read : readPower characters = some (power, rest)) : TakesScalar characters rest := by
  unfold readPower at read
  split at read
  next letter behind =>
    split at read
    next power =>
      have kind : ScalarCharacter letter := by
        rcases power with rfl | rfl <;> decide
      simp only at read
      split at read
      · cases read
      next spans =>
        cases read
        exact ((takes_takeSign behind).trans (takes_of_spanDigits spans)).cons kind
    next =>
      cases read
      exact TakesScalar.refl _
  next =>
    cases read
    exact TakesScalar.refl _

theorem ReadsNumber.takes {document : Document} (reads : ReadsNumber characters document rest) :
    TakesScalar characters rest := by
  cases reads with
  | @intro unsigned _ _ _ _ _ _ _ sign digits point exponent =>
      have signed : TakesScalar characters unsigned := by
        rcases sign with rfl | rfl
        · exact TakesScalar.refl _
        · exact (TakesScalar.refl _).cons (by decide)
      exact (signed.trans (takes_readWhole digits)).trans
        ((takes_readFraction point).trans (takes_readPower exponent))

/-! ## Documents -/

theorem BeginsScalar.skipSpace_eq (begins : BeginsScalar characters) :
    skipSpace characters = characters := by
  cases characters with
  | nil => rfl
  | cons character more => simp [skipSpace, (begins character rfl).1]

/-- A document that is neither a container nor a text takes characters of scalars only. -/
theorem ReadsDocument.takes {item : Reader Document} {levels : Nat} {document : Document}
    (begins : BeginsScalar characters)
    (reads : ReadsDocument item levels characters document rest) :
    TakesScalar characters rest := by
  cases reads with
  | emptyObject | object => exact ((begins '{' rfl).2 (by decide)).elim
  | emptyArray | array => exact ((begins '[' rfl).2 (by decide)).elim
  | text => exact ((begins '"' rfl).2 (by decide)).elim
  | null => exact .word _ (by simp [ScalarCharacter]) rest
  | bool value => cases value <;> exact .word _ (by simp [ScalarCharacter]) rest
  | number digits => exact digits.takes

/-- A text that begins as a scalar and holds a character that is neither one of a scalar nor a
blank is not JSON. -/
theorem parse?_eq_none {text : List Char} {mark : Char} (begins : BeginsScalar text)
    (member : mark ∈ text) (strange : ¬ ScalarCharacter mark) (visible : isSpace mark = false) :
    parse? (String.ofList text) = none := by
  have unread : Document.parse? (String.ofList text) = none := by
    refine Option.eq_none_iff_forall_ne_some.mpr fun document parsed => ?_
    obtain ⟨rest, read, blank⟩ := exists_read_of_parse? parsed
    rw [String.toList_ofList] at read
    have reads := readsDocument_of_readDocument read
    rw [begins.skipSpace_eq] at reads
    have left := (reads.takes begins).mem_rest member strange
    have space := List.dropWhile_eq_nil_iff.mp blank mark left
    rw [visible] at space
    cases space
  rw [parse?, unread, Option.bind_none]

end Flowline.Json
