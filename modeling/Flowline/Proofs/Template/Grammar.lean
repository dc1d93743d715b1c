import Flowline.Proofs.Text.Runs
import Flowline.Proofs.Text.Split
import Flowline.Template

/-!
# The grammar of tokens

What a token looks like, said without the scanner: `{{`, blanks, names joined by dots,
blanks, `}}`.  The scanner's test of a path and its cut at the braces are related to
these spellings here, one lemma for each.
-/

namespace Flowline.Template

open Text

/-! ## Names and paths -/

/-- The characters of a name: ASCII letters and digits, `_`, `$` and `-`. -/
def NameCharacter (character : Char) : Prop :=
  ('A' ≤ character ∧ character ≤ 'Z') ∨ ('a' ≤ character ∧ character ≤ 'z') ∨
    ('0' ≤ character ∧ character ≤ '9') ∨ character ∈ ['_', '$', '-']

/-- One name. -/
structure SpellsName (text : List Char) : Prop where
  nonempty : text ≠ []
  characters : ∀ character ∈ text, NameCharacter character

/-- Names joined by dots. -/
inductive SpellsPath : List Char → Prop where
  | name {text : List Char} (spelled : SpellsName text) : SpellsPath text
  | member {text rest : List Char} (spelled : SpellsName text) (below : SpellsPath rest) :
      SpellsPath (text ++ '.' :: rest)

/-- A token for a path: double braces around the path, with blanks inside them. -/
inductive SpellsToken (path : List Char) : List Char → Prop where
  | braces {front back : List Char}
      (frontBlank : ∀ character ∈ front, isBlank character = true)
      (spelled : SpellsPath path)
      (backBlank : ∀ character ∈ back, isBlank character = true) :
      SpellsToken path ('{' :: '{' :: (front ++ path ++ back) ++ ['}', '}'])

theorem isNameChar_iff (character : Char) :
    isNameChar character = true ↔ NameCharacter character := by
  -- The tests of the standard library compare numbers, which is what the order of characters is.
  have tested : isNameChar character =
      (decide ('A' ≤ character ∧ character ≤ 'Z') ||
        (decide ('a' ≤ character) && decide (character ≤ 'z')) ||
        (decide ('0' ≤ character) && decide (character ≤ '9')) ||
        character == '_' || character == '$' || character == '-') := rfl
  simp only [tested, NameCharacter, Bool.or_eq_true, Bool.and_eq_true, decide_eq_true_eq,
    beq_iff_eq, List.mem_cons, List.not_mem_nil, or_false, or_assoc]

theorem NameCharacter.of_isDigit {character : Char} (digit : character.isDigit = true) :
    NameCharacter character :=
  (isNameChar_iff character).mp (by simp [isNameChar, Char.isAlphanum, digit])

theorem isName_iff (text : List Char) :
    (!text.isEmpty && text.all isNameChar) = true ↔ SpellsName text := by
  simp only [Bool.and_eq_true, Bool.not_eq_true', List.isEmpty_eq_false_iff, List.all_eq_true,
    isNameChar_iff]
  exact ⟨fun both => ⟨both.1, both.2⟩, fun name => ⟨name.nonempty, name.characters⟩⟩

theorem NameCharacter.ne_dot {character : Char} (own : NameCharacter character) :
    character ≠ '.' := by
  rintro rfl
  exact absurd ((isNameChar_iff '.').mpr own) (by decide)

theorem SpellsName.undotted {text : List Char} (name : SpellsName text) : '.' ∉ text :=
  fun member => (name.characters '.' member).ne_dot rfl

/-- The test of the scanner accepts exactly the paths. -/
theorem isPath_iff (text : List Char) : isPath text = true ↔ SpellsPath text := by
  constructor
  · intro accepted
    induction size : text.length using Nat.strongRecOn generalizing text with
    | _ size ih =>
    by_cases dotted : '.' ∈ text
    · obtain ⟨first, rest, rfl, undotted⟩ := List.eq_append_cons_of_mem dotted
      simp only [isPath, splitOn_append undotted, List.all_cons] at accepted
      obtain ⟨name, below⟩ := Bool.and_eq_true_iff.mp accepted
      refine .member ((isName_iff first).mp name) (ih rest.length ?_ rest below rfl)
      simp only [List.length_append, List.length_cons] at size
      omega
    · simp only [isPath, splitOn_unsplit dotted, List.all_cons, List.all_nil,
        Bool.and_true] at accepted
      exact .name ((isName_iff text).mp accepted)
  · intro spelled
    induction spelled with
    | name spelled =>
        rw [isPath, splitOn_unsplit spelled.undotted, List.all_cons, List.all_nil, Bool.and_true]
        exact (isName_iff _).mpr spelled
    | member spelled below ih =>
        rw [isPath, splitOn_append spelled.undotted, List.all_cons, (isName_iff _).mpr spelled]
        exact ih

theorem SpellsPath.nonempty {path : List Char} (spelled : SpellsPath path) : path ≠ [] := by
  cases spelled with
  | name spelled => exact spelled.nonempty
  | member spelled below => simp

theorem SpellsPath.characters {path : List Char} (spelled : SpellsPath path) :
    ∀ character ∈ path, NameCharacter character ∨ character = '.' := by
  induction spelled with
  | name spelled => exact fun character member => .inl (spelled.characters character member)
  | member spelled below ih =>
      intro character member
      rcases List.mem_append.mp member with inName | inRest
      · exact .inl (spelled.characters character inName)
      · rcases List.mem_cons.mp inRest with rfl | inRest
        · exact .inr rfl
        · exact ih character inRest

/-! ## Blanks around a path -/

theorem NameCharacter.unblank {character : Char} (own : NameCharacter character) :
    isBlank character = false := by
  have bounds : (65 ≤ character.toNat ∧ character.toNat ≤ 90) ∨
      (97 ≤ character.toNat ∧ character.toNat ≤ 122) ∨
      (48 ≤ character.toNat ∧ character.toNat ≤ 57) ∨ character ∈ ['_', '$', '-'] := own
  rcases bounds with capital | small | digit | mark
  · simp [isBlank]; omega
  · simp [isBlank]; omega
  · simp [isBlank]; omega
  · simp only [List.mem_cons, List.not_mem_nil, or_false] at mark
    rcases mark with rfl | rfl | rfl <;> decide

/-- The characters of a path are seen, and none of them is a brace. -/
theorem SpellsPath.visible {path : List Char} (spelled : SpellsPath path) {character : Char}
    (member : character ∈ path) :
    isBlank character = false ∧ character ≠ '{' ∧ character ≠ '}' := by
  rcases spelled.characters character member with own | rfl
  · refine ⟨own.unblank, ?_, ?_⟩
    all_goals
      rintro rfl
      exact absurd ((isNameChar_iff _).mpr own) (by decide)
  · decide

/-- What is trimmed away is blank. -/
theorem exists_blanks (inner : List Char) :
    ∃ front back, (∀ character ∈ front, isBlank character = true) ∧
      (∀ character ∈ back, isBlank character = true) ∧ inner = front ++ trim inner ++ back := by
  refine ⟨inner.takeWhile isBlank, ((trimFront inner).reverse.takeWhile isBlank).reverse,
    fun _ => List.mem_takeWhile_imp, ?_, ?_⟩
  · intro character member
    exact List.mem_takeWhile_imp (List.mem_reverse.mp member)
  · rw [trim, trimBack, List.append_assoc, ← List.reverse_append,
      List.takeWhile_append_dropWhile, List.reverse_reverse, trimFront,
      List.takeWhile_append_dropWhile]

theorem ne_brace_of_isBlank {character : Char} (blank : isBlank character = true) :
    character ≠ '{' ∧ character ≠ '}' := by
  constructor <;> rintro rfl <;> exact absurd blank (by decide)

/-! ## Tokens -/

/-- What stands between the braces of a token trims to its path and holds no brace. -/
theorem SpellsToken.exists_inner {path text : List Char} (token : SpellsToken path text) :
    ∃ inner, text = '{' :: '{' :: inner ++ ['}', '}'] ∧ trim inner = path ∧
      isPath path = true ∧ '{' ∉ inner ∧ '}' ∉ inner := by
  cases token with
  | @braces front back frontBlank spelled backBlank =>
    have unbraced : ∀ character ∈ front ++ path ++ back, character ≠ '{' ∧ character ≠ '}' := by
      intro character member
      rcases List.mem_append.mp member with early | inBack
      · rcases List.mem_append.mp early with inFront | inPath
        · exact ne_brace_of_isBlank (frontBlank character inFront)
        · exact (spelled.visible inPath).2
      · exact ne_brace_of_isBlank (backBlank character inBack)
    exact ⟨front ++ path ++ back, rfl,
      trim_between frontBlank backBlank
        (.of_visible spelled.nonempty fun _ member => (spelled.visible member).1),
      (isPath_iff path).mpr spelled,
      fun member => (unbraced _ member).1 rfl, fun member => (unbraced _ member).2 rfl⟩

/-- A text that trims to a path makes a token between braces. -/
theorem spellsToken_of_isPath {inner : List Char} (accepted : isPath (trim inner) = true) :
    SpellsToken (trim inner) ('{' :: '{' :: inner ++ ['}', '}']) := by
  obtain ⟨front, back, frontBlank, backBlank, around⟩ := exists_blanks inner
  have token := SpellsToken.braces frontBlank ((isPath_iff _).mp accepted) backBlank
  rwa [← around] at token

end Flowline.Template
