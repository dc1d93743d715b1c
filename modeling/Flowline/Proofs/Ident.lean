import Flowline.Ident
import Mathlib.Data.List.Basic
import Mathlib.Data.Nat.ModEq
import Mathlib.Data.String.Basic

/-!
# The texts of identifiers

The text of an identifier is its numeral in the base 32, with as many digits for
one identifier as for another.  So it is read back, no two identifiers share a
text, and the texts sort as the identifiers do.
-/

namespace Flowline

namespace Ulid

/-! ## Digits -/

/-- The number with some digits of the base 32, most significant first. -/
def valueOf (digits : List Nat) : Nat := digits.foldl (fun value digit => 32 * value + digit) 0

@[simp] theorem digits_length (count value : Nat) : (digits count value).length = count := by
  induction count generalizing value with
  | zero => rfl
  | succ count ih => simp [digits, ih]

theorem lt_of_mem_digits {count value digit : Nat} (member : digit ∈ digits count value) :
    digit < 32 := by
  induction count generalizing value with
  | zero => simp [digits] at member
  | succ count ih =>
      rcases List.mem_append.mp member with earlier | last
      · exact ih earlier
      · rw [List.mem_singleton.mp last]
        exact Nat.mod_lt _ (by decide)

/-- The digits of a number that does not need more of them denote the number. -/
theorem valueOf_digits {count value : Nat} (fits : value < 32 ^ count) :
    valueOf (digits count value) = value := by
  induction count generalizing value with
  | zero =>
      have zero : value = 0 := by simpa using fits
      rw [zero]
      rfl
  | succ count ih =>
      have higher : value / 32 < 32 ^ count := by
        rw [Nat.pow_succ] at fits
        omega
      have parts := ih higher
      rw [valueOf] at parts
      rw [valueOf, digits, List.foldl_append, parts]
      exact Nat.div_add_mod value 32

/-- Between two texts of one length the order is decided before their ends. -/
theorem append_lt_append {α : Type} [LT α] {left right : List α}
    (same : left.length = right.length) (before : left < right) (more rest : List α) :
    left ++ more < right ++ rest := by
  induction before with
  | nil => simp at same
  | rel before => exact .rel before
  | cons _ ih => exact .cons (ih (by simpa using same))

/-- Of two numbers with as many digits the smaller one has the digits that come first. -/
theorem digits_lt {count left right : Nat} (fits : right < 32 ^ count) (before : left < right) :
    digits count left < digits count right := by
  induction count generalizing left right with
  | zero =>
      simp only [Nat.pow_zero] at fits
      omega
  | succ count ih =>
      rw [digits, digits]
      by_cases same : left / 32 = right / 32
      · have last : left % 32 < right % 32 := by omega
        rw [same]
        exact List.append_left_lt (.rel last)
      · have higher : right / 32 < 32 ^ count := by
          rw [Nat.pow_succ] at fits
          omega
        have earlier : left / 32 < right / 32 := by omega
        exact append_lt_append (by simp) (ih higher earlier) _ _

/-! ## Characters of digits -/

theorem digitOf?_digitChar {digit : Nat} (fits : digit < 32) :
    digitOf? (digitChar digit) = some digit := by
  have every : ∀ digit : Fin 32, digitOf? (digitChar digit) = some digit.val := by decide
  exact every ⟨digit, fits⟩

theorem digitChar_lt {left right : Nat} (fits : right < 32) (before : left < right) :
    digitChar left < digitChar right := by
  have every : ∀ right : Fin 32, ∀ left : Fin right.val,
      digitChar left.val < digitChar right.val := by decide
  exact every ⟨right, fits⟩ ⟨left, before⟩

theorem utf8Size_digitChar {digit : Nat} (fits : digit < 32) : (digitChar digit).utf8Size = 1 := by
  have every : ∀ digit : Fin 32, (digitChar digit.val).utf8Size = 1 := by decide
  exact every ⟨digit, fits⟩

theorem map_digitChar_lt {left right : List Nat} (fits : ∀ digit ∈ right, digit < 32)
    (before : left < right) : left.map digitChar < right.map digitChar := by
  induction before with
  | nil => exact .nil
  | rel before => exact .rel (digitChar_lt (fits _ List.mem_cons_self) before)
  | cons _ ih => exact .cons (ih fun digit member => fits digit (List.mem_cons_of_mem _ member))

/-! ## Texts -/

variable (ulid : Ulid)

@[simp] theorem toList_text : ulid.text.toList = (digits width ulid.bits.toNat).map digitChar := by
  simp [text]

theorem bits_lt : ulid.bits.toNat < 32 ^ width :=
  ulid.bits.isLt.trans (by decide)

theorem utf8ByteSize_text : ulid.text.utf8ByteSize = width := by
  have each (chars : List Nat) (fits : ∀ digit ∈ chars, digit < 32) :
      String.utf8Len (chars.map digitChar) = chars.length := by
    induction chars with
    | nil => rfl
    | cons digit rest ih =>
        rw [List.forall_mem_cons] at fits
        simp [ih fits.2, utf8Size_digitChar fits.1]
  rw [text, String.utf8ByteSize_ofList, each _ fun _ member => lt_of_mem_digits member,
    digits_length]

/-- The text of an identifier is read back. -/
theorem parse_text : parse ulid.text = .ok ulid := by
  have each (chars : List Nat) (fits : ∀ digit ∈ chars, digit < 32) :
      (chars.map digitChar).mapM digitOf? = some chars := by
    induction chars with
    | nil => rfl
    | cons digit rest ih =>
        rw [List.forall_mem_cons] at fits
        simp [List.mapM_cons, digitOf?_digitChar fits.1, ih fits.2]
  have value := valueOf_digits (bits_lt ulid)
  rw [valueOf] at value
  rw [parse, if_neg (by simp [utf8ByteSize_text]), toList_text,
    each _ fun _ member => lt_of_mem_digits member]
  simp [ofDigits, value]

theorem text_injective {left right : Ulid} (same : left.text = right.text) : left = right := by
  have parsed := parse_text left
  rw [same, parse_text] at parsed
  exact (Except.ok.inj parsed).symm

/-- Texts sort as the identifiers do. -/
theorem text_lt_iff {left right : Ulid} : left.text < right.text ↔ left.before right = true := by
  have forward {left right : Ulid} (before : left.bits.toNat < right.bits.toNat) :
      left.text < right.text := by
    rw [String.lt_iff_toList_lt, toList_text, toList_text]
    exact map_digitChar_lt (fun _ member => lt_of_mem_digits member)
      (digits_lt (bits_lt right) before)
  rw [before, decide_eq_true_eq]
  constructor
  · intro first
    rcases lt_trichotomy left.bits.toNat right.bits.toNat with before | same | after
    · exact before
    · rw [show left = right from congrArg Ulid.mk (BitVec.eq_of_toNat_eq same)] at first
      exact (lt_irrefl _ first).elim
    · exact (lt_asymm first (forward after)).elim
  · exact forward

end Ulid

namespace Ident

variable {kind : IdentKind} {left right : Ident kind}

@[simp] theorem toList_display (ident : Ident kind) :
    ident.display.toList = kind.word.toList ++ '_' :: ident.ulid.text.toList := by
  simp [display]

theorem display_injective (same : left.display = right.display) : left = right := by
  have chars := congrArg String.toList same
  simp only [toList_display, List.append_cancel_left_eq, List.cons.injEq, true_and] at chars
  have texts := Ulid.text_injective (String.toList_inj.mp chars)
  cases left
  cases right
  cases texts
  rfl

/-- Display forms of one kind sort as the identifiers do. -/
theorem display_lt_iff : left.display < right.display ↔ left.ulid.before right.ulid = true := by
  have behind (front first second : List Char) : front ++ first < front ++ second ↔
      first < second := by
    induction front with
    | nil => rfl
    | cons character rest ih => exact List.cons_lt_cons_self.trans ih
  rw [← Ulid.text_lt_iff, String.lt_iff_toList_lt, String.lt_iff_toList_lt, toList_display,
    toList_display, behind, List.cons_lt_cons_self]

/-- One ending behind all display forms of a kind leaves them distinct. -/
theorem display_append_inj (ending : String) :
    left.display ++ ending = right.display ++ ending ↔ left = right := by
  refine ⟨fun same => ?_, fun same => by rw [same]⟩
  have chars := congrArg String.toList same
  rw [String.toList_append, String.toList_append, List.append_cancel_right_eq] at chars
  exact display_injective (String.toList_inj.mp chars)

/-- One ending behind all display forms of a kind leaves them in order. -/
theorem display_append_lt_iff (ending : String) :
    left.display ++ ending < right.display ++ ending ↔ left.ulid.before right.ulid = true := by
  have forward {left right : Ident kind} (before : left.ulid.before right.ulid = true) :
      left.display ++ ending < right.display ++ ending := by
    have names := display_lt_iff.mpr before
    rw [String.lt_iff_toList_lt] at names
    rw [String.lt_iff_toList_lt, String.toList_append, String.toList_append]
    exact Ulid.append_lt_append (by simp) names _ _
  refine ⟨fun names => ?_, forward⟩
  rcases lt_trichotomy left.display right.display with before | same | after
  · exact display_lt_iff.mp before
  · rw [same] at names
    exact (lt_irrefl _ names).elim
  · exact (lt_asymm names (forward (display_lt_iff.mp after))).elim

end Ident

end Flowline
