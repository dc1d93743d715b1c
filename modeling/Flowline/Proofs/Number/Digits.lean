import Flowline.Number.Decimal
import Flowline.Proofs.Text.Runs
import Mathlib.Data.List.Induction
import Mathlib.Data.Nat.Digits.Defs

/-!
# Decimal digits

The digits of a number denote it, and they are told from what follows them if that
does not begin with another digit.
-/

namespace Flowline.Number

/-- The digits of a number denote it. -/
@[simp] theorem digitsValue_toDigits (value : Nat) : digitsValue (Nat.toDigits 10 value) = value :=
  Nat.ofDigitChars_toDigits (by decide) (by decide)

theorem isDigit_of_mem_toDigits {value : Nat} {character : Char}
    (member : character ∈ Nat.toDigits 10 value) : character.isDigit = true :=
  Nat.isDigit_of_mem_toDigits (by decide) (by decide) member

/-- Zeros in front of digits count for nothing. -/
theorem digitsValue_replicate_append (count : Nat) (digits : List Char) :
    digitsValue (List.replicate count '0' ++ digits) = digitsValue digits := by
  induction count with
  | zero => rfl
  | succ count ih => exact ih

/-- Digits denote less than one with a digit more. -/
theorem digitsValue_lt {digits : List Char}
    (areDigits : ∀ character ∈ digits, character.isDigit = true) :
    digitsValue digits < 10 ^ digits.length := by
  induction digits using List.reverseRecOn with
  | nil => decide
  | append_singleton digits digit ih =>
      obtain ⟨before, last⟩ := List.forall_mem_append.mp areDigits
      have bounds : 48 ≤ digit.toNat ∧ digit.toNat ≤ 57 := by
        simpa [Char.isDigit, UInt32.le_iff_toNat_le] using last digit List.mem_cons_self
      have value : digitsValue (digits ++ [digit]) =
          10 * digitsValue digits + (digit.toNat - '0'.toNat) := by
        simp [digitsValue]
      have zero : '0'.toNat = 48 := rfl
      have less := ih before
      rw [value, List.length_append, List.length_singleton, Nat.pow_succ]
      omega

variable {digits rest : List Char}

/-- What begins no digits ends them. -/
def Stops (rest : List Char) : Prop := ∀ character ∈ rest.head?, character.isDigit = false

theorem stops_nil : Stops [] := by simp [Stops]

theorem stops_cons {character : Char} (other : character.isDigit = false) :
    Stops (character :: rest) := by
  simpa [Stops] using other

theorem takeWhile_digits (areDigits : ∀ character ∈ digits, character.isDigit = true)
    (stops : Stops rest) : (digits ++ rest).takeWhile Char.isDigit = digits :=
  (Text.takeWhile_dropWhile_run areDigits stops).1

theorem spanDigits_digits (areDigits : ∀ character ∈ digits, character.isDigit = true)
    (stops : Stops rest) : spanDigits (digits ++ rest) = (digits, rest) := by
  obtain ⟨taken, left⟩ := Text.takeWhile_dropWhile_run areDigits stops
  rw [spanDigits, taken, left]

end Flowline.Number
