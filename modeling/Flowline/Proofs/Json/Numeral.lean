import Flowline.Json.Parser
import Flowline.Json.Printer
import Flowline.Proofs.Number.Digits

/-!
# Numbers in JSON text

A whole number of 64 bits is read back from its digits.  What may follow a number is
what does not go on with it.
-/

namespace Flowline.Json

open Number

/-- What does not go on with a number. -/
def Ends (rest : List Char) : Prop :=
  ∀ character ∈ rest.head?, character.isDigit = false ∧ character ≠ '.' ∧ character ≠ 'e' ∧
    character ≠ 'E'

theorem ends_nil : Ends [] := by simp [Ends]

theorem ends_cons {character : Char} {rest : List Char} (undigit : character.isDigit = false)
    (unpoint : character ≠ '.') (unpower : character ≠ 'e' ∧ character ≠ 'E') :
    Ends (character :: rest) := by
  simp [Ends, undigit, unpoint, unpower]

variable {rest : List Char}

theorem Ends.stops (ends : Ends rest) : Stops rest := fun character member =>
  (ends character member).1

theorem readFraction_of_ends (ends : Ends rest) : readFraction rest = some (none, rest) := by
  unfold readFraction
  split
  · exact ((ends '.' rfl).2.1 rfl).elim
  · rfl

theorem readPower_of_ends (ends : Ends rest) : readPower rest = some (none, rest) := by
  unfold readPower
  split
  next letter more =>
    obtain ⟨-, -, lower, upper⟩ := ends letter rfl
    rw [if_neg (by simp [lower, upper])]
  next => rfl

/-- Only the digits of zero begin with a zero. -/
theorem toDigits_eq_zero_or (value : Nat) : Nat.toDigits 10 value = ['0'] ∨
    ∃ digit more, Nat.toDigits 10 value = digit :: more ∧ digit ≠ '0' := by
  induction value using Nat.strongRecOn with
  | ind value ih =>
      by_cases small : value < 10
      · rw [Nat.toDigits_of_lt_base small]
        by_cases zero : value.digitChar = '0'
        · exact .inl (by rw [zero])
        · exact .inr ⟨_, [], rfl, zero⟩
      · rw [Nat.toDigits_eq_if (by decide), if_neg small]
        rcases ih (value / 10) (by omega) with zero | ⟨digit, more, digits, other⟩
        · have none := digitsValue_toDigits (value / 10)
          rw [zero] at none
          have : digitsValue ['0'] = 0 := rfl
          omega
        · exact .inr ⟨digit, more ++ [(value % 10).digitChar], by rw [digits]; rfl, other⟩

/-- Digits that may stand before the point. -/
structure Leads (digits : List Char) : Prop where
  areDigits : ∀ character ∈ digits, character.isDigit = true
  begins : digits = ['0'] ∨ ∃ digit more, digits = digit :: more ∧ digit ≠ '0'

theorem leads_zero : Leads ['0'] := ⟨by simp, .inl rfl⟩

theorem leads_toDigits (value : Nat) : Leads (Nat.toDigits 10 value) :=
  ⟨fun _ member => isDigit_of_mem_toDigits member, toDigits_eq_zero_or value⟩

theorem Leads.exists_cons {whole : List Char} (leads : Leads whole) :
    ∃ digit more, whole = digit :: more ∧ digit.isDigit = true := by
  obtain ⟨areDigits, rfl | ⟨digit, more, rfl, -⟩⟩ := leads
  · exact ⟨'0', [], rfl, rfl⟩
  · exact ⟨digit, more, rfl, areDigits digit List.mem_cons_self⟩

theorem readWhole_of_leads {whole : List Char} (leads : Leads whole) (stops : Stops rest) :
    readWhole (whole ++ rest) = some (whole, rest) := by
  obtain ⟨areDigits, begins⟩ := leads
  rw [readWhole, spanDigits_digits areDigits stops]
  rcases begins with rfl | ⟨digit, more, rfl, other⟩
  · rfl
  · split
    next same => cases same
    next same =>
      cases same
      exact (other rfl).elim
    next same =>
      cases same
      exact (other rfl).elim
    next same =>
      cases same
      rfl

theorem readWhole_toDigits (value : Nat) (ends : Ends rest) :
    readWhole (Nat.toDigits 10 value ++ rest) = some (Nat.toDigits 10 value, rest) :=
  readWhole_of_leads (leads_toDigits value) ends.stops

namespace Numeral

/-- A number that is read back from its text. -/
structure Legible (numeral : Numeral) : Prop where
  begins : ∃ first more, numeral.render.toList = first :: more ∧
    (first.isDigit = true ∨ first = '-')
  reads : ∀ rest, Ends rest →
    readNumber (numeral.render.toList ++ rest) = some (.number numeral, rest)

theorem toList_render_of_nonneg (value : Nat) :
    (render (.integer value)).toList = Nat.toDigits 10 value := by
  rw [render, Int.toString_eq_repr, Int.repr_eq_if, if_pos (Int.natCast_nonneg value),
    Nat.repr_eq_ofList_toDigits]
  simp

theorem toList_render_of_neg {value : Nat} (positive : 0 < value) :
    (render (.integer (-value))).toList = '-' :: Nat.toDigits 10 value := by
  rw [render, Int.toString_eq_repr, Int.repr_eq_if, if_neg (by omega),
    Nat.repr_eq_ofList_toDigits]
  simp

/-- A count of 64 bits is read back. -/
theorem legible_natCast {value : Nat} (fits : value < UInt64.size) :
    Legible (.integer value) where
  begins := by
    obtain ⟨digit, more, digits, isDigit⟩ := (leads_toDigits value).exists_cons
    exact ⟨digit, more, (toList_render_of_nonneg value).trans digits, .inl isDigit⟩
  reads := by
    intro rest ends
    have whole := readWhole_toDigits value ends
    rw [toList_render_of_nonneg, readNumber]
    · simp [whole, readFraction_of_ends ends, readPower_of_ends ends, numeralOf, fits,
        digitsValue_toDigits]
    · intro more same
      obtain ⟨digit, digits, begins, isDigit⟩ := (leads_toDigits value).exists_cons
      rw [begins] at same
      cases same
      cases isDigit

/-- A negative number of 64 bits is read back. -/
theorem legible_neg {value : Nat} (positive : 0 < value) (fits : value ≤ UInt64.size / 2) :
    Legible (.integer (-value)) where
  begins := ⟨'-', _, toList_render_of_neg positive, .inr rfl⟩
  reads := by
    intro rest ends
    have whole := readWhole_toDigits value ends
    rw [toList_render_of_neg positive, List.cons_append, readNumber]
    simp [whole, readFraction_of_ends ends, readPower_of_ends ends, numeralOf, fits,
      digitsValue_toDigits, positive.ne']

/-- A whole number of 64 bits, signed or unsigned, is read back. -/
theorem legible_integer {value : Int} (above : -(UInt64.size / 2 : Nat) ≤ value)
    (below : value < UInt64.size) : Legible (.integer value) := by
  by_cases negative : value < 0
  · obtain ⟨size, rfl⟩ : ∃ size : Nat, value = -size := ⟨value.natAbs, by omega⟩
    exact legible_neg (by omega) (by omega)
  · obtain ⟨size, rfl⟩ : ∃ size : Nat, value = size := ⟨value.toNat, by omega⟩
    exact legible_natCast (by omega)

end Numeral

end Flowline.Json
