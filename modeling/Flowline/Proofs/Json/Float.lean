import Flowline.Proofs.Json.Numeral
import Flowline.Proofs.Number.Shortest

/-!
# Floating numbers in JSON text

A floating number is written with the shortest digits that are read back as it, either with all
of its places or with a power of ten.  Whichever layout its size calls for, the number is read
back from its text.
-/

namespace Flowline.Number

theorem digitsValue_append_zeros (digits : List Char) (count : Nat) :
    digitsValue (digits ++ List.replicate count '0') = digitsValue digits * 10 ^ count := by
  induction count with
  | zero => simp
  | succ count ih =>
      have last : digitsValue (digits ++ List.replicate count '0' ++ ['0']) =
          10 * digitsValue (digits ++ List.replicate count '0') := by
        simp [digitsValue]
      rw [List.replicate_succ', ← List.append_assoc, last, ih]
      ring

end Flowline.Number

namespace Flowline.Json

open Number

/-! ## Parts of a number -/

variable {whole behind digits rest : List Char} {fraction : Option (List Char)}
  {power : Option Int}

/-- The sign in front of a number. -/
def signText (negative : Bool) : List Char := if negative then ['-'] else []

/-- What stands behind the whole part of a number: a fraction, a power of ten or both. -/
def Follows (behind : List Char) (fraction : Option (List Char)) (power : Option Int) : Prop :=
  ∀ rest, Ends rest → Stops (behind ++ rest) ∧
    ∃ after, readFraction (behind ++ rest) = some (fraction, after) ∧
      readPower after = some (power, rest)

/-- A power of ten as it is written. -/
def powerText (power : Int) : List Char :=
  'e' :: (if power < 0 then '-' else '+') :: Nat.toDigits 10 power.natAbs

theorem readPower_powerText (power : Int) (ends : Ends rest) :
    readPower (powerText power ++ rest) = some (some power, rest) := by
  have span : spanDigits (Nat.toDigits 10 power.natAbs ++ rest) =
      (Nat.toDigits 10 power.natAbs, rest) :=
    spanDigits_digits (fun _ member => isDigit_of_mem_toDigits member) ends.stops
  have value : digitsValue (Nat.toDigits 10 power.natAbs) = power.natAbs := digitsValue_toDigits _
  obtain ⟨digit, more, some_, -⟩ := (leads_toDigits power.natAbs).exists_cons
  rw [powerText]
  rw [some_] at span value ⊢
  by_cases negative : power < 0
  · rw [if_pos negative]
    simp only [List.cons_append, readPower, true_or, if_true, takeSign]
    rw [← List.cons_append, span]
    simp only [value]
    congr 3
    omega
  · rw [if_neg negative]
    simp only [List.cons_append, readPower, true_or, if_true, takeSign]
    rw [← List.cons_append, span]
    simp only [value, Bool.false_eq_true, if_false]
    congr 3
    omega

theorem stops_powerText (power : Int) (rest : List Char) : Stops (powerText power ++ rest) := by
  simp [Stops, powerText]

theorem follows_power (power : Int) : Follows (powerText power) none (some power) := by
  intro rest ends
  exact ⟨stops_powerText power rest, powerText power ++ rest, rfl, readPower_powerText power ends⟩

theorem readFraction_digits (some_ : digits ≠ [])
    (areDigits : ∀ character ∈ digits, character.isDigit = true) (stops : Stops rest) :
    readFraction ('.' :: digits ++ rest) = some (some digits, rest) := by
  rw [List.cons_append, readFraction, spanDigits_digits areDigits stops]
  cases digits with
  | nil => exact (some_ rfl).elim
  | cons digit more => rfl

theorem follows_point (some_ : digits ≠ [])
    (areDigits : ∀ character ∈ digits, character.isDigit = true) :
    Follows ('.' :: digits) (some digits) none := by
  intro rest ends
  exact ⟨by simp [Stops], rest, readFraction_digits some_ areDigits ends.stops,
    readPower_of_ends ends⟩

theorem follows_point_power (some_ : digits ≠ [])
    (areDigits : ∀ character ∈ digits, character.isDigit = true) (power : Int) :
    Follows ('.' :: digits ++ powerText power) (some digits) (some power) := by
  intro rest ends
  rw [List.append_assoc]
  exact ⟨by simp [Stops], powerText power ++ rest,
    readFraction_digits some_ areDigits (stops_powerText power rest),
    readPower_powerText power ends⟩

namespace Numeral

/-- A number whose text has a fraction or a power of ten is read back if its parts denote it. -/
theorem legible_of_parts {number : Binary64}
    (text : (numberLayout.render number).toList =
      signText number.negative ++ (whole ++ behind))
    (leads : Leads whole) (follows : Follows behind fraction power)
    (floating : fraction.isSome || power.isSome)
    (denotes : (Decimal.ofParts number.negative whole (fraction.getD [])
      (power.getD 0)).toBinary = number)
    (finite : number.isFinite = true) : Legible (.float number) where
  begins := by
    obtain ⟨digit, more, rfl, isDigit⟩ := leads.exists_cons
    rw [render, text, signText]
    cases number.negative with
    | true => exact ⟨'-', _, rfl, .inr rfl⟩
    | false => exact ⟨digit, _, rfl, .inl isDigit⟩
  reads := by
    intro rest ends
    obtain ⟨stops, after, readsFraction, readsPower⟩ := follows rest ends
    have readsWhole := readWhole_of_leads leads stops
    have numeral : numeralOf number.negative whole fraction power = some (.float number) := by
      unfold numeralOf
      rw [if_neg, if_neg]
      · simp only [denotes, finite, if_true]
      · cases fraction <;> cases power <;> simp_all
      · cases fraction <;> cases power <;> simp_all
    obtain ⟨digit, more, rfl, isDigit⟩ := leads.exists_cons
    rw [render, text, signText]
    cases negative : number.negative with
    | true =>
        rw [negative] at numeral
        simp only [if_true, List.append_assoc, List.cons_append, List.nil_append] at readsWhole ⊢
        simp [readNumber, readsWhole, readsFraction, readsPower, numeral]
    | false =>
        rw [negative] at numeral
        simp only [Bool.false_eq_true, if_false, List.append_assoc, List.cons_append,
          List.nil_append] at readsWhole ⊢
        rw [readNumber]
        · simp [readsWhole, readsFraction, readsPower, numeral]
        · rintro _ same
          cases same
          cases isDigit

/-! ## Layouts -/

/-- A binary number that its format can hold. -/
structure Given (number : Binary64) : Prop where
  held : Format.double.Holds number.units
  finite : number.units < Format.double.limit

/-- The text of a number that is not zero, by its shortest digits. -/
theorem toList_render_float {number : Binary64} (nonzero : number.units ≠ 0) {point : Nat}
    {exponent : Int} (found : Format.double.shortest number.units = (point, exponent)) :
    (numberLayout.render number).toList = signText number.negative ++
      if -5 ≤ exponent + (Nat.toDigits 10 point).length - 1 ∧
          exponent + (Nat.toDigits 10 point).length - 1 < 16 then
        Layout.plain (Nat.toDigits 10 point) exponent
      else Layout.raised (Nat.toDigits 10 point)
        (exponent + (Nat.toDigits 10 point).length - 1) := by
  unfold Layout.render
  simp only [found, numberLayout]
  rw [if_neg nonzero, String.toList_ofList]
  rfl

theorem legible_zero (negative : Bool) : Legible (.float ⟨negative, 0⟩) := by
  refine @legible_of_parts ['0'] ['.', '0'] (some ['0']) none ⟨negative, 0⟩ ?_ leads_zero
    (follows_point (by simp) (by simp)) rfl ?_ ?_
  · cases negative <;> rfl
  · cases negative <;> rfl
  · exact decide_eq_true (Format.limit_pos .double)

variable {number : Binary64} {point : Nat} {exponent : Int}

/-- The digits of a number that is not zero. -/
theorem leads_append_of_nonzero (nonzero : point ≠ 0) {more : List Char}
    (areDigits : ∀ character ∈ more, character.isDigit = true) :
    Leads (Nat.toDigits 10 point ++ more) where
  areDigits := List.forall_mem_append.mpr
    ⟨fun _ member => isDigit_of_mem_toDigits member, areDigits⟩
  begins := by
    rcases toDigits_eq_zero_or point with zero | ⟨digit, rest, digits, other⟩
    · have value := digitsValue_toDigits point
      rw [zero] at value
      exact (nonzero value.symm).elim
    · exact .inr ⟨digit, rest ++ more, by rw [digits, List.cons_append], other⟩

/-- Digits and zeros up to the point. -/
theorem legible_whole (given : Given number) (nonzero : number.units ≠ 0)
    (found : Format.double.shortest number.units = (point, exponent)) (some_ : point ≠ 0)
    (above : 0 ≤ exponent) (most : exponent ≤ 310)
    (text : (numberLayout.render number).toList = signText number.negative ++
      Layout.plain (Nat.toDigits 10 point) exponent) : Legible (.float number) := by
  obtain ⟨zeros, rfl⟩ := Int.eq_ofNat_of_zero_le above
  have isZero : ∀ character ∈ List.replicate zeros '0', character.isDigit = true := by
    intro character member
    rw [List.eq_of_mem_replicate member]
    rfl
  refine @legible_of_parts (Nat.toDigits 10 point ++ List.replicate zeros '0') ['.', '0']
    (some ['0']) none number ?_ (leads_append_of_nonzero some_ isZero)
    (follows_point (by simp) (by simp)) rfl ?_ ?_
  · rw [text, Layout.plain, if_pos above, Int.toNat_natCast]
  · have parts : Decimal.ofParts number.negative
        (Nat.toDigits 10 point ++ List.replicate zeros '0') ['0'] 0 =
        ⟨number.negative, point * 10 ^ (zeros + 1), (zeros : Int) - (zeros + 1 : Nat)⟩ := by
      have value := digitsValue_append_zeros (Nat.toDigits 10 point) (zeros + 1)
      rw [List.replicate_succ', ← List.append_assoc, digitsValue_toDigits] at value
      rw [Decimal.ofParts, value]
      congr 1
      simp only [List.length_singleton]
      omega
    rw [Option.getD_some, Option.getD_none, parts]
    exact Format.toBinary_shortest given.held nonzero given.finite found (zeros + 1) (by omega)
  · simpa [Binary.isFinite] using given.finite

/-- Without zeros added, the digits are read back with their own power of ten. -/
theorem toBinary_digits (given : Given number) (nonzero : number.units ≠ 0)
    (found : Format.double.shortest number.units = (point, exponent)) :
    Decimal.toBinary ⟨number.negative, point, exponent⟩ = number := by
  have reads := Format.toBinary_shortest given.held nonzero given.finite found 0 (Nat.zero_le _)
  rwa [Nat.pow_zero, Nat.mul_one, Int.natCast_zero, Int.sub_zero] at reads

/-- Digits on both sides of the point. -/
theorem legible_within (given : Given number) (nonzero : number.units ≠ 0) {places : Nat}
    (found : Format.double.shortest number.units = (point, -(places : Int))) (some_ : point ≠ 0)
    (fraction : 0 < places) (within : places < (Nat.toDigits 10 point).length)
    (text : (numberLayout.render number).toList = signText number.negative ++
      ((Nat.toDigits 10 point).take ((Nat.toDigits 10 point).length - places) ++
        '.' :: (Nat.toDigits 10 point).drop ((Nat.toDigits 10 point).length - places))) :
    Legible (.float number) := by
  have digits := @isDigit_of_mem_toDigits point
  have leads : Leads ((Nat.toDigits 10 point).take
      ((Nat.toDigits 10 point).length - places)) := by
    refine ⟨fun _ member => digits (List.mem_of_mem_take member), ?_⟩
    obtain ⟨before, begins⟩ := Nat.exists_eq_add_one_of_ne_zero
      (by omega : (Nat.toDigits 10 point).length - places ≠ 0)
    obtain ⟨-, zero | ⟨digit, more, same, other⟩⟩ :=
      List.append_nil (Nat.toDigits 10 point) ▸ leads_append_of_nonzero some_ (by simp)
    · rw [zero, List.length_singleton] at within
      omega
    · rw [begins, same]
      exact .inr ⟨digit, more.take before, rfl, other⟩
  refine legible_of_parts text leads (follows_point ?_ ?_) rfl ?_ (decide_eq_true given.finite)
  · simp only [ne_eq, List.drop_eq_nil_iff]
    omega
  · exact fun _ member => digits (List.mem_of_mem_drop member)
  · rw [Option.getD_some, Option.getD_none, Decimal.ofParts, List.take_append_drop,
      digitsValue_toDigits, List.length_drop]
    have size : (0 : Int) - ((Nat.toDigits 10 point).length -
        ((Nat.toDigits 10 point).length - places) : Nat) = -(places : Int) := by omega
    rw [size]
    exact toBinary_digits given nonzero found

/-- All digits behind the point, after some zeros. -/
theorem legible_behind (given : Given number) (nonzero : number.units ≠ 0) {places : Nat}
    (found : Format.double.shortest number.units = (point, -(places : Int)))
    (beyond : (Nat.toDigits 10 point).length ≤ places)
    (text : (numberLayout.render number).toList = signText number.negative ++
      ('0' :: '.' :: (List.replicate (places - (Nat.toDigits 10 point).length) '0' ++
        Nat.toDigits 10 point))) :
    Legible (.float number) := by
  refine @legible_of_parts ['0'] ('.' :: (List.replicate
    (places - (Nat.toDigits 10 point).length) '0' ++ Nat.toDigits 10 point)) _ none number text
    leads_zero (follows_point ?_ ?_) rfl ?_ (decide_eq_true given.finite)
  · simp [Nat.toDigits_ne_nil]
  · refine List.forall_mem_append.mpr ⟨fun character member => ?_,
      fun _ member => isDigit_of_mem_toDigits member⟩
    rw [List.eq_of_mem_replicate member]
    rfl
  · have value : digitsValue (['0'] ++ (List.replicate
        (places - (Nat.toDigits 10 point).length) '0' ++ Nat.toDigits 10 point)) = point := by
      rw [← List.append_assoc, ← List.replicate_one, List.replicate_append_replicate,
        digitsValue_replicate_append, digitsValue_toDigits]
    rw [Option.getD_some, Option.getD_none, Decimal.ofParts, value, List.length_append,
      List.length_replicate]
    have size : (0 : Int) - (places - (Nat.toDigits 10 point).length +
        (Nat.toDigits 10 point).length : Nat) = -(places : Int) := by omega
    rw [size]
    exact toBinary_digits given nonzero found

/-- Digits on both sides of the point, or behind it. -/
theorem legible_split (given : Given number) (nonzero : number.units ≠ 0)
    (found : Format.double.shortest number.units = (point, exponent)) (some_ : point ≠ 0)
    (below : exponent < 0)
    (text : (numberLayout.render number).toList = signText number.negative ++
      Layout.plain (Nat.toDigits 10 point) exponent) : Legible (.float number) := by
  obtain ⟨places, rfl⟩ : ∃ places : Nat, exponent = -places := ⟨(-exponent).toNat, by omega⟩
  have count : (-(-(places : Int))).toNat = places := by omega
  rw [Layout.plain, if_neg (by omega : ¬ 0 ≤ -(places : Int)), count] at text
  by_cases within : places < (Nat.toDigits 10 point).length
  · rw [if_pos within] at text
    exact legible_within given nonzero found some_ (by omega) within text
  · rw [if_neg within] at text
    exact legible_behind given nonzero found (Nat.not_lt.mp within) text

/-- One digit before the point and a power of ten. -/
theorem legible_raised (given : Given number) (nonzero : number.units ≠ 0)
    (found : Format.double.shortest number.units = (point, exponent)) (some_ : point ≠ 0)
    (text : (numberLayout.render number).toList = signText number.negative ++
      Layout.raised (Nat.toDigits 10 point)
        (exponent + (Nat.toDigits 10 point).length - 1)) : Legible (.float number) := by
  have finite : number.isFinite = true := decide_eq_true given.finite
  have digits : ∀ character ∈ Nat.toDigits 10 point, character.isDigit = true :=
    fun _ member => isDigit_of_mem_toDigits member
  have value := digitsValue_toDigits point
  have reads := toBinary_digits given nonzero found
  obtain ⟨-, begins⟩ := List.append_nil (Nat.toDigits 10 point) ▸
    leads_append_of_nonzero some_ (by simp)
  rcases chars : Nat.toDigits 10 point with _ | ⟨first, _ | ⟨second, more⟩⟩
  · exact (Nat.toDigits_ne_nil chars).elim
  · rw [chars] at digits value begins text
    refine @legible_of_parts [first] (powerText _) none _ number text ⟨digits, begins⟩
      (follows_power _) rfl ?_ finite
    have size : exponent + ([first].length : Nat) - 1 - (([] : List Char).length : Nat) =
        exponent := by
      simp only [List.length_singleton, List.length_nil]
      omega
    rw [Option.getD_none, Option.getD_some, Decimal.ofParts, List.append_nil, value, size]
    exact reads
  · rw [chars] at digits value begins text
    have leads : Leads [first] := by
      refine ⟨fun _ member => digits _ (List.mem_cons.mpr (.inl (List.mem_singleton.mp member))),
        ?_⟩
      rcases begins with zero | ⟨digit, rest, same, other⟩
      · cases zero
      · cases same
        exact .inr ⟨first, [], rfl, other⟩
    refine @legible_of_parts [first] ('.' :: (second :: more) ++ powerText _) _ _ number text leads
      (follows_point_power (List.cons_ne_nil second more) ?_ _) rfl ?_ finite
    · exact fun _ member => digits _ (List.mem_cons_of_mem first member)
    · have size : exponent + ((first :: second :: more).length : Nat) - 1 -
          ((second :: more).length : Nat) = exponent := by
        simp only [List.length_cons]
        omega
      rw [Option.getD_some, Option.getD_some, Decimal.ofParts, List.singleton_append, value, size]
      exact reads

/-- A floating number is read back from its text. -/
theorem legible_float (given : Given number) : Legible (.float number) := by
  by_cases zero : number.units = 0
  · obtain ⟨negative, units⟩ := number
    obtain rfl : units = 0 := zero
    exact legible_zero negative
  · obtain ⟨point, exponent, found, inside, -, most⟩ :=
      Format.double_shortest given.held zero given.finite
    have some_ := Format.ne_zero_of_contains given.held zero (by positivity) inside
    have text := toList_render_float zero found
    split at text
    · rcases Int.lt_or_le exponent 0 with below | above
      · exact legible_split given zero found (left_ne_zero_of_mul some_) below text
      · exact legible_whole given zero found (left_ne_zero_of_mul some_) above most text
    · exact legible_raised given zero found (left_ne_zero_of_mul some_) text

end Numeral

end Flowline.Json
