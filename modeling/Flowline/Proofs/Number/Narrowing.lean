import Flowline.Proofs.Number.Shortest
import Mathlib.Algebra.Order.Ring.Abs
import Mathlib.Tactic.LinearCombination
import Mathlib.Tactic.Linarith
import Mathlib.Tactic.Zify

/-!
# Numbers of 32 bits by way of 64 bits

A number of 32 bits is written with the shortest digits of its own format, and these are read in
the format of 64 bits before they are rounded to 32 bits again.  A whole number survives both
roundings.  Below a certain size its digits denote a number of 64 bits exactly.  Above it they
do not, but then they are never so close to an end of the rounding interval that the first
rounding could reach it: an end is a multiple of half a gap, and no multiple of a power of ten
that coarse comes close to one.
-/

namespace Flowline.Number

/-! ## Multiples close to multiples -/

/-- A fraction of whole numbers. -/
structure Fraction where
  numerator : Nat
  denominator : Nat
  deriving DecidableEq, Repr

namespace Fraction

/-- The last two fractions of those that come ever closer to a quotient, up to the first one
whose denominator exceeds some bound. -/
def approach (most : Nat) :
    Nat → (before last : Fraction) → (dividend divisor : Nat) → Fraction × Fraction
  | 0, before, last, _, _ => (before, last)
  | steps + 1, before, last, dividend, divisor =>
      if most < last.denominator ∨ divisor = 0 then (before, last)
      else
        let quotient := dividend / divisor
        approach most steps last
          ⟨before.numerator + quotient * last.numerator,
            before.denominator + quotient * last.denominator⟩
          divisor (dividend % divisor)

variable {dividend divisor : Nat} {left right fraction : Fraction}

/-- How far a quotient is above a fraction, times both denominators. -/
def gap (dividend divisor : Nat) (fraction : Fraction) : Int :=
  fraction.denominator * dividend - fraction.numerator * divisor

/-- Two neighbouring fractions on the two sides of a quotient. -/
structure Brackets (dividend divisor : Nat) (left right : Fraction) : Prop where
  neighbours : right.numerator * left.denominator = left.numerator * right.denominator + 1 ∨
    left.numerator * right.denominator = right.numerator * left.denominator + 1
  sides : gap dividend divisor left * gap dividend divisor right ≤ 0

instance : Decidable (Brackets dividend divisor left right) :=
  decidable_of_iff (_ ∧ _)
    ⟨fun holds => ⟨holds.1, holds.2⟩, fun brackets => ⟨brackets.neighbours, brackets.sides⟩⟩

/-- Every fraction is a whole combination of two neighbouring ones. -/
theorem Brackets.combines (brackets : Brackets dividend divisor left right)
    (fraction : Fraction) : ∃ first second : Int,
      (fraction.denominator : Int) = first * left.denominator + second * right.denominator ∧
        (fraction.numerator : Int) = first * left.numerator + second * right.numerator := by
  have neighbours := brackets.neighbours
  zify at neighbours
  rcases neighbours with up | down
  · refine ⟨right.numerator * fraction.denominator - right.denominator * fraction.numerator,
      left.denominator * fraction.numerator - left.numerator * fraction.denominator, ?_, ?_⟩
    · linear_combination -(fraction.denominator : Int) * up
    · linear_combination -(fraction.numerator : Int) * up
  · refine ⟨right.denominator * fraction.numerator - right.numerator * fraction.denominator,
      left.numerator * fraction.denominator - left.denominator * fraction.numerator, ?_, ?_⟩
    · linear_combination -(fraction.denominator : Int) * down
    · linear_combination -(fraction.numerator : Int) * down

/-- A fraction whose denominator is less than that of the second is no closer to the quotient
than the first. -/
theorem Brackets.gap_le (brackets : Brackets dividend divisor left right)
    (positive : 0 < fraction.denominator) (less : fraction.denominator < right.denominator) :
    |gap dividend divisor left| ≤ |gap dividend divisor fraction| := by
  obtain ⟨first, second, denominator, numerator⟩ := brackets.combines fraction
  have whole : gap dividend divisor fraction =
      first * gap dividend divisor left + second * gap dividend divisor right := by
    simp only [gap, denominator, numerator]
    ring
  have opposite : first * second ≤ 0 ∧ first ≠ 0 := by
    have leftSign : (0 : Int) ≤ left.denominator := Int.natCast_nonneg _
    rcases lt_trichotomy second 0 with negative | rfl | above
    · have some_ : 0 < first := by
        by_contra none
        nlinarith
      exact ⟨(mul_neg_of_pos_of_neg some_ negative).le, some_.ne'⟩
    · refine ⟨by simp, ?_⟩
      rintro rfl
      omega
    · have some_ : first < 0 := by
        by_contra none
        nlinarith
      exact ⟨(mul_neg_of_neg_of_pos some_ above).le, some_.ne⟩
  -- So the two parts have one sign, and the first is not left out.
  have alike : 0 ≤ first * gap dividend divisor left * (second * gap dividend divisor right) := by
    calc (0 : Int) ≤ first * second * (gap dividend divisor left * gap dividend divisor right) :=
          mul_nonneg_of_nonpos_of_nonpos opposite.1 brackets.sides
      _ = _ := by ring
  calc |gap dividend divisor left|
      ≤ |first| * |gap dividend divisor left| :=
        le_mul_of_one_le_left (abs_nonneg _) (Int.one_le_abs opposite.2)
    _ = |first * gap dividend divisor left| := (abs_mul _ _).symm
    _ ≤ |first * gap dividend divisor left| + |second * gap dividend divisor right| :=
        le_add_of_nonneg_right (abs_nonneg _)
    _ = |gap dividend divisor fraction| := by
        rw [whole, (abs_add_eq_add_abs_iff _ _).mpr (mul_nonneg_iff.mp alike)]

end Fraction

namespace Format

/-- The fractions that come closest to a power of ten over half of the gap between the whole
numbers of 32 bits of some size. -/
def closest (size exponent : Nat) : Fraction × Fraction :=
  Fraction.approach (2 ^ (size + 1) / 10 ^ exponent) 100 ⟨0, 1⟩ ⟨1, 0⟩ (10 ^ exponent)
    (2 ^ (size - 24))

/-- They bracket the quotient, and the first of them is not close. -/
theorem closest_apart {size exponent : Nat} (least : 64 ≤ size) (most : size < 128)
    (few : exponent < 39) (coarse : 2 ^ (size - 23) < 10 ^ exponent) :
    Fraction.Brackets (10 ^ exponent) (2 ^ (size - 24)) (closest size exponent).1
        (closest size exponent).2 ∧
      2 ^ (size + 1) / 10 ^ exponent < (closest size exponent).2.denominator ∧
      2 ^ (size - 52) ≤
        |Fraction.gap (10 ^ exponent) (2 ^ (size - 24)) (closest size exponent).1| := by
  have every : ∀ size < 128, 64 ≤ size → ∀ exponent < 39, 2 ^ (size - 23) < 10 ^ exponent →
      Fraction.Brackets (10 ^ exponent) (2 ^ (size - 24)) (closest size exponent).1
          (closest size exponent).2 ∧
        2 ^ (size + 1) / 10 ^ exponent < (closest size exponent).2.denominator ∧
        2 ^ (size - 52) ≤
          |Fraction.gap (10 ^ exponent) (2 ^ (size - 24)) (closest size exponent).1| := by
    decide +kernel
  exact every size most least exponent few coarse

/-- A multiple of a power of ten that is coarser than the gap between the whole numbers of its
size lies apart from every multiple of half of that gap. -/
theorem apart_of_coarse {size exponent point : Nat} (least : 64 ≤ size) (most : size < 128)
    (coarse : 2 ^ (size - 23) < 10 ^ exponent) (positive : 0 < point)
    (below : point * 10 ^ exponent < 2 ^ (size + 1)) (halves : Nat) :
    halves * 2 ^ (size - 24) + 2 ^ (size - 52) ≤ point * 10 ^ exponent ∨
      point * 10 ^ exponent + 2 ^ (size - 52) ≤ halves * 2 ^ (size - 24) := by
  have few : exponent < 39 := by
    by_contra many
    have powers := Nat.pow_le_pow_right (show 0 < 10 by decide) (Nat.le_of_not_lt many)
    have bound := Nat.pow_le_pow_right (show 0 < 2 by decide) (by omega : size + 1 ≤ 128)
    have whole := Nat.le_mul_of_pos_left (10 ^ exponent) positive
    have order : 2 ^ 128 < 10 ^ 39 := by decide
    omega
  obtain ⟨brackets, past, apart⟩ := closest_apart least most few coarse
  have less : point < (closest size exponent).2.denominator :=
    ((Nat.le_div_iff_mul_le (by positivity)).mpr below.le).trans_lt past
  have far : (2 : Int) ^ (size - 52) ≤
      |(point * 10 ^ exponent - halves * 2 ^ (size - 24) : Int)| := by
    have far := apart.trans
      (@Fraction.Brackets.gap_le _ _ _ _ ⟨halves, point⟩ brackets positive less)
    simpa only [Fraction.gap, Nat.cast_pow, Nat.cast_ofNat] using far
  rcases le_abs.mp far with above | under
  · left
    zify
    linarith
  · right
    zify
    linarith

/-- A power of ten that is not coarser than a gap is finer by more than some. -/
theorem fine_of_le {size exponent : Nat} (least : 64 ≤ size) (most : size < 128)
    (fine : 10 ^ exponent ≤ 2 ^ (size - 23)) :
    10 ^ exponent + 2 ^ (size - 51) ≤ 2 ^ (size - 23) := by
  have few : exponent < 39 := by
    by_contra many
    have powers := Nat.pow_le_pow_right (show 0 < 10 by decide) (Nat.le_of_not_lt many)
    have bound := Nat.pow_le_pow_right (show 0 < 2 by decide) (by omega : size - 23 ≤ 128)
    have order : 2 ^ 128 < 10 ^ 39 := by decide
    omega
  have every : ∀ size < 128, 64 ≤ size → ∀ exponent < 39, 10 ^ exponent ≤ 2 ^ (size - 23) →
      10 ^ exponent + 2 ^ (size - 51) ≤ 2 ^ (size - 23) := by decide +kernel
  exact every size most least exponent few fine

/-! ## Whole numbers of 32 bits -/

variable {units : Nat}

theorem scale_single : single.scale = 149 := rfl

theorem scale_double : double.scale = 1074 := rfl

/-- A whole number has no fewer bits than one. -/
theorem exists_size (nonzero : units ≠ 0) (whole : 2 ^ 149 ∣ units) :
    ∃ size, units.log2 = size + 149 :=
  Nat.exists_eq_add_of_le' ((Nat.le_log2 nonzero).mpr
    (Nat.le_of_dvd (Nat.pos_of_ne_zero nonzero) whole))

/-- If a power of ten on the way has a multiple in the interval of a number, its shortest digits
are whole. -/
theorem single_digits {size enough : Nat} (held : single.Holds units) (nonzero : units ≠ 0)
    (sizeEq : units.log2 = size + 149)
    (hits : ((single.interval units).gridPoint (enough : Int)).isSome = true)
    (begins : (enough : Int) ≤ (size : Int) * 30103 / 100000 + 2)
    (lasts : (size : Int) * 30103 / 100000 + 2 - enough < 25) :
    ∃ point exponent : Nat, single.shortest units = (point, (exponent : Int)) ∧
      (single.interval units).gridPoint exponent = some point ∧
      (single.interval units).Contains (point * 10 ^ exponent) 1 ∧
      point * 10 ^ exponent < 2 ^ (size + 1) ∧ enough ≤ exponent := by
  have start : (units.log2 : Int) - single.scale = size := by
    rw [sizeEq, scale_single]
    omega
  obtain ⟨point, exponent, found, at_, coarser, -⟩ :=
    RoundingInterval.coarsest_finds begins lasts hits
  obtain ⟨exponent, rfl⟩ := Int.eq_ofNat_of_zero_le ((Int.natCast_nonneg _).trans coarser)
  have inside := RoundingInterval.contains_of_gridPoint at_
  have above : (exponent : Int).toNat = exponent := Int.toNat_natCast exponent
  have below : (-(exponent : Int)).toNat = 0 := by omega
  rw [above, below, Nat.pow_zero] at inside
  refine ⟨point, exponent, ?_, at_, inside, ?_, Int.ofNat_le.mp coarser⟩
  · rw [shortest, start]
    exact found
  · have next := add_le_of_dvd held
      (pow_dvd_pow 2 (by rw [coarseness]; omega : single.coarseness units ≤ units.log2 + 1))
      Nat.lt_log2_self
    obtain ⟨-, -, -, high⟩ := interval_bounds held nonzero
    have gap := Nat.two_pow_pos (single.coarseness units)
    have most := inside.below
    rw [place_eq, high, Nat.mul_one, scale_single] at most
    have order : size + 149 + 1 = size + 1 + 149 := by omega
    rw [sizeEq, order, pow_add] at next
    have scaled : point * 10 ^ exponent * 2 ^ 149 < 2 ^ (size + 1) * 2 ^ 149 := by omega
    exact Nat.lt_of_mul_lt_mul_right scaled

/-! ### Both roundings -/

/-- What is rounded to a multiple of a step stays on its side of another such multiple. -/
theorem le_of_near_above {step bound place rounded : Nat} (dividesBound : step ∣ bound)
    (dividesRounded : step ∣ rounded) (near : 2 * place ≤ 2 * rounded + step)
    (above : bound ≤ place) : bound ≤ rounded := by
  by_contra under
  have := add_le_of_dvd dividesRounded dividesBound (Nat.lt_of_not_le under)
  omega

theorem le_of_near_below {step bound place rounded : Nat} (dividesBound : step ∣ bound)
    (dividesRounded : step ∣ rounded) (near : 2 * rounded ≤ 2 * place + step)
    (below : place ≤ bound) : rounded ≤ bound := by
  by_contra beyond
  have := add_le_of_dvd dividesBound dividesRounded (Nat.lt_of_not_le beyond)
  omega

/-- A whole number rounded to 64 bits. -/
theorem double_nearest_near {whole size : Nat} (most : size < 128)
    (below : whole < 2 ^ (size + 1)) :
    2 ^ double.coarseness (whole * 2 ^ 1074) ∣ double.nearest whole 1 ∧
      2 * double.nearest whole 1 ≤
        2 * (whole * 2 ^ 1074) + 2 ^ double.coarseness (whole * 2 ^ 1074) ∧
      2 * (whole * 2 ^ 1074) ≤
        2 * double.nearest whole 1 + 2 ^ double.coarseness (whole * 2 ^ 1074) ∧
      double.nearest whole 1 < double.limit ∧
      double.coarseness (whole * 2 ^ 1074) ≤ size + 1022 := by
  have less : whole * 2 ^ 1074 < 2 ^ (size + 1 + 1074) := by
    rw [pow_add]
    exact Nat.mul_lt_mul_of_pos_right below (by positivity)
  have few : double.coarseness (whole * 2 ^ 1074) ≤ size + 1022 := coarseness_le (by decide) less
  obtain ⟨near, far⟩ := @roundQuotient_near (whole * 2 ^ 1074)
    (2 ^ double.coarseness (whole * 2 ^ 1074)) (by positivity)
  have step := Nat.pow_le_pow_right (show 0 < 2 by decide)
    (by omega : double.coarseness (whole * 2 ^ 1074) ≤ 2000)
  have scaled := less.trans_le (Nat.pow_le_pow_right (show 0 < 2 by decide)
    (by omega : size + 1 + 1074 ≤ 2000))
  have bound : 4 * 2 ^ 2000 < double.limit := by decide +kernel
  have same : double.nearest whole 1 = 2 ^ double.coarseness (whole * 2 ^ 1074) *
      roundQuotient (whole * 2 ^ 1074) (2 ^ double.coarseness (whole * 2 ^ 1074)) := by
    rw [nearest_unfold, scale_double, Nat.div_one, Nat.one_mul, Nat.mul_comm,
      min_eq_left (by omega)]
  rw [same]
  exact ⟨dvd_mul_right _ _, near, far, by omega, few⟩

/-- The ends of an interval are multiples of the gap. -/
theorem dvd_interval {format : Format} (held : format.Holds units) (nonzero : units ≠ 0) :
    2 ^ format.coarseness units ∣ (format.interval units).low ∧
      2 ^ format.coarseness units ∣ (format.interval units).high := by
  have centre : 2 ^ format.coarseness units ∣ 4 * units := Dvd.dvd.mul_left held 4
  constructor
  · simp only [interval, Nat.shiftLeft_eq, Nat.one_mul]
    split
    · exact Nat.dvd_sub centre dvd_rfl
    · exact Nat.dvd_sub centre (dvd_mul_left _ _)
  · obtain ⟨-, -, -, high⟩ := interval_bounds held nonzero
    rw [high]
    exact dvd_add centre (dvd_mul_left _ _)

theorem coarseness_single {size : Nat} (sizeEq : units.log2 = size + 149) (least : 23 ≤ size) :
    single.coarseness units = size + 126 := by
  have precision : single.precision = 24 := rfl
  rw [coarseness, sizeEq, precision]
  omega

/-- Rounding to 64 bits first does not lead out of the interval of a number of 32 bits, unless
the interval is open and one of its ends is near. -/
theorem contains_nearest {size whole : Nat} (held : single.Holds units) (nonzero : units ≠ 0)
    (sizeEq : units.log2 = size + 149) (least : 64 ≤ size) (most : size < 128)
    (below : whole < 2 ^ (size + 1)) (inside : (single.interval units).Contains whole 1)
    (apart : (single.interval units).closed = false →
      (single.interval units).low + 2 ^ (size + 99) ≤ whole * 2 ^ 151 ∧
        whole * 2 ^ 151 + 2 ^ (size + 99) ≤ (single.interval units).high) :
    (single.interval units).Contains (double.nearest whole 1) (2 ^ 1074) := by
  obtain ⟨divides, near, far, -, few⟩ := double_nearest_near most below
  obtain ⟨low, high⟩ := dvd_interval held nonzero
  rw [coarseness_single sizeEq (by omega)] at low high
  have denominator : (single.interval units).denominator = 2 ^ 151 := rfl
  have dividesEnd {bound : Nat} (gap : 2 ^ (size + 126) ∣ bound) :
      2 ^ double.coarseness (whole * 2 ^ 1074) * 2 ^ 151 ∣ bound * 2 ^ 1074 := by
    refine dvd_trans ?_ (mul_dvd_mul_right gap (2 ^ 1074))
    rw [← pow_add, ← pow_add]
    exact pow_dvd_pow 2 (by omega)
  have dividesRounded := mul_dvd_mul_right divides (2 ^ 151)
  have step : 2 ^ double.coarseness (whole * 2 ^ 1074) * 2 ^ 151 ≤ 2 ^ (size + 99) * 2 ^ 1074 := by
    rw [← pow_add, ← pow_add]
    exact Nat.pow_le_pow_right (by decide) (by omega)
  have place : whole * 2 ^ 1074 * 2 ^ 151 = whole * 2 ^ 151 * 2 ^ 1074 :=
    Nat.mul_right_comm _ _ _
  obtain ⟨above, under, -⟩ := inside
  rw [denominator, Nat.mul_one] at above under
  have above := Nat.mul_le_mul_right (2 ^ 1074) above
  have under := Nat.mul_le_mul_right (2 ^ 1074) under
  have near := Nat.mul_le_mul_right (2 ^ 151) near
  have far := Nat.mul_le_mul_right (2 ^ 151) far
  rw [Nat.add_mul, Nat.mul_assoc 2, Nat.mul_assoc 2, place] at near far
  constructor
  · rw [denominator]
    exact le_of_near_above (dividesEnd low) dividesRounded far above
  · rw [denominator]
    exact le_of_near_below (dividesEnd high) dividesRounded near under
  · intro open_
    obtain ⟨beyond, before⟩ := apart open_
    have beyond := Nat.mul_le_mul_right (2 ^ 1074) beyond
    have before := Nat.mul_le_mul_right (2 ^ 1074) before
    have positive : 0 < 2 ^ (size + 99) * 2 ^ 1074 := by positivity
    rw [Nat.add_mul] at beyond before
    rw [denominator]
    omega

/-- Only an interval that reaches equally far on both sides is open. -/
theorem low_of_open {format : Format} (kept : 1 < format.precision)
    (open_ : (format.interval units).closed = false) :
    (format.interval units).low = 4 * units - 2 * 2 ^ format.coarseness units := by
  simp only [interval, Nat.shiftLeft_eq, Nat.one_mul] at open_ ⊢
  rw [if_neg]
  rintro ⟨coarse, power⟩
  have parts : units >>> format.coarseness units = 2 ^ (format.precision - 1) := by
    have bits : units.log2 = format.coarseness units + (format.precision - 1) := by
      rw [coarseness] at coarse ⊢
      omega
    rw [bits, pow_add] at power
    rw [Nat.shiftRight_eq_div_pow]
    exact Nat.div_eq_of_eq_mul_right (Nat.two_pow_pos _) power
  rw [parts, Nat.two_pow_mod_two_eq_zero.mpr (by omega)] at open_
  cases open_

/-- An open interval ends half a gap beside the number. -/
theorem ends_of_open {size : Nat} (held : single.Holds units) (nonzero : units ≠ 0)
    (sizeEq : units.log2 = size + 149) (least : 23 ≤ size)
    (open_ : (single.interval units).closed = false) :
    (single.interval units).low = 4 * units - 2 * 2 ^ (size + 126) ∧
      (single.interval units).high = 4 * units + 2 * 2 ^ (size + 126) := by
  have coarse := coarseness_single sizeEq least
  obtain ⟨-, -, -, high⟩ := interval_bounds held nonzero
  have low := low_of_open (by decide) open_
  rw [coarse] at low high
  exact ⟨low, high⟩

/-- Few multiples of a large power of ten are in an open interval, so they lie apart from its
ends, which are multiples of half a gap. -/
theorem digits_apart_of_coarse {size point exponent : Nat} (held : single.Holds units)
    (nonzero : units ≠ 0) (sizeEq : units.log2 = size + 149) (least : 64 ≤ size)
    (most : size < 128) (coarser : 2 ^ (size - 23) < 10 ^ exponent)
    (inside : (single.interval units).Contains (point * 10 ^ exponent) 1)
    (below : point * 10 ^ exponent < 2 ^ (size + 1))
    (open_ : (single.interval units).closed = false) :
    (single.interval units).low + 2 ^ (size + 99) ≤ point * 10 ^ exponent * 2 ^ 151 ∧
      point * 10 ^ exponent * 2 ^ 151 + 2 ^ (size + 99) ≤ (single.interval units).high := by
  obtain ⟨low, high⟩ := ends_of_open held nonzero sizeEq (by omega) open_
  have denominator : (single.interval units).denominator = 2 ^ 151 := rfl
  have nonzeroPoint := ne_zero_of_contains held nonzero Nat.one_pos inside
  obtain ⟨beyond, before⟩ := inside.inner open_
  obtain ⟨count, parts⟩ := id held
  obtain ⟨count, rfl⟩ := Nat.exists_eq_add_one_of_ne_zero
    (right_ne_zero_of_mul (parts ▸ nonzero))
  rw [coarseness_single sizeEq (by omega)] at parts
  have half : 2 * 2 ^ (size + 126) = 2 ^ (size - 24) * 2 ^ 151 := by
    rw [← pow_succ', ← pow_add, (by omega : size - 24 + 151 = size + 126 + 1)]
  have lowEq : (single.interval units).low = (2 * count + 1) * 2 ^ (size - 24) * 2 ^ 151 := by
    rw [low, parts, Nat.mul_assoc, ← half]
    apply Nat.sub_eq_of_eq_add
    ring
  have highEq : (single.interval units).high = (2 * count + 3) * 2 ^ (size - 24) * 2 ^ 151 := by
    rw [high, parts, Nat.mul_assoc, ← half]
    ring
  have little : 2 ^ (size + 99) = 2 ^ (size - 52) * 2 ^ 151 := by
    rw [← pow_add, (by omega : size - 52 + 151 = size + 99)]
  rw [denominator, Nat.mul_one] at beyond before
  rw [lowEq, Nat.mul_lt_mul_right (by positivity)] at beyond
  rw [highEq, Nat.mul_lt_mul_right (by positivity)] at before
  have some_ := Nat.pos_of_ne_zero (left_ne_zero_of_mul nonzeroPoint)
  have apart := apart_of_coarse least most coarser some_ below
  rw [lowEq, highEq, little, ← Nat.add_mul, ← Nat.add_mul]
  constructor
  · exact Nat.mul_le_mul_right _ ((apart _).resolve_right (by omega))
  · exact Nat.mul_le_mul_right _ ((apart _).resolve_left (by omega))

/-- Of a small power of ten the multiple that is found is the nearest to the number, which is
half a gap away from the ends of an open interval. -/
theorem digits_apart_of_fine {size point exponent : Nat} (held : single.Holds units)
    (nonzero : units ≠ 0) (sizeEq : units.log2 = size + 149) (least : 64 ≤ size)
    (most : size < 128) (finer : 10 ^ exponent ≤ 2 ^ (size - 23))
    (at_ : (single.interval units).gridPoint exponent = some point)
    (open_ : (single.interval units).closed = false) :
    (single.interval units).low + 2 ^ (size + 99) ≤ point * 10 ^ exponent * 2 ^ 151 ∧
      point * 10 ^ exponent * 2 ^ 151 + 2 ^ (size + 99) ≤ (single.interval units).high := by
  obtain ⟨low, high⟩ := ends_of_open held nonzero sizeEq (by omega) open_
  obtain ⟨reach, -, -, -⟩ := interval_bounds held nonzero
  have denominator : (single.interval units).denominator = 2 ^ 151 := rfl
  have centre : (single.interval units).centre = 4 * units := rfl
  have gap : 2 ^ (size + 126) ≤ units := by
    have divides := Nat.le_of_dvd (Nat.pos_of_ne_zero nonzero) held
    rwa [coarseness_single sizeEq (by omega)] at divides
  have above : (exponent : Int).toNat = exponent := Int.toNat_natCast exponent
  have none : (-(exponent : Int)).toNat = 0 := by omega
  have spread := Nat.mul_le_mul_left (2 ^ 151) (fine_of_le least most finer)
  have whole : 2 ^ 151 * 2 ^ (size - 23) = 4 * 2 ^ (size + 126) := by
    rw [show 4 = 2 ^ 2 from rfl, ← pow_add, ← pow_add,
      (by omega : 151 + (size - 23) = 2 + (size + 126))]
  have little : 2 ^ 151 * 2 ^ (size - 51) = 2 * 2 ^ (size + 99) := by
    rw [← pow_add, ← pow_succ', (by omega : 151 + (size - 51) = size + 99 + 1)]
  rw [Nat.mul_add, whole, little] at spread
  have positive : 0 < 2 ^ (size + 99) := by positivity
  have found := @RoundingInterval.gridPoint_of_reach (single.interval units) exponent
    (2 * 2 ^ (size + 126)) (by omega) (by omega)
    (by rw [denominator, above, none, Nat.pow_zero]; omega) (by rw [denominator]; positivity)
  rw [at_, denominator, centre, above, none, Nat.pow_zero, Nat.mul_one] at found
  obtain ⟨near, far⟩ := @roundQuotient_near (4 * units) (2 ^ 151 * 10 ^ exponent) (by positivity)
  rw [← Option.some.inj found] at near far
  have place : 2 ^ 151 * 10 ^ exponent * point = point * 10 ^ exponent * 2 ^ 151 := by ring
  omega

/-- Digits that are found lie apart from the ends of the interval, if it is open. -/
theorem digits_apart {size point exponent : Nat} (held : single.Holds units) (nonzero : units ≠ 0)
    (sizeEq : units.log2 = size + 149) (least : 64 ≤ size) (most : size < 128)
    (at_ : (single.interval units).gridPoint exponent = some point)
    (inside : (single.interval units).Contains (point * 10 ^ exponent) 1)
    (below : point * 10 ^ exponent < 2 ^ (size + 1))
    (open_ : (single.interval units).closed = false) :
    (single.interval units).low + 2 ^ (size + 99) ≤ point * 10 ^ exponent * 2 ^ 151 ∧
      point * 10 ^ exponent * 2 ^ 151 + 2 ^ (size + 99) ≤ (single.interval units).high := by
  rcases Nat.lt_or_ge (2 ^ (size - 23)) (10 ^ exponent) with coarser | finer
  · exact digits_apart_of_coarse held nonzero sizeEq least most coarser inside below open_
  · exact digits_apart_of_fine held nonzero sizeEq least most finer at_ open_

/-- The search reaches a power of ten that has a multiple in the interval, and for a number that
is not large one from which on multiples are numbers of 64 bits. -/
theorem single_hits {size : Nat} (held : single.Holds units) (nonzero : units ≠ 0)
    (whole : 2 ^ 149 ∣ units) (sizeEq : units.log2 = size + 149) (most : size < 128) :
    ∃ enough : Nat, ((single.interval units).gridPoint (enough : Int)).isSome = true ∧
      (enough : Int) ≤ (size : Int) * 30103 / 100000 + 2 ∧
      (size : Int) * 30103 / 100000 + 2 - enough < 25 ∧ (size < 64 → size ≤ enough + 52) := by
  rcases Nat.lt_or_ge size 53 with small | large
  · obtain ⟨count, parts⟩ := whole
    exact ⟨0, gridPoint_isSome_of_whole held nonzero (parts.trans (Nat.mul_comm _ _)), by omega,
      by omega, by omega⟩
  · have fine {enough : Nat} (less : 2 * (2 ^ 149 * 10 ^ enough) < 2 ^ (size + 126)) :
        ((single.interval units).gridPoint (enough : Int)).isSome = true := by
      have above : (enough : Int).toNat = enough := Int.toNat_natCast enough
      have none : (-(enough : Int)).toNat = 0 := by omega
      apply gridPoint_isSome_of_fine held nonzero
      rwa [coarseness_single sizeEq (by omega), above, none, Nat.pow_zero, Nat.mul_one]
    rcases Nat.lt_or_ge size 64 with middle | huge
    · have every : ∀ size < 64, 53 ≤ size →
          2 * (2 ^ 149 * 10 ^ (size - 52)) < 2 ^ (size + 126) := by decide
      exact ⟨size - 52, fine (every size middle large), by omega, by omega, by omega⟩
    · have every : ∀ size < 128, 64 ≤ size →
          2 * (2 ^ 149 * 10 ^ (size * 30103 / 100000 - 8)) < 2 ^ (size + 126) := by decide
      exact ⟨size * 30103 / 100000 - 8, fine (every size most huge), by omega, by omega, by omega⟩

/-- A whole number with enough zeros at its end is one of 64 bits. -/
theorem double_nearest_eq {size point exponent : Nat}
    (below : point * 10 ^ exponent < 2 ^ (size + 1)) (most : size < 128)
    (exact_ : size ≤ exponent + 52) :
    double.nearest (point * 10 ^ exponent) 1 = point * 10 ^ exponent * 2 ^ 1074 := by
  have less : point * 10 ^ exponent * 2 ^ 1074 < 2 ^ (size + 1 + 1074) := by
    rw [pow_add _ (size + 1)]
    exact Nat.mul_lt_mul_of_pos_right below (by positivity)
  have few : double.coarseness (point * 10 ^ exponent * 2 ^ 1074) ≤ exponent + 1074 := by
    have few := coarseness_le (by decide : 0 < double.precision) less
    have precision : double.precision = 53 := rfl
    omega
  have holds : double.Holds (point * 10 ^ exponent * 2 ^ 1074) := by
    refine (pow_dvd_pow 2 few).trans ?_
    rw [pow_add]
    exact mul_dvd_mul_right ((pow_dvd_pow_of_dvd (by decide) exponent).mul_left point) _
  have finite : point * 10 ^ exponent * 2 ^ 1074 < double.limit := by
    have limit : 2 ^ (128 + 1074) < double.limit := by decide +kernel
    exact (less.trans_le (Nat.pow_le_pow_right (by decide) (by omega))).trans limit
  exact nearest_of_eq (by decide) holds finite Nat.one_pos (by rw [scale_double, Nat.mul_one])

/-- The shortest digits of a whole number of 32 bits are whole, and the number of 64 bits that is
nearest to them lies in the interval of the number. -/
theorem single_shortest (held : single.Holds units) (nonzero : units ≠ 0)
    (whole : 2 ^ 149 ∣ units) (finite : units < single.limit) :
    ∃ point exponent : Nat, single.shortest units = (point, (exponent : Int)) ∧
      (single.interval units).Contains (double.nearest (point * 10 ^ exponent) 1)
        (2 ^ double.scale) ∧
      0 < point ∧ point * 10 ^ exponent < 2 ^ 128 := by
  obtain ⟨size, sizeEq⟩ := exists_size nonzero whole
  have most : size < 128 := by
    have bits := (Nat.log2_lt nonzero).mpr (limit_eq single ▸ finite)
    have ceiling : single.ceiling + single.scale = 277 := rfl
    omega
  obtain ⟨enough, hits, begins, lasts, exact_⟩ := single_hits held nonzero whole sizeEq most
  obtain ⟨point, exponent, found, at_, inside, below, coarser⟩ :=
    single_digits held nonzero sizeEq hits begins lasts
  have some_ := left_ne_zero_of_mul (ne_zero_of_contains held nonzero Nat.one_pos inside)
  have bound := Nat.pow_le_pow_right (show 0 < 2 by decide) (by omega : size + 1 ≤ 128)
  refine ⟨point, exponent, found, ?_, Nat.pos_of_ne_zero some_, below.trans_le bound⟩
  rw [scale_double]
  rcases Nat.lt_or_ge size 64 with small | large
  · have zeros := exact_ small
    have rounded := double_nearest_eq below most (by omega)
    have expanded {factor : Nat} (positive : 0 < factor) :
        (single.interval units).Contains (point * 10 ^ exponent * factor) factor := by
      have expanded := (RoundingInterval.contains_mul_right positive).mpr inside
      rwa [Nat.one_mul] at expanded
    rw [rounded]
    exact expanded (by positivity)
  · exact contains_nearest held nonzero sizeEq large most below inside
      (digits_apart held nonzero sizeEq large most at_ inside below)

end Format

namespace Binary

/-- A whole number of 32 bits survives being written with its shortest digits and being read
by way of 64 bits. -/
theorem convert_toBinary_shortest {number : Binary32} (held : Format.single.Holds number.units)
    (nonzero : number.units ≠ 0) (whole : number.isWhole = true) :
    ∃ point exponent, Format.single.shortest number.units = (point, exponent) ∧
      (Decimal.toBinary ⟨number.negative, point, exponent⟩ : Binary64).units < Format.double.limit ∧
      Format.double.Holds (Decimal.toBinary ⟨number.negative, point, exponent⟩ : Binary64).units ∧
      ((Decimal.toBinary ⟨number.negative, point, exponent⟩ : Binary64).convert : Binary32) =
        number := by
  simp only [isWhole, isFinite, Bool.and_eq_true, decide_eq_true_eq, beq_iff_eq, Nat.shiftLeft_eq,
    Nat.one_mul] at whole
  obtain ⟨finite, rest⟩ := whole
  obtain ⟨point, exponent, found, inside, some_, below⟩ :=
    Format.single_shortest held nonzero (Nat.dvd_of_mod_eq_zero rest) finite
  have above : (exponent : Int).toNat = exponent := Int.toNat_natCast exponent
  have none : (-(exponent : Int)).toNat = 0 := by omega
  have size : 2 ^ 128 ≤ 10 ^ 39 := by decide
  have count : digitCount point ≤ 39 := by
    apply digitCount_le
    have := Nat.le_mul_of_pos_right point (by positivity : 0 < 10 ^ exponent)
    omega
  have places : exponent < 39 := by
    apply (Nat.pow_lt_pow_iff_right (by decide : 1 < 10)).mp
    have := Nat.le_mul_of_pos_left (10 ^ exponent) some_
    omega
  have read : (Decimal.toBinary ⟨number.negative, point, (exponent : Int)⟩ : Binary64) =
      ⟨number.negative, Format.double.nearest (point * 10 ^ exponent) 1⟩ := by
    rw [Decimal.toBinary_eq (by simp only; omega) (by simp only; omega)]
    simp only [above, none, Nat.pow_zero]
  obtain ⟨-, -, -, less, -⟩ := Format.double_nearest_near (by decide : 127 < 128) below
  refine ⟨point, exponent, found, ?_, ?_, ?_⟩
  · rw [read]
    exact less
  · rw [read]
    exact Format.holds_nearest (by decide) Nat.one_pos
  · have back : Format.single.nearest (Format.double.nearest (point * 10 ^ exponent) 1)
        (1 <<< Format.double.scale) = number.units := by
      rw [Nat.one_shiftLeft]
      exact Format.nearest_of_contains (by decide) held nonzero finite (Nat.two_pow_pos _) inside
    rw [read, convert, if_neg less.ne, ofFraction, back]

/-! ## Whole numbers of any format -/

/-- What a whole number is rounded to is whole, if it is not infinite. -/
theorem dvd_nearest (format : Format) (whole : Nat) :
    2 ^ format.scale ∣ format.nearest whole 1 := by
  rw [Format.nearest_unfold, Nat.div_one, Nat.one_mul]
  generalize format.coarseness (whole * 2 ^ format.scale) = coarse
  rcases min_choice (roundQuotient (whole * 2 ^ format.scale) (2 ^ coarse) * 2 ^ coarse)
    format.limit with same | same
  · rw [same]
    rcases Nat.lt_or_ge coarse format.scale with fine | rough
    · obtain ⟨count, parts⟩ := (pow_dvd_pow 2 fine.le).mul_left whole
      have rounded : roundQuotient (whole * 2 ^ format.scale) (2 ^ coarse) = count := by
        have gap := Nat.two_pow_pos coarse
        apply roundQuotient_eq gap <;> rw [parts] <;> omega
      rw [rounded, Nat.mul_comm, ← parts]
      exact dvd_mul_left _ _
    · exact (pow_dvd_pow 2 rough).mul_left _
  · rw [same, Format.limit_eq, pow_add]
    exact dvd_mul_left _ _

variable {format target : Format}

theorem dvd_ofInt (value : Int) : 2 ^ format.scale ∣ (ofInt value : Binary format).units :=
  dvd_nearest format value.natAbs

/-- A whole number of one format is whole in another one, if it is not infinite there. -/
theorem dvd_convert {number : Binary format} (whole : number.isWhole = true) :
    2 ^ target.scale ∣ (number.convert : Binary target).units := by
  simp only [isWhole, isFinite, Bool.and_eq_true, decide_eq_true_eq, beq_iff_eq,
    Nat.one_shiftLeft] at whole
  obtain ⟨finite, rest⟩ := whole
  obtain ⟨count, parts⟩ := Nat.dvd_of_mod_eq_zero rest
  have same : target.nearest number.units (2 ^ format.scale) = target.nearest count 1 := by
    have expanded := @Format.nearest_mul_right target count 1 _ (Nat.two_pow_pos format.scale)
    rwa [Nat.one_mul, Nat.mul_comm count, ← parts] at expanded
  rw [convert, if_neg finite.ne, ofFraction, Nat.one_shiftLeft, same]
  exact dvd_nearest target count

theorem isWhole_of_dvd {number : Binary format} (finite : number.isFinite = true)
    (whole : 2 ^ format.scale ∣ number.units) : number.isWhole = true := by
  rw [isWhole, finite, Nat.one_shiftLeft, Nat.mod_eq_zero_of_dvd whole]
  rfl

end Binary

end Flowline.Number
