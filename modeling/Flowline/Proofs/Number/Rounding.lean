import Flowline.Number.Shortest
import Mathlib.Tactic.Positivity
import Mathlib.Tactic.Ring

/-!
# Rounding to a format

A format holds the magnitudes that have no more significant bits than it keeps.  The nearest
magnitude to a fraction is held, and it is a given one wherever the fraction lies in the
rounding interval of that one.
-/

namespace Flowline.Number

/-- Different multiples lie apart by what they are multiples of. -/
theorem add_le_of_dvd {step left right : Nat} (dividesLeft : step ∣ left)
    (dividesRight : step ∣ right) (less : left < right) : left + step ≤ right := by
  have apart := Nat.le_of_dvd (Nat.sub_pos_of_lt less) (Nat.dvd_sub dividesRight dividesLeft)
  omega

/-! ## Rounded quotients -/

section Quotients

variable {numerator denominator whole : Nat}

/-- A quotient is at most a half away from what it is rounded to. -/
theorem roundQuotient_near (positive : 0 < denominator) :
    2 * (denominator * roundQuotient numerator denominator) ≤ 2 * numerator + denominator ∧
      2 * numerator ≤ 2 * (denominator * roundQuotient numerator denominator) + denominator := by
  have parts := Nat.div_add_mod numerator denominator
  have rest := Nat.mod_lt numerator positive
  unfold roundQuotient
  simp only
  split
  · omega
  · split
    · rw [Nat.mul_add]
      omega
    · rcases Nat.mod_two_eq_zero_or_one (numerator / denominator) with even | odd
      · rw [even, Nat.add_zero]
        omega
      · rw [odd, Nat.mul_add]
        omega

/-- A quotient is rounded to the whole number that it is at most a half away from; a half only
goes to an even one. -/
theorem roundQuotient_eq (positive : 0 < denominator)
    (below : 2 * (denominator * whole) ≤ 2 * numerator + denominator)
    (above : 2 * numerator ≤ 2 * (denominator * whole) + denominator)
    (tie : 2 * (denominator * whole) = 2 * numerator + denominator ∨
      2 * numerator = 2 * (denominator * whole) + denominator → whole % 2 = 0) :
    roundQuotient numerator denominator = whole := by
  have parts := Nat.div_add_mod numerator denominator
  have rest := Nat.mod_lt numerator positive
  have close : whole = numerator / denominator ∨ whole = numerator / denominator + 1 := by
    by_contra apart
    rcases Nat.lt_or_ge whole (numerator / denominator) with less | more
    · have := Nat.mul_le_mul_left denominator less
      rw [Nat.mul_succ] at this
      omega
    · have far : numerator / denominator + 2 ≤ whole := by omega
      have := Nat.mul_le_mul_left denominator far
      rw [Nat.mul_add] at this
      omega
  unfold roundQuotient
  simp only
  rcases close with same | next
  · rw [same] at below above tie ⊢
    split
    · rfl
    · split
      · omega
      · have even := tie (by omega)
        omega
  · have product : denominator * whole = denominator * (numerator / denominator) + denominator := by
      rw [next, Nat.mul_succ]
    rw [product] at below above tie
    split
    · omega
    · split
      · exact next.symm
      · have even := tie (by omega)
        omega

theorem roundQuotient_mul_right {factor : Nat} (positive : 0 < factor) :
    roundQuotient (numerator * factor) (denominator * factor) =
      roundQuotient numerator denominator := by
  have lower : 2 * (numerator % denominator * factor) < denominator * factor ↔
      2 * (numerator % denominator) < denominator := by
    rw [← Nat.mul_assoc, Nat.mul_lt_mul_right positive]
  have upper : denominator * factor < 2 * (numerator % denominator * factor) ↔
      denominator < 2 * (numerator % denominator) := by
    rw [← Nat.mul_assoc, Nat.mul_lt_mul_right positive]
  simp only [roundQuotient, Nat.mul_div_mul_right _ _ positive, Nat.mul_mod_mul_right, lower, upper]

end Quotients

namespace Format

variable {format : Format} {units numerator denominator : Nat}

/-! ## Magnitudes that a format holds -/

/-- A magnitude without significant bits beyond those that a format keeps. -/
def Holds (format : Format) (units : Nat) : Prop := 2 ^ format.coarseness units ∣ units

theorem holds_zero (format : Format) : format.Holds 0 := dvd_zero _

theorem holds_two_pow (kept : 0 < format.precision) (power : Nat) :
    format.Holds (2 ^ power) := by
  rw [Holds, coarseness, Nat.log2_two_pow]
  exact pow_dvd_pow 2 (by omega)

/-- Below a power of two, magnitudes are no coarser than just below it. -/
theorem coarseness_le (kept : 0 < format.precision) {power : Nat} (less : units < 2 ^ power) :
    format.coarseness units ≤ power - format.precision := by
  rw [coarseness]
  by_cases zero : units = 0
  · rw [zero, Nat.log2_zero]
    omega
  · have size := (Nat.log2_lt zero).mpr less
    omega

/-- From a power of two on, magnitudes are no less coarse than at it. -/
theorem le_coarseness {power : Nat} (more : 2 ^ power ≤ units) :
    power + 1 - format.precision ≤ format.coarseness units := by
  have positive := Nat.two_pow_pos power
  have size := (Nat.le_log2 (by omega)).mpr more
  rw [coarseness]
  omega

/-- A multiple of a power of two is held if it has few digits beyond. -/
theorem holds_mul_two_pow (kept : 0 < format.precision) {whole power : Nat}
    (few : whole ≤ 2 ^ format.precision) : format.Holds (whole * 2 ^ power) := by
  rcases Nat.lt_or_ge whole (2 ^ format.precision) with less | full
  · have below : whole * 2 ^ power < 2 ^ (power + format.precision) := by
      rw [Nat.add_comm, pow_add]
      exact Nat.mul_lt_mul_of_pos_right less (Nat.two_pow_pos power)
    have coarse := coarseness_le kept below
    rw [Nat.add_sub_cancel] at coarse
    exact (pow_dvd_pow 2 coarse).trans (dvd_mul_left _ _)
  · rw [Nat.le_antisymm few full, ← pow_add]
    exact holds_two_pow kept _

theorem limit_eq (format : Format) : format.limit = 2 ^ (format.ceiling + format.scale) :=
  Nat.pow_eq

theorem limit_pos (format : Format) : 0 < format.limit := by
  rw [limit_eq]
  positivity

theorem nearest_unfold (format : Format) (numerator denominator : Nat) :
    format.nearest numerator denominator =
      min (roundQuotient (numerator * 2 ^ format.scale)
          (denominator * 2 ^ format.coarseness (numerator * 2 ^ format.scale / denominator)) *
        2 ^ format.coarseness (numerator * 2 ^ format.scale / denominator)) format.limit := by
  simp only [nearest, Nat.shiftLeft_eq]

theorem nearest_zero (positive : 0 < denominator) : format.nearest 0 denominator = 0 := by
  simp [nearest_unfold, roundQuotient, positive]

/-- What is nearest to a fraction is held. -/
theorem holds_nearest (kept : 0 < format.precision) (positive : 0 < denominator) :
    format.Holds (format.nearest numerator denominator) := by
  rw [nearest_unfold]
  rcases min_choice (roundQuotient (numerator * 2 ^ format.scale)
      (denominator * 2 ^ format.coarseness (numerator * 2 ^ format.scale / denominator)) *
    2 ^ format.coarseness (numerator * 2 ^ format.scale / denominator)) format.limit with
    same | same
  · rw [same]
    refine holds_mul_two_pow kept ?_
    generalize numerator * 2 ^ format.scale = scaled
    -- The quotient is below the power of two that comes after it.
    have step : scaled < denominator * 2 ^ (format.coarseness (scaled / denominator) +
        format.precision) := by
      have next := Nat.lt_log2_self (n := scaled / denominator)
      have size : (scaled / denominator).log2 + 1 ≤
          format.coarseness (scaled / denominator) + format.precision := by
        rw [coarseness]
        omega
      have whole := Nat.lt_of_lt_of_le next (Nat.pow_le_pow_right (by decide) size)
      rwa [Nat.div_lt_iff_lt_mul positive, Nat.mul_comm] at whole
    have near := (@roundQuotient_near scaled
      (denominator * 2 ^ format.coarseness (scaled / denominator))
      (Nat.mul_pos positive (Nat.two_pow_pos _))).1
    by_contra many
    have least := Nat.mul_le_mul_left
      (denominator * 2 ^ format.coarseness (scaled / denominator)) (Nat.lt_of_not_le many)
    rw [Nat.mul_succ, Nat.mul_assoc denominator _ (2 ^ format.precision), ← pow_add] at least
    omega
  · rw [same]
    exact holds_two_pow kept _

/-- A fraction is nearest to the same magnitude however it is expanded. -/
theorem nearest_mul_right {factor : Nat} (positive : 0 < factor) :
    format.nearest (numerator * factor) (denominator * factor) =
      format.nearest numerator denominator := by
  have scaled : numerator * factor * 2 ^ format.scale = numerator * 2 ^ format.scale * factor := by
    ring
  have step (power : Nat) :
      denominator * factor * 2 ^ power = denominator * 2 ^ power * factor := by ring
  simp only [nearest_unfold, scaled, step, Nat.mul_div_mul_right _ _ positive,
    roundQuotient_mul_right positive]

end Format

/-! ## Rounding intervals -/

/-- A fraction lies in an interval of fractions. -/
structure RoundingInterval.Contains (interval : RoundingInterval)
    (numerator denominator : Nat) : Prop where
  above : interval.low * denominator ≤ numerator * interval.denominator
  below : numerator * interval.denominator ≤ interval.high * denominator
  inner : interval.closed = false →
    interval.low * denominator < numerator * interval.denominator ∧
      numerator * interval.denominator < interval.high * denominator

namespace RoundingInterval

variable {interval : RoundingInterval} {numerator denominator : Nat}

theorem Contains.of_lt
    (above : interval.low * denominator < numerator * interval.denominator)
    (below : numerator * interval.denominator < interval.high * denominator) :
    interval.Contains numerator denominator :=
  ⟨above.le, below.le, fun _ => ⟨above, below⟩⟩

/-- A fraction lies where it does however it is expanded. -/
theorem contains_mul_right {factor : Nat} (positive : 0 < factor) :
    interval.Contains (numerator * factor) (denominator * factor) ↔
      interval.Contains numerator denominator := by
  have place : numerator * factor * interval.denominator =
      numerator * interval.denominator * factor := by ring
  have low : interval.low * (denominator * factor) = interval.low * denominator * factor := by ring
  have high : interval.high * (denominator * factor) =
      interval.high * denominator * factor := by ring
  constructor
  · rintro ⟨above, below, inner⟩
    rw [place, low, Nat.mul_le_mul_right_iff positive] at above
    rw [place, high, Nat.mul_le_mul_right_iff positive] at below
    rw [place, low, high, Nat.mul_lt_mul_right positive, Nat.mul_lt_mul_right positive] at inner
    exact ⟨above, below, inner⟩
  · rintro ⟨above, below, inner⟩
    constructor
    · rwa [place, low, Nat.mul_le_mul_right_iff positive]
    · rwa [place, high, Nat.mul_le_mul_right_iff positive]
    · rwa [place, low, high, Nat.mul_lt_mul_right positive, Nat.mul_lt_mul_right positive]

end RoundingInterval

namespace Format

variable {format : Format} {units numerator denominator : Nat}

/-- How far the interval of a magnitude goes at least, on either side. -/
theorem interval_bounds (held : format.Holds units) (nonzero : units ≠ 0) :
    (format.interval units).low + 2 ^ format.coarseness units ≤ 4 * units ∧
      4 * units ≤ (format.interval units).low + 2 * 2 ^ format.coarseness units ∧
      2 * units ≤ (format.interval units).low ∧
      (format.interval units).high = 4 * units + 2 * 2 ^ format.coarseness units := by
  have gap := Nat.le_of_dvd (Nat.pos_of_ne_zero nonzero) held
  simp only [interval, Nat.shiftLeft_eq, Nat.one_mul, and_true]
  split <;> omega

theorem place_eq (format : Format) (numerator units : Nat) :
    numerator * (format.interval units).denominator = 4 * (numerator * 2 ^ format.scale) := by
  simp only [interval, Nat.shiftLeft_eq]
  ring

/-- The interval of the magnitude itself. -/
theorem contains_of_eq (held : format.Holds units) (nonzero : units ≠ 0)
    (positive : 0 < denominator) (same : numerator * 2 ^ format.scale = units * denominator) :
    (format.interval units).Contains numerator denominator := by
  obtain ⟨low, -, -, high⟩ := interval_bounds held nonzero
  have gap := Nat.two_pow_pos (format.coarseness units)
  have place : numerator * (format.interval units).denominator = 4 * units * denominator := by
    rw [place_eq, same, Nat.mul_assoc]
  apply RoundingInterval.Contains.of_lt
  · rw [place]
    exact Nat.mul_lt_mul_of_pos_right (by omega) positive
  · rw [place]
    exact Nat.mul_lt_mul_of_pos_right (by omega) positive

/-- A fraction in the interval of a magnitude is rounded to it, if it is as coarse. -/
theorem roundQuotient_of_contains (held : format.Holds units) (nonzero : units ≠ 0)
    (positive : 0 < denominator)
    (inside : (format.interval units).Contains numerator denominator) :
    roundQuotient (numerator * 2 ^ format.scale)
      (denominator * 2 ^ format.coarseness units) * 2 ^ format.coarseness units = units := by
  obtain ⟨-, low, -, high⟩ := interval_bounds held nonzero
  obtain ⟨whole, parts⟩ := id held
  have gapPositive := Nat.two_pow_pos (format.coarseness units)
  have closed : (format.interval units).closed = (whole % 2 == 0) := by
    simp only [interval]
    rw [Nat.shiftRight_eq_div_pow, Nat.div_eq_of_eq_mul_right gapPositive parts]
  obtain ⟨above, below, inner⟩ := inside
  rw [place_eq] at above below inner
  rw [high] at below inner
  generalize 2 ^ format.coarseness units = gap at *
  generalize numerator * 2 ^ format.scale = scaled at *
  have lowest := Nat.mul_le_mul_right denominator low
  have centre : denominator * gap * whole = units * denominator := by
    rw [parts]
    ring
  have spread : denominator * gap = gap * denominator := Nat.mul_comm _ _
  have product : (4 * units + 2 * gap) * denominator =
      4 * (units * denominator) + 2 * (gap * denominator) := by ring
  have lowProduct : ((format.interval units).low + 2 * gap) * denominator =
      (format.interval units).low * denominator + 2 * (gap * denominator) := by ring
  have four : 4 * units * denominator = 4 * (units * denominator) := Nat.mul_assoc _ _ _
  rw [lowProduct, four] at lowest
  rw [product] at below inner
  have rounded : roundQuotient scaled (denominator * gap) = whole := by
    apply roundQuotient_eq (Nat.mul_pos positive gapPositive)
    · rw [centre, spread]
      omega
    · rw [centre, spread]
      omega
    · rw [centre, spread]
      intro tie
      cases open_ : (format.interval units).closed with
      | true =>
          rw [closed, beq_iff_eq] at open_
          exact open_
      | false =>
          have strictly := inner open_
          omega
  rw [rounded, Nat.mul_comm, ← parts]

/-- Zero lies in no interval. -/
theorem ne_zero_of_contains (held : format.Holds units) (nonzero : units ≠ 0)
    (positive : 0 < denominator)
    (inside : (format.interval units).Contains numerator denominator) : numerator ≠ 0 := by
  rintro rfl
  obtain ⟨-, -, low, -⟩ := interval_bounds held nonzero
  have above := inside.above
  rw [Nat.zero_mul, Nat.le_zero, Nat.mul_eq_zero] at above
  omega

/-- Below a power of two the interval ends at half of the gap below it. -/
theorem low_two_pow {power half : Nat} (coarse : format.coarseness (2 ^ power) = half + 1) :
    (format.interval (2 ^ power)).low = 4 * 2 ^ power - 2 * 2 ^ half := by
  simp only [interval, Nat.shiftLeft_eq, Nat.one_mul, Nat.log2_two_pow, coarse]
  rw [if_pos ⟨Nat.succ_ne_zero half, trivial⟩, pow_succ, Nat.mul_comm (2 ^ half)]

/-- What is just below a power of two has gaps of half the size. -/
theorem coarseness_below_two_pow (kept : 0 < format.precision) {power half units : Nat}
    (halfEq : power + 1 - format.precision = half + 1) (less : units < 2 ^ power)
    (least : 2 ^ (power - 1) ≤ units) : format.coarseness units = half := by
  have few := coarseness_le kept less
  have many := @le_coarseness format units (power - 1) least
  omega

/-- A fraction in the interval of a power of two that is less than it is rounded up to it. -/
theorem roundQuotient_below_two_pow (kept : 0 < format.precision) {power : Nat}
    (coarse : format.coarseness (2 ^ power) ≠ 0) (positive : 0 < denominator)
    (inside : (format.interval (2 ^ power)).Contains numerator denominator)
    (less : numerator * 2 ^ format.scale / denominator < 2 ^ power) :
    roundQuotient (numerator * 2 ^ format.scale)
      (denominator * 2 ^ format.coarseness (numerator * 2 ^ format.scale / denominator)) *
        2 ^ format.coarseness (numerator * 2 ^ format.scale / denominator) = 2 ^ power := by
  have size : format.coarseness (2 ^ power) = power + 1 - format.precision := by
    rw [coarseness, Nat.log2_two_pow]
  obtain ⟨half, halfEq⟩ : ∃ half, power + 1 - format.precision = half + 1 :=
    Nat.exists_eq_add_one_of_ne_zero (size ▸ coarse)
  have parts : 2 ^ power = 2 ^ half * 2 ^ format.precision := by
    rw [← pow_add]
    congr 1
    omega
  have finer : 2 * 2 ^ half ≤ 2 ^ power := by
    rw [← pow_succ']
    exact Nat.pow_le_pow_right (by decide) (by omega)
  have above := inside.above
  rw [place_eq, low_two_pow (size.trans halfEq), Nat.sub_mul] at above
  generalize numerator * 2 ^ format.scale = scaled at *
  have below := (Nat.div_lt_iff_lt_mul positive).mp less
  have spread := Nat.mul_le_mul_right denominator finer
  have doubled : 2 * 2 ^ half * denominator = 2 * (2 ^ half * denominator) := Nat.mul_assoc _ _ _
  have fourfold : 4 * 2 ^ power * denominator = 4 * (2 ^ power * denominator) :=
    Nat.mul_assoc _ _ _
  rw [doubled] at spread above
  rw [fourfold] at above
  have least : 2 ^ (power - 1) ≤ scaled / denominator := by
    have whole : 2 ^ power = 2 * 2 ^ (power - 1) := by
      rw [← pow_succ']
      congr 1
      omega
    rw [Nat.le_div_iff_mul_le positive]
    rw [whole, Nat.mul_assoc] at above spread
    omega
  have product : denominator * 2 ^ half * 2 ^ format.precision = 2 ^ power * denominator := by
    rw [parts]
    ring
  have rounded : roundQuotient scaled (denominator * 2 ^ half) = 2 ^ format.precision := by
    apply roundQuotient_eq (Nat.mul_pos positive (Nat.two_pow_pos half))
    · rw [product, Nat.mul_comm denominator]
      omega
    · rw [product]
      omega
    · intro _
      exact Nat.two_pow_mod_two_eq_zero.mpr kept
  rw [coarseness_below_two_pow kept halfEq less least, rounded, Nat.mul_comm, ← parts]

/-- A fraction that is less coarse than the magnitude in whose interval it lies is just below a
power of two, and that is the magnitude. -/
theorem eq_two_pow_of_contains (held : format.Holds units) (nonzero : units ≠ 0)
    (positive : 0 < denominator)
    (inside : (format.interval units).Contains numerator denominator)
    (less : numerator * 2 ^ format.scale / denominator < 2 ^ units.log2)
    (coarse : format.coarseness units ≤ units.log2) : units = 2 ^ units.log2 := by
  by_contra other
  have apart := add_le_of_dvd (pow_dvd_pow 2 coarse) held
    (Nat.lt_of_le_of_ne (Nat.log2_self_le nonzero) (Ne.symm other))
  obtain ⟨-, low, -, -⟩ := interval_bounds held nonzero
  have above := inside.above
  rw [place_eq] at above
  have least : 4 * 2 ^ units.log2 ≤ (format.interval units).low := by omega
  have scaled := Nat.mul_le_mul_right denominator least
  rw [Nat.mul_assoc] at scaled
  rw [Nat.div_lt_iff_lt_mul positive] at less
  omega

/-- A fraction in the interval of a magnitude is nearest to it. -/
theorem nearest_of_contains (kept : 0 < format.precision) (held : format.Holds units)
    (nonzero : units ≠ 0) (finite : units < format.limit) (positive : 0 < denominator)
    (inside : (format.interval units).Contains numerator denominator) :
    format.nearest numerator denominator = units := by
  have size : format.coarseness units = units.log2 + 1 - format.precision := rfl
  -- The fraction is below the power of two that comes after the magnitude.
  have below : numerator * 2 ^ format.scale / denominator < 2 ^ (units.log2 + 1) := by
    have next := add_le_of_dvd held
      (pow_dvd_pow 2 (by omega : format.coarseness units ≤ units.log2 + 1)) Nat.lt_log2_self
    obtain ⟨-, -, -, high⟩ := interval_bounds held nonzero
    have gap := Nat.two_pow_pos (format.coarseness units)
    have most : (format.interval units).high < 4 * 2 ^ (units.log2 + 1) := by omega
    have scaled := Nat.mul_lt_mul_of_pos_right most positive
    have place := inside.below
    rw [place_eq] at place
    rw [Nat.mul_assoc] at scaled
    rw [Nat.div_lt_iff_lt_mul positive]
    omega
  suffices rounded : roundQuotient (numerator * 2 ^ format.scale)
      (denominator * 2 ^ format.coarseness (numerator * 2 ^ format.scale / denominator)) *
        2 ^ format.coarseness (numerator * 2 ^ format.scale / denominator) = units by
    rw [nearest_unfold, rounded, min_eq_left finite.le]
  by_cases alike : 2 ^ units.log2 ≤ numerator * 2 ^ format.scale / denominator ∨
      format.coarseness units = 0
  · have same : format.coarseness (numerator * 2 ^ format.scale / denominator) =
        format.coarseness units := by
      have few := coarseness_le kept below
      rcases alike with more | fine
      · have many := @le_coarseness format _ _ more
        omega
      · omega
    rw [same]
    exact roundQuotient_of_contains held nonzero positive inside
  · rw [not_or, Nat.not_le] at alike
    obtain ⟨less, coarse⟩ := alike
    have power := eq_two_pow_of_contains held nonzero positive inside less (by omega)
    rw [power] at inside coarse
    rw [roundQuotient_below_two_pow kept coarse positive inside less, ← power]

/-- A magnitude is nearest to itself. -/
theorem nearest_of_eq (kept : 0 < format.precision) (held : format.Holds units)
    (finite : units < format.limit) (positive : 0 < denominator)
    (same : numerator * 2 ^ format.scale = units * denominator) :
    format.nearest numerator denominator = units := by
  by_cases zero : units = 0
  · subst zero
    have nothing : numerator = 0 := by
      have gap := (Nat.two_pow_pos format.scale).ne'
      rw [Nat.zero_mul, Nat.mul_eq_zero] at same
      omega
    rw [nothing, nearest_zero positive]
  · exact nearest_of_contains kept held zero finite positive
      (contains_of_eq held zero positive same)

end Format

/-! ## Numbers of a format -/

namespace Binary

variable {format target : Format}

theorem held_ofFraction (kept : 0 < format.precision) {denominator : Nat}
    (positive : 0 < denominator) (negative : Bool) (numerator : Nat) :
    format.Holds (ofFraction negative numerator denominator : Binary format).units :=
  Format.holds_nearest kept positive

theorem held_infinity (kept : 0 < format.precision) (negative : Bool) :
    format.Holds (infinity negative : Binary format).units := by
  rw [infinity, Format.limit_eq]
  exact Format.holds_two_pow kept _

/-- What a number of another format becomes. -/
theorem held_convert (kept : 0 < target.precision) (number : Binary format) :
    target.Holds (number.convert : Binary target).units := by
  unfold convert
  split
  · exact held_infinity kept _
  · refine held_ofFraction kept ?_ _ _
    rw [Nat.one_shiftLeft]
    positivity

theorem convert_zero (negative : Bool) :
    ((⟨negative, 0⟩ : Binary format).convert : Binary target) = ⟨negative, 0⟩ := by
  rw [convert, if_neg (Format.limit_pos format).ne, ofFraction, Nat.one_shiftLeft,
    Format.nearest_zero (Nat.two_pow_pos _)]

end Binary

/-- What is read from a decimal numeral is held by the format it is read into. -/
theorem Decimal.held_toBinary {format : Format} (kept : 0 < format.precision) (decimal : Decimal) :
    format.Holds (decimal.toBinary : Binary format).units := by
  unfold toBinary
  simp only [Nat.pow_eq]
  split
  · exact Format.holds_zero format
  · split
    · exact Binary.held_infinity kept _
    · split
      · exact Format.holds_zero format
      · split
        · exact Binary.held_ofFraction kept Nat.one_pos _ _
        · exact Binary.held_ofFraction kept (by positivity) _ _

end Flowline.Number
