import Flowline.Proofs.Number.Digits
import Flowline.Proofs.Number.Rounding

/-!
# Shortest digits

The search for the shortest digits of a number always finds some: where a power of ten is finer
than half of a gap, one of its multiples lies in the rounding interval.  What the search finds
lies in that interval, so it is read back as the number, however its digits are grouped.
-/

namespace Flowline.Number

namespace RoundingInterval

variable {interval : RoundingInterval} {exponent : Int} {point : Nat}

/-! ## One power of ten -/

/-- What is found on the grid of a power of ten lies in the interval. -/
theorem contains_of_gridPoint (found : interval.gridPoint exponent = some point) :
    interval.Contains (point * 10 ^ exponent.toNat) (10 ^ (-exponent).toNat) := by
  have holds (point : Nat)
      (inside : (if interval.closed = true then
          decide (interval.low * 10 ^ (-exponent).toNat ≤
            point * (interval.denominator * 10 ^ exponent.toNat)) &&
          decide (point * (interval.denominator * 10 ^ exponent.toNat) ≤
            interval.high * 10 ^ (-exponent).toNat)
        else
          decide (interval.low * 10 ^ (-exponent).toNat <
            point * (interval.denominator * 10 ^ exponent.toNat)) &&
          decide (point * (interval.denominator * 10 ^ exponent.toNat) <
            interval.high * 10 ^ (-exponent).toNat)) = true) :
      interval.Contains (point * 10 ^ exponent.toNat) (10 ^ (-exponent).toNat) := by
    have place : point * (interval.denominator * 10 ^ exponent.toNat) =
        point * 10 ^ exponent.toNat * interval.denominator := by ring
    simp only [place] at inside
    split at inside
    next closed =>
      simp only [Bool.and_eq_true, decide_eq_true_eq] at inside
      refine ⟨inside.1, inside.2, fun open_ => ?_⟩
      cases closed.symm.trans open_
    next =>
      simp only [Bool.and_eq_true, decide_eq_true_eq] at inside
      exact .of_lt inside.1 inside.2
  have either {first second : Bool} {nearest other : Nat}
      (found : (if first = true then some nearest else if second = true then some other
        else none) = some point) :
      first = true ∧ nearest = point ∨ second = true ∧ other = point := by
    cases first <;> cases second <;> simp_all
  unfold gridPoint at found
  simp only [Nat.pow_eq] at found
  rcases either found with ⟨inside, rfl⟩ | ⟨inside, rfl⟩
  · exact holds _ inside
  · exact holds _ inside

/-- On the grid of a power of ten the multiple nearest to the centre is found, where it lies
strictly within the interval. -/
theorem gridPoint_nearest
    (above : interval.low * 10 ^ (-exponent).toNat <
      roundQuotient (interval.centre * 10 ^ (-exponent).toNat)
        (interval.denominator * 10 ^ exponent.toNat) *
          (interval.denominator * 10 ^ exponent.toNat))
    (below : roundQuotient (interval.centre * 10 ^ (-exponent).toNat)
        (interval.denominator * 10 ^ exponent.toNat) *
          (interval.denominator * 10 ^ exponent.toNat) <
      interval.high * 10 ^ (-exponent).toNat) :
    interval.gridPoint exponent = some (roundQuotient (interval.centre * 10 ^ (-exponent).toNat)
      (interval.denominator * 10 ^ exponent.toNat)) := by
  unfold gridPoint
  simp only [Nat.pow_eq]
  rw [if_pos]
  split <;> simp [above, below, above.le, below.le]

/-- That multiple is found where the power of ten is less than twice as coarse as the interval
reaches on either side of its centre. -/
theorem gridPoint_of_reach {reach : Nat} (low : interval.low + reach ≤ interval.centre)
    (high : interval.centre + reach ≤ interval.high)
    (fine : interval.denominator * 10 ^ exponent.toNat < 2 * (reach * 10 ^ (-exponent).toNat))
    (positive : 0 < interval.denominator) :
    interval.gridPoint exponent = some (roundQuotient (interval.centre * 10 ^ (-exponent).toNat)
      (interval.denominator * 10 ^ exponent.toNat)) := by
  have step : 0 < interval.denominator * 10 ^ exponent.toNat := by positivity
  obtain ⟨near, far⟩ := @roundQuotient_near (interval.centre * 10 ^ (-exponent).toNat) _ step
  have lowest := Nat.mul_le_mul_right (10 ^ (-exponent).toNat) low
  have highest := Nat.mul_le_mul_right (10 ^ (-exponent).toNat) high
  rw [Nat.add_mul] at lowest highest
  apply gridPoint_nearest <;> rw [Nat.mul_comm (roundQuotient _ _)] <;> omega

/-! ## The search -/

/-- If some power of ten on the way has a multiple in the interval, the search ends with a
multiple of that one or of a coarser one. -/
theorem coarsest_finds {steps : Nat} {start enough : Int} (begins : enough ≤ start)
    (lasts : start - enough < steps) (hits : (interval.gridPoint enough).isSome = true) :
    ∃ point exponent, interval.coarsest steps start = (point, exponent) ∧
      interval.gridPoint exponent = some point ∧ enough ≤ exponent ∧ exponent ≤ start := by
  induction steps generalizing start with
  | zero => omega
  | succ steps ih =>
      rw [coarsest]
      cases found : interval.gridPoint start with
      | some point => exact ⟨point, start, rfl, found, begins, le_rfl⟩
      | none =>
          have further : enough ≠ start := by
            rintro rfl
            simp [found] at hits
          obtain ⟨point, exponent, same, at_, coarse, fine⟩ :=
            @ih (start - 1) (by omega) (by omega)
          exact ⟨point, exponent, same, at_, coarse, by omega⟩

end RoundingInterval

namespace Format

variable {format : Format} {units : Nat} {exponent : Int}

/-- Where a power of ten is finer than half of a gap, a multiple of it lies in the interval. -/
theorem gridPoint_isSome_of_fine (held : format.Holds units) (nonzero : units ≠ 0)
    (fine : 2 * (2 ^ format.scale * 10 ^ exponent.toNat) <
      2 ^ format.coarseness units * 10 ^ (-exponent).toNat) :
    ((format.interval units).gridPoint exponent).isSome = true := by
  obtain ⟨low, -, -, high⟩ := interval_bounds held nonzero
  have centre : (format.interval units).centre = 4 * units := rfl
  have denominator : (format.interval units).denominator = 4 * 2 ^ format.scale := by
    simp only [interval, Nat.shiftLeft_eq]
  have step : 4 * 2 ^ format.scale * 10 ^ exponent.toNat =
      2 * (2 * (2 ^ format.scale * 10 ^ exponent.toNat)) := by ring
  rw [RoundingInterval.gridPoint_of_reach low (by omega)]
  · rfl
  · rw [denominator]
    omega
  · rw [denominator]
    positivity

/-- A whole multiple of a power of ten lies in its own interval. -/
theorem gridPoint_isSome_of_whole (held : format.Holds units) (nonzero : units ≠ 0) {whole : Nat}
    (same : units = whole * 2 ^ format.scale) :
    ((format.interval units).gridPoint 0).isSome = true := by
  obtain ⟨low, -, -, high⟩ := interval_bounds held nonzero
  have gap := Nat.two_pow_pos (format.coarseness units)
  have denominator : (format.interval units).denominator = 4 * 2 ^ format.scale := by
    simp only [interval, Nat.shiftLeft_eq]
  have centre : (format.interval units).centre = 4 * units := rfl
  have product : whole * (4 * 2 ^ format.scale) = 4 * units := by
    rw [same]
    ring
  have rounded : roundQuotient (4 * units) (4 * 2 ^ format.scale) = whole := by
    have positive : 0 < 4 * 2 ^ format.scale := by positivity
    apply roundQuotient_eq positive <;> rw [Nat.mul_comm _ whole, product] <;> omega
  rw [RoundingInterval.gridPoint_nearest]
  · rfl
  all_goals
    simp only [Int.neg_zero, Int.toNat_zero, Nat.pow_zero, Nat.mul_one, denominator, centre,
      rounded, product]
    omega

end Format

/-! ## Reading decimals -/

theorem digitCount_le {value count : Nat} (less : value < 10 ^ count) :
    digitCount value ≤ count := by
  unfold digitCount
  split
  next => exact Nat.zero_le count
  next nonzero =>
    cases count with
    | zero => omega
    | succ count => exact (Nat.length_toDigits_le_iff (by decide) (Nat.succ_pos count)).mpr less

/-- A decimal numeral of a usual size is read as the number nearest to it. -/
theorem Decimal.toBinary_eq {format : Format} {decimal : Decimal}
    (least : -1000 ≤ decimal.exponent)
    (most : decimal.exponent + digitCount decimal.significand ≤ 1000) :
    (decimal.toBinary : Binary format) =
      ⟨decimal.negative, format.nearest (decimal.significand * 10 ^ decimal.exponent.toNat)
        (10 ^ (-decimal.exponent).toNat)⟩ := by
  obtain ⟨negative, significand, exponent⟩ := decimal
  simp only at least most ⊢
  unfold toBinary
  simp only [Nat.pow_eq, Binary.ofFraction]
  split
  next none =>
    subst none
    rw [Nat.zero_mul, Format.nearest_zero (by positivity)]
  next =>
    rw [if_neg (by omega), if_neg (by omega)]
    split
    next above =>
      have below : (-exponent).toNat = 0 := by omega
      rw [below, Nat.pow_zero]
    next =>
      have above : exponent.toNat = 0 := by omega
      rw [above, Nat.pow_zero, Nat.mul_one]

namespace RoundingInterval

variable {interval : RoundingInterval} {numerator denominator otherNumerator otherDenominator : Nat}

/-- Equal fractions lie in the same intervals. -/
theorem Contains.of_cross (inside : interval.Contains numerator denominator)
    (positive : 0 < denominator) (otherPositive : 0 < otherDenominator)
    (same : otherNumerator * denominator = numerator * otherDenominator) :
    interval.Contains otherNumerator otherDenominator := by
  rw [← contains_mul_right positive, same, Nat.mul_comm otherDenominator,
    contains_mul_right otherPositive]
  exact inside

end RoundingInterval

namespace Format

/-! ## The format of 64 bits -/

/-- The last power of ten that the search tries for a number of some size. -/
def lastTried (size : Nat) : Int := ((size : Int) - 1074) * 30103 / 100000 + 2 - 24

/-- That power of ten is fine enough, whatever the size. -/
theorem double_fine {size : Nat} (less : size < 2098) :
    2 * (2 ^ 1074 * 10 ^ (lastTried size).toNat) <
      2 ^ (size + 1 - 53) * 10 ^ (-lastTried size).toNat := by
  have every : (List.range 2098).all (fun size =>
      Nat.blt (2 * (2 ^ 1074 * 10 ^ (lastTried size).toNat))
        (2 ^ (size + 1 - 53) * 10 ^ (-lastTried size).toNat)) = true := by decide +kernel
  exact Nat.le_of_ble_eq_true (List.all_eq_true.mp every size (List.mem_range.mpr less))

/-- The search finds digits for every positive finite number. -/
theorem double_shortest {units : Nat} (held : double.Holds units) (nonzero : units ≠ 0)
    (finite : units < double.limit) :
    ∃ point exponent, double.shortest units = (point, exponent) ∧
      (double.interval units).Contains (point * 10 ^ exponent.toNat) (10 ^ (-exponent).toNat) ∧
      -346 ≤ exponent ∧ exponent ≤ 310 := by
  have size : units.log2 < double.ceiling + double.scale := by
    rw [limit_eq] at finite
    exact (Nat.log2_lt nonzero).mpr finite
  have ceiling : double.ceiling + double.scale = 2098 := rfl
  have scale : double.scale = 1074 := rfl
  have hits : ((double.interval units).gridPoint (lastTried units.log2)).isSome = true :=
    gridPoint_isSome_of_fine held nonzero (by
      rw [scale]
      exact double_fine (ceiling ▸ size))
  have last : lastTried units.log2 = ((units.log2 : Int) - 1074) * 30103 / 100000 + 2 - 24 := rfl
  obtain ⟨point, exponent, found, at_, coarse, fine⟩ :=
    @RoundingInterval.coarsest_finds (double.interval units) 25
      (((units.log2 : Int) - 1074) * 30103 / 100000 + 2) _ (by omega) (by omega) hits
  exact ⟨point, exponent, found, RoundingInterval.contains_of_gridPoint at_, by omega, by omega⟩

/-- What lies in the interval of a finite number has no more digits than some. -/
theorem significand_lt {units point : Nat} {exponent : Int} (held : double.Holds units)
    (nonzero : units ≠ 0) (finite : units < double.limit) (least : -346 ≤ exponent)
    (inside : (double.interval units).Contains (point * 10 ^ exponent.toNat)
      (10 ^ (-exponent).toNat)) : point < 10 ^ 655 := by
  obtain ⟨-, -, -, high⟩ := interval_bounds held nonzero
  have gap := Nat.le_of_dvd (Nat.pos_of_ne_zero nonzero) held
  have below := inside.below
  rw [place_eq, high] at below
  have scale : double.scale = 1074 := rfl
  rw [scale] at below
  have up : point ≤ point * 10 ^ exponent.toNat := Nat.le_mul_of_pos_right _ (by positivity)
  have down := Nat.pow_le_pow_right (show 0 < 10 by decide)
    (by omega : (-exponent).toNat ≤ 346)
  have most := Nat.mul_le_mul
    (by omega : 4 * units + 2 * 2 ^ double.coarseness units ≤ 6 * double.limit) down
  have bound : 6 * double.limit * 10 ^ 346 < 4 * 2 ^ 1074 * 10 ^ 655 := by decide +kernel
  have whole := Nat.mul_le_mul_left (4 * 2 ^ 1074) up
  by_contra many
  have large := Nat.mul_le_mul_left (4 * 2 ^ 1074) (Nat.le_of_not_lt many)
  have order : 4 * (point * 10 ^ exponent.toNat * 2 ^ 1074) =
      4 * 2 ^ 1074 * (point * 10 ^ exponent.toNat) := by
    rw [Nat.mul_comm (point * _), Nat.mul_assoc]
  omega

/-- The shortest digits of a number are read back as the number, with or without zeros behind
them. -/
theorem toBinary_shortest {number : Binary64} (held : double.Holds number.units)
    (nonzero : number.units ≠ 0) (finite : number.units < double.limit) {point : Nat}
    {exponent : Int} (found : double.shortest number.units = (point, exponent)) (zeros : Nat)
    (few : zeros ≤ 311) :
    Decimal.toBinary ⟨number.negative, point * 10 ^ zeros, exponent - zeros⟩ = number := by
  obtain ⟨_, _, same, inside, least, most⟩ := double_shortest held nonzero finite
  obtain ⟨rfl, rfl⟩ := Prod.mk.inj (found.symm.trans same)
  have size := significand_lt held nonzero finite least inside
  have count : digitCount (point * 10 ^ zeros) ≤ 655 + zeros := by
    apply digitCount_le
    rw [pow_add]
    exact Nat.mul_lt_mul_of_pos_right size (by positivity)
  rw [Decimal.toBinary_eq (by simp only; omega) (by simp only; omega)]
  have shifted : double.nearest (point * 10 ^ zeros * 10 ^ (exponent - zeros).toNat)
      (10 ^ (-(exponent - zeros)).toNat) = number.units := by
    apply nearest_of_contains (by decide) held nonzero finite (by positivity)
    refine inside.of_cross (by positivity) (by positivity) ?_
    rw [Nat.mul_assoc, Nat.mul_assoc, Nat.mul_assoc, ← pow_add, ← pow_add, ← pow_add]
    congr 2
    omega
  rw [shifted]

end Format

end Flowline.Number
