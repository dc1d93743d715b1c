import Flowline.Proofs.Calendar
import Flowline.Proofs.Number.Digits

/-!
# The texts of instants

What is written for an instant is read back as that instant.  A second with a fraction of
a second or more is written as the one after it, so it only comes back as such a second
where the one after it is the sixtieth.
-/

namespace Flowline

namespace Instant

open Number Text

/-! ## Padded numbers -/

variable {width value : Nat} {rest : List Char}

theorem areDigits_padded (width value : Nat) :
    ∀ character ∈ padded width value, character.isDigit = true := by
  intro character member
  rcases List.mem_append.mp member with zero | digit
  · rw [List.eq_of_mem_replicate zero]
    rfl
  · exact isDigit_of_mem_toDigits digit

@[simp] theorem digitsValue_padded : digitsValue (padded width value) = value := by
  rw [padded, digitsValue_replicate_append, digitsValue_toDigits]

theorem padded_ne_nil : padded width value ≠ [] := by
  simp [padded, Nat.toDigits_ne_nil]

theorem length_padded (positive : 0 < width) (fits : value < 10 ^ width) :
    (padded width value).length = width := by
  have bound : (Nat.toDigits 10 value).length ≤ width :=
    (Nat.length_toDigits_le_iff (by decide) positive).mpr fits
  simp only [padded, List.length_append, List.length_replicate]
  omega

/-- A padded number begins with a digit. -/
theorem exists_padded (width value : Nat) :
    ∃ digit rest, padded width value = digit :: rest ∧ digit.isDigit = true := by
  cases chars : padded width value with
  | nil => exact (padded_ne_nil chars).elim
  | cons digit rest =>
      refine ⟨digit, rest, rfl, areDigits_padded width value digit ?_⟩
      rw [chars]
      exact List.mem_cons_self

/-! ## Scanning -/

theorem scanNumber_padded (positive : 0 < width) (fits : value < 10 ^ width) (rest : List Char) :
    scanNumber width (padded width value ++ rest) = some (value, rest) := by
  have unblank : trimFront (padded width value ++ rest) = padded width value ++ rest := by
    obtain ⟨digit, more, chars, isDigit⟩ := exists_padded width value
    rw [chars]
    apply trimFront_of_head
    simpa using isBlank_of_isDigit isDigit
  have size := length_padded positive fits
  have taken : ((padded width value ++ rest).take width).takeWhile Char.isDigit =
      padded width value := by
    rw [List.take_left' size]
    have whole := takeWhile_digits (areDigits_padded width value) stops_nil
    rwa [List.append_nil] at whole
  simp [scanNumber, unblank, taken, padded_ne_nil]

theorem scanMark_self {mark : Char} (unblank : isBlank mark = false) (rest : List Char) :
    scanMark mark (mark :: rest) = some rest := by
  rw [scanMark, trimFront_of_head (by simpa using unblank)]
  simp

/-- A year without a sign has four digits. -/
theorem scanYear_padded {size : Nat} (fits : size < 10 ^ 4) (rest : List Char) :
    scanYear (padded 4 size ++ rest) = some ((size : Int), rest) := by
  have number := scanNumber_padded (by decide) fits rest
  obtain ⟨digit, more, chars, isDigit⟩ := exists_padded 4 size
  rw [chars] at number ⊢
  have unblank : trimFront (digit :: more ++ rest) = digit :: more ++ rest := by
    apply trimFront_of_head
    simpa using isBlank_of_isDigit isDigit
  unfold scanYear
  rw [unblank]
  split
  next same =>
    cases same
    cases isDigit
  next same =>
    cases same
    cases isDigit
  next => rw [number, Option.map_some]

/-- A year behind a sign goes on to what is no digit. -/
theorem scanYear_signed (negative : Bool) (size : Nat) (stops : Stops rest) :
    scanYear ((if negative then '-' else '+') :: padded 4 size ++ rest) =
      some (if negative then -(size : Int) else size, rest) := by
  have digits := spanDigits_digits (areDigits_padded 4 size) stops
  have value : digitsValue (padded 4 size) = size := digitsValue_padded
  obtain ⟨digit, more, chars, -⟩ := exists_padded 4 size
  rw [chars] at digits value ⊢
  cases negative with
  | true =>
      rw [if_pos rfl, List.cons_append, scanYear, trimFront_of_head (by simp; decide)]
      simp only [digits, value]
  | false =>
      rw [if_neg nofun, List.cons_append, scanYear, trimFront_of_head (by simp; decide)]
      simp only [digits, value]

/-- A year is told from the date that follows it. -/
theorem scanYear_yearText (year : Int) (rest : List Char) :
    scanYear (yearText year ++ '-' :: rest) = some (year, '-' :: rest) := by
  unfold yearText
  split
  next usual =>
    rw [scanYear_padded (by omega), Int.toNat_of_nonneg usual.1]
  next =>
    have signed := scanYear_signed (decide (year < 0)) year.natAbs
      (stops_cons rfl : Stops ('-' :: rest))
    simp only [decide_eq_true_eq] at signed
    rw [signed]
    split <;> simp only [Option.some.injEq, Prod.mk.injEq, and_true] <;> omega

/-- Digits behind a point, of which there are nine at most. -/
theorem scanFraction_padded {width value : Nat} (positive : 0 < width) (short : width ≤ 9)
    (fits : value < 10 ^ width) (stops : Stops rest) :
    scanFraction ('.' :: (padded width value ++ rest)) = some (value * 10 ^ (9 - width), rest) := by
  have digits := spanDigits_digits (areDigits_padded width value) stops
  have size := length_padded positive fits
  have whole : (padded width value).take 9 = padded width value :=
    List.take_of_length_le (by omega)
  have denotes : digitsValue (padded width value) = value := digitsValue_padded
  obtain ⟨digit, more, chars, -⟩ := exists_padded width value
  rw [chars] at digits denotes size whole ⊢
  simp only [scanFraction, digits, whole, size, denotes]
  rfl

theorem scanFraction_fractionText {nanoseconds : Nat} (fits : nanoseconds < nanosecondsPerSecond) :
    scanFraction (fractionText nanoseconds ++ ['Z']) = some (nanoseconds, ['Z']) := by
  have stops : Stops ['Z'] := stops_cons rfl
  unfold nanosecondsPerSecond at fits
  unfold fractionText
  split
  next none =>
    subst none
    rfl
  next =>
    split
    next millis =>
      rw [List.cons_append, scanFraction_padded (by decide) (by decide) (by omega) stops]
      simp only [Option.some.injEq, Prod.mk.injEq, and_true]
      omega
    next =>
      split
      next micros =>
        rw [List.cons_append, scanFraction_padded (by decide) (by decide) (by omega) stops]
        simp only [Option.some.injEq, Prod.mk.injEq, and_true]
        omega
      next =>
        rw [List.cons_append, scanFraction_padded (by decide) (by decide) (by omega) stops]
        simp

/-! ## Instants -/

/-- The year of an instant in universal time. -/
def year (instant : Instant) : Int := (CalendarDay.ofDays (instant.seconds.fdiv 86400)).year

/-- An instant that can be: its year is allowed, and the fraction of its second is less
than two seconds. -/
structure Allowed (instant : Instant) : Prop where
  year : yearAllowed (CalendarDay.ofDays (instant.seconds.fdiv 86400)).year = true
  fraction : instant.nanoseconds < 2 * nanosecondsPerSecond

/-- An instant as its text shows it: a leap second is the last one of a minute. -/
def settled (instant : Instant) : Instant :=
  if nanosecondsPerSecond ≤ instant.nanoseconds ∧ instant.seconds % 60 ≠ 59 then
    ⟨instant.seconds + 1, instant.nanoseconds - nanosecondsPerSecond⟩
  else instant

/-- A second that is a leap second only at the end of a minute. -/
def Shown (instant : Instant) : Prop :=
  instant.nanoseconds < nanosecondsPerSecond ∨
    instant.nanoseconds < 2 * nanosecondsPerSecond ∧ instant.seconds % 60 = 59

theorem Shown.settled {instant : Instant} (shown : instant.Shown) : instant.settled = instant := by
  unfold Shown at shown
  exact if_neg (by omega)

theorem Shown.fraction {instant : Instant} (shown : instant.Shown) :
    instant.nanoseconds < 2 * nanosecondsPerSecond := by
  unfold Shown at shown
  omega

/-- An instant of a year with four digits, whose second is a leap second only at the end of
a minute. -/
structure Regular (instant : Instant) : Prop where
  year : 0 ≤ (CalendarDay.ofDays (instant.seconds.fdiv 86400)).year ∧
    (CalendarDay.ofDays (instant.seconds.fdiv 86400)).year ≤ 9999
  fraction : instant.nanoseconds < nanosecondsPerSecond ∨
    instant.nanoseconds < 2 * nanosecondsPerSecond ∧ instant.seconds % 60 = 59

instance (instant : Instant) : Decidable instant.Regular :=
  decidable_of_iff (((0 ≤ (CalendarDay.ofDays (instant.seconds.fdiv 86400)).year ∧
      (CalendarDay.ofDays (instant.seconds.fdiv 86400)).year ≤ 9999) ∧
    (instant.nanoseconds < nanosecondsPerSecond ∨
      instant.nanoseconds < 2 * nanosecondsPerSecond ∧ instant.seconds % 60 = 59)))
    ⟨fun holds => ⟨holds.1, holds.2⟩, fun regular => ⟨regular.year, regular.fraction⟩⟩

theorem Regular.allowed {instant : Instant} (regular : instant.Regular) : instant.Allowed where
  year := by
    have year := regular.year
    simp only [yearAllowed, Bool.and_eq_true, decide_eq_true_eq]
    omega
  fraction := Shown.fraction regular.fraction

theorem Regular.settled {instant : Instant} (regular : instant.Regular) :
    instant.settled = instant :=
  Shown.settled regular.fraction

theorem exists_secondOfDay (seconds : Int) : ∃ second : Nat, second < 86400 ∧
    seconds = seconds.fdiv 86400 * 86400 + second := by
  rw [Int.fdiv_eq_ediv_of_nonneg _ (by decide)]
  exact ⟨(seconds % 86400).toNat, by omega, by omega⟩

/-- What is read from the front of a text and goes before the rest. -/
theorem bind_of_eq {α β : Type} {scanned : Option α} {value : α} {next : α → Option β}
    (reads : scanned = some value) : scanned.bind next = next value := by
  rw [reads, Option.bind_some]

/-- A second of a minute with the whole seconds of its fraction, as they are read. -/
theorem settled_eq {seconds : Int} {second nanoseconds : Nat} {day : Int}
    (parts : seconds = day * 86400 + second)
    (fraction : nanoseconds < 2 * nanosecondsPerSecond) :
    let shown := second % 60 + nanoseconds / nanosecondsPerSecond
    settled ⟨seconds, nanoseconds⟩ =
      ⟨day * 86400 + (second / 3600 : Nat) * 3600 + (second / 60 % 60 : Nat) * 60 +
          (shown - shown / 60 : Nat) - 0,
        nanoseconds % nanosecondsPerSecond + shown / 60 * nanosecondsPerSecond⟩ := by
  simp only [settled]
  unfold nanosecondsPerSecond at *
  split <;> simp only [mk.injEq] <;> omega

/-- The text of an instant is read back as what it shows. -/
theorem parse?_text {instant : Instant} (allowed : instant.Allowed) :
    parse? instant.text = some instant.settled := by
  obtain ⟨seconds, nanoseconds⟩ := instant
  obtain ⟨year, fraction⟩ := allowed
  simp only at year fraction
  have there := CalendarDay.exists?_ofDays (seconds.fdiv 86400)
  have days := CalendarDay.toDays_ofDays (seconds.fdiv 86400)
  obtain ⟨second, fits, parts⟩ := exists_secondOfDay seconds
  have secondOfDay : (seconds - seconds.fdiv 86400 * 86400).toNat = second := by omega
  have whole : nanoseconds / nanosecondsPerSecond ≤ 1 := by
    unfold nanosecondsPerSecond at *
    omega
  have shown := settled_eq parts fraction
  simp only at shown
  simp only [text, secondOfDay]
  generalize CalendarDay.ofDays (seconds.fdiv 86400) = date at *
  obtain ⟨month, day⟩ := CalendarDay.short_of_exists there
  rw [parse?, String.toList_ofList]
  simp only [List.append_assoc, List.cons_append]
  refine (bind_of_eq (scanYear_yearText _ _)).trans ?_
  refine (bind_of_eq (scanMark_self rfl _)).trans ?_
  refine (bind_of_eq (scanNumber_padded (by decide) month _)).trans ?_
  refine (bind_of_eq (scanMark_self rfl _)).trans ?_
  refine (bind_of_eq (scanNumber_padded (by decide) day _)).trans ?_
  refine (bind_of_eq (scanNumber_padded (by decide) (by omega) _)).trans ?_
  refine (bind_of_eq (scanMark_self rfl _)).trans ?_
  refine (bind_of_eq (scanNumber_padded (by decide) (by omega) _)).trans ?_
  refine (bind_of_eq (scanMark_self rfl _)).trans ?_
  refine (bind_of_eq (scanNumber_padded (by decide) (by omega) _)).trans ?_
  refine (bind_of_eq (scanFraction_fractionText (Nat.mod_lt _ (by decide)))).trans ?_
  refine (bind_of_eq (show scanOffset (trimFront ['Z']) = some (0, []) from rfl)).trans ?_
  refine (if_pos ?_).trans ?_
  · simp only [year, there, Bool.and_eq_true, decide_eq_true_eq]
    refine ⟨⟨⟨⟨⟨rfl, trivial⟩, trivial⟩, ?_⟩, ?_⟩, ?_⟩ <;> omega
  · rw [shown]
    simp only [days]

/-! ## What is read -/

theorem scanFraction_lt {characters rest : List Char} {nanoseconds : Nat}
    (scans : scanFraction characters = some (nanoseconds, rest)) :
    nanoseconds < nanosecondsPerSecond := by
  unfold scanFraction at scans
  split at scans
  next more =>
    split at scans
    next => cases scans
    next digits after _ span =>
      simp only [Option.some.injEq, Prod.mk.injEq] at scans
      obtain ⟨rfl, -⟩ := scans
      have areDigits : ∀ character ∈ digits.take 9, character.isDigit = true := by
        intro character member
        have within := List.mem_of_mem_take member
        have same : digits = more.takeWhile Char.isDigit := (congrArg Prod.fst span).symm
        rw [same] at within
        exact List.all_eq_true.mp List.all_takeWhile character within
      have less := digitsValue_lt areDigits
      have short : (digits.take 9).length ≤ 9 := List.length_take_le 9 digits
      rw [Nat.pow_eq]
      calc digitsValue (digits.take 9) * 10 ^ (9 - (digits.take 9).length)
          < 10 ^ (digits.take 9).length * 10 ^ (9 - (digits.take 9).length) :=
            Nat.mul_lt_mul_of_pos_right less (Nat.pow_pos (by decide))
        _ = nanosecondsPerSecond := by
            rw [← Nat.pow_add, Nat.add_sub_cancel' short]
            rfl
  next =>
    cases scans
    decide

/-- Offsets are whole minutes. -/
theorem scanOffset_minutes {characters rest : List Char} {offset : Int}
    (scans : scanOffset characters = some (offset, rest)) : offset % 60 = 0 := by
  unfold scanOffset at scans
  extract_lets hoursAndMinutes at scans
  have minutes (negative : Bool) (behind : List Char)
      (scans : hoursAndMinutes negative behind = some (offset, rest)) : offset % 60 = 0 := by
    simp only [hoursAndMinutes] at scans
    split at scans
    · split at scans
      · split at scans
        · split at scans
          · cases negative <;> simp at scans <;> omega
          · cases scans
        · cases scans
      · cases scans
    · cases scans
  clear_value hoursAndMinutes
  split at scans
  · cases scans
    rfl
  · cases scans
    rfl
  · exact minutes _ _ scans
  · exact minutes _ _ scans
  · exact minutes _ _ scans
  · split at scans
    · cases scans
      rfl
    · cases scans
  · cases scans

/-- What is read is as its text shows it. -/
theorem shown_of_parse {text : String} {instant : Instant}
    (parsed : parse? text = some instant) : instant.Shown := by
  unfold Shown
  unfold parse? at parsed
  obtain ⟨⟨year, _⟩, -, parsed⟩ := Option.bind_eq_some_iff.mp parsed
  obtain ⟨_, -, parsed⟩ := Option.bind_eq_some_iff.mp parsed
  obtain ⟨⟨month, _⟩, -, parsed⟩ := Option.bind_eq_some_iff.mp parsed
  obtain ⟨_, -, parsed⟩ := Option.bind_eq_some_iff.mp parsed
  obtain ⟨⟨day, _⟩, -, parsed⟩ := Option.bind_eq_some_iff.mp parsed
  dsimp -zeta only at parsed
  extract_lets date timeOfDay at parsed
  have goesOn : ∃ rest, timeOfDay rest = some instant := by
    split at parsed
    · exact ⟨_, parsed⟩
    · exact ⟨_, parsed⟩
    · exact ⟨_, parsed⟩
    · cases parsed
  obtain ⟨_, parsed⟩ := goesOn
  obtain ⟨⟨hour, _⟩, -, parsed⟩ := Option.bind_eq_some_iff.mp parsed
  obtain ⟨_, -, parsed⟩ := Option.bind_eq_some_iff.mp parsed
  obtain ⟨⟨minute, _⟩, -, parsed⟩ := Option.bind_eq_some_iff.mp parsed
  obtain ⟨_, -, parsed⟩ := Option.bind_eq_some_iff.mp parsed
  obtain ⟨⟨second, _⟩, -, parsed⟩ := Option.bind_eq_some_iff.mp parsed
  obtain ⟨⟨fraction, _⟩, reads, parsed⟩ := Option.bind_eq_some_iff.mp parsed
  obtain ⟨⟨offset, _⟩, shift, parsed⟩ := Option.bind_eq_some_iff.mp parsed
  simp only at parsed
  have less := scanFraction_lt reads
  have minutes := scanOffset_minutes shift
  split at parsed
  next holds =>
    simp only [Bool.and_eq_true, decide_eq_true_eq] at holds
    cases parsed
    obtain ⟨-, short⟩ := holds
    simp only
    rcases Nat.lt_or_eq_of_le short with usual | rfl
    · rw [Nat.div_eq_of_lt usual]
      omega
    · right
      omega
  next => cases parsed

end Instant

end Flowline
