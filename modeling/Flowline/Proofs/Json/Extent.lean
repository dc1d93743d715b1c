import Flowline.Proofs.Json.Reading
import Flowline.Proofs.Json.Scalar
import Flowline.Proofs.Text.Bytes

/-!
# The extent of values

An escape is longer than the character that it stands for, by characters and by bytes, and quotes
and brackets stand around what is in them.  So a text in a value is shorter than the text that the
value was read from, and the more so the deeper it stands.
-/

namespace Flowline

namespace Json

open Text (Measure)

/-! ## Extents -/

mutual

/-- What a text of a value measures at least, for the sake of a text that stands deepest in it:
the characters of the text, its quote and the brackets around it. -/
def extent (measure : Measure) : Json → Nat
  | .null | .bool _ | .number _ => 0
  | .string text => measure.of text.toList + 1
  | .array items => extentOfItems measure items + 1
  | .object members => extentOfMembers measure members + 1
termination_by structural value => value

def extentOfItems (measure : Measure) : List Json → Nat
  | [] => 0
  | item :: rest => max (extent measure item) (extentOfItems measure rest)
termination_by structural items => items

def extentOfMembers (measure : Measure) : List (String × Json) → Nat
  | [] => 0
  | (_, value) :: rest => max (extent measure value) (extentOfMembers measure rest)
termination_by structural members => members

end

variable {measure : Measure} {bound : Nat}

theorem extentOfItems_le_iff {items : List Json} :
    extentOfItems measure items ≤ bound ↔ ∀ item ∈ items, extent measure item ≤ bound := by
  induction items with
  | nil => simp [extentOfItems]
  | cons item rest ih => rw [extentOfItems, Nat.max_le, ih, List.forall_mem_cons]

theorem extentOfMembers_le_iff {members : List (String × Json)} :
    extentOfMembers measure members ≤ bound ↔
      ∀ member ∈ members, extent measure member.2 ≤ bound := by
  induction members with
  | nil => simp [extentOfMembers]
  | cons member rest ih => rw [extentOfMembers, Nat.max_le, ih, List.forall_mem_cons]

theorem extent_lt_array {item : Json} {items : List Json} (listed : item ∈ items) :
    extent measure item < extent measure (.array items) :=
  Nat.lt_succ_of_le (extentOfItems_le_iff.mp le_rfl item listed)

theorem extent_lt_object {member : String × Json} {members : List (String × Json)}
    (listed : member ∈ members) : extent measure member.2 < extent measure (.object members) :=
  Nat.lt_succ_of_le (extentOfMembers_le_iff.mp le_rfl member listed)

/-! ## Quoted texts -/

/-- What the character of a code unit measures; half of a surrogate pair measures half of what
the character of the pair may. -/
def unitWeight (measure : Measure) (unit : Nat) : Nat :=
  if isHighSurrogate unit || isLowSurrogate unit then 2 else measure.weight (Char.ofNat unit)

theorem unitWeight_le_four (unit : Nat) : unitWeight measure unit ≤ 4 := by
  unfold unitWeight
  split
  · decide
  · exact measure.le_four _

theorem unitWeight_toNat (character : Char) :
    unitWeight measure character.toNat = measure.weight character := by
  obtain ⟨high, low⟩ := not_surrogate character
  simp [unitWeight, high, low]

theorem weight_ofNat {unit : Nat} (single : isHighSurrogate unit = false)
    (other : isLowSurrogate unit = false) :
    measure.weight (Char.ofNat unit) = unitWeight measure unit := by
  simp [unitWeight, single, other]

/-- Joined units measure no more than they do by themselves. -/
theorem of_joinUnits_le {units : List Nat} {characters : List Char}
    (joined : joinUnits units = some characters) :
    measure.of characters ≤ (units.map (unitWeight measure)).sum := by
  fun_induction joinUnits units generalizing characters with
  | case1 =>
      cases joined
      exact le_rfl
  | case3 unit single =>
      cases joined
      rw [Bool.not_eq_true, Bool.or_eq_false_iff] at single
      simp [weight_ofNat single.1 single.2]
  | case4 high low rest first second ih =>
      obtain ⟨behind, joins, rfl⟩ := Option.map_eq_some_iff.mp joined
      have pair : unitWeight measure high = 2 ∧ unitWeight measure low = 2 := by
        simp [unitWeight, first, second]
      have few := measure.le_four
        (Char.ofNat (0x10000 + (high - 0xD800) * 0x400 + (low - 0xDC00)))
      have others := ih joins
      simp only [Measure.of_cons, List.map_cons, List.sum_cons]
      omega
  | case7 unit next rest first second ih =>
      obtain ⟨behind, joins, rfl⟩ := Option.map_eq_some_iff.mp joined
      rw [Measure.of_cons, weight_ofNat (Bool.eq_false_iff.mpr first)
        (Bool.eq_false_iff.mpr second), List.map_cons, List.sum_cons]
      exact Nat.add_le_add_left (ih joins) _
  | case2 | case5 | case6 => cases joined

/-- The characters that stand behind a backslash for another one stand for one of ASCII. -/
theorem weight_of_escapedChar? {letter character : Char}
    (stands : escapedChar? letter = some character) : measure.weight character = 1 := by
  refine measure.ascii character ?_
  unfold escapedChar? at stands
  split at stands <;> cases stands <;> decide

/-- Units are read from what measures no less than they do. -/
theorem sum_le_of_readUnits {units : List Nat} {characters rest : List Char}
    (read : readUnits characters = some (units, rest)) :
    (units.map (unitWeight measure)).sum + measure.of rest ≤ measure.of characters := by
  fun_induction readUnits characters generalizing units with
  | case1 | case5 => cases read
  | case2 rest =>
      cases read
      simp
  | case3 a b c d behind ih =>
      obtain ⟨unit, -, read⟩ := Option.bind_eq_some_iff.mp read
      obtain ⟨⟨more, last⟩, reads, same⟩ := Option.bind_eq_some_iff.mp read
      cases same
      have others := ih reads
      have few : unitWeight measure unit ≤ 4 := unitWeight_le_four unit
      have digits := And.intro (And.intro (measure.pos a) (measure.pos b))
        (And.intro (measure.pos c) (measure.pos d))
      simp only [Measure.of_cons, List.map_cons, List.sum_cons]
      omega
  | case4 letter behind _ ih =>
      obtain ⟨character, stands, read⟩ := Option.bind_eq_some_iff.mp read
      obtain ⟨⟨more, last⟩, reads, same⟩ := Option.bind_eq_some_iff.mp read
      cases same
      have others := ih reads
      have single : measure.weight character = 1 := weight_of_escapedChar? stands
      have counts := measure.pos letter
      simp only [Measure.of_cons, List.map_cons, List.sum_cons, unitWeight_toNat, single]
      omega
  | case6 character behind _ _ _ _ ih =>
      obtain ⟨⟨more, last⟩, reads, same⟩ := Option.bind_eq_some_iff.mp read
      cases same
      rw [List.map_cons, List.sum_cons, unitWeight_toNat, Measure.of_cons, Nat.add_assoc]
      exact Nat.add_le_add_left (ih reads) _

/-- A text and what stands behind it measure no more than what they are read from. -/
theorem of_readText_le {text : Option String} {characters rest : List Char}
    (read : readText characters = some (text, rest)) :
    measure.of rest ≤ measure.of characters ∧
      ∀ inside ∈ text, measure.of inside.toList ≤ measure.of characters := by
  obtain ⟨⟨units, last⟩, reads, same⟩ := Option.bind_eq_some_iff.mp read
  cases same
  have whole : (units.map (unitWeight measure)).sum + measure.of rest ≤ measure.of characters :=
    sum_le_of_readUnits reads
  refine ⟨by omega, fun inside found => ?_⟩
  obtain ⟨joined, joins, rfl⟩ := Option.map_eq_some_iff.mp found
  have within : measure.of joined ≤ (units.map (unitWeight measure)).sum := of_joinUnits_le joins
  rw [String.toList_ofList]
  omega

/-! ## Reading -/

/-- What is read from the front of a text leaves no more than the text, and its value has no
larger extent than the text measures. -/
structure Spans (measure : Measure) (characters : List Char) (document : Document)
    (rest : List Char) : Prop where
  left : measure.of rest ≤ measure.of characters
  extent_le : ∀ value, document.value? = some value →
    extent measure value ≤ measure.of characters

variable {characters rest : List Char} {document : Document}

theorem of_skipSpace_le (characters : List Char) :
    measure.of (skipSpace characters) ≤ measure.of characters :=
  measure.of_le_of_sublist (List.dropWhile_sublist _)

/-- A mark behind blanks is taken off. -/
theorem of_lt_of_skipSpace {mark : Char} (skips : skipSpace characters = mark :: rest) :
    measure.of rest < measure.of characters := by
  have skipped : measure.of (skipSpace characters) ≤ measure.of characters :=
    of_skipSpace_le characters
  have counts := measure.pos mark
  rw [skips, Measure.of_cons] at skipped
  omega

theorem Spans.behind_blanks (spans : Spans measure (skipSpace characters) document rest) :
    Spans measure characters document rest where
  left := spans.left.trans (of_skipSpace_le characters)
  extent_le value found := (spans.extent_le value found).trans (of_skipSpace_le characters)

/-- What holds no text has no extent. -/
theorem Spans.of_suffix (suffix : rest <:+ characters)
    (flat : ∀ value, document.value? = some value → extent measure value = 0) :
    Spans measure characters document rest where
  left := measure.of_le_of_sublist suffix.sublist
  extent_le value found := (flat value found).trans_le (Nat.zero_le _)

theorem ReadsNumber.spans (reads : ReadsNumber characters document rest) :
    Spans measure characters document rest := by
  obtain ⟨taken, same, -⟩ := reads.takes
  refine .of_suffix ⟨taken, same.symm⟩ fun value found => ?_
  cases reads with
  | @intro _ _ _ _ whole fraction power negative =>
      cases numeral : numeralOf negative whole fraction power <;> rw [numeral] at found <;>
        cases found
      rfl

section Readers

variable {item : Reader Document}
  (each : ∀ {characters document rest}, item characters = some (document, rest) →
    Spans measure characters document rest)

include each

theorem ReadsItems.spans {items : List Document} (reads : ReadsItems item characters items rest) :
    measure.of rest ≤ measure.of characters ∧ ∀ document ∈ items, ∀ value,
      document.value? = some value → extent measure value ≤ measure.of characters := by
  induction reads with
  | @last _ behind rest _ begins closes =>
      have mark : measure.of rest < measure.of behind := of_lt_of_skipSpace closes
      obtain ⟨left, extent_le⟩ := each begins
      exact ⟨by omega, List.forall_mem_singleton.mpr extent_le⟩
  | @more _ behind further _ _ _ begins continues _ ih =>
      have mark : measure.of further < measure.of behind := of_lt_of_skipSpace continues
      obtain ⟨left, extent_le⟩ := each begins
      obtain ⟨leaves, others⟩ := ih
      refine ⟨by omega, List.forall_mem_cons.mpr ⟨extent_le, fun document listed value found => ?_⟩⟩
      have within := others document listed value found
      omega

theorem ReadsMember.spans {member : Option String × Document}
    (reads : ReadsMember item characters member rest) :
    Spans measure characters member.2 rest := by
  cases reads with
  | @intro quoted named valued _ _ _ opens keyed colon begins =>
      have front : measure.of quoted < measure.of characters := of_lt_of_skipSpace opens
      have key : measure.of named ≤ measure.of quoted := (of_readText_le keyed).1
      have middle : measure.of valued < measure.of named := of_lt_of_skipSpace colon
      obtain ⟨left, extent_le⟩ := each begins
      refine ⟨by omega, fun value found => ?_⟩
      have within := extent_le value found
      omega

theorem ReadsMembers.spans {members : List (Option String × Document)}
    (reads : ReadsMembers item characters members rest) :
    measure.of rest ≤ measure.of characters ∧ ∀ member ∈ members, ∀ value,
      member.2.value? = some value → extent measure value ≤ measure.of characters := by
  induction reads with
  | @last _ behind rest _ begins closes =>
      have mark : measure.of rest < measure.of behind := of_lt_of_skipSpace closes
      obtain ⟨left, extent_le⟩ := begins.spans each
      exact ⟨by omega, List.forall_mem_singleton.mpr extent_le⟩
  | @more _ behind further _ _ _ begins continues _ ih =>
      have mark : measure.of further < measure.of behind := of_lt_of_skipSpace continues
      obtain ⟨left, extent_le⟩ := begins.spans each
      obtain ⟨leaves, others⟩ := ih
      refine ⟨by omega, List.forall_mem_cons.mpr ⟨extent_le, fun member listed value found => ?_⟩⟩
      have within := others member listed value found
      omega

end Readers

/-- The value of a container has an extent of one more than what is in it may have. -/
theorem extent_le_of_array {items : List Document} {value : Json}
    (each : ∀ document ∈ items, ∀ value, document.value? = some value →
      extent measure value ≤ bound)
    (found : (Document.array items).value? = some value) : extent measure value ≤ bound + 1 := by
  obtain ⟨values, all, rfl⟩ := Option.map_eq_some_iff.mp found
  exact Nat.succ_le_succ (extentOfItems_le_iff.mpr (forall_of_valueItems each all))

theorem extent_le_of_object {members : List (Option String × Document)} {value : Json}
    (each : ∀ member ∈ members, ∀ value, member.2.value? = some value →
      extent measure value ≤ bound)
    (found : (Document.object members).value? = some value) : extent measure value ≤ bound + 1 := by
  obtain ⟨entries, all, rfl⟩ := Option.map_eq_some_iff.mp found
  exact Nat.succ_le_succ (extentOfMembers_le_iff.mpr fun member listed =>
    forall_of_valueMembers each all member (Keyed.mem_ofList listed))

/-- A container is read behind its bracket. -/
theorem Spans.of_within {levels : Nat} {inner : List Char} {mark : Char}
    (left : measure.of rest ≤ measure.of inner)
    (extent_le : ∀ value, document.value? = some value →
      extent measure value ≤ measure.of inner + 1) :
    Spans measure (mark :: inner) (Document.within levels document) rest := by
  have counts := measure.pos mark
  refine ⟨by rw [Measure.of_cons]; omega, fun value found => ?_⟩
  unfold Document.within at found
  split at found
  · cases found
  · have within := extent_le value found
    rw [Measure.of_cons]
    omega

theorem ReadsDocument.spans {item : Reader Document} {levels : Nat}
    (reads : ReadsDocument item levels characters document rest)
    (each : ∀ {characters document rest}, item characters = some (document, rest) →
      Spans measure characters document rest) : Spans measure characters document rest := by
  cases reads with
  | emptyObject closes =>
      exact .of_within (of_lt_of_skipSpace closes).le fun value => extent_le_of_object (by simp)
  | @object inner _ _ inside =>
      have skipped : measure.of (skipSpace inner) ≤ measure.of inner := of_skipSpace_le inner
      obtain ⟨left, all⟩ := inside.spans each
      exact .of_within (left.trans skipped) fun value => extent_le_of_object
        fun member listed value found => (all member listed value found).trans skipped
  | emptyArray closes =>
      exact .of_within (of_lt_of_skipSpace closes).le fun value => extent_le_of_array (by simp)
  | @array inner _ _ inside =>
      have skipped : measure.of (skipSpace inner) ≤ measure.of inner := of_skipSpace_le inner
      obtain ⟨left, all⟩ := inside.spans each
      exact .of_within (left.trans skipped) fun value => extent_le_of_array
        fun item listed value found => (all item listed value found).trans skipped
  | @text inner _ text quoted =>
      have counts := measure.pos '"'
      obtain ⟨left, within⟩ : measure.of rest ≤ measure.of inner ∧
          ∀ inside ∈ text, measure.of inside.toList ≤ measure.of inner := of_readText_le quoted
      refine ⟨by rw [Measure.of_cons]; omega, fun value found => ?_⟩
      cases text with
      | none => cases found
      | some text =>
          cases found
          have inside := within text rfl
          rw [extent, Measure.of_cons]
          omega
  | null => exact .of_suffix (List.suffix_append _ _) (by rintro _ ⟨⟩; rfl)
  | bool value => exact .of_suffix (List.suffix_append _ _) (by rintro _ ⟨⟩; rfl)
  | number digits => exact digits.spans

theorem spans_of_readDocument {bound levels : Nat}
    (read : readDocument bound levels characters = some (document, rest)) :
    Spans measure characters document rest := by
  induction bound generalizing levels characters document rest with
  | zero => cases read
  | succ bound ih => exact ((readsDocument_of_readDocument read).spans ih).behind_blanks

/-- The value that is read from a text has no larger extent than the text measures. -/
theorem extent_le_of_parse? {text : String} {value : Json} (read : Json.parse? text = some value) :
    extent measure value ≤ measure.of text.toList := by
  obtain ⟨document, parsed, found⟩ := Option.bind_eq_some_iff.mp read
  obtain ⟨rest, reads, -⟩ := exists_read_of_parse? parsed
  exact (spans_of_readDocument reads).extent_le value found

end Json

end Flowline
