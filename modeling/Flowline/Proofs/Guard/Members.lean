import Flowline.Proofs.Guard.Infix

/-!
# Members of compounds

A member of a compound may be given as a value or as a text of that value, and a comparison also
in infix form; a text that is no guard stands for a member that is false.  The condition is the
same, however many members at whatever depth are given in one way or the other, since what a
member becomes depends on that member alone.
-/

namespace Flowline.Guard

open Text

/-- The condition of a member of a compound. -/
def Condition.ofMember : Json → Condition :=
  memberBy (fun text => orFalse (Condition.parse text)) Condition.ofJson

/-- The same member in other words: a value by its text, a comparison in infix form, a text that
is no guard as what it counts for, and a compound with one of its members in other words. -/
inductive Rewords : Json → Json → Prop where
  | text {item : Json} {text : String} (other : ∀ inner, item ≠ .string inner)
      (reads : Json.parse? (trimmed text) = some item) : Rewords item (.string text)
  | comparison {members : Keyed Json} {text : String} {condition : Condition}
      (compares : comparisonOf? members = some condition)
      (spells : infixOf? (trim text.toList) = some condition) :
      Rewords (.object members) (.string text)
  | unread {text : String} {error : ReadError} (fails : Condition.parse text = .error error) :
      Rewords (.string text) (.bool false)
  | compound {members others : Keyed Json} {front back : List Json} {item retold : Json}
      (rewords : Rewords item retold)
      (listed : Keyed.get? "conditions" members = some (.array (front ++ item :: back)))
      (relisted : Keyed.get? "conditions" others = some (.array (front ++ retold :: back)))
      (alike : ∀ key, key ≠ "conditions" → Keyed.get? key members = Keyed.get? key others) :
      Rewords (.object members) (.object others)

variable {item retold value : Json} {members others : Keyed Json} {items : List Json}

/-! ## Members -/

theorem ofMember_of_value (other : ∀ inner, value ≠ .string inner) :
    Condition.ofMember value = Condition.ofJson value := by
  cases value with
  | string text => exact (other text rfl).elim
  | null | bool value | number value | array items | object members => rfl

theorem ofMember_string (text : String) :
    Condition.ofMember (.string text) = orFalse (Condition.parse text) := rfl

/-- The members of a compound are read one by one. -/
theorem ofJson_compound (compound : comparisonOf? members = none)
    (listed : Keyed.get? "conditions" members = some (.array items)) :
    Condition.ofJson (.object members) =
      .compound (logicOf (Keyed.get? "logic" members)) (items.map Condition.ofMember) := by
  rw [ofJson_eq_valueBy, valueBy, compound, listed]
  rfl

/-- Only three keys make a comparison. -/
theorem comparisonOf?_congr
    (alike : ∀ key, key ≠ "conditions" → Keyed.get? key members = Keyed.get? key others) :
    comparisonOf? members = comparisonOf? others := by
  rw [comparisonOf?, comparisonOf?, alike "field" (by decide), alike "operator" (by decide),
    alike "value" (by decide)]

/-! ## Other words -/

/-- A member in other words is the same condition. -/
theorem Rewords.ofMember_eq (rewords : Rewords item retold) :
    Condition.ofMember item = Condition.ofMember retold := by
  induction rewords with
  | text other reads =>
      rw [ofMember_of_value other, ofMember_string, parse_of_parse? reads]
      rfl
  | comparison compares spells =>
      rw [ofMember_of_value (by simp), ofJson_comparison compares, ofMember_string,
        parse_of_infixOf? spells]
      rfl
  | unread fails =>
      rw [ofMember_string, fails]
      rfl
  | @compound members others _ _ _ _ _ listed relisted alike ih =>
      rw [ofMember_of_value (by simp), ofMember_of_value (by simp)]
      -- An object that is a comparison has no members, whatever it lists.
      have compared := comparisonOf?_congr alike
      cases compares : comparisonOf? members with
      | some condition =>
          rw [ofJson_comparison compares, ofJson_comparison (compared.symm.trans compares)]
      | none =>
          rw [ofJson_compound compares listed,
            ofJson_compound (compared.symm.trans compares) relisted, alike "logic" (by decide),
            List.map_append, List.map_append, List.map_cons, List.map_cons, ih]

/-- Any number of members in other words, one after the other, leave the condition as it is. -/
theorem ofMember_eq_of_eqvGen (rewords : Relation.EqvGen Rewords item retold) :
    Condition.ofMember item = Condition.ofMember retold :=
  (InvImage.equivalence Eq Condition.ofMember eq_equivalence).eqvGen_iff.mp
    (rewords.mono fun _ _ => Rewords.ofMember_eq)

/-- Members in other words make the same guard.  A text that is no guard makes its member false
and leaves the others, and the guard around it is read all the same.  What is printed for a value
is a text of it, and what spells a comparison in infix form is read as that. -/
theorem members_in_other_words :
    (∀ item retold, Relation.EqvGen Rewords item retold →
      Condition.ofMember item = Condition.ofMember retold) ∧
    (∀ members others first second,
      Relation.EqvGen Rewords (.object members) (.object others) →
      Json.parse? (trimmed first) = some (.object members) →
      Json.parse? (trimmed second) = some (.object others) →
      (∃ condition, Condition.parse first = .ok condition ∧
        Condition.parse second = .ok condition) ∧
      ∀ context, holds first context = holds second context) ∧
    (∀ expression members items, Json.parse? (trimmed expression) = some (.object members) →
      comparisonOf? members = none → Keyed.get? "conditions" members = some (.array items) →
      Condition.parse expression =
        .ok (.compound (logicOf (Keyed.get? "logic" members)) (items.map Condition.ofMember))) ∧
    (∀ text error, Condition.parse text = .error error →
      Condition.ofMember (.string text) = .literal false) ∧
    (∀ value, Json.Stays Json.nestingLimit value →
      Json.parse? (trimmed value.compact) = some value ∧
      Json.parse? (trimmed value.indented) = some value) ∧
    ∀ field symbol value (text : String), SpellsInfix field symbol value (trim text.toList) →
      infixOf? (trim text.toList) = some (.comparison field (Operator.parse symbol) value) := by
  refine ⟨fun item retold => ofMember_eq_of_eqvGen,
    fun members others first second rewords reads rereads => ?_,
    fun expression members items reads compound listed => ?_, fun text error fails => ?_,
    fun value stays => ⟨Json.Stays.parse?_compact stays, Json.Stays.parse?_indented stays⟩,
    fun field symbol value text => SpellsInfix.infixOf?_eq⟩
  · have same : Condition.ofJson (.object members) = Condition.ofJson (.object others) :=
      ofMember_eq_of_eqvGen rewords
    have second : Condition.parse second = .ok (Condition.ofJson (.object members)) := by
      rw [parse_of_parse? rereads, same]
    refine ⟨⟨_, parse_of_parse? reads, second⟩, fun context => ?_⟩
    rw [holds, holds, parse_of_parse? reads, second]
  · rw [parse_of_parse? reads, ofJson_compound compound listed]
  · rw [ofMember_string, fails]
    rfl

/-- A truth value and a compound become texts, a comparison in the latter is put in infix form,
and a text that is no guard counts for false. -/
theorem members_in_other_words_nested :
    let compound (logic : String) (items : List Json) :=
      Json.object [("conditions", .array items), ("logic", .string logic)]
    let comparison := Json.object
      [("field", .string "x"), ("operator", .string "eq"), ("value", .number (.integer 1))]
    let values := compound "or"
      [.bool false, compound "and" [comparison, .bool true], .string "==="]
    let texts := compound "or" [.string "false",
      .string (compound "and" [.string "x == 1", .bool true]).compact, .bool false]
    (∃ condition, Condition.parse values.compact = .ok condition ∧
      Condition.parse texts.compact = .ok condition) ∧
    ∀ context, holds values.compact context = holds texts.compact context := by
  intro compound comparison values texts
  have within (logic : String) (front back : List Json) {item retold : Json}
      (rewords : Rewords item retold) :
      Rewords (compound logic (front ++ item :: back)) (compound logic (front ++ retold :: back)) :=
    .compound rewords rfl rfl fun key other => by simp [Keyed.get?, other]
  obtain ⟨-, agree, -, -, prints, compares⟩ := members_in_other_words
  have one : (Json.Numeral.integer 1).Legible :=
    Json.Numeral.legible_integer (by decide) (by decide)
  have named : SpellsField "x".toList :=
    ⟨by decide, by simpa [isFieldChar_iff] using
      List.all_eq_true.mp (by decide : "x".toList.all isFieldChar = true), by decide, by decide⟩
  have spells : SpellsInfix "x" "==" (.number (.integer 1)) (trim "x == 1".toList) :=
    @SpellsInfix.around "x" "==" _ [' '] [' '] _ named (by decide)
      (List.forall_mem_singleton.mpr rfl) (List.forall_mem_singleton.mpr rfl) (by decide)
      (.bare (.integer (by decide) (by decide)))
  have truth : Rewords (.bool false) (.string "false") := .text (by simp) (by decide +kernel)
  have inLine : Rewords comparison (.string "x == 1") :=
    .comparison rfl (compares "x" "==" _ "x == 1" spells)
  have written : Rewords (compound "and" [.string "x == 1", .bool true])
      (.string (compound "and" [.string "x == 1", .bool true]).compact) :=
    .text (by simp [compound]) (by decide +kernel)
  have fails : Condition.parse "===" = .error (.unrecognised "===") := by
    have json : Json.parse? (trimmed "===") = none := by decide +kernel
    have unsplit : infixOf? (trim "===".toList) = none := by decide +kernel
    rw [parse_eq_textBy, textBy, if_neg (by decide), json, unsplit]
    rfl
  have rewords : Relation.EqvGen Rewords values texts :=
    .trans _ _ _ (.rel _ _ (within "or" [] _ truth))
      (.trans _ _ _ (.rel _ _ (within "or" [_] _ (within "and" [] [.bool true] inLine)))
        (.trans _ _ _ (.rel _ _ (within "or" [_] _ written))
          (.rel _ _ (within "or" [_, _] [] (.unread fails)))))
  have valuesStay : Json.Stays Json.nestingLimit values :=
    ⟨⟨⟨trivial, ⟨⟨⟨trivial, trivial, one, trivial⟩, trivial, trivial⟩, trivial, trivial⟩,
      trivial, trivial⟩, trivial, trivial⟩, by decide +kernel⟩
  have textsStay : Json.Stays Json.nestingLimit texts :=
    ⟨⟨⟨trivial, trivial, trivial, trivial⟩, trivial, trivial⟩, by decide +kernel⟩
  exact agree _ _ _ _ rewords (prints values valuesStay).1 (prints texts textsStay).1

end Flowline.Guard
