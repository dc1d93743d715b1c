import Flowline.Proofs.Json.Spelling
import Flowline.Proofs.Keyed
import Flowline.Workflow.Document

/-!
# Documents of written values

The document of a value has no unreadable part.  The members of a written record are
found under their names, and those that were left out are not.
-/

namespace Flowline

namespace Json.Document

mutual

/-- Every part of a value is readable. -/
theorem readable_ofValue : ∀ value : Json, (ofValue value).readable = true
  | .null | .bool _ | .number _ | .string _ => rfl
  | .array items => readableItems_ofItems items
  | .object members => readableMembers_ofMembers members
termination_by structural value => value

theorem readableItems_ofItems : ∀ items : List Json, readableItems (ofItems items) = true
  | [] => rfl
  | item :: rest => by
      rw [ofItems, readableItems, readable_ofValue item, readableItems_ofItems rest]
      rfl
termination_by structural items => items

theorem readableMembers_ofMembers : ∀ members : List (String × Json),
    readableMembers (ofMembers members) = true
  | [] => rfl
  | (_, value) :: rest => by
      rw [ofMembers, readableMembers, readable_ofValue value, readableMembers_ofMembers rest]
      rfl
termination_by structural members => members

end

/-- In order of their keys no members are repeated, so the known ones are found. -/
theorem knownMembers?_ofMembers (names : List String) {members : Keyed Json}
    (ascending : members.Ascending) :
    ∃ found, knownMembers? names (ofMembers members) = some found ∧
      ∀ name, Keyed.get? name found =
        if names.contains name then (Keyed.get? name members).map ofValue else none := by
  induction members with
  | nil => exact ⟨[], rfl, by simp⟩
  | cons member rest ih =>
      obtain ⟨key, value⟩ := member
      obtain ⟨first, behind⟩ := List.pairwise_cons.mp ascending
      obtain ⟨found, known, finds⟩ := ih behind
      have single : Keyed.get? key rest = none := by
        rw [Option.eq_none_iff_forall_not_mem]
        intro value member
        exact lt_irrefl key (first _ (Keyed.mem_of_get? member))
      have unrepeated : Keyed.get? key found = none := by simp [finds, single]
      by_cases listed : names.contains key = true
      · refine ⟨(key, ofValue value) :: found, ?_, ?_⟩
        · simp [ofMembers, knownMembers?, known, unrepeated, List.contains_iff_mem.mp listed]
        · intro name
          by_cases same : name = key
          · subst same
            simp [Keyed.get?, List.contains_iff_mem.mp listed]
          · simp [Keyed.get?, same, finds]
      · refine ⟨found, ?_, ?_⟩
        · simp only [ofMembers, knownMembers?, known, if_neg listed]
        · intro name
          by_cases same : name = key
          · subst same
            simp [finds, mt List.contains_iff_mem.mpr listed]
          · simp [Keyed.get?, same, finds]

end Json.Document

open Json Json.Document

/-! ## Written records -/

/-- The members that have a value. -/
def present (members : List (String × Option Json)) : List (String × Json) :=
  members.filterMap fun (key, value) => value.map fun value => (key, value)

theorem lookup_eq_none {α : Type} {key : String} {members : List (String × α)}
    (absent : key ∉ members.map Prod.fst) : members.lookup key = none := by
  rw [List.lookup_eq_none_iff]
  intro member listed
  have different : key ≠ member.1 := fun same => absent (same ▸ List.mem_map_of_mem listed)
  simpa using different

/-- Where keys are not repeated, the value under a key is the one that was given for it. -/
theorem get?_insertAll_present {members : List (String × Option Json)}
    (distinct : (members.map Prod.fst).Nodup) (name : String) (entries : Keyed Json) :
    Keyed.get? name (Keyed.insertAll entries (present members)) =
      (members.lookup name).join.or (Keyed.get? name entries) := by
  induction members generalizing entries with
  | nil => rfl
  | cons member rest ih =>
      obtain ⟨key, value⟩ := member
      obtain ⟨single, others⟩ := List.nodup_cons.mp distinct
      cases value with
      | none =>
          have skipped : present ((key, none) :: rest) = present rest := rfl
          rw [skipped, ih others]
          by_cases same : name = key
          · subst same
            simp [lookup_eq_none single]
          · simp [List.lookup_cons, beq_false_of_ne same]
      | some value =>
          have put : present ((key, some value) :: rest) = (key, value) :: present rest := rfl
          rw [put, Keyed.insertAll_cons, ih others, Keyed.get?_insert]
          by_cases same : name = key
          · subst same
            simp [lookup_eq_none single]
          · simp [List.lookup_cons, beq_false_of_ne same, same]

/-- The fields of a record with its keys in order are found under their names. -/
theorem record?_of_ascending (names : List String) {members : Keyed Json}
    (ascending : members.Ascending) :
    ∃ record, (Document.object (Document.ofMembers members)).record? names = some record ∧
      ∀ name ∈ names, Keyed.get? name record.found = (Keyed.get? name members).map ofValue := by
  obtain ⟨found, known, finds⟩ := knownMembers?_ofMembers names ascending
  refine ⟨⟨false, found⟩, ?_, ?_⟩
  · rw [record?, known]
    rfl
  · intro name listed
    rw [finds, if_pos (List.contains_iff_mem.mpr listed)]

/-- A written record is an object with its keys in order. -/
theorem exists_entries {value : Json} {members : List (String × Option Json)}
    (written : value = presentMembers members) (distinct : (members.map Prod.fst).Nodup) :
    ∃ entries : Keyed Json, value = .object entries ∧ entries.Ascending ∧
      ∀ name, Keyed.get? name entries = (members.lookup name).join := by
  refine ⟨Keyed.ofList (present members), written, Keyed.ascending_ofList _, fun name => ?_⟩
  rw [Keyed.ofList, get?_insertAll_present distinct]
  simp

/-- The fields of a written record are found under their names. -/
theorem record?_of_written (names : List String) {value : Json}
    {members : List (String × Option Json)} (written : value = presentMembers members)
    (distinct : (members.map Prod.fst).Nodup) :
    ∃ record, (ofValue value).record? names = some record ∧
      ∀ name ∈ names, Keyed.get? name record.found = (members.lookup name).join.map ofValue := by
  obtain ⟨entries, rfl, ascending, finds⟩ := exists_entries written distinct
  obtain ⟨record, known, found⟩ := record?_of_ascending names ascending
  exact ⟨record, known, fun name listed => by rw [found name listed, finds]⟩

theorem filter_ofMembers (keeps : Option String → Bool) (members : List (String × Json)) :
    (Document.ofMembers members).filter (fun member => keeps member.1) =
      Document.ofMembers (members.filter fun member => keeps (some member.1)) := by
  induction members with
  | nil => rfl
  | cons member rest ih =>
      obtain ⟨key, value⟩ := member
      cases kept : keeps (some key) <;> simp [Document.ofMembers, kept, ih]

/-- The tag of a written union is split off, and the fields behind it are found under their
names. -/
theorem tagged?_of_written {tag : String} {value : Json} {members : List (String × Option Json)}
    (written : value = presentMembers (("type", some (.string tag)) :: members))
    (distinct : ((("type", some (.string tag)) :: members).map Prod.fst).Nodup) :
    ∃ rest, (ofValue value).tagged? = some (tag, .object rest) ∧
      ∀ names : List String, "type" ∉ names →
        ∃ record, (Document.object rest).record? names = some record ∧
          ∀ name ∈ names,
            Keyed.get? name record.found = (members.lookup name).join.map ofValue := by
  obtain ⟨entries, rfl, ascending, finds⟩ := exists_entries written distinct
  have tagMember := (filter_ofMembers (· == some "type") entries).trans
    (congrArg Document.ofMembers (ascending.filter_key (finds "type")))
  have others := filter_ofMembers (· != some "type") entries
  refine ⟨Document.ofMembers (entries.filter fun member => some member.1 != some "type"), ?_,
    fun names untagged => ?_⟩
  · rw [ofValue, tagged?, if_pos (readableMembers_ofMembers _), tagMember, others]
    rfl
  · obtain ⟨record, known, found⟩ := record?_of_ascending names
      (ascending.filter fun member => some member.1 != some "type")
    refine ⟨record, known, fun name listed => ?_⟩
    have other : name ≠ "type" := fun same => untagged (same ▸ listed)
    have kept : Keyed.get? name (entries.filter fun member => some member.1 != some "type") =
        (members.lookup name).join := by
      refine (Keyed.get?_filter_ne other entries).trans ((finds name).trans ?_)
      rw [List.lookup_cons, beq_false_of_ne other]
    rw [found name listed, kept]

theorem printableMembers_of_forall {levels : Nat} {members : List (String × Json)}
    (printable : ∀ member ∈ members, Printable levels member.2) :
    PrintableMembers levels members := by
  induction members with
  | nil => trivial
  | cons member rest ih =>
      obtain ⟨first, behind⟩ := List.forall_mem_cons.mp printable
      exact ⟨first, ih behind⟩

theorem printable_ofMembers {levels : Nat} {members : List (String × Json)}
    (printable : ∀ member ∈ members, Printable levels member.2) :
    Printable (levels + 1) (.ofMembers members) :=
  printableMembers_of_forall fun _ listed => printable _ (Keyed.mem_ofList listed)

/-- A written record is printed, where its members are. -/
theorem printable_presentMembers {levels : Nat} {members : List (String × Option Json)}
    (printable : ∀ member ∈ members, ∀ value ∈ member.2, Printable levels value) :
    Printable (levels + 1) (presentMembers members) := by
  refine printable_ofMembers fun entry member => ?_
  obtain ⟨given, listed, same⟩ := List.mem_filterMap.mp member
  obtain ⟨value, there, rfl⟩ := Option.map_eq_some_iff.mp same
  exact printable given listed value there

end Flowline
