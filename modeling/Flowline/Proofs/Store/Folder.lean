import Flowline.Proofs.Keyed
import Flowline.Proofs.Store.Document
import Flowline.Proofs.Store.Ledger

/-!
# The ledger of the store in a folder

The store in a folder keeps its ledger in documents, each under the name of its
identifier.  The locks that lie beside them have names of their own.
-/

namespace Flowline.Store.Folder

/-! ## Names -/

theorem documentName_injective {left right : ExecutionId}
    (same : documentName left = documentName right) : left = right :=
  (Ident.display_append_inj ".json").mp same

/-- Documents are named in the order of their identifiers. -/
theorem documentName_lt_iff {left right : ExecutionId} :
    documentName left < documentName right ↔ left.ulid.before right.ulid = true :=
  Ident.display_append_lt_iff ".json"

theorem isDocumentName_documentName (id : ExecutionId) :
    isDocumentName (documentName id) = true := by
  rw [isDocumentName, documentName, String.toList_append, Bool.and_eq_true]
  constructor
  · exact List.isSuffixOf_iff_suffix.mpr (List.suffix_append _ _)
  · simp
    omega

theorem isDocumentName_lockName (id : ExecutionId) : isDocumentName (lockName id) = false := by
  rw [isDocumentName, Bool.and_eq_false_iff]
  left
  rw [Bool.eq_false_iff]
  intro ending
  have document := List.isSuffixOf_iff_suffix.mp ending
  have lock : ".lock".toList <:+ (lockName id).toList := by
    rw [lockName, String.toList_append]
    exact List.suffix_append _ _
  have same := (List.suffix_of_suffix_length_le document lock le_rfl).eq_of_length rfl
  revert same
  decide

theorem documentName_ne_lockName (left right : ExecutionId) :
    documentName left ≠ lockName right := by
  intro same
  have document := isDocumentName_documentName left
  rw [same, isDocumentName_lockName] at document
  cases document

/-! ## Ledgers -/

/-- A folder that holds the documents of a ledger, and locks. -/
structure Keeps (folder : Folder) (ledger : Ledger) : Prop where
  ascending : Keyed.Ascending folder
  own : ∀ {id version}, ledger id = some version → version.record.id = id
  found : ∀ id, (Keyed.get? (documentName id) folder).map Entry.read = (ledger id).map .ok
  named : ∀ entry ∈ folder, isDocumentName entry.1 = true → ∃ id, entry.1 = documentName id
  unlocked : ∀ id, Keyed.get? (lockName id) folder ≠ some .folder

theorem keeps_nil : Keeps [] fun _ => none := ⟨List.Pairwise.nil, nofun, fun _ => rfl, nofun, nofun⟩

variable {folder : Folder} {ledger : Ledger}

/-- A lock is not seen in the ledger. -/
theorem Keeps.lock (keeps : folder.Keeps ledger) (id : ExecutionId) :
    Keeps (Keyed.insert (lockName id) (.file "") folder) ledger where
  ascending := keeps.ascending.insert _ _
  own := keeps.own
  found other := by
    rw [Keyed.get?_insert_of_ne (documentName_ne_lockName other id), keeps.found]
  named entry member document := by
    rcases Keyed.mem_insert member with rfl | member
    · rw [isDocumentName_lockName] at document
      cases document
    · exact keeps.named entry member document
  unlocked other := by
    rw [Keyed.get?_insert]
    split
    · exact nofun
    · exact keeps.unlocked other

/-- What a call does to every folder with a ledger, it does under a lock. -/
theorem Keeps.locked {α : Type} {act : Folder → Except StoreError α × Folder}
    {reply : Except StoreError α} {next : Ledger} (keeps : folder.Keeps ledger) (id : ExecutionId)
    (acts : ∀ guarded : Folder, guarded.Keeps ledger →
      (act guarded).1 = reply ∧ (act guarded).2.Keeps next) :
    (Folder.locked id act folder).1 = reply ∧ (Folder.locked id act folder).2.Keeps next := by
  unfold Folder.locked
  split
  next same => exact (keeps.unlocked id same).elim
  next => exact acts folder keeps
  next => exact acts _ (keeps.lock id)

/-- A document is entered into the ledger as it is read back. -/
theorem Keeps.write (keeps : folder.Keeps ledger) {version : Versioned}
    (fits : version.record.Fits Instant.Allowed) (counted : version.revision.number < UInt64.size) :
    Keeps (write version folder)
      (Function.update ledger version.record.id (some ⟨version.record.settled, version.revision⟩))
    where
  ascending := keeps.ascending.insert _ _
  own {id other} held := by
    by_cases same : id = version.record.id
    · rw [same, Function.update_self] at held
      cases held
      exact same.symm
    · rw [Function.update_of_ne same] at held
      exact keeps.own held
  found id := by
    by_cases same : id = version.record.id
    · rw [same, Folder.write, Keyed.get?_insert_self, Function.update_self]
      simp [Entry.read, Versioned.ofText?_toText fits counted]
    · have other : documentName id ≠ documentName version.record.id :=
        fun names => same (documentName_injective names)
      rw [Folder.write, Keyed.get?_insert_of_ne other, Function.update_of_ne same, keeps.found]
  named entry member document := by
    rcases Keyed.mem_insert member with rfl | member
    · exact ⟨_, rfl⟩
    · exact keeps.named entry member document
  unlocked id := by
    have other : lockName id ≠ documentName version.record.id :=
      (documentName_ne_lockName version.record.id id).symm
    rw [Folder.write, Keyed.get?_insert_of_ne other]
    exact keeps.unlocked id

/-! ## Calls -/

theorem load_keeps (keeps : folder.Keeps ledger) (id : ExecutionId) :
    load id folder = Cell.load id (ledger id) := by
  have found := keeps.found id
  unfold load
  cases held : ledger id with
  | none =>
      rw [held, Option.map_none, Option.map_eq_none_iff] at found
      rw [found]
      rfl
  | some version =>
      rw [held, Option.map_some, Option.map_eq_some_iff] at found
      obtain ⟨entry, there, read⟩ := found
      rw [there]
      exact read

theorem create_keeps (keeps : folder.Keeps ledger) {record : Execution}
    (fits : record.Fits Instant.Allowed) :
    (create record folder).1 = (Cell.create record.settled (ledger record.id)).1 ∧
      (create record folder).2.Keeps (ledger.after (.create record.settled)) := by
  rw [create]
  refine keeps.locked record.id fun guarded keeps => ?_
  have found := keeps.found record.id
  cases held : ledger record.id with
  | none =>
      rw [held, Option.map_none, Option.map_eq_none_iff] at found
      have first : Revision.first.number < UInt64.size := by decide
      have absent : ledger record.settled.id = none := held
      rw [Ledger.after_create_of_none absent]
      simp only [found]
      exact ⟨rfl, keeps.write fits first⟩
  | some version =>
      rw [held, Option.map_some, Option.map_eq_some_iff] at found
      obtain ⟨entry, there, -⟩ := found
      have present : ledger record.settled.id = some version := held
      rw [Ledger.after_create_of_some present]
      simp only [there]
      exact ⟨rfl, keeps⟩

theorem save_keeps (keeps : folder.Keeps ledger) {record : Execution}
    (fits : record.Fits Instant.Allowed) {expected : Revision}
    (counted : expected.next.number < UInt64.size) :
    (save record expected folder).1 = (Cell.save record.settled expected (ledger record.id)).1 ∧
      (save record expected folder).2.Keeps (ledger.after (.save record.settled expected)) := by
  rw [save]
  refine keeps.locked record.id fun guarded keeps => ?_
  simp only [load_keeps keeps]
  cases held : ledger record.id with
  | none =>
      have absent : ledger record.settled.id = none := held
      rw [Ledger.after_save_of_none absent]
      exact ⟨rfl, keeps⟩
  | some version =>
      have present : ledger record.settled.id = some version := held
      by_cases same : version.revision = expected
      · rw [Ledger.after_save_of_eq present same]
        simp only [Cell.load, Cell.save, same, ne_eq, not_true, if_false]
        exact ⟨trivial, keeps.write fits counted⟩
      · rw [Ledger.after_save_of_ne present same]
        simp only [Cell.load, Cell.save, same, ne_eq, not_false_eq_true, if_true]
        exact ⟨rfl, keeps⟩

/-! ## Lists -/

/-- The version in the document of an entry, if it is one. -/
def version? (entry : String × Entry) : Option Versioned :=
  if isDocumentName entry.1 then entry.2.read.toOption else none

/-- Every document is that of a version of the ledger. -/
theorem Keeps.document {entry : String × Entry} (keeps : folder.Keeps ledger)
    (member : entry ∈ folder) (document : isDocumentName entry.1 = true) :
    ∃ version, entry.2.read = .ok version ∧ entry.1 = documentName version.record.id ∧
      ledger version.record.id = some version := by
  obtain ⟨id, name⟩ := keeps.named entry member document
  obtain ⟨key, item⟩ := entry
  change key = documentName id at name
  subst name
  have found := keeps.found id
  rw [keeps.ascending.get? member, Option.map_some, eq_comm, Option.map_eq_some_iff] at found
  obtain ⟨version, held, read⟩ := found
  have own := keeps.own held
  exact ⟨version, read.symm, by rw [own], by rw [own, held]⟩

/-- Where every document is readable, all of them are read. -/
theorem readAll_eq (readable : ∀ entry ∈ folder, isDocumentName entry.1 = true →
    ∃ version, entry.2.read = .ok version) :
    readAll folder = .ok ((folder.filterMap version?).map Versioned.record) := by
  induction folder with
  | nil => rfl
  | cons entry rest ih =>
      obtain ⟨first, behind⟩ := List.forall_mem_cons.mp readable
      rw [readAll, ih behind]
      by_cases document : isDocumentName entry.1 = true
      · obtain ⟨version, read⟩ := first document
        simp [version?, document, read, Except.toOption]
      · simp [version?, document]

theorem mem_versions_iff (keeps : folder.Keeps ledger) (version : Versioned) :
    version ∈ folder.filterMap version? ↔ ledger version.record.id = some version := by
  rw [List.mem_filterMap]
  constructor
  · rintro ⟨entry, member, shown⟩
    unfold version? at shown
    split at shown
    next document =>
      obtain ⟨held, read, -, known⟩ := keeps.document member document
      rw [read] at shown
      cases shown
      exact known
    next => cases shown
  · intro held
    have found := keeps.found version.record.id
    rw [held, Option.map_some, Option.map_eq_some_iff] at found
    obtain ⟨entry, there, read⟩ := found
    refine ⟨_, Keyed.mem_of_get? there, ?_⟩
    rw [version?, if_pos (isDocumentName_documentName _), read]
    rfl

/-- The documents stand in the order of the identifiers. -/
theorem versions_ordered (keeps : folder.Keeps ledger) :
    (folder.filterMap version?).Pairwise fun left right =>
      left.record.id.ulid.before right.record.id.ulid = true := by
  have shows {entry : String × Entry} {version : Versioned} (member : entry ∈ folder)
      (shown : version? entry = some version) : entry.1 = documentName version.record.id := by
    unfold version? at shown
    split at shown
    next document =>
      obtain ⟨held, read, name, -⟩ := keeps.document member document
      rw [read] at shown
      cases shown
      exact name
    next => cases shown
  rw [List.pairwise_filterMap]
  refine keeps.ascending.imp_of_mem fun {left right} first second before => ?_
  intro version here other there
  rw [shows first here, shows second there] at before
  exact documentName_lt_iff.mp before

theorem list_keeps (keeps : folder.Keeps ledger) (workflowId : WorkflowId) :
    ∃ records, list workflowId folder = .ok records ∧ ledger.Lists workflowId records := by
  have readable (entry : String × Entry) (member : entry ∈ folder)
      (document : isDocumentName entry.1 = true) : ∃ version, entry.2.read = .ok version := by
    obtain ⟨version, read, -⟩ := keeps.document member document
    exact ⟨version, read⟩
  have lists :=
    Ledger.lists_of_versions (versions_ordered keeps) (mem_versions_iff keeps) workflowId
  refine ⟨_, ?_, lists⟩
  rw [list, readAll_eq readable, Except.map, Except.ok.injEq]
  -- The documents are read in order, so that sorting changes nothing.
  apply List.mergeSort_of_pairwise
  refine lists.ordered.imp fun before => ?_
  simp only [Ulid.before, decide_eq_true_eq, Bool.not_eq_true', decide_eq_false_iff_not] at before ⊢
  exact lt_asymm before

end Flowline.Store.Folder
