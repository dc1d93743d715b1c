import Flowline.Proofs.Store.Folder
import Flowline.Proofs.Store.Memory

/-!
# What clients see of a store

Both stores keep a ledger, the one in a folder with every instant as its text shows it.
So they cannot be told apart as long as texts show all of an instant, and whatever holds
of ledgers holds of both: no update is lost.
-/

namespace Flowline.Store

/-- A call whose record fits and whose revision can be counted on. -/
def Call.Fits (kind : Instant → Prop) : Call → Prop
  | .create record => record.Fits kind
  | .save record expected => record.Fits kind ∧ expected.next.number < UInt64.size
  | .load _ | .list _ => True

instance (kind : Instant → Prop) [DecidablePred kind] : (call : Call) → Decidable (call.Fits kind)
  | .create record => inferInstanceAs (Decidable (record.Fits kind))
  | .save record expected =>
      inferInstanceAs (Decidable (record.Fits kind ∧ expected.next.number < UInt64.size))
  | .load _ | .list _ => isTrue trivial

/-- A record as it comes back from a store. -/
def kept : Store → Execution → Execution
  | memory _, record => record
  | folder _, record => record.settled

/-- A call with the record that comes back. -/
def Call.kept (store : Store) : Call → Call
  | .create record => .create (store.kept record)
  | .save record expected => .save (store.kept record) expected
  | call => call

/-- A store that holds the versions of a ledger. -/
def Keeps : Store → Ledger → Prop
  | memory records, ledger => Memory.Keeps records ledger
  | folder entries, ledger => Folder.Keeps entries ledger

theorem empty_keeps (kind : String) : (empty kind).Keeps fun _ => none := by
  unfold empty
  split
  · exact Folder.keeps_nil
  · exact Memory.keeps_nil

variable {store : Store} {ledger : Ledger} {call : Call} {calls : List Call}

@[simp] theorem kept_id (store : Store) (record : Execution) :
    (store.kept record).id = record.id := by
  cases store <;> rfl

theorem kept_id? (store : Store) (call : Call) : (call.kept store).id? = call.id? := by
  cases call <;> simp [Call.kept, Call.id?]

theorem load_keeps (keeps : store.Keeps ledger) (id : ExecutionId) :
    store.load id = Cell.load id (ledger id) := by
  cases store with
  | memory records => exact Memory.load_keeps keeps id
  | folder entries => exact Folder.load_keeps keeps id

theorem list_keeps (keeps : store.Keeps ledger) (workflowId : WorkflowId) :
    ∃ records, store.list workflowId = .ok records ∧ ledger.Lists workflowId records := by
  cases store with
  | memory records => exact ⟨_, rfl, Memory.list_keeps keeps workflowId⟩
  | folder entries => exact Folder.list_keeps keeps workflowId

theorem create_keeps (keeps : store.Keeps ledger) {record : Execution}
    (fits : record.Fits Instant.Allowed) :
    (store.create record).1 = (Cell.create (store.kept record) (ledger record.id)).1 ∧
      (store.create record).2.Keeps (ledger.after (.create (store.kept record))) := by
  cases store with
  | memory records => exact Memory.create_keeps keeps record
  | folder entries => exact Folder.create_keeps keeps fits

theorem save_keeps (keeps : store.Keeps ledger) {record : Execution}
    (fits : record.Fits Instant.Allowed) {expected : Revision}
    (counted : expected.next.number < UInt64.size) :
    (store.save record expected).1 =
        (Cell.save (store.kept record) expected (ledger record.id)).1 ∧
      (store.save record expected).2.Keeps (ledger.after (.save (store.kept record) expected)) := by
  cases store with
  | memory records => exact Memory.save_keeps keeps record expected
  | folder entries => exact Folder.save_keeps keeps fits counted

/-- A call is answered from the ledger and enters what comes back of it. -/
theorem answer_keeps (keeps : store.Keeps ledger) (fits : call.Fits Instant.Allowed) :
    ledger.Answers (call.kept store) (store.answer call).1 ∧
      (store.answer call).2.Keeps (ledger.after (call.kept store)) := by
  cases call with
  | create record =>
      obtain ⟨reply, next⟩ := create_keeps keeps fits
      refine ⟨?_, next⟩
      rw [Call.kept, Ledger.Answers, kept_id, ← reply]
      rfl
  | load id => exact ⟨congrArg Answer.loaded (load_keeps keeps id), keeps⟩
  | save record expected =>
      obtain ⟨reply, next⟩ := save_keeps keeps fits.1 fits.2
      refine ⟨?_, next⟩
      rw [Call.kept, Ledger.Answers, kept_id, ← reply]
      rfl
  | list workflowId =>
      obtain ⟨records, reply, lists⟩ := list_keeps keeps workflowId
      exact ⟨⟨records, congrArg Answer.listed reply, lists⟩, keeps⟩

/-! ## Stores of both kinds -/

theorem Call.Fits.mono {kind other : Instant → Prop} (fits : call.Fits kind)
    (weaker : ∀ {instant}, kind instant → other instant) : call.Fits other := by
  cases call with
  | create record => exact Execution.Fits.mono fits weaker
  | save record expected => exact ⟨fits.1.mono weaker, fits.2⟩
  | load | list => trivial

/-- Where texts show all of an instant, a call comes back as it was made. -/
theorem kept_eq (fits : call.Fits Instant.Regular) (store : Store) : call.kept store = call := by
  have same {record : Execution} (fits : record.Fits Instant.Regular) :
      store.kept record = record := by
    cases store with
    | memory records => rfl
    | folder entries => exact fits.settled
  cases call with
  | create record => rw [Call.kept, same fits]
  | save record expected => rw [Call.kept, same fits.1]
  | load | list => rfl

/-- Two stores with one ledger answer alike. -/
theorem history_eq_of_keeps {left right : Store} (first : left.Keeps ledger)
    (second : right.Keeps ledger) (fits : ∀ call ∈ calls, call.Fits Instant.Regular) :
    left.history calls = right.history calls := by
  induction calls generalizing left right ledger with
  | nil => rfl
  | cons call calls ih =>
      obtain ⟨regular, rest⟩ := List.forall_mem_cons.mp fits
      obtain ⟨here, next⟩ := answer_keeps first (regular.mono Instant.Regular.allowed)
      obtain ⟨there, also⟩ := answer_keeps second (regular.mono Instant.Regular.allowed)
      rw [kept_eq regular] at here next there also
      rw [history, history, here.unique there, ih next also rest]

/-- A store in memory and one in a folder give every client the same answers. -/
theorem memory_answers_as_folder (fits : ∀ call ∈ calls, call.Fits Instant.Regular) :
    (empty "memory").history calls = (empty "file").history calls :=
  history_eq_of_keeps (empty_keeps "memory") (empty_keeps "file") fits

/-- A record that was running for a second and a half. -/
def sample : Execution where
  id := ⟨⟨0x018DF0C5A1B2C3D4E5F60718293A4B5C#128⟩⟩
  workflowId := ⟨⟨0x018DF0C5A1B2C3D4E5F60718293A4B00#128⟩⟩
  workflowName := "Flow \x22one\x22"
  workflowVersion := 3
  status := .failed
  startedAt := ⟨1709287200, 7⟩
  completedAt := some ⟨1709287201, 500000000⟩
  duration := some 1500
  error := some ⟨"it broke", none⟩
  logs := [⟨⟨1709287200, 120⟩, .warn, "once more", some "n"⟩]

/-- Two clients save over the first revision of one record. -/
def contested : List Call :=
  [.create sample, .save sample ⟨1⟩, .save { sample with duration := none } ⟨1⟩,
    .load sample.id, .list sample.workflowId]

theorem folder_answers_contested :
    ((empty "file").history contested).map Prod.snd =
      [.written (.ok ⟨1⟩), .written (.ok ⟨2⟩), .written (.error (.conflict sample.id 1 2)),
        .loaded (.ok ⟨sample, ⟨2⟩⟩), .listed (.ok [sample])] := by
  rw [← memory_answers_as_folder (by decide +kernel)]
  decide +kernel

/-! ## Histories -/

theorem replacedBy?_kept (store : Store) (id : ExecutionId) (call : Call) (answer : Answer) :
    replacedBy? id (call.kept store, answer) = replacedBy? id (call, answer) := by
  cases call with
  | create | load | list => rfl
  | save record expected =>
      cases answer with
      | loaded | listed => rfl
      | written reply => cases reply <;> simp [Call.kept, replacedBy?]

/-- A store behind a history keeps a ledger to which the history has led. -/
theorem history_keeps {past : List (Call × Answer)} (keeps : store.Keeps ledger)
    (reflects : ∀ id, Ledger.Reflects id (ledger id) (replaced id past))
    (fits : ∀ call ∈ calls, call.Fits Instant.Allowed) :
    ∃ next, (store.after calls).Keeps next ∧
      ∀ id, Ledger.Reflects id (next id) (replaced id (past ++ store.history calls)) := by
  induction calls generalizing store ledger past with
  | nil => exact ⟨ledger, keeps, by simpa [history] using reflects⟩
  | cons call calls ih =>
      obtain ⟨fits, rest⟩ := List.forall_mem_cons.mp fits
      obtain ⟨answers, next⟩ := answer_keeps keeps fits
      have step (id : ExecutionId) : Ledger.Reflects id (ledger.after (call.kept store) id)
          (replaced id (past ++ [(call, (store.answer call).1)])) := by
        have behind := Ledger.reflects_after reflects answers id
        rwa [Ledger.replaced_concat, replacedBy?_kept, ← Ledger.replaced_concat] at behind
      have whole := ih next step rest
      rwa [List.append_assoc] at whole

/-- What clients can rely on behind a history. -/
structure Reliable (history : List (Call × Answer)) (store : Store) : Prop where
  /-- A record is there or it is not. -/
  loads : ∀ id, store.load id = .error (.notFound id) ∨ ∃ held, store.load id = .ok held
  /-- The revision of a record is one more than the count of its saves. -/
  counts : ∀ {id held}, store.load id = .ok held →
    held.record.id = id ∧ held.revision.number = 1 + (replaced id history).length
  /-- The saves of a record replaced its revisions without a gap. -/
  chain : ∀ id, replaced id history = List.range' 1 (replaced id history).length
  /-- No revision of a record was replaced twice. -/
  once : ∀ id, (replaced id history).Nodup
  /-- A record is created exactly where there is none. -/
  creates : ∀ {record}, record.Fits Instant.Allowed →
    ((∃ revision, (store.create record).1 = .ok revision) ↔
      store.load record.id = .error (.notFound record.id))
  /-- A record is saved exactly over the revision that is expected. -/
  saves : ∀ {record expected}, record.Fits Instant.Allowed →
    expected.next.number < UInt64.size →
    ((∃ revision, (store.save record expected).1 = .ok revision) ↔
      ∃ held, store.load record.id = .ok held ∧ held.revision = expected)
  /-- What is created is there at the first revision. -/
  created : ∀ {record revision}, record.Fits Instant.Allowed →
    (store.create record).1 = .ok revision →
    revision = .first ∧
      (store.create record).2.load record.id = .ok ⟨store.kept record, revision⟩
  /-- What is saved is there at the next revision. -/
  saved : ∀ {record expected revision}, record.Fits Instant.Allowed →
    expected.next.number < UInt64.size → (store.save record expected).1 = .ok revision →
    revision = expected.next ∧
      (store.save record expected).2.load record.id = .ok ⟨store.kept record, revision⟩
  /-- A call that is refused changes no record and no revision. -/
  refused : ∀ {call : Call} {error}, call.Fits Instant.Allowed →
    (store.answer call).1.refusal? = some error →
    ∀ id, (store.answer call).2.load id = store.load id
  /-- A call changes no record but the one that it is about. -/
  others : ∀ {call : Call} {id}, call.Fits Instant.Allowed → call.id? ≠ some id →
    (store.answer call).2.load id = store.load id
  /-- A list has the records of a workflow, each once and in the order of their
  identifiers. -/
  lists : ∀ workflowId, ∃ records, store.list workflowId = .ok records ∧
    (records.Pairwise fun left right => left.id.ulid.before right.id.ulid = true) ∧
    ∀ record, record ∈ records ↔ record.workflowId = workflowId ∧
      ∃ revision, store.load record.id = .ok ⟨record, revision⟩

theorem load_eq_ok (keeps : store.Keeps ledger) {id : ExecutionId} {held : Versioned} :
    store.load id = .ok held ↔ ledger id = some held := by
  rw [load_keeps keeps]
  cases ledger id <;> simp [Cell.load]

theorem load_eq_notFound (keeps : store.Keeps ledger) {id : ExecutionId} :
    store.load id = .error (.notFound id) ↔ ledger id = none := by
  rw [load_keeps keeps]
  cases ledger id <;> simp [Cell.load]

theorem create_eq_ok (keeps : store.Keeps ledger) {record : Execution}
    (fits : record.Fits Instant.Allowed) {revision : Revision} :
    (store.create record).1 = .ok revision ↔ ledger record.id = none ∧ revision = .first := by
  rw [(create_keeps keeps fits).1]
  cases ledger record.id <;> simp [Cell.create, eq_comm]

theorem save_eq_ok (keeps : store.Keeps ledger) {record : Execution} {expected : Revision}
    (fits : record.Fits Instant.Allowed) (counted : expected.next.number < UInt64.size)
    {revision : Revision} :
    (store.save record expected).1 = .ok revision ↔
      (∃ held, ledger record.id = some held ∧ held.revision = expected) ∧
        revision = expected.next := by
  rw [(save_keeps keeps fits counted).1]
  cases ledger record.id with
  | none => simp [Cell.save]
  | some held =>
      by_cases same : held.revision = expected
      · simp [Cell.save, same, eq_comm]
      · simp [Cell.save, same]

/-- A store with the ledger of a history is reliable. -/
theorem reliable_of_keeps {past : List (Call × Answer)} (keeps : store.Keeps ledger)
    (reflects : ∀ id, Ledger.Reflects id (ledger id) (replaced id past)) :
    Reliable past store where
  loads id := by
    rw [load_eq_notFound keeps]
    simp only [load_eq_ok keeps]
    exact Option.eq_none_or_eq_some (ledger id)
  counts {id held} found := by
    have behind := reflects id
    rw [(load_eq_ok keeps).mp found] at behind
    generalize replaced id past = numbers at behind
    cases behind with
    | held count own => exact ⟨own, by simp [Nat.add_comm]⟩
  chain id := by
    have behind := reflects id
    generalize ledger id = cell, replaced id past = numbers at behind
    cases behind <;> simp
  once id := by
    have behind := reflects id
    generalize ledger id = cell, replaced id past = numbers at behind
    cases behind with
    | absent => exact List.nodup_nil
    | held count => exact List.nodup_range'
  creates fits := by
    simp [create_eq_ok keeps fits, load_eq_notFound keeps]
  saves fits counted := by
    simp [save_eq_ok keeps fits counted, load_eq_ok keeps]
  created {record revision} fits accepted := by
    obtain ⟨absent, rfl⟩ := (create_eq_ok keeps fits).mp accepted
    refine ⟨rfl, (load_eq_ok (create_keeps keeps fits).2).mpr ?_⟩
    rw [← kept_id store] at absent ⊢
    rw [Ledger.after_create_of_none absent, Function.update_self]
  saved {record expected revision} fits counted accepted := by
    obtain ⟨⟨held, there, rfl⟩, rfl⟩ := (save_eq_ok keeps fits counted).mp accepted
    refine ⟨rfl, (load_eq_ok (save_keeps keeps fits counted).2).mpr ?_⟩
    rw [← kept_id store] at there ⊢
    rw [Ledger.after_save_of_eq there rfl, Function.update_self]
  refused {call error} fits refused id := by
    obtain ⟨answers, next⟩ := answer_keeps keeps fits
    rw [load_keeps next, load_keeps keeps, Ledger.after_of_refused answers refused]
  others {call id} fits different := by
    obtain ⟨answers, next⟩ := answer_keeps keeps fits
    rw [← kept_id? store] at different
    rw [load_keeps next, load_keeps keeps, Ledger.after_of_ne different]
  lists workflowId := by
    obtain ⟨records, read, lists⟩ := list_keeps keeps workflowId
    refine ⟨records, read, lists.ordered, fun record => ?_⟩
    simp only [lists.mem_iff, load_eq_ok keeps]

/-- Whatever clients have asked of a store that began empty, no update of theirs is lost. -/
theorem no_update_lost (kind : String) (fits : ∀ call ∈ calls, call.Fits Instant.Allowed) :
    Reliable ((empty kind).history calls) ((empty kind).after calls) := by
  have begins (id : ExecutionId) : Ledger.Reflects id none (replaced id []) := .absent
  obtain ⟨ledger, keeps, reflects⟩ := history_keeps (empty_keeps kind) begins fits
  exact reliable_of_keeps keeps reflects

theorem contested_reliable :
    replaced sample.id ((empty "file").history contested) = [1] ∧
      Reliable ((empty "file").history contested) ((empty "file").after contested) := by
  have fits : ∀ call ∈ contested, call.Fits Instant.Regular := by decide +kernel
  constructor
  · rw [history_eq_of_keeps (empty_keeps "file") (empty_keeps "memory") fits]
    decide +kernel
  · apply no_update_lost "file"
    intro call asked
    exact (fits call asked).mono Instant.Regular.allowed

end Flowline.Store
