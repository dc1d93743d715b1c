import Flowline.Engine
import Flowline.Proofs.Engine.Walk
import Flowline.Proofs.Store.Atomic

/-!
# The chronicle of a record

A run and those who cancel it share one store.  The chronicle lists the versions
of the run's record that reached the store, each with its writer.  Whatever the
schedule and whatever the store refuses, few chronicles can come about.
-/

namespace Flowline

open Engine Execution

/-! ## Chronicles -/

namespace World

variable {parties σ : Type}

/-- The versions that reached the store, each with its writer. -/
def chronicle (world : World surroundings parties σ) : List (parties × Versioned) :=
  world.history.filterMap fun entry => (written? entry.2).map fun version => (entry.1, version)

theorem Answered.chronicle_eq {rule : Answering surroundings σ} {party : parties}
    {asked : Request} {reply : Reply asked} {before after : World surroundings parties σ}
    (answered : Answered rule party asked reply before after) :
    after.chronicle = before.chronicle ++
      ((written? ⟨asked, reply⟩).map fun version => (party, version)).toList := by
  rw [chronicle, answered.recorded, List.filterMap_append]
  cases written : written? ⟨asked, reply⟩ <;> simp [chronicle, written]

/-- The chronicle grows with the history. -/
theorem chronicle_prefix {before after : World surroundings parties σ}
    (grows : before.history <+: after.history) : before.chronicle <+: after.chronicle := by
  obtain ⟨more, grown⟩ := grows
  rw [chronicle, chronicle, ← grown, List.filterMap_append]
  exact List.prefix_append _ _

variable [DecidableEq parties]

/-- What a party wrote is found in the chronicle. -/
theorem written_own (party : parties) (world : World surroundings parties σ) :
    (world.own party).filterMap written? =
      world.chronicle.filterMap fun entry => if entry.1 = party then some entry.2 else none := by
  rw [own, chronicle, List.filterMap_filterMap, List.filterMap_filterMap]
  refine congrArg (fun select => List.filterMap select world.history) (funext fun entry => ?_)
  by_cases same : entry.1 = party
  · cases written : written? entry.2 <;> simp [same, written]
  · cases written : written? entry.2 <;> simp [same]

theorem mem_chronicle_iff {party : parties} {version : Versioned}
    {world : World surroundings parties σ} :
    (party, version) ∈ world.chronicle ↔ version ∈ (world.own party).filterMap written? := by
  rw [written_own]
  simp

end World

/-! ## The versions of a record -/

theorem Revision.next_ne (revision : Revision) : revision.next ≠ revision := by
  intro same
  simpa [next] using congrArg number same

theorem Revision.next_next_ne (revision : Revision) : revision.next.next ≠ revision := by
  intro same
  have numbers := congrArg number same
  simp only [next] at numbers
  omega

/-- Who writes the record of a run: the run itself and those who cancel it. -/
inductive Party (callers : Type) where
  | run
  | caller (name : callers)
  deriving DecidableEq

/-- What a party ends with. -/
abbrev Party.Result {callers : Type} : Party callers → Type
  | run => Execution
  | caller _ => Except CancelError Execution

/-- The version that a run creates. -/
structure Created (id : ExecutionId) (version : Versioned) : Prop
    extends Running id version.record where
  revision_eq : version.revision = .first
  ofRun : ∀ line ∈ version.record.logs, line.OfRun

/-- The version that a cancellation makes of another one. -/
structure Marked (created marked : Versioned) : Prop where
  id_eq : marked.record.id = created.record.id
  status_eq : marked.record.status = .cancelled
  error_eq : marked.record.error = none
  revision_eq : marked.revision = created.revision.next
  logs_eq : ∃ line, ¬ LogLine.OfRun line ∧ marked.record.logs = created.record.logs ++ [line]

theorem Marked.isFinal {created marked : Versioned} (mark : Marked created marked) :
    marked.record.status.isFinal = true := by
  rw [mark.status_eq]
  rfl

/-- The record that a run ends with, which has the lines that it was created with. -/
structure Closed (id : ExecutionId) (created : List LogLine) (record : Execution) : Prop
    extends Finalised record where
  id_eq : record.id = id
  logs_prefix : created <+: record.logs
  ofRun : ∀ line ∈ record.logs, line.OfRun

variable {callers σ : Type} {id : ExecutionId}

/-- The chronicles that come about.  A run creates its record, somebody may mark it
as cancelled, and the run closes it, overruled by the mark if there is one.  A run
whose creation was refused may still write its end. -/
inductive Sound (id : ExecutionId) : List (Party callers × Versioned) → Prop where
  | empty : Sound id []
  | created {version : Versioned} : Created id version → Sound id [(.run, version)]
  | marked {version mark : Versioned} {name : callers} :
      Created id version → Marked version mark →
      Sound id [(.run, version), (.caller name, mark)]
  | closed {version last : Versioned} :
      Created id version → Closed id version.record.logs last.record →
      last.record.status ≠ .cancelled → last.revision = version.revision.next →
      Sound id [(.run, version), (.run, last)]
  | overruled {version mark last : Versioned} {name : callers} :
      Created id version → Marked version mark → Closed id version.record.logs last.record →
      last.record.status = .cancelled → last.record.error = none →
      last.revision = mark.revision.next →
      Sound id [(.run, version), (.caller name, mark), (.run, last)]
  | late {last : Versioned} :
      Closed id [] last.record → last.record.status ≠ .cancelled → last.revision = .first →
      Sound id [(.run, last)]

namespace Sound

variable {chronicle : List (Party callers × Versioned)}

theorem id_eq (sound : Sound id chronicle) {writer : Party callers} {version : Versioned}
    (member : (writer, version) ∈ chronicle) : version.record.id = id := by
  cases sound with
  | empty => simp at member
  | created created =>
      simp only [List.mem_singleton, Prod.mk.injEq] at member
      rw [member.2, created.id_eq]
  | marked created marked =>
      simp only [List.mem_cons, List.not_mem_nil, or_false, Prod.mk.injEq] at member
      rcases member with ⟨-, rfl⟩ | ⟨-, rfl⟩
      · exact created.id_eq
      · exact marked.id_eq.trans created.id_eq
  | closed created closed =>
      simp only [List.mem_cons, List.not_mem_nil, or_false, Prod.mk.injEq] at member
      rcases member with ⟨-, rfl⟩ | ⟨-, rfl⟩
      · exact created.id_eq
      · exact closed.id_eq
  | overruled created marked closed =>
      simp only [List.mem_cons, List.not_mem_nil, or_false, Prod.mk.injEq] at member
      rcases member with ⟨-, rfl⟩ | ⟨-, rfl⟩ | ⟨-, rfl⟩
      · exact created.id_eq
      · exact marked.id_eq.trans created.id_eq
      · exact closed.id_eq
  | late closed =>
      simp only [List.mem_singleton, Prod.mk.injEq] at member
      rw [member.2, closed.id_eq]

/-- Every chronicle begins with a write of the run. -/
theorem eq_nil [DecidableEq callers] (sound : Sound id chronicle)
    (nothing : (chronicle.filterMap fun entry =>
      if entry.1 = Party.run then some entry.2 else none) = []) : chronicle = [] := by
  cases sound <;> simp_all

/-- While the run goes on, somebody may have marked its record. -/
theorem created_or_marked [DecidableEq callers] (sound : Sound id chronicle) {version : Versioned}
    (once : (chronicle.filterMap fun entry =>
      if entry.1 = Party.run then some entry.2 else none) = [version])
    (running : version.record.status = .running) :
    Created id version ∧ (chronicle = [(.run, version)] ∨
      ∃ name mark, Marked version mark ∧ chronicle = [(.run, version), (.caller name, mark)]) := by
  cases sound with
  | empty => simp at once
  | created created =>
      obtain rfl : _ = version := by simpa using once
      exact ⟨created, .inl rfl⟩
  | marked created marked =>
      obtain rfl : _ = version := by simpa using once
      exact ⟨created, .inr ⟨_, _, marked, rfl⟩⟩
  | closed | overruled => simp at once
  | late closed =>
      obtain rfl : _ = version := by simpa using once
      simpa [running, Status.isFinal] using closed.isFinal

/-- Whoever can still mark a version, and finds its revision unchanged, is the first
one to follow the run. -/
theorem eq_created (sound : Sound id chronicle) {writer : Party callers} {held last : Versioned}
    (member : (writer, held) ∈ chronicle) (allowed : held.record.status.allows .cancelled = true)
    (ends : chronicle.getLast?.map Prod.snd = some last) (same : last.revision = held.revision) :
    Created id held ∧ chronicle = [(.run, held)] := by
  have unfinal {version : Versioned} (final : version.record.status.isFinal = true) :
      held ≠ version := by
    rintro rfl
    simp [Status.allows_eq_false_of_isFinal final] at allowed
  cases sound with
  | empty => simp at member
  | @created version created =>
      obtain ⟨rfl, rfl⟩ : writer = .run ∧ held = version := by simpa using member
      exact ⟨created, rfl⟩
  | @marked version mark name created marked =>
      obtain ⟨-, rfl⟩ : writer = .run ∧ held = version := by
        simpa [unfinal marked.isFinal] using member
      obtain rfl := Option.some.inj ends
      exact (held.revision.next_ne (marked.revision_eq ▸ same)).elim
  | @closed version close created closed other revision =>
      obtain ⟨-, rfl⟩ : writer = .run ∧ held = version := by
        simpa [unfinal closed.isFinal] using member
      obtain rfl := Option.some.inj ends
      exact (held.revision.next_ne (revision ▸ same)).elim
  | @overruled version mark close name created marked closed status error revision =>
      obtain ⟨-, rfl⟩ : writer = .run ∧ held = version := by
        simpa [unfinal closed.isFinal, unfinal marked.isFinal] using member
      obtain rfl : close = last := Option.some.inj ends
      rw [revision, marked.revision_eq] at same
      exact (held.revision.next_next_ne same).elim
  | late closed =>
      simp [unfinal closed.isFinal] at member

/-- At most one cancellation succeeds. -/
theorem caller_unique (sound : Sound id chronicle) {name other : callers} {mark another : Versioned}
    (member : (.caller name, mark) ∈ chronicle) (again : (.caller other, another) ∈ chronicle) :
    name = other := by
  cases sound <;> simp_all

/-- Nothing follows the end of a run. -/
theorem last_of_isFinal (sound : Sound id chronicle) {version : Versioned}
    (member : (.run, version) ∈ chronicle) (final : version.record.status.isFinal = true) :
    chronicle.getLast?.map Prod.snd = some version := by
  have unfinal {created : Versioned} (first : Created id created) : version ≠ created := by
    rintro rfl
    simp [first.status_eq, Status.isFinal] at final
  cases sound with
  | empty => simp at member
  | created created => simp [unfinal created] at member
  | marked created => simp [unfinal created] at member
  | closed created => simpa [unfinal created, eq_comm] using member
  | overruled created => simpa [unfinal created, eq_comm] using member
  | late => simpa [eq_comm] using member

/-- A run ends as cancelled, and then without an error, exactly if a cancellation
has succeeded. -/
theorem cancelled_iff (sound : Sound id chronicle) {version : Versioned}
    (member : (.run, version) ∈ chronicle) (final : version.record.status.isFinal = true) :
    (version.record.status = .cancelled ↔ ∃ name mark, (.caller name, mark) ∈ chronicle) ∧
      (version.record.status = .cancelled → version.record.error = none) := by
  have ends := sound.last_of_isFinal member final
  cases sound with
  | empty => simp at member
  | created created =>
      obtain rfl := Option.some.inj ends
      simp [created.status_eq, Status.isFinal] at final
  | @marked _ _ _ created =>
      simp only [List.mem_cons, Prod.mk.injEq, true_and, reduceCtorEq, false_and, or_false,
        List.not_mem_nil] at member
      simp [member, created.status_eq, Status.isFinal] at final
  | closed created closed uncancelled =>
      obtain rfl := Option.some.inj ends
      simp [uncancelled]
  | @overruled _ mark _ name created marked closed status error =>
      obtain rfl := Option.some.inj ends
      exact ⟨⟨fun _ => ⟨name, mark, by simp⟩, fun _ => status⟩, fun _ => error⟩
  | late closed uncancelled =>
      obtain rfl := Option.some.inj ends
      simp [uncancelled]

/-- A final status stays as it is. -/
theorem final_kept {earlier : List (Party callers × Versioned)} (sound : Sound id chronicle)
    (grows : earlier <+: chronicle) {held : Versioned}
    (ends : earlier.getLast?.map Prod.snd = some held)
    (final : held.record.status.isFinal = true) :
    ∃ kept, chronicle.getLast?.map Prod.snd = some kept ∧
      kept.record.status = held.record.status := by
  have unfinal {created : Versioned} (first : Created id created) : created ≠ held := by
    rintro rfl
    simp [first.status_eq, Status.isFinal] at final
  -- What stands before the end of a sound chronicle is final only if it is a mark.
  cases sound with
  | empty =>
      obtain rfl := List.prefix_nil.mp grows
      cases ends
  | created created =>
      simp only [List.prefix_cons_iff, List.prefix_nil] at grows
      rcases grows with rfl | ⟨_, rfl, rfl⟩
      · cases ends
      · exact (unfinal created (Option.some.inj ends)).elim
  | marked created =>
      simp only [List.prefix_cons_iff, List.prefix_nil] at grows
      rcases grows with rfl | ⟨_, rfl, rfl | ⟨_, rfl, rfl⟩⟩
      · cases ends
      · exact (unfinal created (Option.some.inj ends)).elim
      · exact ⟨held, ends, rfl⟩
  | closed created =>
      simp only [List.prefix_cons_iff, List.prefix_nil] at grows
      rcases grows with rfl | ⟨_, rfl, rfl | ⟨_, rfl, rfl⟩⟩
      · cases ends
      · exact (unfinal created (Option.some.inj ends)).elim
      · exact ⟨held, ends, rfl⟩
  | @overruled version mark last name created marked closed status =>
      simp only [List.prefix_cons_iff, List.prefix_nil] at grows
      rcases grows with rfl | ⟨_, rfl, rfl | ⟨_, rfl, rfl | ⟨_, rfl, rfl⟩⟩⟩
      · cases ends
      · exact (unfinal created (Option.some.inj ends)).elim
      · obtain rfl : mark = held := Option.some.inj ends
        exact ⟨last, rfl, status.trans marked.status_eq.symm⟩
      · exact ⟨held, ends, rfl⟩
  | late =>
      simp only [List.prefix_cons_iff, List.prefix_nil] at grows
      rcases grows with rfl | ⟨_, rfl, rfl⟩
      · cases ends
      · exact ⟨held, ends, rfl⟩

/-- A cancellation that has succeeded followed the creation of the record, and the record stays
cancelled. -/
theorem cancelled_of_marked (sound : Sound id chronicle) {name : callers} {mark : Versioned}
    (member : (.caller name, mark) ∈ chronicle) :
    (∃ version, (.run, version) ∈ chronicle ∧ Created id version) ∧
      ∃ last, chronicle.getLast?.map Prod.snd = some last ∧ last.record.status = .cancelled := by
  cases sound with
  | empty => simp at member
  | created | closed | late => simp at member
  | marked created marked => exact ⟨⟨_, by simp, created⟩, _, rfl, marked.status_eq⟩
  | overruled created _ _ status => exact ⟨⟨_, by simp, created⟩, _, rfl, status⟩

end Sound

/-- A world whose store holds the end of a sound chronicle, and where nothing was
read but what the chronicle lists. -/
structure Good (store : AtomicStore σ) (id : ExecutionId)
    (world : World surroundings (Party callers) σ) : Prop where
  cell_eq : store.cell id world.state = world.chronicle.getLast?.map Prod.snd
  sound : Sound id world.chronicle
  seen : ∀ party held, (party, ⟨.load id, .ok held⟩) ∈ world.history →
    ∃ writer, (writer, held) ∈ world.chronicle

theorem Engine.Request.Quiet.concerns {asked : Request} (quiet : asked.Quiet id) :
    asked.Concerns id := by
  cases asked <;> simp_all [Quiet, Concerns]

theorem Engine.Request.Quiet.unwritten {asked : Request} (quiet : asked.Quiet id)
    (reply : Reply asked) : written? ⟨asked, reply⟩ = none := by
  cases asked <;> simp_all [Quiet, written?]

/-- A request keeps a world good if a write that it makes continues the chronicle
soundly. -/
theorem Good.answered {store : AtomicStore σ} {refuses : StoreError → Prop}
    {party : Party callers} {asked : Request} {reply : Reply asked}
    {before after : World surroundings (Party callers) σ} (good : Good store id before)
    (answered : World.Answered (store.answers refuses) party asked reply before after)
    (concerns : asked.Concerns id)
    (continues : ∀ version, written? ⟨asked, reply⟩ = some version →
      Cell.Succeeds (before.chronicle.getLast?.map Prod.snd) asked version →
      Sound id (before.chronicle ++ [(party, version)])) :
    Good store id after := by
  have chronicle := answered.chronicle_eq
  have seen : ∀ reader held, (reader, ⟨.load id, .ok held⟩) ∈ after.history →
      ∃ writer, (writer, held) ∈ before.chronicle := by
    intro reader held member
    rw [answered.recorded, List.mem_append, List.mem_singleton] at member
    rcases member with member | same
    · exact good.seen reader held member
    · cases same
      have last := good.cell_eq ▸ AtomicStore.cell_of_load answered.allowed
      obtain ⟨entry, isLast, rfl⟩ := Option.map_eq_some_iff.mp last
      exact ⟨entry.1, List.mem_of_getLast? isLast⟩
  rcases AtomicStore.answers_cell concerns answered.allowed with
    ⟨unwritten, kept⟩ | ⟨version, written, left, succeeds⟩
  · rw [unwritten, Option.map_none, Option.toList_none, List.append_nil] at chronicle
    refine ⟨?_, chronicle ▸ good.sound, ?_⟩
    · rw [kept, good.cell_eq, chronicle]
    · rwa [chronicle]
  · rw [written, Option.map_some, Option.toList_some] at chronicle
    rw [good.cell_eq] at succeeds
    refine ⟨?_, chronicle ▸ continues version written succeeds, fun reader held member => ?_⟩
    · rw [left, chronicle]
      simp
    · obtain ⟨writer, member⟩ := seen reader held member
      exact ⟨writer, chronicle ▸ List.mem_append_left _ member⟩

/-- A request that writes nothing keeps a world good. -/
theorem Good.quiet {party : Party callers} {asked : Request} {reply : Reply asked}
    {before after : World surroundings (Party callers) σ} (good : Good store id before)
    (answered : World.Answered (store.answers refuses) party asked reply before after)
    (quiet : asked.Quiet id) : Good store id after := by
  apply good.answered answered quiet.concerns
  intro version written
  rw [quiet.unwritten] at written
  cases written

theorem Engine.nonempty_reply (asked : Request) : Nonempty (Reply asked) := by
  cases asked with
  | now => exact ⟨⟨0, 0⟩⟩
  | sleep milliseconds => exact ⟨()⟩
  | create record | save record expected => exact ⟨.ok .first⟩
  | load id => exact ⟨.error (.notFound id)⟩
  | attempt attempt => exact ⟨none⟩

/-- A part of a program that writes nothing keeps a world good. -/
theorem quiet_upholds [DecidableEq callers] {store : AtomicStore σ} {refuses : StoreError → Prop}
    {party : Party callers} {α : Type} {program : Action α}
    {world : World surroundings (Party callers) σ}
    (quiet : program.Ensures fun events _ => ∀ event ∈ events, event.asked.Quiet id) :
    program.Upholds (store.answers refuses) (Good store id) party world fun later value =>
      world.history <+: later.history ∧
        ∃ events, program.Yields events value ∧ later.own party = world.own party ++ events :=
  .of_harmless (Request.Quiet id) (fun _ _ _ _ quiet good answered => good.quiet answered quiet)
    quiet nonempty_reply

end Flowline
