import Flowline.Proofs.Engine.Cancellation
import Flowline.Proofs.Engine.Run

/-!
# The race between a run and its cancellations

A run of a new record and any number of cancellations of it start at the same
time.  The theorems hold of every scene that some order of their requests leads to.
-/

namespace Flowline.Engine

open Program Execution

variable {callers σ : Type}

/-- A run and its cancellations before any of them has asked anything. -/
def race (callers : Type) (settings : Settings) (workflow : Workflow) (id : ExecutionId)
    (input : Json) (state : σ) : Scene surroundings (@Party.Result callers) σ where
  threads
    | .run => execute settings workflow id input
    | .caller _ => cancel id
  world := ⟨state, []⟩

/-- The record that a run creates, if the clock stands still. -/
def newborn (workflow : Workflow) (id : ExecutionId) : Execution :=
  ((workflow.newExecution id ⟨0, 0⟩).enter .running ⟨0, 0⟩).log .info
    s!"Execution started for workflow {workflow.name} (version {workflow.version})" none ⟨0, 0⟩

/-- The events of a run up to the creation of its record, if the clock stands still. -/
def birth (workflow : Workflow) (id : ExecutionId) : List (Event surroundings) :=
  [⟨.now, ⟨0, 0⟩⟩, ⟨.now, ⟨0, 0⟩⟩, ⟨.now, ⟨0, 0⟩⟩, ⟨.create (newborn workflow id), .ok .first⟩]

/-- The events of a cancellation that comes through, if the clock stands still. -/
def intervention (id : ExecutionId) (held : Versioned) : List (Event surroundings) :=
  [⟨.load id, .ok held⟩, ⟨.now, ⟨0, 0⟩⟩, ⟨.now, ⟨0, 0⟩⟩,
    ⟨.save (marking held.record ⟨0, 0⟩ ⟨0, 0⟩) held.revision, .ok held.revision.next⟩]

/-- What a party has brought about when it is done. -/
def Accomplished [DecidableEq callers] (refuses : StoreError → Prop) (id : ExecutionId) :
    (party : Party callers) → World surroundings (Party callers) σ → Party.Result party → Prop
  | .run => Landed refuses id
  | .caller _ => fun _ _ => True

section Scenes

variable {store : AtomicStore σ} {refuses : StoreError → Prop}
  {settings : Settings} {workflow : Workflow} {id : ExecutionId} {input : Json} {state : σ}
  {scene : Scene surroundings (@Party.Result callers) σ}

theorem race_good (fresh : store.cell id state = none) :
    Good store id (race callers settings workflow id input state).world where
  cell_eq := fresh
  sound := .empty
  seen := by simp [race]

/-- What the store holds is what the chronicle says. -/
theorem load_eq_of_chronicle_eq {before after : Scene surroundings (@Party.Result callers) σ}
    (good : Good store id before.world) (goodAfter : Good store id after.world)
    (same : after.world.chronicle = before.world.chronicle) :
    store.load id after.world.state = store.load id before.world.state := by
  rw [store.load_eq, store.load_eq, good.cell_eq, goodAfter.cell_eq, same]

variable [DecidableEq callers]

theorem race_upholds (party : Party callers) :
    ((race callers settings workflow id input state).threads party).Upholds (store.answers refuses)
      (Good store id) party (race callers settings workflow id input state).world
      (Accomplished refuses id party) := by
  cases party with
  | run => exact execute_upholds settings workflow input rfl
  | caller name => exact cancel_upholds name _

/-- In every scene the store holds the end of a sound chronicle. -/
theorem race_reaches_good (fresh : store.cell id state = none)
    (reaches : Scene.Reaches (store.answers refuses)
      (race callers settings workflow id input state) scene) : Good store id scene.world :=
  (reaches.upholds (race_good fresh) race_upholds).1

/-- The run's last write has landed when it is done. -/
theorem race_landed (fresh : store.cell id state = none)
    (reaches : Scene.Reaches (store.answers refuses)
      (race callers settings workflow id input state) scene) {record : Execution}
    (finished : scene.threads .run = .done record) : Landed refuses id scene.world record := by
  have landed := reaches.ended (race_good fresh) race_upholds finished
  exact landed

/-- A cancellation has written once and come through with what it wrote, or it has
written nothing and does not come through. -/
theorem race_cancel
    (reaches : Scene.Reaches (store.answers refuses)
      (race callers settings workflow id input state) scene) (name : callers) :
    ((scene.world.own (.caller name)).filterMap written? = [] ∧
        ∀ record, scene.threads (.caller name) ≠ .done (.ok record)) ∨
      ∃ record revision, (scene.world.own (.caller name)).filterMap written? =
          [⟨record, revision⟩] ∧ scene.threads (.caller name) = .done (.ok record) := by
  obtain ⟨events, owned, leaves⟩ := reaches.leaves (.caller name)
  have start : (race callers settings workflow id input state).world.own (.caller name) = [] := rfl
  rw [start, List.nil_append] at owned
  rw [owned]
  exact cancel_leaves leaves

/-- A cancellation has come through exactly if the chronicle lists what it wrote. -/
theorem race_cancelled_iff
    (reaches : Scene.Reaches (store.answers refuses)
      (race callers settings workflow id input state) scene) (name : callers) :
    (∃ record, scene.threads (.caller name) = .done (.ok record)) ↔
      ∃ mark, (.caller name, mark) ∈ scene.world.chronicle := by
  simp only [World.mem_chronicle_iff]
  rcases race_cancel reaches name with ⟨unwritten, pending⟩ | ⟨record, revision, wrote, ended⟩
  · simp [unwritten, pending]
  · exact ⟨fun _ => ⟨⟨record, revision⟩, by simp [wrote]⟩, fun _ => ⟨record, ended⟩⟩

/-- The steps of a cancellation that fails write nothing. -/
theorem chronicle_eq_of_failed {before after : Scene surroundings (@Party.Result callers) σ}
    (reaches : Scene.Reaches (store.answers refuses)
      (race callers settings workflow id input state) scene) {name : callers} {error : CancelError}
    (failed : scene.threads (.caller name) = .done (.error error))
    (step : Scene.StepBy (store.answers refuses) (.caller name) before after)
    (later : Scene.Reaches (store.answers refuses) after scene) :
    after.world.chronicle = before.world.chronicle := by
  obtain ⟨asked, next, reply, -, -, answered⟩ := step.exists_next
  have unwritten : written? ⟨asked, reply⟩ = none := by
    rcases race_cancel reaches name with ⟨unwritten, -⟩ | ⟨record, revision, -, ended⟩
    · refine List.filterMap_eq_nil_iff.mp unwritten _ (World.mem_own_iff.mpr ?_)
      apply later.history.subset
      simp [answered.recorded]
    · simp [failed] at ended
  rw [answered.chronicle_eq, unwritten]
  exact List.append_nil _

/-- A run can create its record before anybody else asks anything. -/
theorem exists_created (fresh : store.cell id state = none) :
    ∃ scene created, Scene.Reaches (store.answers refuses)
        (race callers settings workflow id input state) scene ∧
      store.cell id scene.world.state = some created ∧ Running id created.record ∧
      ∀ name, scene.threads (.caller name) = cancel id := by
  have absent : store.cell (newborn workflow id).id state = none := fresh
  obtain ⟨reply, cell⟩ := AtomicStore.create_of_none absent
  have leaves : ((race callers settings workflow id input state).threads .run).Leaves
      (birth workflow id) _ := .ask (.ask (.ask (.ask (.nil _))))
  have allows : Scene.Allows (store.answers refuses) state (birth workflow id)
      (store.create (newborn workflow id) state).2 :=
    .cons rfl (.cons rfl (.cons rfl (.cons (.inl (Prod.ext reply.symm rfl)) (.nil _))))
  obtain ⟨scene, reaches, -, left, others⟩ := Scene.exists_reaches leaves allows
  refine ⟨scene, _, reaches, left ▸ cell, ?_, fun name => others _ (by simp)⟩
  exact (running_enter workflow id ⟨0, 0⟩ ⟨0, 0⟩).log _ _ _ _

theorem intervention_leaves {held : Versioned} (running : Running id held.record) :
    (cancel id).Leaves (intervention id held)
      (.done (.ok (marking held.record ⟨0, 0⟩ ⟨0, 0⟩))) := by
  have allowed : held.record.status.allows .cancelled = true := by
    rw [running.status_eq]
    rfl
  rw [cancel_eq]
  refine .ask (.ask ?_)
  simp only [if_pos allowed]
  exact .ask (.ask (.nil _))

theorem intervention_allows {held : Versioned} {state : σ}
    (holds : store.cell id state = some held) (running : Running id held.record) :
    ∃ left, Scene.Allows (store.answers refuses) state (intervention id held) left ∧
      store.cell id left =
        some ⟨marking held.record ⟨0, 0⟩ ⟨0, 0⟩, held.revision.next⟩ := by
  have same : (marking held.record ⟨0, 0⟩ ⟨0, 0⟩).id = id := running.id_eq
  obtain ⟨reply, cell⟩ := AtomicStore.save_of_some (same ▸ holds)
  rw [same] at cell
  exact ⟨_, .cons (.inl ⟨(AtomicStore.load_eq_ok.mpr holds).symm, rfl⟩) <| .cons rfl <|
    .cons rfl <| .cons (.inl (Prod.ext reply.symm rfl)) (.nil _), cell⟩

/-- A cancellation that nobody disturbs comes through, if the run goes on. -/
theorem exists_marked {held : Versioned} {name : callers}
    (holds : store.cell id scene.world.state = some held) (running : Running id held.record)
    (pending : scene.threads (.caller name) = cancel id) :
    ∃ later, Scene.Reaches (store.answers refuses) scene later ∧
      ∃ record, later.threads (.caller name) = .done (.ok record) := by
  obtain ⟨left, allows, -⟩ := intervention_allows holds running
  obtain ⟨later, reaches, ended, -⟩ :=
    Scene.exists_reaches (pending ▸ intervention_leaves running) allows
  exact ⟨later, reaches, _, ended⟩

/-- A run can be cancelled by anybody as soon as it has created its record. -/
theorem exists_cancelled (fresh : store.cell id state = none) (name : callers) :
    ∃ scene, Scene.Reaches (store.answers refuses)
        (race callers settings workflow id input state) scene ∧
      (∃ marked, scene.threads (.caller name) = .done (.ok marked)) ∧
      ∃ record, scene.threads .run = .done record := by
  obtain ⟨born, created, reaches, holds, running, pending⟩ :=
    @exists_created callers σ store refuses settings workflow id input state _ fresh
  obtain ⟨marked, further, record, ended⟩ := exists_marked holds running (pending name)
  obtain ⟨scene, last, finished, others⟩ :=
    Scene.exists_ended (store.answers_total refuses) .run marked
  refine ⟨scene, (reaches.trans further).trans last, ⟨record, ?_⟩, finished⟩
  rw [others _ (by simp), ended]

end Scenes

/-- A run of a new record and any number of cancellations of it ask a store that
refuses nothing, in any order.
A final status that is stored once is never replaced by another one.  At most one
cancellation comes through, and one that fails has left the stored record as it
was.  The run can always go on to its end and does not go on forever, and its last
write lands, at once or after one conflict.  The run ends as cancelled, and then
without an error, exactly if a cancellation has come through. -/
theorem race_settled [DecidableEq callers] (store : AtomicStore σ) (settings : Settings)
    (workflow : Workflow) (id : ExecutionId) (input : Json) (state : σ)
    (fresh : store.load id state = .error (.notFound id))
    (scene : Scene surroundings (@Party.Result callers) σ)
    (reaches : Scene.Reaches (store.answers fun _ => False)
      (race callers settings workflow id input state) scene) :
    (∀ later held, Scene.Reaches (store.answers fun _ => False) scene later →
      store.load id scene.world.state = .ok held → held.record.status.isFinal = true →
      ∃ kept, store.load id later.world.state = .ok kept ∧
        kept.record.status = held.record.status) ∧
    (∀ name other record another, scene.threads (.caller name) = .done (.ok record) →
      scene.threads (.caller other) = .done (.ok another) → name = other) ∧
    (∀ name error before after, scene.threads (.caller name) = .done (.error error) →
      Scene.Reaches (store.answers fun _ => False)
        (race callers settings workflow id input state) before →
      Scene.StepBy (store.answers fun _ => False) (.caller name) before after →
      Scene.Reaches (store.answers fun _ => False) after scene →
      store.load id after.world.state = store.load id before.world.state) ∧
    (∃ later, Scene.Reaches (store.answers fun _ => False) scene later ∧
      ∃ record, later.threads .run = .done record) ∧
    (∀ schedule : Nat → Scene surroundings (@Party.Result callers) σ, schedule 0 = scene →
      (∀ time, Scene.Step (store.answers fun _ => False) (schedule time) (schedule (time + 1))) →
      ∃ time, ∀ later, time ≤ later →
        ¬ Scene.StepBy (store.answers fun _ => False) .run (schedule later)
          (schedule (later + 1))) ∧
    (∀ record, scene.threads .run = .done record →
      (∃ revision, store.load id scene.world.state = .ok ⟨record, revision⟩ ∧
        (saves (scene.world.own .run) = [.ok revision] ∨ ∃ expected actual,
          saves (scene.world.own .run) =
            [.error (.conflict id expected actual), .ok revision])) ∧
      (record.status = .cancelled ↔
        ∃ name marked, scene.threads (.caller name) = .done (.ok marked)) ∧
      (record.status = .cancelled → record.error = none)) := by
  have empty := (AtomicStore.load_eq_error.mp fresh).1
  have good := race_reaches_good empty reaches
  refine ⟨?_, ?_, ?_, ?_, fun schedule _ steps => Scene.eventually_quiet steps .run, ?_⟩
  · intro later held further holds final
    have goodLater := race_reaches_good empty (reaches.trans further)
    rw [AtomicStore.load_eq_ok, good.cell_eq] at holds
    obtain ⟨kept, ends, same⟩ := goodLater.sound.final_kept
      (World.chronicle_prefix further.history) holds final
    exact ⟨kept, AtomicStore.load_eq_ok.mpr (goodLater.cell_eq.trans ends), same⟩
  · intro name other record another ended endedToo
    obtain ⟨mark, member⟩ := (race_cancelled_iff reaches name).mp ⟨record, ended⟩
    obtain ⟨again, memberToo⟩ := (race_cancelled_iff reaches other).mp ⟨another, endedToo⟩
    exact good.sound.caller_unique member memberToo
  · intro name error before after failed earlier step later
    exact load_eq_of_chronicle_eq (race_reaches_good empty earlier)
      (race_reaches_good empty (earlier.tail ⟨_, step⟩))
      (chronicle_eq_of_failed reaches failed step later)
  · obtain ⟨later, further, ended, -⟩ :=
      Scene.exists_ended (store.answers_total fun _ => False) .run scene
    exact ⟨later, further, ended⟩
  · intro record finished
    rcases race_landed empty reaches finished with
      ⟨error, refused⟩ | ⟨revision, member, finalised, written⟩
    · exact refused.elim
    · have ends := good.sound.last_of_isFinal member finalised.isFinal
      obtain ⟨cancelled, unfailed⟩ := good.sound.cancelled_iff member finalised.isFinal
      refine ⟨⟨revision, ?_, written⟩, ?_, unfailed⟩
      · exact AtomicStore.load_eq_ok.mpr (good.cell_eq.trans ends)
      · rw [cancelled]
        exact exists_congr fun name => (race_cancelled_iff reaches name).symm

/-- A workflow of one node. -/
def solo : Workflow where
  id := ⟨⟨0⟩⟩
  name := "solo"
  nodes := [{ id := "start", name := "Start", config := .manual }]
  trigger := "start"
  createdAt := ⟨0, 0⟩
  updatedAt := ⟨0, 0⟩

/-- A run that is cancelled in memory between its creation and its end. -/
theorem race_settled_in_memory :
    ∃ scene record, Scene.Reaches (Store.Memory.atomic.answers fun _ => False)
        (race Unit {} solo ⟨⟨1⟩⟩ .null []) scene ∧
      Store.Memory.load ⟨⟨1⟩⟩ [] = .error (.notFound ⟨⟨1⟩⟩) ∧
      scene.threads .run = .done record ∧ record.status = .cancelled ∧ record.error = none ∧
      ∃ revision, Store.Memory.load ⟨⟨1⟩⟩ scene.world.state = .ok ⟨record, revision⟩ := by
  obtain ⟨scene, reaches, marked, record, finished⟩ :=
    @exists_cancelled Unit Store.Memory Store.Memory.atomic (fun _ => False) {} solo ⟨⟨1⟩⟩ .null []
      _ rfl ()
  obtain ⟨-, -, -, -, -, ending⟩ :=
    race_settled Store.Memory.atomic {} solo ⟨⟨1⟩⟩ .null [] rfl scene reaches
  obtain ⟨⟨revision, stored, -⟩, cancelled, unfailed⟩ := ending record finished
  have status := cancelled.mpr ⟨(), marked⟩
  exact ⟨scene, record, reaches, rfl, finished, status, unfailed status, revision, stored⟩

end Flowline.Engine
