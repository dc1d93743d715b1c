import Flowline.Proofs.Engine.Alarm
import Flowline.Proofs.Engine.InStep
import Flowline.Proofs.Engine.Race
import Flowline.Proofs.Store.Shared

/-!
# Runs at the same time

Any number of runs share a store and handlers, and any of them may ask next.  No run asks
about the record of another one, so what happens to a run is what would have happened to it
alone on the empty store.  A run alone goes one way, but for what the clock tells it.
-/

namespace Flowline.Engine

open Program Execution

/-! ## A run on a cell of its own -/

/-- Two events that differ only in what the clock has told. -/
inductive EventAlike : Event surroundings → Event surroundings → Prop where
  | now (first second : Instant) : EventAlike ⟨.now, first⟩ ⟨.now, second⟩
  | sleep (milliseconds : Nat) (first second : Unit) :
      EventAlike ⟨.sleep milliseconds, first⟩ ⟨.sleep milliseconds, second⟩
  | attempt (attempt : Attempt) (reply : Option (Except NodeError Json)) :
      EventAlike ⟨.attempt attempt, reply⟩ ⟨.attempt attempt, reply⟩
  | create {left right : Execution} (records : left.Alike right)
      (reply : Except StoreError Revision) :
      EventAlike ⟨.create left, reply⟩ ⟨.create right, reply⟩
  | load (id : ExecutionId) {reply other : Except StoreError Versioned}
      (found : Found reply other) : EventAlike ⟨.load id, reply⟩ ⟨.load id, other⟩
  | save {left right : Execution} (records : left.Alike right) (expected : Revision)
      (reply : Except StoreError Revision) :
      EventAlike ⟨.save left expected, reply⟩ ⟨.save right expected, reply⟩

theorem attempts_of_alike {events more : List (Event surroundings)}
    (alike : List.Forall₂ EventAlike events more) : attempts events = attempts more := by
  induction alike with
  | nil => rfl
  | cons first _ ih => cases first <;> simpa [attempts] using ih

theorem executions_of_alike (settings : Settings) {events more : List (Event surroundings)}
    (alike : List.Forall₂ EventAlike events more) :
    executions settings events = executions settings more := by
  induction alike with
  | nil => rfl
  | cons first _ ih =>
      rw [executions_cons, executions_cons, ih]
      cases first <;> rfl

/-- Two cells that hold alike versions, or nothing. -/
abbrev CellAlike : Cell → Cell → Prop := Option.Rel Versioned.Alike

namespace CellAlike

variable {cell other : Cell} {left right : Execution}

theorem create (cells : CellAlike cell other) (records : left.Alike right) :
    (Cell.create left cell).1 = (Cell.create right other).1 ∧
      CellAlike (Cell.create left cell).2 (Cell.create right other).2 := by
  cases cells with
  | none => exact ⟨rfl, .some ⟨records, rfl⟩⟩
  | some versions => exact ⟨by simp [Cell.create, records.id_eq], .some versions⟩

theorem load (cells : CellAlike cell other) (id : ExecutionId) :
    Found (Cell.load id cell) (Cell.load id other) := by
  cases cells with
  | none => exact .refused _
  | some versions => exact .held versions

theorem save (cells : CellAlike cell other) (records : left.Alike right) (expected : Revision) :
    (Cell.save left expected cell).1 = (Cell.save right expected other).1 ∧
      CellAlike (Cell.save left expected cell).2 (Cell.save right expected other).2 := by
  cases cells with
  | none => exact ⟨by simp [Cell.save, records.id_eq], .none⟩
  | @some held found versions =>
      simp only [Cell.save, versions.revision_eq, records.id_eq]
      split
      · exact ⟨rfl, .some versions⟩
      · exact ⟨rfl, .some ⟨records, rfl⟩⟩

end CellAlike

variable {handling : Handling}

/-- Whatever two programs are served by alike cells, they end the same way behind alike
events and leave alike cells. -/
def GoAlike {α β : Type} (handling : Handling) (same : α → β → Prop) (left : Action α)
    (right : Action β) : Prop :=
  ∀ events more value other cell cell' after after', left.Yields events value →
    right.Yields more other → CellAlike cell cell' →
    Scene.Allows (Cell.atomic.serves handling) cell events after →
    Scene.Allows (Cell.atomic.serves handling) cell' more after' →
      same value other ∧ CellAlike after after' ∧ List.Forall₂ EventAlike events more

section Served

variable {α β : Type} {same : α → β → Prop} {left : Action α} {right : Action β}

theorem GoAlike.ask {asked request : Request} {next : Reply asked → Action α}
    {rest : Reply request → Action β}
    (each : ∀ reply other cell cell' after after', CellAlike cell cell' →
      Cell.atomic.serves handling asked cell reply after →
      Cell.atomic.serves handling request cell' other after' →
        EventAlike ⟨asked, reply⟩ ⟨request, other⟩ ∧ CellAlike after after' ∧
          GoAlike handling same (next reply) (rest other)) :
    GoAlike handling same (@Program.ask surroundings _ asked next)
      (@Program.ask surroundings _ request rest) := by
  intro events more value other cell cell' after after' yields yieldsToo cells allows allowsToo
  cases yields with | ask yields =>
  cases yieldsToo with | ask yieldsToo =>
  cases allows with | cons serves allows =>
  cases allowsToo with | cons servesToo allowsToo =>
  obtain ⟨event, between, further⟩ := each _ _ _ _ _ _ cells serves servesToo
  obtain ⟨ends, kept, alike⟩ :=
    further _ _ _ _ _ _ _ _ yields yieldsToo between allows allowsToo
  exact ⟨ends, kept, .cons event alike⟩

/-- Programs in step go the same way. -/
theorem InStep.goAlike {who : Subject} (inStep : InStep who same left right) :
    GoAlike handling same left right := by
  induction inStep with
  | done ends =>
      intro events more value other cell cell' after after' yields yieldsToo cells allows allowsToo
      cases yields
      cases yieldsToo
      cases allows
      cases allowsToo
      exact ⟨ends, cells, .nil⟩
  | now _ ih =>
      refine .ask fun first second _ _ _ _ cells serves servesToo => ?_
      cases serves.1
      cases servesToo.1
      exact ⟨.now first second, cells, ih first second⟩
  | sleep milliseconds _ ih =>
      refine .ask fun first second _ _ _ _ cells serves servesToo => ?_
      cases serves.1
      cases servesToo.1
      exact ⟨.sleep milliseconds first second, cells, ih⟩
  | attempt attempt _ ih =>
      refine .ask fun reply other _ _ _ _ cells serves servesToo => ?_
      cases serves.1
      cases servesToo.1
      obtain rfl : reply = other := Eq.trans serves.2 (Eq.symm servesToo.2)
      exact ⟨.attempt attempt reply, cells, ih reply⟩
  | @create record twin records _ _ _ ih =>
      refine .ask fun reply other cell cell' after after' cells serves servesToo => ?_
      have served : (reply, after) = Cell.create record cell :=
        serves.1.resolve_right AtomicStore.not_refused
      have servedToo : (other, after') = Cell.create twin cell' :=
        servesToo.1.resolve_right AtomicStore.not_refused
      obtain ⟨replies, kept⟩ := cells.create records.toAlike
      rw [← served, ← servedToo] at replies kept
      obtain rfl : reply = other := replies
      exact ⟨.create records.toAlike reply, kept, ih reply⟩
  | load _ ih =>
      refine .ask fun reply other _ _ _ _ cells serves servesToo => ?_
      obtain ⟨rfl, rfl⟩ := serves.1.resolve_right AtomicStore.not_refused
      obtain ⟨rfl, rfl⟩ := servesToo.1.resolve_right AtomicStore.not_refused
      have found := cells.load who.id
      exact ⟨.load who.id found, cells, ih _ _ found⟩
  | @save record twin records expected _ _ _ ih =>
      refine .ask fun reply other cell cell' after after' cells serves servesToo => ?_
      have served : (reply, after) = Cell.save record expected cell :=
        serves.1.resolve_right AtomicStore.not_refused
      have servedToo : (other, after') = Cell.save twin expected cell' :=
        servesToo.1.resolve_right AtomicStore.not_refused
      obtain ⟨replies, kept⟩ := cells.save records.toAlike expected
      rw [← served, ← servedToo] at replies kept
      obtain rfl : reply = other := replies
      exact ⟨.save records.toAlike expected reply, kept, ih reply⟩

end Served

/-- The record that a run returns is the one that its cell holds in the end. -/
theorem stored_of_yields {settings : Settings} {workflow : Workflow} {id : ExecutionId}
    {input : Json} {events : List (Event surroundings)} {record : Execution} {cell : Cell}
    (yields : (execute settings workflow id input).Yields events record)
    (allows : Scene.Allows (Cell.atomic.serves handling) none events cell) :
    ∃ revision, cell = some ⟨record, revision⟩ := by
  -- A run that nobody cancels is a race without callers.
  let start : Scene surroundings (@Party.Result Empty) Cell :=
    race Empty settings workflow id input none
  have answers : Scene.Allows (Cell.atomic.answers fun _ => False) none events cell :=
    allows.mono fun _ _ _ _ serves => serves.1
  have leaves : (start.threads .run).Leaves events (.done record) := yields.leaves
  obtain ⟨scene, reaches, finished, rfl, -⟩ := Scene.exists_passage leaves answers
  have good := race_reaches_good rfl reaches
  rcases race_landed rfl reaches finished with
    ⟨_, refused⟩ | ⟨revision, member, finalised, -⟩
  · exact refused.elim
  · exact ⟨revision, good.cell_eq.trans (good.sound.last_of_isFinal member finalised.isFinal)⟩

/-! ## Runs beside each other -/

/-- A run that is to be made. -/
structure Job where
  workflow : Workflow
  id : ExecutionId
  input : Json

/-- Which run of which workflow a job is. -/
def Job.subject (job : Job) : Subject :=
  ⟨job.id, job.workflow.id, job.workflow.name, job.workflow.version⟩

/-- The run of a job. -/
def Job.run (settings : Settings) (job : Job) : Action Execution :=
  execute settings job.workflow job.id job.input

variable {parties σ : Type}

/-- Runs that have not asked anything yet. -/
def together (settings : Settings) (jobs : parties → Job) (state : σ) :
    Scene surroundings (fun _ : parties => Execution) σ where
  threads party := (jobs party).run settings
  world := ⟨state, []⟩

/-- A run alone that has not asked anything yet. -/
def alone (settings : Settings) (job : Job) (state : σ) :
    Scene surroundings (fun _ : Unit => Execution) σ :=
  together settings (fun _ => job) state

theorem Job.inStep (settings : Settings) (job : Job) :
    InStep job.subject (Twins job.subject) (job.run settings) (job.run settings) :=
  execute_inStep settings job.workflow job.id job.input

variable [DecidableEq parties] {store : SharedStore σ} {settings : Settings}
  {jobs : parties → Job}

/-- What holds while runs go on beside each other: the store serves every one of them as a
cell of its own, and holds nothing for anybody else. -/
structure Apart (store : SharedStore σ) (handling : Handling) (jobs : parties → Job)
    (world : World surroundings parties σ) : Prop where
  orderly : store.Orderly world.state
  served : ∀ party, Scene.Allows (Cell.atomic.serves handling) none (world.own party)
    (store.cell (jobs party).id world.state)
  unclaimed : ∀ id, (∀ party, (jobs party).id ≠ id) → store.cell id world.state = none

theorem apart_start : Apart store handling jobs (together settings jobs store.empty).world where
  orderly := store.orderly_empty
  served party := by
    rw [together, store.cell_empty]
    exact .nil none
  unclaimed id _ := store.cell_empty id

/-- A request of one run keeps all of them apart. -/
theorem Apart.answered {world after : World surroundings parties σ}
    (apart : Apart store handling jobs world)
    (distinct : Function.Injective fun party => (jobs party).id) {party : parties}
    {asked : Request} {reply : Reply asked} (concerns : asked.Concerns (jobs party).id)
    (answered : World.Answered (store.serves handling) party asked reply world after) :
    Apart store handling jobs after where
  orderly := store.orderly_after apart.orderly answered.allowed
  served other := by
    by_cases same : other = party
    · subst same
      rw [answered.own_eq]
      exact (apart.served other).snoc (AtomicStore.serves_cell concerns answered.allowed)
    · have silent : World.Later other world after :=
        ⟨_, answered.recorded, by simpa using Ne.symm same⟩
      rw [silent.own_eq, store.cell_other concerns (distinct.ne same) answered.allowed]
      exact apart.served other
  unclaimed id nobody := by
    rw [store.cell_other concerns (nobody party).symm answered.allowed]
    exact apart.unclaimed id nobody

variable {scene : Scene surroundings (fun _ : parties => Execution) σ}

theorem together_leaves
    (reaches : Scene.Reaches (store.serves handling) (together settings jobs store.empty) scene)
    (party : parties) :
    ((jobs party).run settings).Leaves (scene.world.own party) (scene.threads party) := by
  obtain ⟨events, owned, leaves⟩ := reaches.leaves party
  have fresh : (together settings jobs store.empty).world.own party = [] := rfl
  rw [fresh, List.nil_append] at owned
  exact owned ▸ leaves

/-- Runs stay apart in any order of their requests. -/
theorem together_apart (distinct : Function.Injective fun party => (jobs party).id)
    (reaches : Scene.Reaches (store.serves handling) (together settings jobs store.empty) scene) :
    Apart store handling jobs scene.world := by
  induction reaches with
  | refl => exact apart_start
  | tail reached step ih =>
      obtain ⟨party, step⟩ := step
      obtain ⟨asked, next, reply, pending, -, answered⟩ := step.exists_next
      obtain ⟨-, remaining⟩ :=
        ((jobs party).inStep settings).asks.of_leaves (together_leaves reached party)
      rw [pending] at remaining
      exact ih.answered distinct remaining.1 answered

/-- What a cell serves, the store serves whose cell it is. -/
theorem exists_served {id : ExecutionId} {events : List (Event surroundings)} {state : σ}
    {cell : Cell} (concerns : ∀ event ∈ events, event.asked.Concerns id)
    (allows : Scene.Allows (Cell.atomic.serves handling) (store.cell id state) events cell) :
    ∃ after, Scene.Allows (store.serves handling) state events after ∧
      store.cell id after = cell := by
  induction events generalizing state with
  | nil =>
      cases allows
      exact ⟨state, .nil state, rfl⟩
  | cons event events ih =>
      obtain ⟨first, others⟩ := List.forall_mem_cons.mp concerns
      cases allows with
      | cons serves remaining =>
          obtain ⟨between, served, rfl⟩ := AtomicStore.exists_serves first serves
          obtain ⟨after, later, ends⟩ := ih others remaining
          exact ⟨after, .cons served later, ends⟩

/-- What has happened to a run among others can happen to it alone. -/
theorem exists_alone (distinct : Function.Injective fun party => (jobs party).id)
    (reaches : Scene.Reaches (store.serves handling) (together settings jobs store.empty) scene)
    (party : parties) :
    ∃ lone, Scene.Reaches (store.serves handling) (alone settings (jobs party) store.empty) lone ∧
      lone.threads () = scene.threads party ∧ lone.world.own () = scene.world.own party ∧
      store.cell (jobs party).id lone.world.state =
        store.cell (jobs party).id scene.world.state := by
  have leaves := together_leaves reaches party
  have concerns := (((jobs party).inStep settings).asks.of_leaves leaves).1
  have served := (together_apart distinct reaches).served party
  rw [← store.cell_empty (jobs party).id] at served
  obtain ⟨after, allows, same⟩ := exists_served concerns served
  obtain ⟨lone, reaches, left, rfl, owned, -⟩ :=
    @Scene.exists_passage _ _ _ _ _ _ () (alone settings (jobs party) store.empty) _ _ _
      leaves allows
  exact ⟨lone, reaches, left, owned, same⟩

/-- Two runs of one job that are over, both among others, have gone the same way. -/
theorem ends_alike {others : Type} [DecidableEq others] {jobs' : others → Job}
    {scene' : Scene surroundings (fun _ : others => Execution) σ}
    (apart : Apart store handling jobs scene.world)
    (apart' : Apart store handling jobs' scene'.world)
    (reaches : Scene.Reaches (store.serves handling) (together settings jobs store.empty) scene)
    (reaches' : Scene.Reaches (store.serves handling) (together settings jobs' store.empty) scene')
    {party : parties} {other : others} (same : jobs' other = jobs party) {record twin : Execution}
    (finished : scene.threads party = .done record)
    (finished' : scene'.threads other = .done twin) :
    Twins (jobs party).subject record twin ∧
      CellAlike (store.cell (jobs party).id scene.world.state)
        (store.cell (jobs party).id scene'.world.state) ∧
      List.Forall₂ EventAlike (scene.world.own party) (scene'.world.own other) := by
  have leaves := together_leaves reaches party
  have leaves' := together_leaves reaches' other
  have served' := apart'.served other
  rw [finished] at leaves
  rw [same] at leaves' served'
  rw [finished'] at leaves'
  have yields := leaves.yields (.done record)
  have yields' := leaves'.yields (.done twin)
  rw [List.append_nil] at yields yields'
  exact ((jobs party).inStep settings).goAlike _ _ _ _ _ _ _ _ yields yields' .none
    (apart.served party) served'

/-- The record of a run that is over is stored. -/
theorem Apart.stored (apart : Apart store handling jobs scene.world)
    (reaches : Scene.Reaches (store.serves handling) (together settings jobs store.empty) scene)
    {party : parties} {record : Execution} (finished : scene.threads party = .done record) :
    ∃ revision, store.cell (jobs party).id scene.world.state = some ⟨record, revision⟩ := by
  have leaves := together_leaves reaches party
  rw [finished] at leaves
  have yields := leaves.yields (.done record)
  rw [List.append_nil] at yields
  exact stored_of_yields yields (apart.served party)

theorem subject_of_done (distinct : Function.Injective fun party => (jobs party).id)
    (reaches : Scene.Reaches (store.serves handling) (together settings jobs store.empty) scene)
    {party : parties} {record : Execution} (finished : scene.threads party = .done record) :
    record.subject = (jobs party).subject := by
  have apart := together_apart distinct reaches
  exact (ends_alike apart apart reaches reaches rfl finished finished).1.subject

/-- When all runs are over, a workflow is listed with the records of its runs, once each. -/
theorem listed_of_done (distinct : Function.Injective fun party => (jobs party).id)
    (reaches : Scene.Reaches (store.serves handling) (together settings jobs store.empty) scene)
    (finished : ∀ party, ∃ record, scene.threads party = .done record) (workflowId : WorkflowId) :
    ∃ records, store.list workflowId scene.world.state = .ok records ∧ records.Nodup ∧
      ∀ record, record ∈ records ↔
        ∃ party, (jobs party).workflow.id = workflowId ∧ scene.threads party = .done record := by
  have apart := together_apart distinct reaches
  obtain ⟨records, listed, lists⟩ := store.list_eq workflowId _ apart.orderly
  refine ⟨records, listed, ?_, fun record => ?_⟩
  · refine lists.ordered.imp fun {left right} before same => ?_
    subst same
    simp [Ulid.before] at before
  · rw [lists.mem_iff]
    constructor
    · rintro ⟨rfl, revision, holds⟩
      obtain ⟨party, own⟩ : ∃ party, (jobs party).id = record.id := by
        by_contra nobody
        rw [apart.unclaimed record.id (not_exists.mp nobody)] at holds
        cases holds
      obtain ⟨other, ended⟩ := finished party
      obtain ⟨_, stored⟩ := apart.stored reaches ended
      rw [own, holds] at stored
      cases stored
      have subject := subject_of_done distinct reaches ended
      exact ⟨party, (congrArg Subject.workflowId subject).symm, ended⟩
    · rintro ⟨party, rfl, ended⟩
      have subject := subject_of_done distinct reaches ended
      obtain ⟨revision, stored⟩ := apart.stored reaches ended
      have own : record.id = (jobs party).id := congrArg Subject.id subject
      exact ⟨congrArg Subject.workflowId subject, revision, own ▸ stored⟩

/-- Any number of runs with different identifiers share a store that refuses nothing, and
handlers that look at nothing but the node and the context, and ask in any order.
Whatever has happened to a run so far, and what the store holds of it, can happen to it
alone on the empty store.  When it is over, it has gone as it always goes alone: it has
executed the same nodes and attempted the same ones in the same contexts, and it returns,
and leaves in the store, the same record of its own but for what the clock has told.
Every run can always go on to its end, and none goes on forever.  When all are over, a
workflow is listed with exactly the records that its runs have returned, once each. -/
theorem runs_independent (store : SharedStore σ) (settings : Settings) (handling : Handling)
    (jobs : parties → Job) (distinct : Function.Injective fun party => (jobs party).id)
    (scene : Scene surroundings (fun _ : parties => Execution) σ)
    (reaches : Scene.Reaches (store.serves handling) (together settings jobs store.empty) scene) :
    (∀ party, ∃ lone,
      Scene.Reaches (store.serves handling) (alone settings (jobs party) store.empty) lone ∧
        lone.threads () = scene.threads party ∧ lone.world.own () = scene.world.own party ∧
        store.load (jobs party).id lone.world.state =
          store.load (jobs party).id scene.world.state) ∧
    (∀ party record lone twin, scene.threads party = .done record →
      Scene.Reaches (store.serves handling) (alone settings (jobs party) store.empty) lone →
      lone.threads () = .done twin →
        executions settings (scene.world.own party) = executions settings (lone.world.own ()) ∧
        attempts (scene.world.own party) = attempts (lone.world.own ()) ∧
        record.subject = (jobs party).subject ∧ record.Alike twin ∧
        ∃ revision, store.load (jobs party).id scene.world.state = .ok ⟨record, revision⟩ ∧
          store.load (jobs party).id lone.world.state = .ok ⟨twin, revision⟩) ∧
    (∀ party,
      (∃ later, Scene.Reaches (store.serves handling) scene later ∧
        ∃ record, later.threads party = .done record) ∧
      ∀ schedule : Nat → Scene surroundings (fun _ : parties => Execution) σ, schedule 0 = scene →
        (∀ time, Scene.Step (store.serves handling) (schedule time) (schedule (time + 1))) →
        ∃ time, ∀ later, time ≤ later →
          ¬ Scene.StepBy (store.serves handling) party (schedule later) (schedule (later + 1))) ∧
    ((∀ party, ∃ record, scene.threads party = .done record) →
      ∀ workflowId, ∃ records, store.list workflowId scene.world.state = .ok records ∧
        records.Nodup ∧ ∀ record, record ∈ records ↔
          ∃ party, (jobs party).workflow.id = workflowId ∧
            scene.threads party = .done record) := by
  have apart := together_apart distinct reaches
  refine ⟨fun party => ?_, ?_, fun party => ⟨?_, ?_⟩, listed_of_done distinct reaches⟩
  · obtain ⟨lone, passes, left, owned, same⟩ := exists_alone distinct reaches party
    exact ⟨lone, passes, left, owned, by rw [store.load_eq, store.load_eq, same]⟩
  · intro party record lone twin finished passes ended
    have lonely : Function.Injective fun _ : Unit => (jobs party).id := fun _ _ _ => rfl
    have apartToo := together_apart lonely passes
    obtain ⟨twins, cells, events⟩ :=
      ends_alike apart apartToo reaches passes rfl finished ended
    obtain ⟨revision, stored⟩ := apart.stored reaches finished
    obtain ⟨another, storedToo⟩ := apartToo.stored passes ended
    rw [stored, storedToo] at cells
    obtain ⟨-, same⟩ : Versioned.Alike ⟨record, revision⟩ ⟨twin, another⟩ := by
      cases cells
      assumption
    cases same
    exact ⟨executions_of_alike settings events, attempts_of_alike events, twins.subject,
      twins.toAlike, revision, AtomicStore.load_eq_ok.mpr stored,
      AtomicStore.load_eq_ok.mpr storedToo⟩
  · obtain ⟨later, further, ended, -⟩ :=
      Scene.exists_ended AtomicStore.serves_total party scene
    exact ⟨later, further, ended⟩
  · exact fun schedule _ steps => Scene.eventually_quiet steps party

/-- Two runs of one workflow. -/
def twice (late : Bool) : Job := ⟨solo, ⟨⟨if late then 2 else 1⟩⟩, .null⟩

/-- Handlers that always come out with nothing. -/
def idle : Handling := fun _ _ => some (.ok .null)

/-- In memory one run begins, the other one runs to its end, and the first one goes on to its
own.  Both are listed. -/
theorem runs_independent_in_memory :
    ∃ scene one other,
      Scene.Reaches (Store.Memory.shared.serves idle) (together {} twice []) scene ∧
      scene.threads false = .done one ∧ scene.threads true = .done other ∧
      (Store.Memory.list solo.id scene.world.state).Nodup ∧
      ∀ record, record ∈ Store.Memory.list solo.id scene.world.state ↔
        record = one ∨ record = other := by
  have apart : ∀ left right, (twice left).id = (twice right).id → left = right := by decide
  have distinct : Function.Injective fun late => (twice late).id :=
    fun left right => apart left right
  have leaves : ((together {} twice Store.Memory.shared.empty).threads false).Leaves
      (birth solo ⟨⟨1⟩⟩) _ := .ask (.ask (.ask (.ask (.nil _))))
  have allows : Scene.Allows (Store.Memory.shared.serves idle) [] (birth solo ⟨⟨1⟩⟩)
      (Store.Memory.create (newborn solo ⟨⟨1⟩⟩) []).2 :=
    .cons ⟨rfl, trivial⟩ (.cons ⟨rfl, trivial⟩ (.cons ⟨rfl, trivial⟩
      (.cons ⟨.inl rfl, trivial⟩ (.nil _))))
  obtain ⟨begun, begins, -⟩ := Scene.exists_reaches leaves allows
  obtain ⟨between, passes, ⟨other, ended⟩, -⟩ := Scene.exists_ended
    (@AtomicStore.serves_total _ Store.Memory.shared.toAtomicStore idle) true begun
  obtain ⟨scene, finishes, ⟨one, finished⟩, others⟩ := Scene.exists_ended
    (@AtomicStore.serves_total _ Store.Memory.shared.toAtomicStore idle) false between
  rw [← others true (by decide)] at ended
  have reaches := (begins.trans passes).trans finishes
  obtain ⟨-, -, -, lists⟩ :=
    runs_independent Store.Memory.shared {} idle twice distinct scene reaches
  have settled (party : Bool) : ∃ record, scene.threads party = .done record := by
    cases party
    · exact ⟨one, finished⟩
    · exact ⟨other, ended⟩
  obtain ⟨records, listed, once, members⟩ := lists settled solo.id
  cases listed
  refine ⟨scene, one, other, reaches, finished, ended, once, fun record => ?_⟩
  rw [members record]
  simp [twice, finished, ended, eq_comm]

end Flowline.Engine
