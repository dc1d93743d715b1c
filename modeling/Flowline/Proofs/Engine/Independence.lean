import Flowline.Proofs.Engine.Alarm

/-!
# What a run depends on

A run keeps a record, reads the clock and calls error handlers.  What it does next
depends on none of these: here is the run that only takes the steps of the walk and
hears how its writes and reads went.  Every run of the engine is one of these runs,
with more going on beside it, so what goes on beside it makes no difference.
-/

namespace Flowline.Engine

open Program

/-! ## A run on its own -/

/-- How a record ends: its status and its error. -/
structure Ending where
  status : Execution.Status
  error : Option ErrorSummary
  deriving DecidableEq

/-- How a record stands. -/
def endingOf (record : Execution) : Ending := ⟨record.status, record.error⟩

/-- How the record of a walk with some outcome ends. -/
def Ending.ofOutcome (outcome : Except RunError Unit) : Ending where
  status := statusOf outcome
  error := match outcome with
    | .ok () | .error .cancelled => none
    | .error error => some error.summary

/-- What a run makes of the reply to a write. -/
inductive Receipt where
  | accepted
  | conflicting
  | refused
  deriving DecidableEq

def Receipt.of : Except StoreError Revision → Receipt
  | .ok _ => accepted
  | .error (.conflict _ _ _) => conflicting
  | .error _ => refused

/-- What a run hears of: the steps of its walk, and its record. -/
inductive Heeded where
  | create
  | load
  | save
  | attempt (attempt : Attempt)
  deriving DecidableEq

abbrev heeded : Interface where
  Request := Heeded
  Reply
    | .create | .save => Receipt
    | .load => Option Ending
    | .attempt _ => Option (Except NodeError Json)

instance : (asked : Heeded) → DecidableEq (heeded.Reply asked)
  | .create | .save => inferInstanceAs (DecidableEq Receipt)
  | .load => inferInstanceAs (DecidableEq (Option Ending))
  | .attempt _ => inferInstanceAs (DecidableEq (Option (Except NodeError Json)))

/-- What a run makes of an event, if anything. -/
def heed : Event surroundings → Option (Event heeded)
  | ⟨.create _, reply⟩ => some ⟨.create, .of reply⟩
  | ⟨.load _, reply⟩ => some ⟨.load, reply.toOption.map fun held => endingOf held.record⟩
  | ⟨.save _ _, reply⟩ => some ⟨.save, .of reply⟩
  | ⟨.attempt attempt, reply⟩ =>
      if attempt.role = .step then some ⟨.attempt attempt, reply⟩ else none
  | ⟨.now, _⟩ | ⟨.sleep _, _⟩ => none

/-- What a run hears of some events. -/
def heard (events : List (Event surroundings)) : List (Event heeded) := events.filterMap heed

/-- What a walk carries along. -/
structure Way where
  context : Context
  path : List String

def Run.way (run : Run) : Way := ⟨run.context, run.path⟩

namespace Alone

def ask (asked : Heeded) : Program heeded (heeded.Reply asked) := @Program.request heeded asked

/-- Try a node, with some attempts left after the one of the given number. -/
def tryFrom (node : Node) (context : Context) (policy : AttemptPolicy) :
    (left number : Nat) → Program heeded (Except NodeFailure Json)
  | left, number => do
      let attempt : Attempt := ⟨.step, node, context, number, policy.timeout⟩
      match attempt.result (← ask (.attempt attempt)) with
      | .ok value => return .ok value
      | .error error =>
          match left with
          | 0 => return .error ⟨error, number⟩
          | left + 1 => tryFrom node context policy left (number + 1)

/-- Run one node and decide whether the walk goes on. -/
def runNode (plan : Plan) (node : Node) (way : Way) :
    Program heeded (Way × Except RunError Unit) := do
  let policy := AttemptPolicy.forNode node plan.settings
  match ← tryFrom node way.context policy (policy.maxAttempts - 1) 1 with
  | .ok result => return ({ way with context := way.context.setResult node.id result }, .ok ())
  | .error failure =>
      let message := failure.error.message
      if policy.continueOnError then
        return ({ way with context := way.context.recordFailure (node.failure message) }, .ok ())
      else return (way, .error (.nodeFailed node.id node.name failure.attempts message way.path))

/-- Follow connections in turn, leaving out those whose guard does not hold when
their turn comes. -/
def follow (visit : String → Way → Program heeded (Way × Except RunError Unit)) :
    List Connection → Way → Program heeded (Way × Except RunError Unit)
  | [], way => return (way, .ok ())
  | connection :: rest, way => do
      match connection.guard.filter fun guard => !Guard.holds guard way.context with
      | some _ => follow visit rest way
      | none =>
          match ← visit connection.target way with
          | (way, .ok ()) => follow visit rest way
          | stopped => return stopped

/-- Whether the stored record was cancelled meanwhile. -/
def isCancelled (plan : Plan) : Program heeded Bool :=
  if plan.settings.checkCancellation && plan.stored then do
    match ← ask .load with
    | some held => return held.status = .cancelled
    | none => return false
  else return false

/-- Walk on from a node. -/
def walk (plan : Plan) : (allowed : Nat) → String → Way →
    Program heeded (Way × Except RunError Unit)
  | 0, nodeId, way => return (way, .error (.depthExceeded nodeId plan.settings.maxDepth))
  | allowed + 1, nodeId, way => do
      if ← isCancelled plan then
        return (way, .error .cancelled)
      match plan.graph.vertex? nodeId with
      | none =>
          return (way, .error (.invalidWorkflow s!"node {nodeId} is not part of the workflow"))
      | some vertex =>
          match ← runNode plan vertex.node { way with path := way.path ++ [vertex.node.id] } with
          | (way, .ok ()) =>
              match ← follow (walk plan allowed) vertex.outgoing way with
              | (way, .ok ()) => return ({ way with path := way.path.dropLast }, .ok ())
              | stopped => return stopped
          | stopped => return stopped

/-- Walk through a workflow, if it is valid. -/
def traverse (settings : Settings) (workflow : Workflow) (input : Json) (stored : Bool) :
    Program heeded (Except RunError Unit) :=
  match Graph.build workflow with
  | .error error => return .error (.invalidWorkflow error.message)
  | .ok graph => do
      let (_, outcome) ← walk ⟨workflow, graph, settings, stored⟩ (settings.maxDepth + 1)
        workflow.trigger ⟨.start input, []⟩
      return outcome

/-- Write once more after a conflict; a final status that is stored already is kept. -/
def resolveConflict (ending : Ending) : Program heeded Ending := do
  match ← ask .load with
  | none => return ending
  | some held =>
      let _ ← ask .save
      return if held.status.isFinal && held.status ≠ ending.status then held else ending

/-- Write the record of a run that is over. -/
def persist (ending : Ending) (stored : Bool) : Program heeded Ending := do
  match ← if stored then ask .save else ask .create with
  | .conflicting => resolveConflict ending
  | .accepted | .refused => return ending

/-- Write the record of a run that begins, and say whether it is stored. -/
def opening : Program heeded Bool := do
  return (← ask .create) = Receipt.accepted

/-- Run a workflow. -/
def execute (settings : Settings) (workflow : Workflow) (input : Json) :
    Program heeded Ending := do
  let stored ← opening
  let outcome ← traverse settings workflow input stored
  persist (.ofOutcome outcome) stored

end Alone

/-! ## Beside the run -/

variable {α β γ δ : Type} {events more : List (Event surroundings)}

@[simp] theorem heard_append : heard (events ++ more) = heard events ++ heard more :=
  List.filterMap_append

/-- What a run hears of an action is a trace of another program, with the same value as
far as it is seen. -/
def Heeds (action : Action α) (alone : Program heeded β) (view : α → β) : Prop :=
  action.Ensures fun events value => alone.Yields (heard events) (view value)

theorem Heeds.bind_of {holds : α → Prop} {action : Action α} {alone : Program heeded β}
    {view : α → β} {rest : α → Action γ} {next : β → Program heeded δ} {later : γ → δ}
    (first : Heeds action alone view) (told : action.Ensures fun _ value => holds value)
    (second : ∀ value, holds value → Heeds (rest value) (next (view value)) later) :
    Heeds (action.bind rest) (alone.bind next) later :=
  Ensures.bind (first.and told) fun events value yields =>
    (second value yields.2).mono fun more result after => by
      rw [heard_append]
      exact yields.1.bind after

theorem Heeds.bind {action : Action α} {alone : Program heeded β} {view : α → β}
    {rest : α → Action γ} {next : β → Program heeded δ} {later : γ → δ}
    (first : Heeds action alone view)
    (second : ∀ value, Heeds (rest value) (next (view value)) later) :
    Heeds (action.bind rest) (alone.bind next) later :=
  first.bind_of (.of_forall fun _ _ => trivial) fun value _ => second value

/-- Nothing is heard of an action. -/
theorem Heeds.beside {holds : α → Prop} {action : Action α} {rest : α → Action γ}
    {alone : Program heeded δ} {later : γ → δ}
    (first : action.Ensures fun events value => heard events = [] ∧ holds value)
    (second : ∀ value, holds value → Heeds (rest value) alone later) :
    Heeds (action.bind rest) alone later :=
  Ensures.bind first fun events value silent =>
    (second value silent.2).mono fun more result after => by
      rwa [heard_append, silent.1, List.nil_append]

theorem Heeds.done {value : α} {view : α → β} {result : β} (same : view value = result) :
    Heeds (Program.done value) (Program.done result) view :=
  same ▸ Yields.done (view value)

theorem Heeds.ask {asked : Request} {told : Heeded} {hear : Reply asked → heeded.Reply told}
    {next : Reply asked → Action α} {rest : heeded.Reply told → Program heeded β} {view : α → β}
    (hears : ∀ reply, heed ⟨asked, reply⟩ = some ⟨told, hear reply⟩)
    (each : ∀ reply, Heeds (next reply) (rest (hear reply)) view) :
    Heeds (@Program.ask surroundings _ asked next) (@Program.ask heeded _ told rest) view := by
  intro reply
  apply (each reply).mono
  intro events value yields
  have first : heard (⟨asked, reply⟩ :: events) = ⟨told, hear reply⟩ :: heard events :=
    List.filterMap_cons_some (hears reply)
  simpa only [first] using yields.ask

/-- Nothing is heard of what neither asks the store nor is a step of the walk. -/
theorem heard_eq_nil (aside : ∀ event ∈ events, event.asked.Aside)
    (storeless : ∀ event ∈ events, ¬ event.asked.AsksStore) : heard events = [] := by
  apply List.filterMap_eq_nil_iff.mpr
  intro event member
  have isAside := aside event member
  have isStoreless := storeless event member
  obtain ⟨asked, reply⟩ := event
  cases asked <;> simp_all [heed, Request.Aside, Request.AsksStore]

theorem heard_of_clock (clock : ∀ event ∈ events, event.asked = .now) : heard events = [] := by
  apply heard_eq_nil
  · intro event member
    simp [clock event member, Request.Aside]
  · intro event member
    simp [clock event member, Request.AsksStore]

/-! ## The walk -/

theorem runNote_beside (run : Run) (level : LogLevel) (message nodeId : String) :
    (run.note level message nodeId).Ensures fun events after =>
      heard events = [] ∧ after.way = run.way :=
  fun _ => ⟨rfl, rfl⟩

theorem note_beside (record : Execution) (level : LogLevel) (message : String)
    (nodeId : Option String) :
    (Action.note record level message nodeId).Ensures fun events after =>
      heard events = [] ∧ endingOf after = endingOf record :=
  fun _ => ⟨rfl, rfl⟩

theorem dispatch_beside (plan : Plan) (failed : Node) (message : String) (run : Run) :
    (dispatch plan failed message run).Ensures fun events after =>
      heard events = [] ∧ after.way = run.way := by
  apply Ensures.bind (runHandlers_told _ _ _ _ _)
  intro events record told
  constructor
  · rw [List.append_nil]
    exact heard_eq_nil told.aside told.writes.1
  · rfl

theorem tryFrom_heeds (node : Node) (context : Context) (policy : AttemptPolicy)
    (left number : Nat) (record : Execution) :
    Heeds (tryFrom node context policy left number record)
      (Alone.tryFrom node context policy left number) Prod.snd := by
  induction left generalizing number record with
  | zero =>
      rw [tryFrom, attempt_eq, Alone.tryFrom]
      refine @Heeds.ask _ _ _ (.attempt _) id _ _ _ (fun _ => rfl) fun reply => ?_
      simp only [bind_eq_bind, done_bind, id]
      cases Attempt.result _ reply with
      | ok value => exact .done rfl
      | error error =>
          apply Heeds.beside (note_beside record _ _ _)
          intro noted _
          apply Heeds.beside (note_beside noted _ _ _)
          intro failed _
          exact .done rfl
  | succ left ih =>
      rw [tryFrom, attempt_eq, Alone.tryFrom]
      refine @Heeds.ask _ _ _ (.attempt _) id _ _ _ (fun _ => rfl) fun reply => ?_
      simp only [bind_eq_bind, done_bind, id]
      cases Attempt.result _ reply with
      | ok value => exact .done rfl
      | error error =>
          apply Heeds.beside (note_beside record _ _ _)
          intro noted _ slept
          exact ih (number + 1) noted

/-- What a walk carries along and how it goes on. -/
def seen (result : Run × Except RunError Unit) : Way × Except RunError Unit :=
  (result.1.way, result.2)

theorem runNode_heeds (plan : Plan) (node : Node) (run : Run) :
    Heeds (runNode plan node run) (Alone.runNode plan node run.way) seen := by
  obtain ⟨record, context, path⟩ := run
  apply Heeds.beside (runNote_beside _ _ _ _)
  rintro ⟨record, context, path⟩ ⟨⟩
  apply Heeds.bind (tryFrom_heeds _ _ _ _ _ _)
  rintro ⟨record, outcome⟩
  cases outcome with
  | ok result =>
      apply Heeds.beside (runNote_beside _ _ _ _)
      intro completed same
      exact .done (congrArg (·, _) same)
  | error failure =>
      simp only
      split
      · apply Heeds.beside (dispatch_beside _ _ _ _)
        intro told same
        apply Heeds.beside (runNote_beside _ _ _ _)
        intro continued still
        exact .done (congrArg (·, _) (still.trans same))
      · apply Heeds.beside (dispatch_beside _ _ _ _)
        rintro ⟨after, context, path⟩ ⟨⟩
        exact .done rfl

theorem follow_heeds {visit : String → Run → Action (Run × Except RunError Unit)}
    {alone : String → Way → Program heeded (Way × Except RunError Unit)}
    (visiting : ∀ nodeId run, Heeds (visit nodeId run) (alone nodeId run.way) seen)
    (connections : List Connection) (run : Run) :
    Heeds (follow visit connections run) (Alone.follow alone connections run.way) seen := by
  induction connections generalizing run with
  | nil => exact .done rfl
  | cons connection rest ih =>
      rw [follow, Alone.follow]
      have sameContext : run.way.context = run.context := rfl
      rw [sameContext]
      cases connection.guard.filter fun guard => !Guard.holds guard run.context with
      | some guard =>
          apply Heeds.beside (runNote_beside _ _ _ _)
          intro skipped same
          exact same ▸ ih skipped
      | none =>
          apply Heeds.bind (visiting connection.target run)
          rintro ⟨visited, outcome⟩
          cases outcome with
          | ok _ => exact ih visited
          | error error => exact .done rfl

theorem isCancelled_heeds (plan : Plan) (run : Run) :
    Heeds (isCancelled plan run) (Alone.isCancelled plan) id := by
  unfold isCancelled Alone.isCancelled
  split
  · apply @Heeds.ask _ _ (.load _) .load (fun reply : Except StoreError Versioned =>
      reply.toOption.map fun held => endingOf held.record)
    · exact fun _ => rfl
    · intro reply
      cases reply <;> exact .done rfl
  · exact .done rfl

/-- Every walk takes the steps of a walk on its own. -/
theorem walk_heeds (plan : Plan) (allowed : Nat) (nodeId : String) (run : Run) :
    Heeds (walk plan allowed nodeId run) (Alone.walk plan allowed nodeId run.way) seen := by
  induction allowed generalizing nodeId run with
  | zero => exact .done rfl
  | succ allowed ih =>
      rw [walk, Alone.walk]
      apply Heeds.bind (isCancelled_heeds plan run)
      intro found
      cases found with
      | true => exact .done rfl
      | false =>
          simp only [id, Bool.false_eq_true, if_false]
          cases plan.graph.vertex? nodeId with
          | none => exact .done rfl
          | some vertex =>
              apply Heeds.bind (runNode_heeds plan vertex.node _)
              rintro ⟨after, outcome⟩
              cases outcome with
              | error error => exact .done rfl
              | ok _ =>
                  apply Heeds.bind (follow_heeds ih vertex.outgoing after)
                  rintro ⟨last, outcome⟩
                  cases outcome <;> exact .done rfl

/-! ## The whole run -/

section Whole

open Execution Flowline.Engine.Action

theorem opening_heeds (workflow : Workflow) (id : ExecutionId) :
    Heeds (opening workflow id) Alone.opening fun opened => opened.2.isSome := by
  intro created
  simp only [bind_eq_bind, done_bind]
  rw [enterStatus_eq rfl]
  intro started noted reply
  cases reply with
  | ok revision => exact .ask (.done true)
  | error error =>
      intro warned
      cases error <;> exact .ask (.done false)

theorem traverse_heeds (settings : Settings) (workflow : Workflow) (input : Json)
    (stored : Bool) (record : Execution) :
    Heeds (traverse settings workflow input stored record)
      (Alone.traverse settings workflow input stored) Prod.snd := by
  unfold traverse Alone.traverse
  cases Graph.build workflow with
  | error error => exact .done rfl
  | ok graph =>
      apply Heeds.beside ((inspect_tells _ record).mono fun events noted told =>
        ⟨heard_of_clock told.clock, trivial⟩)
      intro noted _
      apply Heeds.bind (walk_heeds _ _ _ _)
      rintro ⟨run, outcome⟩
      exact .done rfl

/-- A running record ends as its walk does. -/
theorem conclude_beside {id : ExecutionId} {record : Execution} (running : Running id record)
    (outcome : Except RunError Unit) :
    (conclude record outcome).Ensures fun events after =>
      heard events = [] ∧ endingOf after = .ofOutcome outcome := by
  have allows {status : Execution.Status} (allowed : Status.running.allows status = true) :
      record.status.allows status = true := by
    rwa [running.status_eq]
  cases outcome with
  | ok _ =>
      rw [conclude, enterStatus_eq (allows rfl)]
      intro time
      exact ⟨rfl, by simp [endingOf, Ending.ofOutcome, statusOf, running.error_eq]⟩
  | error error =>
      by_cases cancelled : error = .cancelled
      · subst cancelled
        intro noted
        simp only [pure_eq_done, done_bind]
        rw [enterStatus_eq]
        · intro time
          exact ⟨rfl, by simp [endingOf, Ending.ofOutcome, statusOf, running.error_eq, log]⟩
        · exact allows rfl
      · rw [conclude_error record cancelled]
        intro noted
        simp only [pure_eq_done, done_bind]
        rw [failWith_eq]
        · intro time
          refine ⟨rfl, ?_⟩
          cases error <;> simp_all [endingOf, Ending.ofOutcome, statusOf]
        · exact allows rfl

theorem finish_beside {id : ExecutionId} {record : Execution} (running : Running id record)
    (outcome : Except RunError Unit) :
    (finish record outcome).Ensures fun events after =>
      heard events = [] ∧ endingOf after = .ofOutcome outcome := by
  apply Ensures.bind (conclude_beside running outcome)
  intro events concluded first
  apply (note_beside concluded _ _ _).mono
  intro more after second
  exact ⟨by rw [heard_append, first.1, second.1, List.nil_append], second.2.trans first.2⟩

theorem yieldTo_beside (record held : Execution) :
    (yieldTo record held).Ensures fun events after => heard events = [] ∧
      endingOf after =
        if held.status.isFinal && held.status ≠ record.status then endingOf held
        else endingOf record := by
  unfold yieldTo
  split
  · exact fun _ => ⟨rfl, rfl⟩
  · exact ⟨rfl, rfl⟩

theorem resolveConflict_heeds (record : Execution) :
    Heeds (resolveConflict record) (Alone.resolveConflict (endingOf record)) endingOf := by
  apply @Heeds.ask _ _ (.load _) .load (fun reply : Except StoreError Versioned =>
    reply.toOption.map fun held => endingOf held.record)
  · exact fun _ => rfl
  · intro reply
    cases reply with
    | error error => exact fun _ => .done _
    | ok held =>
        apply Heeds.beside (yieldTo_beside record held.record)
        intro kept same
        apply @Heeds.ask _ _ (.save _ _) .save Receipt.of
        · exact fun _ => rfl
        · intro reply
          cases reply with
          | ok revision => exact .done same
          | error error => exact fun _ => same ▸ .done _

theorem persist_heeds (record : Execution) (revision : Option Revision) :
    Heeds (persist record revision) (Alone.persist (endingOf record) revision.isSome)
      endingOf := by
  have after (reply : Except StoreError Revision) :
      Heeds (afterWrite record reply)
        (match Receipt.of reply with
          | .conflicting => Alone.resolveConflict (endingOf record)
          | .accepted | .refused => Program.done (endingOf record)) endingOf := by
    cases reply with
    | ok revision => exact .done rfl
    | error error =>
        cases error with
        | conflict id expected actual => exact resolveConflict_heeds record
        | notFound | alreadyExists | storage | serialization => exact fun _ => .done _
  rw [persist_eq]
  cases revision with
  | none => exact @Heeds.ask _ _ (.create record) .create Receipt.of _ _ _ (fun _ => rfl) after
  | some revision =>
      exact @Heeds.ask _ _ (.save record revision) .save Receipt.of _ _ _ (fun _ => rfl) after

/-- Every run takes the steps of a run on its own, and ends like it. -/
theorem execute_heeds (settings : Settings) (workflow : Workflow) (id : ExecutionId)
    (input : Json) :
    Heeds (execute settings workflow id input) (Alone.execute settings workflow input)
      endingOf := by
  rw [execute_eq]
  apply Heeds.bind_of (opening_heeds workflow id)
    ((opening_running workflow id).mono fun _ _ opened => opened.1)
  intro opened running
  apply Heeds.bind_of (traverse_heeds settings workflow input opened.2.isSome opened.1)
    ((traverse_grown settings workflow input opened.2.isSome opened.1).mono
      fun _ _ walked => running.of_grown walked.1)
  intro walked stillRunning
  apply Heeds.beside (finish_beside stillRunning walked.2)
  intro record ended
  rw [← ended]
  exact persist_heeds record opened.2

/-- Unless a write conflicts, the record of a run ends as its walk does. -/
theorem Course.endingOf_eq {settings : Settings} {workflow : Workflow} {id : ExecutionId}
    {input : Json} {record : Execution}
    (course : Course settings workflow id input events record)
    (unconflicted : ∀ event ∈ events, ¬ Conflicted event) :
    endingOf record = .ofOutcome course.walked.2 := by
  have among : ∀ event ∈ course.written, event ∈ events := by
    intro event member
    simp [course.events_eq, member]
  obtain ⟨status, error, -⟩ :=
    ((persist_settled course.ended.toFinalised _).of_yields course.persists).2
      fun event member => unconflicted event (among event member)
  rw [← ((finish_beside course.walked_running _).of_yields course.finishes).2, endingOf, endingOf,
    status, error]

theorem Walked.endingOf_eq {settings : Settings} {workflow : Workflow} {id : ExecutionId}
    {input : Json} {record : Execution} {walked : List (Event surroundings)}
    {outcome : Except RunError Unit}
    (walks : Walked settings workflow id input events walked outcome)
    (yields : (execute settings workflow id input).Yields events record)
    (unconflicted : ∀ event ∈ events, ¬ Conflicted event) :
    endingOf record = .ofOutcome outcome := by
  obtain ⟨course⟩ := exists_course yields
  rcases course.invalid_or_walked with ⟨error, invalid, -⟩ | ⟨-, steps, again, -⟩
  · obtain ⟨built, -⟩ := walks
    simp [Graph.build, invalid] at built
  · rw [(walks.unique again).2]
    exact course.endingOf_eq unconflicted

end Whole

/-! ## Two runs -/

/-- The step of a walk that something heard is. -/
def stepHeard? : Event heeded → Option (Event surroundings)
  | ⟨.attempt attempt, reply⟩ => some ⟨.attempt attempt, reply⟩
  | ⟨.create, _⟩ | ⟨.load, _⟩ | ⟨.save, _⟩ => none

/-- What only looks at the steps of a walk can look at what is heard. -/
theorem flatMap_heard {f : Event surroundings → List α}
    (aside : ∀ event, event.asked.Aside → f event = []) (events : List (Event surroundings)) :
    events.flatMap f = ((heard events).filterMap stepHeard?).flatMap f := by
  have each (event : Event surroundings) :
      f event = ((heed event).bind stepHeard?).toList.flatMap f := by
    obtain ⟨asked, reply⟩ := event
    cases asked with
    | attempt attempt =>
        by_cases step : attempt.role = .step
        · simp [heed, step, stepHeard?]
        · rw [aside ⟨.attempt attempt, reply⟩ step]
          simp [heed, step]
    | now | sleep | create | load | save => exact aside _ trivial
  induction events with
  | nil => rfl
  | cons event rest ih =>
      rw [List.flatMap_cons, each event, ih]
      cases told : heed event with
      | none => simp [heard, told]
      | some hearing => cases step : stepHeard? hearing <;> simp [heard, told, step]

theorem flatMap_eq_of_heard {f : Event surroundings → List α}
    (aside : ∀ event, event.asked.Aside → f event = []) {left right : List (Event surroundings)}
    (same : heard left = heard right) : left.flatMap f = right.flatMap f := by
  rw [flatMap_heard aside left, same, ← flatMap_heard aside right]

/-- A workflow whose first node fails, with a node that is told of it. -/
def alarmed : Workflow where
  id := ⟨⟨0⟩⟩
  name := "alarmed"
  nodes := [
    { id := "start", name := "Start", config := .manual,
      policy := some { retries := 1, continueOnError := true } },
    { id := "alarm", name := "Alarm", config := .manual, errorHandler := true }]
  connections := [{ source := "start", target := "alarm" }]
  trigger := "start"
  createdAt := ⟨0, 0⟩
  updatedAt := ⟨0, 0⟩

/-- Replies as others, but no error handler is ever done. -/
def muting (answer : (asked : Request) → Reply asked) : (asked : Request) → Reply asked
  | .attempt attempt =>
      if attempt.role = .errorHandler then none else answer (.attempt attempt)
  | asked => answer asked

end Flowline.Engine
