import Flowline.Proofs.Engine.Closing
import Flowline.Proofs.Execution.Alike

/-!
# Runs in step

Two runs of one workflow read the clock at different times, and nothing else need differ
between them.  Programs in step make the same requests but for what the clock has told
them, whatever it tells them next; the records that they keep differ in nothing but the
times, and so does what they hand to the store.
-/

namespace Flowline

/-- Two replies to reading a record: alike versions, or the same refusal. -/
inductive Found : Except StoreError Versioned → Except StoreError Versioned → Prop where
  | refused (error : StoreError) : Found (.error error) (.error error)
  | held {left right : Versioned} (versions : left.Alike right) : Found (.ok left) (.ok right)

theorem Found.refl (reply : Except StoreError Versioned) : Found reply reply := by
  cases reply with
  | error error => exact .refused error
  | ok held => exact .held (.refl held)

namespace Engine

open Program Execution Flowline.Engine.Action

/-! ## Programs in step -/

/-- Two programs of one run by two clocks: they ask the same, and whatever the clocks tell
them, they stay in step to their ends.  Both may be shown stored records that differ in the
times. -/
inductive InStep (who : Subject) {α β : Type} (same : α → β → Prop) :
    Action α → Action β → Prop where
  | done {left : α} {right : β} (ends : same left right) :
      InStep who same (Program.done left) (Program.done right)
  | now {next : Instant → Action α} {rest : Instant → Action β}
      (further : ∀ first second, InStep who same (next first) (rest second)) :
      InStep who same (@Program.ask surroundings _ .now next)
        (@Program.ask surroundings _ .now rest)
  | sleep (milliseconds : Nat) {next : Unit → Action α} {rest : Unit → Action β}
      (further : InStep who same (next ()) (rest ())) :
      InStep who same (@Program.ask surroundings _ (.sleep milliseconds) next)
        (@Program.ask surroundings _ (.sleep milliseconds) rest)
  | attempt (attempt : Attempt) {next : Option (Except NodeError Json) → Action α}
      {rest : Option (Except NodeError Json) → Action β}
      (further : ∀ reply, InStep who same (next reply) (rest reply)) :
      InStep who same (@Program.ask surroundings _ (.attempt attempt) next)
        (@Program.ask surroundings _ (.attempt attempt) rest)
  | create {left right : Execution} (records : Twins who left right)
      {next : Except StoreError Revision → Action α}
      {rest : Except StoreError Revision → Action β}
      (further : ∀ reply, InStep who same (next reply) (rest reply)) :
      InStep who same (@Program.ask surroundings _ (.create left) next)
        (@Program.ask surroundings _ (.create right) rest)
  | load {next : Except StoreError Versioned → Action α}
      {rest : Except StoreError Versioned → Action β}
      (further : ∀ reply other, Found reply other → InStep who same (next reply) (rest other)) :
      InStep who same (@Program.ask surroundings _ (.load who.id) next)
        (@Program.ask surroundings _ (.load who.id) rest)
  | save {left right : Execution} (records : Twins who left right) (expected : Revision)
      {next : Except StoreError Revision → Action α}
      {rest : Except StoreError Revision → Action β}
      (further : ∀ reply, InStep who same (next reply) (rest reply)) :
      InStep who same (@Program.ask surroundings _ (.save left expected) next)
        (@Program.ask surroundings _ (.save right expected) rest)

namespace InStep

variable {who : Subject} {α β γ δ : Type} {same : α → β → Prop} {later : γ → δ → Prop}
  {left : Action α} {right : Action β}

theorem bind {next : α → Action γ} {rest : β → Action δ} (first : InStep who same left right)
    (second : ∀ value other, same value other → InStep who later (next value) (rest other)) :
    InStep who later (left.bind next) (right.bind rest) := by
  induction first with
  | done ends => exact second _ _ ends
  | now _ ih => exact .now ih
  | sleep milliseconds _ ih => exact .sleep milliseconds ih
  | attempt attempt _ ih => exact .attempt attempt ih
  | create records _ ih => exact .create records ih
  | load _ ih => exact .load ih
  | save records expected _ ih => exact .save records expected ih

/-- Programs in step concern themselves with no record but that of their run. -/
theorem asks (inStep : InStep who same left right) : left.Asks (Request.Concerns who.id) := by
  induction inStep with
  | done => trivial
  | now _ ih => exact ⟨trivial, fun time => ih time time⟩
  | sleep milliseconds _ ih => exact ⟨trivial, fun _ => ih⟩
  | attempt attempt _ ih => exact ⟨trivial, ih⟩
  | create records _ ih => exact ⟨records.id_eq, ih⟩
  | load _ ih => exact ⟨rfl, fun reply => ih reply reply (.refl reply)⟩
  | save records expected _ ih => exact ⟨records.id_eq, ih⟩

end InStep

/-- Two results that differ only in what the clock has told a record, with the same value
beside it. -/
inductive Beside {α γ : Type} (same : α → α → Prop) : α × γ → α × γ → Prop where
  | intro {left right : α} (first : same left right) (value : γ) :
      Beside same (left, value) (right, value)

/-- Two states of a walk that differ only in what the clock has told. -/
inductive Run.Twins (who : Subject) : Run → Run → Prop where
  | intro {left right : Execution} (records : Execution.Twins who left right) (context : Context)
      (path : List String) : Twins who ⟨left, context, path⟩ ⟨right, context, path⟩

/-! ## The parts of a run -/

section Parts

variable {who : Subject} {left right : Execution}

theorem note_inStep (twins : Twins who left right) (level : LogLevel) (message : String)
    (nodeId : Option String) :
    InStep who (Twins who) (note left level message nodeId) (note right level message nodeId) :=
  .now fun first second => .done (twins.log level message nodeId first second)

theorem runNote_inStep {run other : Run} (runs : Run.Twins who run other) (level : LogLevel)
    (message : String) (nodeId : Option String) :
    InStep who (Run.Twins who) (run.note level message nodeId)
      (other.note level message nodeId) := by
  obtain ⟨records, context, path⟩ := runs
  exact .bind (note_inStep records level message nodeId) fun _ _ noted =>
    .done (.intro noted context path)

theorem tryFrom_inStep (node : Node) (context : Context) (policy : AttemptPolicy)
    (tries number : Nat) (twins : Twins who left right) :
    InStep who (Beside (Twins who)) (tryFrom node context policy tries number left)
      (tryFrom node context policy tries number right) := by
  induction tries generalizing number left right with
  | zero =>
      rw [tryFrom, tryFrom, attempt_eq]
      refine .attempt _ fun reply => ?_
      simp only [bind_eq_bind, done_bind]
      cases Attempt.result _ reply with
      | ok value => exact .done (.intro twins _)
      | error error =>
          exact .bind (note_inStep twins _ _ _) fun _ _ noted =>
            .bind (note_inStep noted _ _ _) fun _ _ failed => .done (.intro failed _)
  | succ tries ih =>
      rw [tryFrom, tryFrom, attempt_eq]
      refine .attempt _ fun reply => ?_
      simp only [bind_eq_bind, done_bind]
      cases Attempt.result _ reply with
      | ok value => exact .done (.intro twins _)
      | error error =>
          exact .bind (note_inStep twins _ _ _) fun _ _ noted =>
            .sleep _ (ih (number + 1) noted)

theorem runHandlers_inStep (settings : Settings) (failed : Node) (context : Context)
    (handlers : List Node) (twins : Twins who left right) :
    InStep who (Twins who) (runHandlers settings failed context handlers left)
      (runHandlers settings failed context handlers right) := by
  induction handlers generalizing left right with
  | nil => exact .done twins
  | cons handler rest ih =>
      rw [runHandlers, runHandlers, attempt_eq]
      refine .bind (note_inStep twins _ _ _) fun _ _ noted => .attempt _ fun reply => ?_
      simp only [bind_eq_bind, done_bind]
      cases Attempt.result _ reply with
      | ok value => exact .bind (note_inStep noted _ _ _) fun _ _ told => ih told
      | error error => exact .bind (note_inStep noted _ _ _) fun _ _ told => ih told

theorem dispatch_inStep (plan : Plan) (failed : Node) (message : String) {run other : Run}
    (runs : Run.Twins who run other) :
    InStep who (Run.Twins who) (dispatch plan failed message run)
      (dispatch plan failed message other) := by
  obtain ⟨records, context, path⟩ := runs
  unfold dispatch
  rw [records.id_eq, records.right_id_eq]
  exact .bind (runHandlers_inStep _ _ _ _ records) fun _ _ told => .done (.intro told context path)

theorem runNode_inStep (plan : Plan) (node : Node) {run other : Run}
    (runs : Run.Twins who run other) :
    InStep who (Beside (Run.Twins who)) (runNode plan node run) (runNode plan node other) := by
  refine .bind (runNote_inStep runs _ _ _) fun _ _ started => ?_
  obtain ⟨records, context, path⟩ := started
  refine .bind (tryFrom_inStep node context _ _ _ records) fun _ _ tried => ?_
  obtain ⟨records, outcome⟩ := tried
  cases outcome with
  | ok result =>
      exact .bind (runNote_inStep (.intro records _ path) _ _ _) fun _ _ completed =>
        .done (.intro completed _)
  | error failure =>
      simp only
      split
      · exact .bind (dispatch_inStep plan node _ (.intro records _ path)) fun _ _ told =>
          .bind (runNote_inStep told _ _ _) fun _ _ continued => .done (.intro continued _)
      · refine .bind (dispatch_inStep plan node _ (.intro records context path)) fun _ _ told => ?_
        obtain ⟨records, context, path⟩ := told
        exact .done (.intro (.intro records context path) _)

theorem isCancelled_inStep (plan : Plan) {run other : Run} (runs : Run.Twins who run other) :
    InStep who Eq (isCancelled plan run) (isCancelled plan other) := by
  obtain ⟨records, context, path⟩ := runs
  unfold isCancelled
  split
  · rw [records.id_eq, records.right_id_eq]
    refine .load fun _ _ found => ?_
    cases found with
    | refused error => exact .done rfl
    | held versions => exact .done (by rw [versions.record.status_eq])
  · exact .done rfl

theorem follow_inStep {visit : String → Run → Action (Run × Except RunError Unit)}
    (visiting : ∀ nodeId run other, Run.Twins who run other →
      InStep who (Beside (Run.Twins who)) (visit nodeId run) (visit nodeId other))
    (connections : List Connection) {run other : Run} (runs : Run.Twins who run other) :
    InStep who (Beside (Run.Twins who)) (follow visit connections run)
      (follow visit connections other) := by
  induction connections generalizing run other with
  | nil => exact .done (.intro runs _)
  | cons connection rest ih =>
      have known : run.context = other.context := by
        cases runs
        rfl
      rw [follow, follow, known]
      split
      · exact .bind (runNote_inStep runs _ _ _) fun _ _ skipped => ih skipped
      · refine .bind (visiting connection.target run other runs) fun _ _ visited => ?_
        obtain ⟨runs, outcome⟩ := visited
        cases outcome with
        | ok _ => exact ih runs
        | error error => exact .done (.intro runs _)

theorem walk_inStep (plan : Plan) (allowed : Nat) (nodeId : String) {run other : Run}
    (runs : Run.Twins who run other) :
    InStep who (Beside (Run.Twins who)) (walk plan allowed nodeId run)
      (walk plan allowed nodeId other) := by
  induction allowed generalizing nodeId run other with
  | zero => exact .done (.intro runs _)
  | succ allowed ih =>
      rw [walk, walk]
      refine .bind (isCancelled_inStep plan runs) fun found _ same => ?_
      subst same
      cases found with
      | true => exact .done (.intro runs _)
      | false =>
          simp only [Bool.false_eq_true, if_false]
          cases plan.graph.vertex? nodeId with
          | none => exact .done (.intro runs _)
          | some vertex =>
              obtain ⟨records, context, path⟩ := runs
              refine .bind (runNode_inStep plan vertex.node (.intro records _ _)) fun _ _ ran => ?_
              obtain ⟨runs, outcome⟩ := ran
              cases outcome with
              | error error => exact .done (.intro runs _)
              | ok _ =>
                  refine .bind (follow_inStep (fun nodeId _ _ => ih nodeId) vertex.outgoing runs)
                    fun _ _ followed => ?_
                  obtain ⟨runs, outcome⟩ := followed
                  cases outcome with
                  | error error => exact .done (.intro runs _)
                  | ok _ =>
                      obtain ⟨records, context, path⟩ := runs
                      exact .done (.intro (.intro records context _) _)

/-! ## The whole run -/

theorem enterStatus_inStep (twins : Twins who left right) (status : Execution.Status) :
    InStep who (Twins who) (enterStatus left status) (enterStatus right status) := by
  refine .now fun first second => ?_
  simp only [done_bind, Execution.transition, ← twins.status_eq]
  by_cases allowed : left.status.allows status = true
  · simp only [if_pos allowed]
    exact .done (twins.enter status first second)
  · simp only [if_neg allowed]
    exact .done twins

theorem failWith_inStep (error : RunError) (twins : Twins who left right) :
    InStep who (Twins who) (failWith error left) (failWith error right) := by
  refine .now fun first second => ?_
  simp only [done_bind, Execution.fail, Execution.transition, ← twins.status_eq]
  by_cases allowed : left.status.allows .failed = true
  · simp only [if_pos allowed]
    exact .done ((twins.enter .failed first second).settle .failed _)
  · simp only [if_neg allowed]
    exact .done twins

theorem opening_inStep (workflow : Workflow) (id : ExecutionId) :
    InStep ⟨id, workflow.id, workflow.name, workflow.version⟩
      (Beside (Twins ⟨id, workflow.id, workflow.name, workflow.version⟩))
      (opening workflow id) (opening workflow id) := by
  refine .now fun first second => ?_
  have created : Twins ⟨id, workflow.id, workflow.name, workflow.version⟩
      (workflow.newExecution id first) (workflow.newExecution id second) :=
    ⟨⟨rfl, rfl, rfl, rfl, rfl, .nil⟩, rfl⟩
  simp only [bind_eq_bind, done_bind]
  refine .bind (enterStatus_inStep created .running) fun _ _ running =>
    .bind (note_inStep running _ _ _) fun _ _ noted => .create noted fun reply => ?_
  simp only [done_bind]
  cases reply with
  | ok revision => exact .done (.intro noted _)
  | error error =>
      exact .bind (note_inStep noted _ _ _) fun _ _ told => .done (Beside.intro told _)

theorem warnAll_inStep (messages : List String) (twins : Twins who left right) :
    InStep who (Twins who) (warnAll messages left) (warnAll messages right) := by
  induction messages generalizing left right with
  | nil => exact .done twins
  | cons message rest ih => exact .bind (note_inStep twins _ _ _) fun _ _ => ih

theorem inspect_inStep (plan : Plan) (twins : Twins who left right) :
    InStep who (Twins who) (inspect plan left) (inspect plan right) := by
  rw [inspect_eq, inspect_eq]
  exact warnAll_inStep _ twins

theorem traverse_inStep (settings : Settings) (workflow : Workflow) (input : Json) (stored : Bool)
    (twins : Twins who left right) :
    InStep who (Beside (Twins who)) (traverse settings workflow input stored left)
      (traverse settings workflow input stored right) := by
  unfold traverse
  split
  · exact .done (.intro twins _)
  · refine .bind (inspect_inStep _ twins) fun _ _ inspected =>
      .bind (walk_inStep _ _ _ (Run.Twins.intro inspected _ _)) fun _ _ walked => ?_
    obtain ⟨runs, outcome⟩ := walked
    obtain ⟨records, context, path⟩ := runs
    exact .done (.intro records _)

theorem conclude_inStep (outcome : Except RunError Unit) (twins : Twins who left right) :
    InStep who (Twins who) (conclude left outcome) (conclude right outcome) := by
  cases outcome with
  | ok _ => exact enterStatus_inStep twins _
  | error error =>
      by_cases cancelled : error = .cancelled
      · subst cancelled
        exact .bind (note_inStep twins _ _ _) fun _ _ noted => enterStatus_inStep noted _
      · rw [conclude_error left cancelled, conclude_error right cancelled]
        exact .bind (note_inStep twins _ _ _) fun _ _ noted => failWith_inStep error noted

theorem finish_inStep (outcome : Except RunError Unit) (twins : Twins who left right) :
    InStep who (Twins who) (finish left outcome) (finish right outcome) := by
  refine .bind (conclude_inStep outcome twins) fun before after concluded =>
    .now fun first second => .done ?_
  have texts (record : Execution) :
      s!"Execution finished with status {record.status.name} in {record.duration.getD 0}ms" =
        closingText record.status (record.duration.getD 0) := rfl
  rw [texts, texts, ← concluded.status_eq]
  exact concluded.log_of_alike (.closing first second before.status _ _)

theorem notePersistFailure_inStep (error : StoreError) (twins : Twins who left right) :
    InStep who (Twins who) (notePersistFailure left error) (notePersistFailure right error) :=
  note_inStep twins _ _ _

theorem yieldTo_inStep {held other : Execution} (alike : held.Alike other)
    (twins : Twins who left right) :
    InStep who (Twins who) (yieldTo left held) (yieldTo right other) := by
  unfold yieldTo
  rw [← alike.status_eq, ← alike.error_eq, ← twins.status_eq]
  split
  · exact .bind (note_inStep twins _ _ _) fun _ _ noted => .done (noted.settle _ _)
  · exact .done twins

theorem resolveConflict_inStep (twins : Twins who left right) :
    InStep who (Twins who) (resolveConflict left) (resolveConflict right) := by
  rw [resolveConflict_eq, resolveConflict_eq, twins.id_eq, twins.right_id_eq]
  refine .load fun _ _ found => ?_
  cases found with
  | refused error => exact notePersistFailure_inStep error twins
  | @held first second versions =>
      obtain ⟨record, revision⟩ := first
      obtain ⟨other, _⟩ := second
      obtain ⟨alike, same⟩ := versions
      cases same
      refine .bind (yieldTo_inStep alike twins) fun _ _ kept =>
        .save kept _ fun reply => ?_
      cases reply with
      | ok revision => exact .done kept
      | error error => exact notePersistFailure_inStep error kept

theorem afterWrite_inStep (twins : Twins who left right) (reply : Except StoreError Revision) :
    InStep who (Twins who) (afterWrite left reply) (afterWrite right reply) := by
  unfold afterWrite
  split
  · exact .done twins
  · exact resolveConflict_inStep twins
  · exact notePersistFailure_inStep _ twins

theorem persist_inStep (twins : Twins who left right) (revision : Option Revision) :
    InStep who (Twins who) (persist left revision) (persist right revision) := by
  rw [persist_eq, persist_eq]
  cases revision with
  | none => exact .create twins (afterWrite_inStep twins)
  | some revision => exact .save twins revision (afterWrite_inStep twins)

end Parts

/-- A run is in step with itself by another clock. -/
theorem execute_inStep (settings : Settings) (workflow : Workflow) (id : ExecutionId)
    (input : Json) :
    InStep ⟨id, workflow.id, workflow.name, workflow.version⟩
      (Twins ⟨id, workflow.id, workflow.name, workflow.version⟩)
      (execute settings workflow id input) (execute settings workflow id input) := by
  rw [execute_eq]
  refine .bind (opening_inStep workflow id) fun _ _ opened => ?_
  obtain ⟨records, revision⟩ := opened
  refine .bind (traverse_inStep settings workflow input _ records) fun _ _ walked => ?_
  obtain ⟨records, outcome⟩ := walked
  exact .bind (finish_inStep outcome records) fun _ _ finished => persist_inStep finished revision

end Engine

end Flowline
