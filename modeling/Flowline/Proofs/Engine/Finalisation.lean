import Flowline.Engine
import Flowline.Proofs.Engine.Walk

/-!
# The end of a run

A run is an opening that creates its record, the walk, and a closing that enters
a final status and writes the record once more.  Whatever the store, the clock and
the handlers answer, the record that a run returns is final.
-/

namespace Flowline.Engine

open Program Execution Flowline.Engine.Action

/-! ## The parts of a run -/

/-- A run up to its walk: its record, and the revision of it if it was created. -/
def opening (workflow : Workflow) (id : ExecutionId) : Action (Execution × Option Revision) := do
  let record := workflow.newExecution id (← now)
  let record ← enterStatus record .running
  let record ← note record .info
    s!"Execution started for workflow {workflow.name} (version {workflow.version})"
  match ← create record with
  | .ok revision => return (record, some revision)
  | .error error =>
      let record ← note record .warn s!"Failed to persist execution record: {error.message}"
      return (record, none)

theorem execute_eq (settings : Settings) (workflow : Workflow) (id : ExecutionId) (input : Json) :
    execute settings workflow id input =
      (opening workflow id).bind fun opened =>
        (traverse settings workflow input opened.2.isSome opened.1).bind fun walked =>
          (finish walked.1 walked.2).bind fun record => persist record opened.2 := by
  unfold execute opening
  simp only [bind_eq_bind, bind_assoc]
  refine congrArg _ (funext fun time => congrArg _ (funext fun running =>
    congrArg _ (funext fun noted => congrArg _ (funext fun created => ?_))))
  cases created <;> rfl

/-- Warnings, one after the other. -/
def warnAll : List String → Execution → Action Execution
  | [], record => done record
  | message :: rest, record => (note record .warn message).bind (warnAll rest)

/-- What a run warns of before its walk. -/
def Plan.warnings (plan : Plan) : List String :=
  (if plan.workflow.isActive then []
    else [s!"Workflow status is {plan.workflow.status.name}; running anyway"]) ++
  (if plan.graph.isCyclic then
      [s!"Workflow graph contains a cycle; walk depth is limited to {plan.settings.maxDepth}"]
    else []) ++
  if plan.graph.unreachable.isEmpty then []
  else ["Nodes unreachable from trigger: " ++ ", ".intercalate plan.graph.unreachable]

theorem warnAll_append (messages more : List String) (record : Execution) :
    warnAll (messages ++ more) record = (warnAll messages record).bind (warnAll more) := by
  induction messages generalizing record with
  | nil => rfl
  | cons message rest ih =>
      rw [List.cons_append, warnAll, warnAll, bind_assoc]
      exact congrArg _ (funext ih)

/-- The oddities of a workflow only leave lines in the log. -/
theorem inspect_eq (plan : Plan) (record : Execution) :
    inspect plan record = warnAll plan.warnings record := by
  rw [Plan.warnings, warnAll_append, warnAll_append, bind_assoc]
  unfold inspect
  simp only [bind_eq_bind, pure_eq_done]
  split <;> split <;> split <;> simp [warnAll]

theorem enterStatus_eq {record : Execution} {status : Execution.Status}
    (allowed : record.status.allows status = true) :
    enterStatus record status =
      @ask surroundings _ .now fun time => done (record.enter status time) := by
  refine congrArg (@ask surroundings _ .now) (funext fun time => ?_)
  simp [transition_eq time allowed]

/-- The last step of a run that an error has ended. -/
def failWith (error : RunError) (record : Execution) : Action Execution := do
  match record.fail error.summary (← now) with
  | .ok failed => return failed
  | .error _ => return record

theorem conclude_error (record : Execution) {error : RunError} (other : error ≠ .cancelled) :
    conclude record (.error error) =
      (note record .error s!"Execution failed: {error.message}").bind (failWith error) := by
  cases error with
  | cancelled => exact absurd rfl other
  | _ => rfl

theorem failWith_eq {record : Execution} (error : RunError)
    (allowed : record.status.allows .failed = true) :
    failWith error record = @ask surroundings _ .now fun time =>
      done { record.enter .failed time with error := some error.summary } := by
  refine congrArg (@ask surroundings _ .now) (funext fun time => ?_)
  simp [fail_eq time allowed]

/-- A request that neither reads a record nor attempts a node. -/
def Request.Unseeing : Request → Prop
  | .load _ | .attempt _ => False
  | .now | .sleep _ | .create _ | .save _ _ => True

theorem opening_running (workflow : Workflow) (id : ExecutionId) :
    (opening workflow id).Ensures fun events opened =>
      Running id opened.1 ∧ ∀ event ∈ events, event.asked.Unseeing := by
  intro created
  simp only [bind_eq_bind, done_bind]
  rw [enterStatus_eq rfl]
  intro started noted reply
  have running := running_enter workflow id created started
  cases reply with
  | ok revision => exact ⟨running.log _ _ _ _, by simp [Request.Unseeing]⟩
  | error error =>
      intro warned
      exact ⟨(running.log _ _ _ _).log _ _ _ _, by simp [Request.Unseeing]⟩

/-! ## The closing of a run -/

/-- The status in which a walk with some outcome ends. -/
def statusOf : Except RunError Unit → Execution.Status
  | .ok () => .success
  | .error .cancelled => .cancelled
  | .error _ => .failed

/-- The end of a running record whose walk had some outcome. -/
structure Ended (before : Execution) (outcome : Except RunError Unit) (after : Execution) :
    Prop extends Finalised after where
  id_eq : after.id = before.id
  status_eq : after.status = statusOf outcome
  error_isSome : after.error.isSome = true ↔ after.status = .failed
  logs_grown : ∃ lines, after.logs = before.logs ++ lines ∧ ∀ line ∈ lines, line.OfRun

theorem Ended.of_grown {before between after : Execution} {outcome : Except RunError Unit}
    (grown : before.Grown LogLine.OfRun between) (ended : Ended between outcome after) :
    Ended before outcome after where
  toFinalised := ended.toFinalised
  id_eq := ended.id_eq.trans grown.id_eq
  status_eq := ended.status_eq
  error_isSome := ended.error_isSome
  logs_grown := by
    obtain ⟨earlier, kinds, rfl⟩ := grown
    obtain ⟨lines, logs, own⟩ := ended.logs_grown
    refine ⟨earlier ++ lines, by simp [logs], fun line member => ?_⟩
    exact (List.mem_append.mp member).elim (kinds line) (own line)

theorem Ended.grown {before between after : Execution} {outcome : Except RunError Unit}
    (ended : Ended before outcome between) (grown : between.Grown LogLine.OfRun after) :
    Ended before outcome after := by
  obtain ⟨later, kinds, rfl⟩ := grown
  refine ⟨⟨ended.isFinal, ended.completed, ended.timed⟩, ended.id_eq, ended.status_eq,
    ended.error_isSome, ?_⟩
  obtain ⟨lines, logs, own⟩ := ended.logs_grown
  refine ⟨lines ++ later, by simp [logs], fun line member => ?_⟩
  exact (List.mem_append.mp member).elim (own line) (kinds line)

theorem statusOf_isFinal (outcome : Except RunError Unit) : (statusOf outcome).isFinal = true := by
  unfold statusOf
  split <;> rfl

theorem ended_enter {id : ExecutionId} {record : Execution} (running : Running id record)
    {outcome : Except RunError Unit} (unfailed : statusOf outcome ≠ .failed) (time : Instant) :
    Ended record outcome (record.enter (statusOf outcome) time) where
  toFinalised := finalised_enter record (statusOf_isFinal outcome) time
  id_eq := enter_id _ _ _
  status_eq := enter_status _ _ _
  error_isSome := by simp [running.error_eq, unfailed]
  logs_grown := ⟨[], by simp⟩

theorem ended_fail (record : Execution) {error : RunError} (failed : error ≠ .cancelled)
    (time : Instant) :
    Ended record (.error error)
      { record.enter .failed time with error := some error.summary } where
  toFinalised := ⟨rfl, rfl, rfl⟩
  id_eq := rfl
  status_eq := by cases error <;> simp_all [statusOf]
  error_isSome := by simp
  logs_grown := ⟨[], by simp⟩

/-- A part of a run that reads the clock and appends to the log, and does nothing
else. -/
structure Tells (events : List (Event surroundings)) (before after : Execution) : Prop where
  clock : ∀ event ∈ events, event.asked = .now
  grown : before.Grown LogLine.OfRun after

theorem Tells.nil (record : Execution) : Tells [] record record := ⟨by simp, .refl record⟩

theorem Tells.append {first second third : Execution} {events more : List (Event surroundings)}
    (earlier : Tells events first second) (later : Tells more second third) :
    Tells (events ++ more) first third := by
  constructor
  · intro event member
    exact (List.mem_append.mp member).elim (earlier.clock event) (later.clock event)
  · exact earlier.grown.trans later.grown

/-- A line about no node whose text is not that of a cancellation. -/
theorem note_tells (record : Execution) (level : LogLevel) {message : String}
    (other : message ≠ LogLine.cancellation) :
    (note record level message).Ensures fun events after => Tells events record after :=
  (note_grown LogLine.OfRun record level message none fun _ => .of_ne other).mono
    fun _ _ noted => ⟨noted.1, noted.2⟩

/-- A running record enters the status of its walk. -/
theorem conclude_ended {id : ExecutionId} {record : Execution} (running : Running id record)
    (outcome : Except RunError Unit) :
    (conclude record outcome).Ensures fun events after =>
      Ended record outcome after ∧ ∀ event ∈ events, event.asked = .now := by
  have allows {between : Execution} {status : Execution.Status}
      (grown : record.Grown LogLine.OfRun between)
      (allowed : Status.running.allows status = true) : between.status.allows status = true := by
    rwa [(running.of_grown grown).status_eq]
  cases outcome with
  | ok _ =>
      rw [conclude, enterStatus_eq (allows (.refl record) rfl)]
      intro time
      exact ⟨ended_enter running (by simp [statusOf]) time, by simp⟩
  | error error =>
      by_cases cancelled : error = .cancelled
      · subst cancelled
        apply Ensures.bind (note_tells record .warn (by decide))
        intro events noted first
        rw [enterStatus_eq (allows first.grown rfl)]
        intro time
        refine ⟨.of_grown first.grown (ended_enter (running.of_grown first.grown) ?_ time), ?_⟩
        · simp [statusOf]
        · simpa [or_imp, forall_and] using first.clock
      · rw [conclude_error record cancelled]
        apply Ensures.bind (note_tells record .error
          (LogLine.append_ne_cancellation (by decide) _))
        intro events noted first
        rw [failWith_eq error (allows first.grown rfl)]
        intro time
        constructor
        · exact .of_grown first.grown (ended_fail noted cancelled time)
        · simpa [or_imp, forall_and] using first.clock

theorem finish_ended {id : ExecutionId} {record : Execution} (running : Running id record)
    (outcome : Except RunError Unit) :
    (finish record outcome).Ensures fun events after =>
      Ended record outcome after ∧ ∀ event ∈ events, event.asked = .now := by
  apply Ensures.bind (conclude_ended running outcome)
  intro events concluded first
  refine (note_tells concluded .info ?_).mono fun more after second => ?_
  · simp only [String.append_assoc]
    exact LogLine.append_ne_cancellation (by decide) _
  · constructor
    · exact first.1.grown second.grown
    · intro event member
      exact (List.mem_append.mp member).elim (first.2 event) (second.clock event)

/-! ## The last write -/

/-- A write that was refused because the record had moved on. -/
def Conflicted : Event surroundings → Prop
  | ⟨.create _, .error (.conflict _ _ _)⟩ | ⟨.save _ _, .error (.conflict _ _ _)⟩ => True
  | _ => False

/-- A final record of another status was read from the store. -/
def ReadFinal (id : ExecutionId) (status : Execution.Status) (events : List (Event surroundings)) :
    Prop :=
  ∃ held, ⟨.load id, .ok held⟩ ∈ events ∧ held.record.status.isFinal = true ∧
    held.record.status = status

/-- A record that a run ended with, after the attempts to write it. -/
structure Settled (before : Execution) (events : List (Event surroundings)) (after : Execution) :
    Prop extends Finalised after where
  unattempted : ∀ event ∈ events, ∀ attempt, event.asked ≠ .attempt attempt
  status_eq : after.status = before.status ∨ ReadFinal before.id after.status events

theorem notePersistFailure_tells (record : Execution) (error : StoreError) :
    (notePersistFailure record error).Ensures fun events after => Tells events record after :=
  note_tells record .error (LogLine.append_ne_cancellation (by decide) _)

/-- A record that gave way to a stored one, if that is final and has another status. -/
structure Yielded (record held after : Execution) : Prop extends Finalised after where
  id_eq : after.id = record.id
  logs_grown : ∃ lines, after.logs = record.logs ++ lines ∧ ∀ line ∈ lines, line.OfRun
  kept_or_yielded :
    (after.status = record.status ∧ after.error = record.error ∧
      (held.status.isFinal = true → held.status = record.status)) ∨
    (after.status = held.status ∧ after.error = held.error ∧ held.status.isFinal = true)

theorem yieldTo_yielded {record : Execution} (finalised : Finalised record) (held : Execution) :
    (yieldTo record held).Ensures fun events after =>
      (∀ event ∈ events, event.asked = .now) ∧ Yielded record held after := by
  unfold yieldTo
  split
  next yields =>
    have final : held.status.isFinal = true := by simp_all
    refine Ensures.bind (note_tells record .warn ?_) fun events noted told => ?_
    · simp only [String.append_assoc]
      exact LogLine.append_ne_cancellation (by decide) _
    · have kept := told.grown.finalised finalised
      refine ⟨by simpa using told.clock, ⟨final, kept.completed, kept.timed⟩, told.grown.id_eq,
        ?_, .inr ⟨rfl, rfl, final⟩⟩
      obtain ⟨lines, kinds, same⟩ := told.grown
      exact ⟨lines, by rw [same], kinds⟩
  next keeps =>
    exact ⟨by simp, finalised, rfl, ⟨[], by simp⟩, .inl ⟨rfl, rfl, by simpa using keeps⟩⟩

theorem Settled.of_grown {record after : Execution} {events : List (Event surroundings)}
    (finalised : Finalised record) (clock : ∀ event ∈ events, event.asked = .now)
    (grown : record.Grown LogLine.OfRun after) : Settled record events after where
  toFinalised := grown.finalised finalised
  unattempted event member attempt := by simp [clock event member]
  status_eq := .inl grown.status_eq

theorem Settled.cons {record after : Execution} {events : List (Event surroundings)}
    {event : Event surroundings} (unattempted : ∀ attempt, event.asked ≠ .attempt attempt)
    (settled : Settled record events after) : Settled record (event :: events) after where
  toFinalised := settled.toFinalised
  unattempted := List.forall_mem_cons.mpr ⟨unattempted, settled.unattempted⟩
  status_eq := settled.status_eq.imp_right fun ⟨held, member, final⟩ =>
    ⟨held, List.mem_cons_of_mem _ member, final⟩

theorem resolveConflict_settled {record : Execution} (finalised : Finalised record) :
    (resolveConflict record).Ensures fun events after => Settled record events after := by
  intro reply
  cases reply with
  | error error =>
      apply (notePersistFailure_tells record error).mono
      intro events after noted
      exact .cons (by simp) (.of_grown finalised noted.clock noted.grown)
  | ok held =>
      simp only [bind_eq_bind, done_bind]
      apply Ensures.bind (yieldTo_yielded finalised held.record)
      intro events kept yielded
      obtain ⟨clock, yielded⟩ := yielded
      intro written
      -- Written or not, the status stays the one that was kept.
      have settled {more : List (Event surroundings)} {after : Execution}
          (later : ∀ event ∈ more, event.asked = .now)
          (grown : kept.Grown LogLine.OfRun after) :
          Settled record (⟨.load record.id, .ok held⟩ ::
            (events ++ ⟨.save kept held.revision, written⟩ :: more)) after := by
        refine ⟨grown.finalised yielded.toFinalised, ?_, ?_⟩
        · intro event member attempt
          simp only [List.mem_cons, List.mem_append] at member
          rcases member with rfl | member | rfl | member
          · simp
          · simp [clock event member]
          · simp
          · simp [later event member]
        · rw [grown.status_eq]
          rcases yielded.kept_or_yielded with ⟨same, -⟩ | ⟨same, -, final⟩
          · exact .inl same
          · exact .inr ⟨held, List.mem_cons_self, final, same.symm⟩
      cases written with
      | ok revision => exact settled (by simp) (.refl kept)
      | error error =>
          exact (notePersistFailure_tells kept error).mono fun more after noted =>
            settled noted.clock noted.grown

/-- What is done with the reply to the last write. -/
def afterWrite (record : Execution) : Except StoreError Revision → Action Execution
  | .ok _ => done record
  | .error (.conflict _ _ _) => resolveConflict record
  | .error error => notePersistFailure record error

theorem persist_eq (record : Execution) (revision : Option Revision) :
    persist record revision =
      (match revision with
        | some revision => save record revision
        | none => create record).bind (afterWrite record) := by
  unfold persist
  cases revision <;>
    refine congrArg (Program.bind _) (funext fun written => ?_) <;>
    rcases written with (_ | _ | _ | _ | _) | _ <;> rfl

theorem afterWrite_settled {record : Execution} (finalised : Finalised record)
    (reply : Except StoreError Revision) :
    (afterWrite record reply).Ensures fun events after =>
      Settled record events after ∧
        ((∀ id expected actual, reply ≠ .error (.conflict id expected actual)) →
          after.status = record.status ∧ after.error = record.error ∧
            ∀ event ∈ events, event.asked = .now) := by
  have refused (error : StoreError) :
      (notePersistFailure record error).Ensures fun events after =>
        Settled record events after ∧ after.status = record.status ∧
          after.error = record.error ∧ ∀ event ∈ events, event.asked = .now :=
    (notePersistFailure_tells record error).mono fun events after noted =>
      ⟨.of_grown finalised noted.clock noted.grown, noted.grown.status_eq, noted.grown.error_eq,
        noted.clock⟩
  cases reply with
  | ok revision => exact ⟨.of_grown finalised (by simp) (.refl record), by simp⟩
  | error error =>
      cases error with
      | conflict id expected actual =>
          exact (resolveConflict_settled finalised).mono fun events after settled =>
            ⟨settled, fun others => (others id expected actual rfl).elim⟩
      | notFound | alreadyExists | storage | serialization =>
          exact (refused _).mono fun events after noted => ⟨noted.1, fun _ => noted.2⟩

/-- The last write of a run, whatever the store does, leaves a final record.  It
keeps its status and error unless a write was refused because of a conflict. -/
theorem persist_settled {record : Execution} (finalised : Finalised record)
    (revision : Option Revision) :
    (persist record revision).Ensures fun events after =>
      Settled record events after ∧
        ((∀ event ∈ events, ¬ Conflicted event) →
          after.status = record.status ∧ after.error = record.error ∧
            ∀ event ∈ events, event.asked.Unseeing) := by
  have closes {event : Event surroundings} {more : List (Event surroundings)} {after : Execution}
      {reply : Except StoreError Revision} (writes : event.asked.Unseeing)
      (conflicted : ∀ id expected actual, reply = .error (.conflict id expected actual) →
        Conflicted event)
      (settled : Settled record more after ∧
        ((∀ id expected actual, reply ≠ .error (.conflict id expected actual)) →
          after.status = record.status ∧ after.error = record.error ∧
            ∀ event ∈ more, event.asked = .now)) :
      Settled record (event :: more) after ∧
        ((∀ other ∈ event :: more, ¬ Conflicted other) →
          after.status = record.status ∧ after.error = record.error ∧
            ∀ other ∈ event :: more, other.asked.Unseeing) := by
    refine ⟨.cons (fun attempt same => ?_) settled.1, fun unconflicted => ?_⟩
    · simp [same, Request.Unseeing] at writes
    · obtain ⟨status, error, clock⟩ := settled.2 fun id expected actual same =>
        unconflicted event List.mem_cons_self (conflicted id expected actual same)
      refine ⟨status, error, List.forall_mem_cons.mpr ⟨writes, fun other member => ?_⟩⟩
      simp [clock other member, Request.Unseeing]
  rw [persist_eq]
  cases revision with
  | none =>
      intro reply
      apply (afterWrite_settled finalised reply).mono
      intro more after settled
      exact closes trivial (fun id expected actual same => by subst same; trivial) settled
  | some revision =>
      intro reply
      apply (afterWrite_settled finalised reply).mono
      intro more after settled
      exact closes trivial (fun id expected actual same => by subst same; trivial) settled

end Flowline.Engine
