import Flowline.Proofs.Engine.Report

/-!
# Remarks on a run

Beside the reports of failed attempts, the log of a run remarks on the graph of its workflow,
on every node that has failed for good, on a walk that continues after such a failure, and on
every error that belongs to no node.  A run makes these remarks in a fixed order: those on the
graph, then those on its nodes as they are executed, then one if an error has ended it, and
one if its record could not be stored in the end.
-/

namespace Flowline

/-- What a line of a log remarks on. -/
inductive Remark where
  /-- The graph of the workflow, in these words. -/
  | graph (message : String)
  /-- A node that has failed in every attempt. -/
  | failure (nodeId : String)
  /-- A walk that continues after the failure of a node. -/
  | continuation (nodeId : String)
  /-- An error that belongs to no node. -/
  | fault
  deriving DecidableEq, Repr

/-- Whether a message is one about the graph of a workflow. -/
def isAboutGraph (message : String) : Bool :=
  "Workflow graph".toList.isPrefixOf message.toList ||
    "Nodes unreachable".toList.isPrefixOf message.toList

/-- Whether a message is one about a walk that continues after a failure. -/
def isContinuing (message : String) : Bool :=
  "Continuing".toList.isPrefixOf message.toList

/-- The remark that a line makes, if any. -/
def LogLine.remark? (line : LogLine) : Option Remark :=
  match line.level, line.nodeId with
  | .error, some nodeId => some (.failure nodeId)
  | .error, none => some .fault
  | .warn, some nodeId =>
      if isContinuing line.message then some (.continuation nodeId) else none
  | .warn, none => if isAboutGraph line.message then some (.graph line.message) else none
  | .debug, _ | .info, _ => none

namespace LogLine

variable (time : Instant) (message : String)

@[simp] theorem remark?_info (nodeId : Option String) :
    remark? ⟨time, .info, message, nodeId⟩ = none := rfl

@[simp] theorem remark?_debug (nodeId : Option String) :
    remark? ⟨time, .debug, message, nodeId⟩ = none := rfl

@[simp] theorem remark?_error (nodeId : Option String) :
    remark? ⟨time, .error, message, nodeId⟩ = some (nodeId.elim .fault .failure) := by
  cases nodeId <;> rfl

@[simp] theorem remark?_warn_some (nodeId : String) :
    remark? ⟨time, .warn, message, some nodeId⟩ =
      if isContinuing message then some (.continuation nodeId) else none := rfl

@[simp] theorem remark?_warn_none :
    remark? ⟨time, .warn, message, none⟩ =
      if isAboutGraph message then some (.graph message) else none := rfl

end LogLine

/-- The remarks in the log of a record. -/
def Execution.remarks (record : Execution) : List Remark :=
  record.logs.filterMap LogLine.remark?

/-- What a run warns of before it walks through a graph. -/
def graphWarnings (cyclic : Bool) (unreachable : List String) (maxDepth : Nat) : List String :=
  (if cyclic then [s!"Workflow graph contains a cycle; walk depth is limited to {maxDepth}"]
    else []) ++
  if unreachable.isEmpty then []
  else ["Nodes unreachable from trigger: " ++ ", ".intercalate unreachable]

namespace Engine

open Program Flowline.Engine.Action

/-- What is remarked on an execution. -/
def Executed.remarks (settings : Settings) (executed : Executed) : List Remark :=
  match executed.outcome with
  | .ok _ => []
  | .error _ =>
      .failure executed.node.id ::
        if (AttemptPolicy.forNode executed.node settings).continueOnError then
          [.continuation executed.node.id]
        else []

/-- Whether an outcome of a walk is an error other than a cancellation. -/
def isFault : Except RunError Unit → Bool
  | .ok () | .error .cancelled => false
  | .error _ => true

/-- Whether the store has accepted a request, if an event is one to it. -/
def accepted? : Event surroundings → Option Bool
  | ⟨.create _, reply⟩ => some reply.toBool
  | ⟨.load _, reply⟩ => some reply.toBool
  | ⟨.save _ _, reply⟩ => some reply.toBool
  | ⟨.now, _⟩ | ⟨.sleep _, _⟩ | ⟨.attempt _, _⟩ => none

/-- The last request to the store was refused. -/
def Unsaved (events : List (Event surroundings)) : Prop :=
  (events.filterMap accepted?).getLast? = some false

instance (events : List (Event surroundings)) : Decidable (Unsaved events) :=
  inferInstanceAs (Decidable (_ = _))

/-! ## Lines -/

theorem remarks_log (record : Execution) (level : LogLevel) (message : String)
    (nodeId : Option String) (time : Instant) :
    (record.log level message nodeId time).remarks =
      record.remarks ++ (LogLine.remark? ⟨time, level, message, nodeId⟩).toList := by
  simp only [Execution.remarks, Execution.log, List.filterMap_append]
  cases remarked : LogLine.remark? ⟨time, level, message, nodeId⟩ <;> simp [remarked]

/-- A part of a run that makes some remarks, whoever replies. -/
def Adds {α : Type} (program : Action α) (record : Execution) (added : List Remark)
    (view : α → Execution) : Prop :=
  program.Ensures fun _ value => (view value).remarks = record.remarks ++ added

section Adds

variable {α β : Type} {program : Action α} {rest : α → Action β} {record : Execution}
  {added more : List Remark} {view : α → Execution} {later : β → Execution}

theorem Adds.done {value : α} (same : (view value).remarks = record.remarks) :
    Adds (Program.done value) record [] view := by
  simp [Adds, same]

theorem Adds.bind (first : Adds program record added view)
    (second : ∀ value, Adds (rest value) (view value) more later) :
    Adds (program.bind rest) record (added ++ more) later :=
  Ensures.bind first fun _ value same => (second value).mono fun _ _ further => by
    rw [further, same, List.append_assoc]

end Adds

theorem note_adds (record : Execution) (level : LogLevel) (message : String)
    (nodeId : Option String) {remark : Remark}
    (makes : ∀ time, LogLine.remark? ⟨time, level, message, nodeId⟩ = some remark) :
    Adds (note record level message nodeId) record [remark] id := by
  rw [note_eq]
  intro time
  have told := remarks_log record level message nodeId time
  rwa [makes time] at told

/-- A line that makes no remark. -/
theorem note_silent (record : Execution) (level : LogLevel) (message : String)
    (nodeId : Option String)
    (silent : ∀ time, LogLine.remark? ⟨time, level, message, nodeId⟩ = none) :
    Adds (note record level message nodeId) record [] id := by
  rw [note_eq]
  intro time
  have told := remarks_log record level message nodeId time
  rwa [silent time] at told

theorem isAboutGraph_eq_false {head : String}
    (departs : ∀ more, "Workflow graph".toList.isPrefixOf (head.toList ++ more) = false ∧
      "Nodes unreachable".toList.isPrefixOf (head.toList ++ more) = false) (rest : String) :
    isAboutGraph (head ++ rest) = false := by
  rw [isAboutGraph, String.toList_append, (departs _).1, (departs _).2]
  rfl

theorem isAboutGraph_eq_true {head : String}
    (begins : ∀ more, "Workflow graph".toList.isPrefixOf (head.toList ++ more) = true ∨
      "Nodes unreachable".toList.isPrefixOf (head.toList ++ more) = true) (rest : String) :
    isAboutGraph (head ++ rest) = true := by
  rw [isAboutGraph, String.toList_append, Bool.or_eq_true]
  exact begins _

/-- A warning that begins otherwise is not about the graph. -/
theorem remark?_departs {head : String}
    (departs : ∀ more, "Workflow graph".toList.isPrefixOf (head.toList ++ more) = false ∧
      "Nodes unreachable".toList.isPrefixOf (head.toList ++ more) = false) (rest : String)
    (time : Instant) : LogLine.remark? ⟨time, .warn, head ++ rest, none⟩ = none :=
  if_neg (ne_true_of_eq_false (isAboutGraph_eq_false departs rest))

theorem isReport_eq (line : LogLine) : line.isReport =
    (line.level = .warn && line.nodeId.isSome && !isContinuing line.message) := rfl

theorem remark?_of_isReport {line : LogLine} (report : line.isReport = true) :
    line.remark? = none := by
  obtain ⟨time, level, message, nodeId⟩ := line
  rw [isReport_eq, Bool.and_eq_true, Bool.and_eq_true, decide_eq_true_eq,
    Bool.not_eq_true'] at report
  obtain ⟨⟨rfl, about⟩, other⟩ := report
  obtain ⟨nodeId, rfl⟩ := Option.isSome_iff_exists.mp about
  exact if_neg (ne_true_of_eq_false other)

theorem remark?_continuing (rest : String) (nodeId : String) (time : Instant) :
    LogLine.remark? ⟨time, .warn, "Continuing after failure of node " ++ rest, some nodeId⟩ =
      some (.continuation nodeId) := by
  refine if_pos ?_
  rw [isContinuing, String.toList_append]
  rfl

/-- A report of a failed attempt makes no remark. -/
theorem remarks_log_report (settings : Settings) (attempt : Attempt) (error : NodeError)
    (record : Execution) (time : Instant) {message : String}
    (same : message = attempt.report settings error) :
    (record.log .warn message attempt.node.id time).remarks = record.remarks := by
  subst same
  rw [remarks_log, remark?_of_isReport (report_isReport attempt error time attempt.node.id),
    Option.toList_none, List.append_nil]

/-! ## The walk -/

variable {settings : Settings}

/-- However often a node is tried, one remark is made if it fails for good. -/
theorem Tried.remarks_eq {node : Node} {context : Context} {left number : Nat} {record : Execution}
    {events : List (Event surroundings)} {result : Execution × Except NodeFailure Json}
    (tried : Tried node context (.forNode node settings) left number record events result)
    (total : number + left = (AttemptPolicy.forNode node settings).maxAttempts) :
    result.1.remarks = record.remarks ++ match result.2 with
      | .ok _ => []
      | .error _ => [.failure node.id] := by
  have unremarked (number : Nat) (error : NodeError) := @remarks_log_report settings
    ⟨.step, node, context, number, (AttemptPolicy.forNode node settings).timeout⟩ error
  induction tried with
  | succeeds _ _ => simp
  | fails number error _ =>
      have last : ¬ number < (AttemptPolicy.forNode node settings).maxAttempts := by omega
      rw [remarks_log, unremarked number error _ _ (by simp only [Attempt.report, if_neg last])]
      rfl
  | retries left number error _ _ ih =>
      have more : number < (AttemptPolicy.forNode node settings).maxAttempts := by omega
      rw [ih (by omega), unremarked number error _ _ (by simp only [Attempt.report, if_pos more])]

theorem Told.remarks_eq {failed : Node} {context : Context} {handlers : List Node}
    {record after : Execution} {events : List (Event surroundings)}
    (told : Told settings failed context handlers record events after) :
    after.remarks = record.remarks := by
  induction told with
  | nil record => rfl
  | cons handler result _ _ ih =>
      cases result with
      | ok value => simp [ih, remarks_log, handled]
      | error error =>
          have unremarked := @remarks_log_report settings
            ⟨.errorHandler, handler, context, 1, (AttemptPolicy.forNode handler settings).timeout⟩
            error
          exact ih.trans ((unremarked _ _ rfl).trans (by simp [remarks_log]))

theorem runNote_silent (run : Run) (message : String) (nodeId : Option String) :
    Adds (run.note .info message nodeId) run.record [] Run.record :=
  Ensures.bind (note_silent run.record .info message nodeId fun _ => rfl) fun _ _ told => told

/-- A part of a walk remarks on its executions. -/
def Remarks (settings : Settings) (events : List (Event surroundings)) (before after : Execution) :
    Prop :=
  after.remarks = before.remarks ++
    (executions settings events).flatMap (Executed.remarks settings)

namespace Remarks

variable {first second third : Execution} {events more : List (Event surroundings)}

theorem nil (record : Execution) : Remarks settings [] record record := by simp [Remarks]

theorem append (earlier : Remarks settings events first second)
    (later : Remarks settings more second third) :
    Remarks settings (events ++ more) first third := by
  rw [Remarks, later, earlier, executions_append, List.flatMap_append, List.append_assoc]

theorem of_aside (aside : ∀ event ∈ events, event.asked.Aside)
    (same : second.remarks = first.remarks) : Remarks settings events first second := by
  simp [Remarks, executions_of_aside aside, same]

end Remarks

theorem runNode_remarks (plan : Plan) (node : Node) (run : Run) :
    (runNode plan node run).Ensures fun events result =>
      Remarks plan.settings events run.record result.1.record := by
  have total := (AttemptPolicy.forNode node plan.settings).one_add_left
  apply (runNode_ran plan node run).mono
  rintro events result ⟨outcome, ran⟩
  rw [Remarks, ran.executes]
  cases ran with
  | completes value tried =>
      have same := tried.remarks_eq total
      simp_all [remarks_log, Executed.remarks]
  | continues failure continues tried told =>
      have same := told.remarks_eq.trans (tried.remarks_eq total)
      have goesOn (time : Instant) : LogLine.remark?
          ⟨time, .warn, s!"Continuing after failure of node {node.name}", node.id⟩ =
            some (.continuation node.id) := remark?_continuing node.name node.id time
      refine (remarks_log _ .warn _ node.id _).trans ?_
      rw [same, goesOn]
      simp [remarks_log, Executed.remarks, continues]
  | stops failure stops tried told =>
      have same := told.remarks_eq.trans (tried.remarks_eq total)
      simp_all [remarks_log, Executed.remarks]

theorem walk_remarks (plan : Plan) (allowed : Nat) (nodeId : String) (run : Run) :
    (walk plan allowed nodeId run).Ensures fun events result =>
      Remarks plan.settings events run.record result.1.record := by
  have composable : Composable fun events before after (_ : Except RunError Unit) =>
      Remarks plan.settings events before.record after.record :=
    ⟨fun run => .nil run.record, fun first second => first.append second⟩
  refine walk_ensures composable ?_ ?_ ?_ ?_ ?_ ?_ allowed nodeId run
  · exact fun _ run => .nil run.record
  · exact fun run => (aside_of_asks (isCancelled_asks plan run)).mono fun _ _ aside =>
      .of_aside aside rfl
  · exact fun _ run => .nil run.record
  · exact fun _ run => .nil run.record
  · exact runNode_remarks plan
  · exact fun run message nodeId => ((runNote_aside run .info message nodeId).and
      (runNote_silent run message nodeId)).mono fun _ _ told =>
        .of_aside told.1.1 (by simpa using told.2)

/-! ## Around the walk -/

theorem remarks_enter (record : Execution) (status : Execution.Status) (time : Instant) :
    (record.enter status time).remarks = record.remarks := by
  simp [Execution.remarks]

theorem remarks_transition {record moved : Execution} {status : Execution.Status} {time : Instant}
    (moves : record.transition status time = .ok moved) : moved.remarks = record.remarks := by
  unfold Execution.transition at moves
  split at moves
  · cases moves
    exact remarks_enter record status time
  · cases moves

theorem enterStatus_adds (record : Execution) (status : Execution.Status) :
    Adds (enterStatus record status) record [] id := by
  intro time
  simp only [done_bind]
  split
  next moved moves => exact Adds.done (remarks_transition moves)
  next => exact Adds.done rfl

theorem failWith_adds (error : RunError) (record : Execution) :
    Adds (failWith error record) record [] id := by
  intro time
  simp only [done_bind, Execution.fail]
  cases moves : record.transition .failed time with
  | ok moved =>
      have same := remarks_transition moves
      exact Adds.done same
  | error _ => exact Adds.done rfl

theorem persistWarning_silent (record : Execution) (error : StoreError) :
    Adds (note record .warn s!"Failed to persist execution record: {error.message}") record [] id :=
  note_silent record .warn _ none (remark?_departs (fun _ => ⟨rfl, rfl⟩) _)

theorem opening_remarks (workflow : Workflow) (id : ExecutionId) :
    (opening workflow id).Ensures fun _ opened => opened.1.remarks = [] := by
  intro time
  simp only [bind_eq_bind, done_bind]
  refine Ensures.bind (enterStatus_adds _ _) fun _ running same => ?_
  refine Ensures.bind (note_silent running .info _ none fun _ => rfl) fun _ noted further => ?_
  have empty : noted.remarks = [] := by
    have begun : running.remarks = [] := same.trans rfl
    simpa [begun] using further
  intro reply
  cases reply with
  | ok revision => exact empty
  | error error =>
      simp only [done_bind]
      exact Ensures.bind (persistWarning_silent noted error) fun _ _ same => by
        simpa [empty] using same

theorem warnAll_adds (messages : List String) (record : Execution) :
    Adds (warnAll messages record) record ((messages.filter isAboutGraph).map Remark.graph) id := by
  induction messages generalizing record with
  | nil => exact .done rfl
  | cons message rest ih =>
      by_cases about : isAboutGraph message = true
      · rw [List.filter_cons_of_pos about]
        have makes (time : Instant) :
            LogLine.remark? ⟨time, .warn, message, none⟩ = some (.graph message) := if_pos about
        exact .bind (note_adds record .warn message none makes) ih
      · rw [List.filter_cons_of_neg about]
        exact .bind (note_silent record .warn message none fun _ => if_neg about) ih

theorem filter_warnings (plan : Plan) : plan.warnings.filter isAboutGraph =
    graphWarnings plan.graph.isCyclic plan.graph.unreachable plan.settings.maxDepth := by
  have status (name : String) :
      isAboutGraph s!"Workflow status is {name}; running anyway" = false := by
    rw [String.append_assoc]
    exact isAboutGraph_eq_false (fun _ => ⟨rfl, rfl⟩) _
  have cycle (depth : Nat) :
      isAboutGraph s!"Workflow graph contains a cycle; walk depth is limited to {depth}" = true :=
    isAboutGraph_eq_true (fun _ => .inl rfl) _
  have unreachable (nodes : String) :
      isAboutGraph ("Nodes unreachable from trigger: " ++ nodes) = true :=
    isAboutGraph_eq_true (fun _ => .inr rfl) nodes
  simp only [Plan.warnings, graphWarnings, List.filter_append, apply_ite (List.filter _),
    List.filter_cons, List.filter_nil, status, cycle, unreachable, if_true, if_false,
    Bool.false_eq_true, ite_self, List.nil_append]

/-- Before the walk the oddities of the graph are remarked on. -/
theorem inspect_adds (plan : Plan) (record : Execution) :
    Adds (inspect plan record) record
      ((graphWarnings plan.graph.isCyclic plan.graph.unreachable plan.settings.maxDepth).map
        Remark.graph) id := by
  rw [inspect_eq, ← filter_warnings]
  exact warnAll_adds plan.warnings record

theorem finish_adds (record : Execution) (outcome : Except RunError Unit) :
    Adds (finish record outcome) record (if isFault outcome then [.fault] else []) id := by
  have concluded : Adds (conclude record outcome) record
      (if isFault outcome then [.fault] else []) id := by
    cases outcome with
    | ok _ => exact enterStatus_adds _ _
    | error error =>
        by_cases cancelled : error = .cancelled
        · subst cancelled
          have other : isAboutGraph "Execution stopped: cancelled externally" = false := by decide
          exact .bind (note_silent record .warn _ none fun _ => if_neg (ne_true_of_eq_false other))
            fun noted => enterStatus_adds noted _
        · have fault : isFault (.error error) = true := by
            cases error <;> first | rfl | exact (cancelled rfl).elim
          rw [conclude_error record cancelled, if_pos fault]
          exact .bind (note_adds record .error _ none fun _ => rfl) fun noted =>
            failWith_adds error noted
  rw [← List.append_nil (if isFault outcome then _ else _)]
  exact concluded.bind fun ended => note_silent ended .info _ none fun _ => rfl

theorem yieldTo_adds (record held : Execution) : Adds (yieldTo record held) record [] id := by
  unfold yieldTo
  split
  · refine Ensures.bind (note_silent record .warn _ none fun time => ?_) fun _ noted same => ?_
    · simp only [String.append_assoc]
      exact remark?_departs (fun _ => ⟨rfl, rfl⟩) _ time
    · exact same
  · exact .done rfl

/-- The end of a run: its last request to the store, and a remark on it if it was refused. -/
def Stores (events : List (Event surroundings)) (before after : Execution) : Prop :=
  ∃ accepted, (events.filterMap accepted?).getLast? = some accepted ∧
    after.remarks = before.remarks ++ if accepted then [] else [.fault]

namespace Stores

variable {before after : Execution} {events : List (Event surroundings)}
  {event : Event surroundings}

/-- A later request decides. -/
theorem cons (stores : Stores events before after) : Stores (event :: events) before after := by
  obtain ⟨accepted, last, added⟩ := stores
  refine ⟨accepted, ?_, added⟩
  cases first : accepted? event with
  | none => rwa [List.filterMap_cons_none first]
  | some _ => simp [List.filterMap_cons_some first, List.getLast?_cons, last]

theorem append {more : List (Event surroundings)} (stores : Stores events before after) :
    Stores (more ++ events) before after := by
  induction more with
  | nil => exact stores
  | cons event rest ih => exact ih.cons

/-- Behind the last request only the clock is read. -/
theorem last (clock : ∀ other ∈ events, other.asked = .now) {accepted : Bool}
    (answers : accepted? event = some accepted)
    (added : after.remarks = before.remarks ++ if accepted then [] else [.fault]) :
    Stores (event :: events) before after := by
  refine ⟨accepted, ?_, added⟩
  have silent : events.filterMap accepted? = [] := by
    refine List.filterMap_eq_nil_iff.mpr fun other member => ?_
    obtain ⟨asked, reply⟩ := other
    have reads := clock _ member
    cases asked <;> first | rfl | cases reads
  simp [List.filterMap_cons_some answers, silent]

end Stores

theorem notePersistFailure_adds (record : Execution) (error : StoreError) :
    Adds (notePersistFailure record error) record [.fault] id :=
  note_adds record .error _ none fun _ => rfl

theorem refused_stores (record : Execution) (error : StoreError) {event : Event surroundings}
    (refused : accepted? event = some false) :
    (notePersistFailure record error).Ensures fun events after =>
      Stores (event :: events) record after :=
  ((notePersistFailure_tells record error).and (notePersistFailure_adds record error)).mono
    fun _ _ told => .last told.1.clock refused told.2

theorem resolveConflict_stores (record : Execution) :
    (resolveConflict record).Ensures fun events after => Stores events record after := by
  intro reply
  cases reply with
  | error error => exact refused_stores record error rfl
  | ok held =>
      simp only [bind_eq_bind, done_bind]
      refine Ensures.bind (yieldTo_adds record held.record) fun events kept same => ?_
      intro written
      have kept_same : kept.remarks = record.remarks := same.trans (List.append_nil _)
      have goesOn {more : List (Event surroundings)} {after : Execution}
          (stores : Stores more kept after) :
          Stores (⟨.load record.id, .ok held⟩ :: (events ++ more)) record after := by
        obtain ⟨accepted, last, added⟩ := stores.append
        exact Stores.cons ⟨accepted, last, kept_same ▸ added⟩
      cases written with
      | ok revision => exact goesOn (.last (by simp) rfl (by simp [Except.toBool]))
      | error error => exact (refused_stores kept error rfl).mono fun more after => goesOn

theorem afterWrite_stores (record : Execution) (reply : Except StoreError Revision)
    {event : Event surroundings} (answers : accepted? event = some reply.toBool) :
    (afterWrite record reply).Ensures fun events after => Stores (event :: events) record after := by
  unfold afterWrite
  split
  · exact .last (by simp) answers (by simp [Except.toBool])
  · exact (resolveConflict_stores record).mono fun events after => Stores.cons
  · exact refused_stores record _ answers

theorem persist_stores (record : Execution) (revision : Option Revision) :
    (persist record revision).Ensures fun events after => Stores events record after := by
  rw [persist_eq]
  cases revision with
  | none => exact fun reply => afterWrite_stores record reply rfl
  | some revision => exact fun reply => afterWrite_stores record reply rfl

/-! ## The run -/

/-- What is remarked on the graph of a workflow, if it has one. -/
def graphRemarks (settings : Settings) (workflow : Workflow) : List Remark :=
  match Graph.build workflow with
  | .ok graph =>
      (graphWarnings graph.isCyclic graph.unreachable settings.maxDepth).map Remark.graph
  | .error _ => []

theorem traverse_remarks (settings : Settings) (workflow : Workflow) (input : Json)
    (stored : Bool) (record : Execution) :
    (traverse settings workflow input stored record).Ensures fun events walked =>
      walked.1.remarks = record.remarks ++ (graphRemarks settings workflow ++
        (executions settings events).flatMap (Executed.remarks settings)) := by
  unfold traverse
  split
  next error faulty => simp [graphRemarks, faulty]
  next graph built =>
    let plan : Plan := { workflow, graph, settings, stored }
    refine Ensures.bind ((aside_of_asks (inspect_asks plan record)).and (inspect_adds plan record))
      fun events inspected first => ?_
    refine Ensures.bind (walk_remarks _ _ _ _) fun more walked second => ?_
    have begun : inspected.remarks = record.remarks ++ graphRemarks settings workflow := by
      rw [graphRemarks, built]
      exact first.2
    have whole : walked.1.record.remarks = inspected.remarks ++
        (executions settings more).flatMap (Executed.remarks settings) := second
    simp [whole, begun, executions_of_aside first.1]

variable {workflow : Workflow} {id : ExecutionId} {input : Json}
  {events : List (Event surroundings)} {record : Execution}

/-- Only the walk executes nodes. -/
theorem Course.executions_eq (course : Course settings workflow id input events record) :
    executions settings events = executions settings course.middle := by
  have opens := (aside_of_asks (opening_asks workflow id)).of_yields course.opens
  have closes := (aside_of_asks (finish_asks _ _)).of_yields course.finishes
  have persists := (aside_of_asks (persist_asks _ _)).of_yields course.persists
  simp [course.events_eq, executions_of_aside opens, executions_of_aside closes,
    executions_of_aside persists]

/-- Whoever replies, a run remarks on the graph, on its executions, on an error that has ended
it and on a refusal of the store at its end, and on nothing else. -/
theorem Course.remarks_eq (course : Course settings workflow id input events record) :
    record.remarks = graphRemarks settings workflow ++
      ((executions settings events).flatMap (Executed.remarks settings) ++
        ((if isFault course.walked.2 then [.fault] else []) ++
          if Unsaved events then [.fault] else [])) := by
  have opens := (opening_remarks workflow id).of_yields course.opens
  have walks := (traverse_remarks settings _ _ _ _).of_yields course.walks
  have closes : course.finished.remarks = course.walked.1.remarks ++ _ :=
    (finish_adds _ _).of_yields course.finishes
  have persists := (persist_stores _ _).of_yields course.persists
  have parts : events = (course.before ++ (course.middle ++ course.closing)) ++ course.written := by
    simp [course.events_eq]
  obtain ⟨accepted, last, added⟩ : Stores _ course.finished record := persists.append
  rw [← parts] at last
  have unsaved : Unsaved events ↔ accepted = false := by simp [Unsaved, last]
  rw [added, closes, walks, opens, course.executions_eq]
  cases accepted <;> simp [unsaved]

end Engine

end Flowline
