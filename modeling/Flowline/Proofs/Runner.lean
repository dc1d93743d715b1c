import Flowline.Proofs.Engine.Confinement
import Flowline.Proofs.Engine.Remarks
import Flowline.Runner

/-!
# Checking a workflow and running it

Both commands read the same file in the same way.  What the reading of a workflow supplies,
its identifier and its times, has no part in the check of its graph, so that the report on a
workflow and the warnings of its runs say the same.
-/

namespace Flowline

/-- The warnings about the graph of its workflow that stand in the log of a record. -/
def Execution.graphWarnings (record : Execution) : List String :=
  (record.logs.filter fun line =>
    line.level = .warn && line.nodeId.isNone && isAboutGraph line.message).map LogLine.message

/-- The message of a remark on the graph. -/
def Remark.graph? : Remark → Option String
  | .graph message => some message
  | .failure _ | .continuation _ | .fault => none

/-- A workflow with the identifier and the times of another one. -/
def Workflow.dated (workflow other : Workflow) : Workflow :=
  { workflow with id := other.id, createdAt := other.createdAt, updatedAt := other.updatedAt }

/-! ## Warnings -/

theorem Execution.graphWarnings_eq (record : Execution) :
    record.graphWarnings = record.remarks.filterMap Remark.graph? := by
  rw [graphWarnings, remarks, List.filterMap_filterMap, ← List.filterMap_eq_filter,
    List.map_filterMap]
  refine List.filterMap_congr fun line _ => ?_
  obtain ⟨time, level, message, nodeId⟩ := line
  cases level with
  | debug | info => rfl
  | error => cases nodeId <;> rfl
  | warn =>
      cases nodeId with
      | none =>
          rw [LogLine.remark?_warn_none]
          by_cases about : isAboutGraph message = true <;> simp [about, Option.guard, Remark.graph?]
      | some nodeId =>
          rw [LogLine.remark?_warn_some]
          split <;> rfl

namespace Engine

open Program

variable {settings : Settings} {workflow : Workflow} {id : ExecutionId} {input : Json}
  {events : List (Event surroundings)} {record : Execution} {graph : Graph}

/-- A run warns of what is odd about the graph of its workflow, and of nothing else that is
about the graph. -/
theorem Course.graphWarnings_eq (course : Course settings workflow id input events record)
    (built : Graph.build workflow = .ok graph) :
    record.graphWarnings = Flowline.graphWarnings graph.isCyclic graph.unreachable
      settings.maxDepth := by
  have onExecutions (executions : List Executed) :
      (executions.flatMap (Executed.remarks settings)).filterMap Remark.graph? = [] := by
    refine List.filterMap_eq_nil_iff.mpr fun remark member => ?_
    obtain ⟨executed, -, among⟩ := List.mem_flatMap.mp member
    obtain ⟨node, context, outcome⟩ := executed
    cases outcome with
    | ok value => cases among
    | error failure =>
        rw [Executed.remarks, List.mem_cons] at among
        rcases among with rfl | continues
        · rfl
        · split at continues
          · obtain rfl := List.mem_singleton.mp continues
            rfl
          · cases continues
  have onFaults (fault : Prop) [Decidable fault] :
      (if fault then [Remark.fault] else []).filterMap Remark.graph? = [] := by
    split <;> rfl
  rw [Execution.graphWarnings_eq, course.remarks_eq, graphRemarks, built]
  simp only [List.filterMap_append, onExecutions, onFaults, List.append_nil, List.filterMap_map]
  exact List.filterMap_some

/-- No run attempts an unreachable node as a step. -/
theorem not_attempted_of_unreachable (built : Graph.build workflow = .ok graph)
    (yields : (execute settings workflow id input).Yields events record) :
    ∀ attempt ∈ attempts events, attempt.role = .step →
      attempt.node.id ∉ graph.unreachable := by
  intro attempt member step unreachable
  obtain ⟨course⟩ := exists_course yields
  rcases course.invalid_or_walked with ⟨error, invalid, -⟩ | ⟨-, steps, walks, -⟩
  · cases (Graph.validate_of_build built).symm.trans invalid
  · rw [walks.attempts_eq yields] at member
    exact Graph.not_leads_of_unreachable built unreachable (walks.confined.led attempt member step)

end Engine

/-! ## Reading a workflow -/

namespace Workflow

open Json (Document)

variable {freshId otherId : WorkflowId} {now otherNow : Instant} {workflow : Workflow}

theorem build_dated (workflow other : Workflow) :
    Graph.build (workflow.dated other) = Graph.build workflow := rfl

/-- The default of a field has no part in whether it can be read. -/
theorem exists_defaulted {α : Type} {record : Document.Record} {name : String}
    {read : Document → Option α} {missing value : α} (other : α)
    (found : record.defaulted name read missing = some value) :
    ∃ again, record.defaulted name read other = some again := by
  unfold Document.Record.defaulted at found ⊢
  cases given : Keyed.get? name record.found with
  | none => exact ⟨other, rfl⟩
  | some document =>
      rw [given] at found
      exact ⟨value, found⟩

/-- A document that holds a workflow holds it whatever the reading supplies. -/
theorem exists_decode? (otherId : WorkflowId) (otherNow : Instant) {document : Document}
    (decoded : decode? freshId now document = some workflow) :
    ∃ other, decode? otherId otherNow document = some other ∧ other = workflow.dated other := by
  simp only [decode?, bind, Option.bind_eq_some_iff, Option.some.injEq] at decoded
  obtain ⟨record, opened, id, hasId, name, hasName, status, hasStatus, nodes, hasNodes,
    connections, hasConnections, trigger, hasTrigger, version, hasVersion, created, hasCreated,
    updated, hasUpdated, rfl⟩ := decoded
  obtain ⟨id, hasId⟩ := exists_defaulted otherId hasId
  obtain ⟨created, hasCreated⟩ := exists_defaulted otherNow hasCreated
  obtain ⟨updated, hasUpdated⟩ := exists_defaulted otherNow hasUpdated
  refine ⟨⟨id, name, status, nodes, connections, trigger, version, created, updated⟩, ?_, rfl⟩
  simp [decode?, opened, hasId, hasName, hasStatus, hasNodes, hasConnections, hasTrigger,
    hasVersion, hasCreated, hasUpdated]

theorem ofText_eq_ok {text : String} :
    ofText freshId now text = .ok workflow ↔
      (Document.parse? text).bind (decode? freshId now) = some workflow ∧
        workflow.validate = .ok () := by
  unfold ofText
  split
  next nothing => simp [nothing]
  next read decoded =>
    rw [decoded]
    split
    next valid =>
      constructor
      · rintro ⟨⟩
        exact ⟨rfl, valid⟩
      · rintro ⟨⟨⟩, -⟩
        rfl
    next error invalid =>
      constructor
      · rintro ⟨⟩
      · rintro ⟨⟨⟩, valid⟩
        cases valid.symm.trans invalid

/-- A text that holds a valid workflow holds it whatever the reading supplies. -/
theorem exists_ofText (otherId : WorkflowId) (otherNow : Instant) {text : String}
    (read : ofText freshId now text = .ok workflow) :
    ∃ other, ofText otherId otherNow text = .ok other ∧ other = workflow.dated other := by
  obtain ⟨decoded, valid⟩ := ofText_eq_ok.mp read
  obtain ⟨document, parsed, decoded⟩ := Option.bind_eq_some_iff.mp decoded
  obtain ⟨other, again, same⟩ := exists_decode? otherId otherNow decoded
  refine ⟨other, ofText_eq_ok.mpr ⟨?_, ?_⟩, same⟩
  · rw [parsed, Option.bind_some, again]
  · rw [same]
    exact valid

end Workflow

/-! ## The commands -/

namespace Runner

open Program

variable {settings : Engine.Settings} {path : String} {events : List (Event surroundings)}

/-- An event of the engine as one of the runner. -/
def ofEngine (event : Event Engine.surroundings) : Event surroundings :=
  ⟨.engine event.asked, event.reply⟩

theorem exists_yields_of_engine {α : Type} {action : Engine.Action α} {value : α}
    (yields : (engine action).Yields events value) :
    ∃ own, action.Yields own value ∧ events = own.map ofEngine := by
  induction action generalizing events with
  | done result =>
      cases yields
      exact ⟨[], .done _, rfl⟩
  | ask asked next ih =>
      cases yields with
      | @ask _ _ reply _ _ rest =>
          obtain ⟨own, yields, rfl⟩ := ih reply rest
          exact ⟨⟨asked, reply⟩ :: own, .ask yields, rfl⟩

/-- A file that was read holds a valid workflow, with an identifier and times from the reading
where it has none of its own. -/
def Loads (content : Except String String) (freshId : WorkflowId) (now : Instant)
    (workflow : Workflow) : Prop :=
  ∃ text, content = .ok text ∧ Workflow.ofText freshId now text = .ok workflow

theorem Loads.unique {content : Except String String} {freshId : WorkflowId} {now : Instant}
    {workflow other : Workflow} (loads : Loads content freshId now workflow)
    (again : Loads content freshId now other) : workflow = other := by
  obtain ⟨text, rfl, read⟩ := loads
  obtain ⟨_, ⟨⟩, same⟩ := again
  exact Except.ok.inj (read.symm.trans same)

theorem Loads.again {content : Except String String} {freshId : WorkflowId} {now : Instant}
    {workflow : Workflow} (loads : Loads content freshId now workflow) (otherId : WorkflowId)
    (otherNow : Instant) :
    ∃ other, Loads content otherId otherNow other ∧
      Graph.build other = Graph.build workflow := by
  obtain ⟨text, same, read⟩ := loads
  obtain ⟨other, again, dated⟩ := Workflow.exists_ofText otherId otherNow read
  refine ⟨other, ⟨text, same, again⟩, ?_⟩
  rw [dated, Workflow.build_dated]

theorem Loads.exists_graph {content : Except String String} {freshId : WorkflowId} {now : Instant}
    {workflow : Workflow} (loads : Loads content freshId now workflow) :
    ∃ graph, Graph.build workflow = .ok graph := by
  obtain ⟨text, -, read⟩ := loads
  rcases Engine.build_eq workflow with ⟨error, invalid, -⟩ | ⟨graph, -, built⟩
  · cases (Workflow.ofText_eq_ok.mp read).2.symm.trans invalid
  · exact ⟨graph, built⟩

/-- A command reads a file first.  Either the file holds a workflow, and the command ends in
some way, or it holds none and the command fails. -/
def ReadsFirst {α : Type} (path : String) (events : List (Event surroundings))
    (ends : Workflow → α → Prop) (result : Except Error α) : Prop :=
  ∃ content later, events = ⟨.read path, content⟩ :: later ∧
    ((∃ freshId now workflow value,
        Loads content freshId now workflow ∧ result = .ok value ∧ ends workflow value) ∨
      (∀ freshId now workflow, ¬ Loads content freshId now workflow) ∧
        ∃ error, result = .error error)

theorem loadWorkflow_readsFirst (path : String) :
    (loadWorkflow path).Ensures fun events loaded =>
      ReadsFirst path events (fun workflow value => value = workflow) loaded := by
  intro content
  cases content with
  | error reason =>
      refine ⟨_, _, rfl, .inr ⟨?_, _, rfl⟩⟩
      rintro freshId now workflow ⟨text, ⟨⟩, -⟩
  | ok text =>
      intro freshId now
      simp only [embed, done_bind]
      cases read : Workflow.ofText ⟨freshId⟩ now text with
      | ok workflow =>
          exact ⟨_, _, rfl, .inl ⟨⟨freshId⟩, now, workflow, workflow, ⟨text, rfl, read⟩, rfl, rfl⟩⟩
      | error cause =>
          refine ⟨_, _, rfl, .inr ⟨?_, _, rfl⟩⟩
          rintro other later workflow ⟨_, ⟨⟩, holds⟩
          obtain ⟨again, readAgain, -⟩ := Workflow.exists_ofText ⟨freshId⟩ now holds
          cases read.symm.trans readAgain

/-- What a command does once it has read its workflow. -/
theorem ReadsFirst.bind {α β : Type} {program : Action (Except Error α)}
    {rest : Except Error α → Action (Except Error β)} {before : Workflow → α → Prop}
    {ends : Workflow → β → Prop}
    (first : program.Ensures fun events => ReadsFirst path events before)
    (fails : ∀ error, ∃ other, rest (.error error) = .done (.error other))
    (goesOn : ∀ freshId now content workflow value, Loads content freshId now workflow →
      before workflow value → (rest (.ok value)).Ensures fun _ result =>
        ∃ value, result = .ok value ∧ ends workflow value) :
    (program.bind rest).Ensures fun events => ReadsFirst path events ends := by
  refine Ensures.bind first fun events result reads => ?_
  obtain ⟨content, later, rfl, ⟨freshId, now, workflow, value, loads, rfl, begun⟩ |
    ⟨nothing, error, rfl⟩⟩ := reads
  · refine (goesOn freshId now content workflow value loads begun).mono ?_
    rintro more result ⟨final, rfl, ended⟩
    exact ⟨content, later ++ more, rfl, .inl ⟨freshId, now, workflow, final, loads, rfl, ended⟩⟩
  · obtain ⟨other, same⟩ := fails error
    rw [same]
    exact ⟨content, later ++ [], rfl, .inr ⟨nothing, other, rfl⟩⟩

/-- A report says what is odd about the graph of a workflow. -/
def ValidationReport.About (report : ValidationReport) (workflow : Workflow) : Prop :=
  ∃ graph, Graph.build workflow = .ok graph ∧ report.cyclic = graph.isCyclic ∧
    report.unreachable = graph.unreachable

theorem validate_readsFirst (path : String) :
    (validate path).Ensures fun events checked =>
      ReadsFirst path events (fun workflow report => report.About workflow) checked := by
  refine ReadsFirst.bind (loadWorkflow_readsFirst path) (fun error => ⟨error, rfl⟩) ?_
  rintro freshId now content _ workflow loads rfl
  obtain ⟨graph, built⟩ := loads.exists_graph
  simp only [built]
  exact ⟨_, rfl, graph, built, rfl, rfl⟩

theorem run_readsFirst (settings : Engine.Settings) (path : String) :
    (run settings path .none).Ensures fun events ran =>
      ReadsFirst path events (fun workflow record => ∃ id own,
        (Engine.execute settings workflow id .null).Yields own record) ran := by
  refine ReadsFirst.bind (loadWorkflow_readsFirst path) (fun error => ⟨error, rfl⟩) ?_
  rintro freshId now content _ workflow loads rfl
  intro id
  have runs : (engine (Engine.execute settings workflow ⟨id⟩ .null)).Ensures fun _ record =>
      ∃ own, (Engine.execute settings workflow ⟨id⟩ .null).Yields own record := by
    refine (ensures_iff _ _).mpr fun events record yields => ?_
    obtain ⟨own, yields, -⟩ := exists_yields_of_engine yields
    exact ⟨own, yields⟩
  exact runs.bind fun events record reached => ⟨record, rfl, ⟨id⟩, reached⟩

open Classical in
/-- The check of a workflow agrees with its runs.  Its graph is cyclic exactly if some path leads
from a node back to it, and what is unreachable are, in the order of the nodes, those that no
path from the trigger leads to, error handlers left out.  Whoever replies to whom, a run warns
of just that and tries no unreachable node as a step.  A file that the check accepts is one that
can be run, and the report on it is what the run warns of. -/
theorem validate_agrees_run (settings : Engine.Settings) :
    (∀ workflow : Workflow, workflow.validate = .ok () →
      ∃ graph, Graph.build workflow = .ok graph ∧
        (graph.isCyclic = true ↔ ∃ nodeId, workflow.OnCycle nodeId) ∧
        graph.unreachable = (workflow.nodes.filter fun node =>
          !node.errorHandler && !decide (workflow.Leads workflow.trigger node.id)).map Node.id ∧
        ∀ id input events record,
          (Engine.execute settings workflow id input).Yields events record →
            record.graphWarnings =
              graphWarnings graph.isCyclic graph.unreachable settings.maxDepth ∧
            ∀ attempt ∈ Engine.attempts events, attempt.role = .step →
              attempt.node.id ∉ graph.unreachable) ∧
    ∀ path content checking checked running ran,
      (validate path).Yields (⟨.read path, content⟩ :: checking) checked →
      (run settings path .none).Yields (⟨.read path, content⟩ :: running) ran →
        ((∃ report, checked = .ok report) ↔ ∃ record, ran = .ok record) ∧
        ∀ report record, checked = .ok report → ran = .ok record →
          (∃ freshId now workflow, Loads content freshId now workflow ∧ report.About workflow) ∧
          record.graphWarnings =
            graphWarnings report.cyclic report.unreachable settings.maxDepth := by
  constructor
  · intro workflow valid
    rcases Engine.build_eq workflow with ⟨error, invalid, -⟩ | ⟨graph, -, built⟩
    · cases valid.symm.trans invalid
    · refine ⟨graph, built, Graph.isCyclic_iff built, Graph.unreachable_eq built, ?_⟩
      intro id input events record yields
      obtain ⟨course⟩ := Engine.exists_course yields
      exact ⟨course.graphWarnings_eq built, Engine.not_attempted_of_unreachable built yields⟩
  · intro path content checking checked running ran checks runs
    obtain ⟨_, _, ⟨⟩, check⟩ := (validate_readsFirst path).of_yields checks
    obtain ⟨_, _, ⟨⟩, course⟩ := (run_readsFirst settings path).of_yields runs
    rcases check with ⟨freshId, now, workflow, report, loads, rfl, about⟩ |
      ⟨nothing, error, rfl⟩
    · rcases course with ⟨otherId, otherNow, other, record, loadsOther, rfl, id, own, yields⟩ |
        ⟨nothing, -⟩
      · refine ⟨by simp, ?_⟩
        rintro _ _ ⟨⟩ ⟨⟩
        refine ⟨⟨freshId, now, workflow, loads, about⟩, ?_⟩
        obtain ⟨graph, built, cyclic, unreachable⟩ := about
        obtain ⟨same, again, builds⟩ := loads.again otherId otherNow
        obtain rfl : same = other := again.unique loadsOther
        obtain ⟨course⟩ := Engine.exists_course yields
        rw [cyclic, unreachable]
        exact course.graphWarnings_eq (builds.trans built)
      · exact (nothing _ _ _ loads).elim
    · rcases course with ⟨otherId, otherNow, other, record, loads, -⟩ | ⟨-, failure, rfl⟩
      · exact (nothing _ _ _ loads).elim
      · simp

/-- A file that holds a workflow with a loop at its trigger and a node apart. -/
def loopingText : String :=
  "\x7b\"name\":\"looping\",\"trigger\":\"start\",\"nodes\":[" ++
  "\x7b\"id\":\"start\",\"name\":\"Start\",\"config\":\x7b\"type\":\"manual\"\x7d\x7d," ++
  "\x7b\"id\":\"apart\",\"name\":\"Apart\",\"config\":\x7b\"type\":\"manual\"\x7d\x7d]," ++
  "\"connections\":[\x7b\"from\":\"start\",\"to\":\"start\"\x7d]\x7d"

/-- Replies to a runner that finds one text in every file. -/
def holding (text : String) : (asked : Request) → Reply asked
  | .engine asked => Engine.failingAt "apart" asked
  | .read _ => .ok text
  | .freshId => ⟨1⟩

theorem exists_yields_holding {α : Type} {program : Action (Except Error α)}
    {ends : Workflow → α → Prop}
    (reads : program.Ensures fun events => ReadsFirst path events ends) (text : String) :
    ∃ later, program.Yields (⟨.read path, .ok text⟩ :: later) (program.trace (holding text)).2 := by
  have yields := trace_yields (holding text) program
  obtain ⟨content, later, events, -⟩ := reads.of_yields yields
  have reply := trace_reply (holding text) program ⟨.read path, content⟩ (by simp [events])
  obtain rfl : content = .ok text := reply
  exact ⟨later, events ▸ yields⟩

/-- The report on the workflow with a loop is what its run warns of. -/
theorem validate_agrees_run_looping :
    ∃ checking report running record,
      (validate "looping.json").Yields
        (⟨.read "looping.json", .ok loopingText⟩ :: checking) (.ok report) ∧
      (run {} "looping.json" .none).Yields
        (⟨.read "looping.json", .ok loopingText⟩ :: running) (.ok record) ∧
      report.cyclic = true ∧ report.unreachable = ["apart"] ∧
      record.graphWarnings =
        ["Workflow graph contains a cycle; walk depth is limited to 256",
          "Nodes unreachable from trigger: apart"] := by
  obtain ⟨checking, checks⟩ :=
    exists_yields_holding (validate_readsFirst "looping.json") loopingText
  obtain ⟨running, runs⟩ :=
    exists_yields_holding (run_readsFirst {} "looping.json") loopingText
  have checked : ((validate "looping.json").trace (holding loopingText)).2 =
      .ok ⟨"looping", 2, 1, true, ["apart"]⟩ := by decide +kernel
  rw [checked] at checks
  obtain ⟨accepted, warned⟩ := (validate_agrees_run {}).2 _ _ _ _ _ _ checks runs
  obtain ⟨record, ran⟩ := accepted.mp ⟨_, rfl⟩
  have warnings : graphWarnings true ["apart"] 256 =
      ["Workflow graph contains a cycle; walk depth is limited to 256",
        "Nodes unreachable from trigger: apart"] := by decide +kernel
  exact ⟨_, _, _, record, checks, ran ▸ runs, rfl, rfl, (warned _ _ rfl ran).2.trans warnings⟩

end Runner

end Flowline
