import Flowline.Proofs.Engine.NodeTrace
import Flowline.Proofs.Execution.Growth

/-!
# What a walk does to its record

A walk only reads the store, and all that changes in the record of its run is the
log, which grows.  A walk is made of few kinds of parts; what holds of each part
and of two parts in a row holds of every walk.
-/

namespace Flowline

namespace Engine

open Program

namespace Request

/-- A request that the store answers. -/
def AsksStore : Request → Prop
  | .create _ | .load _ | .save _ _ => True
  | .now | .sleep _ | .attempt _ => False

/-- A request that leaves the store as it is and reads at most one record. -/
def Quiet (id : ExecutionId) : Request → Prop
  | .load other => other = id
  | .create _ | .save _ _ => False
  | .now | .sleep _ | .attempt _ => True

theorem Quiet.of_not_asksStore {request : Request} (id : ExecutionId)
    (aside : ¬ request.AsksStore) : request.Quiet id := by
  cases request <;> simp_all [AsksStore, Quiet]

end Request

/-! ## The parts of a walk -/

/-- A part of a run that leaves the store alone and only appends to the log. -/
def Writes (kind : LogLine → Prop) (events : List (Event surroundings))
    (before after : Execution) : Prop :=
  (∀ event ∈ events, ¬ event.asked.AsksStore) ∧ before.Grown kind after

namespace Writes

variable {kind : LogLine → Prop} {first second third : Execution}
  {events more : List (Event surroundings)}

theorem nil (record : Execution) : Writes kind [] record record :=
  ⟨by simp, .refl record⟩

theorem append (earlier : Writes kind events first second) (later : Writes kind more second third) :
    Writes kind (events ++ more) first third := by
  constructor
  · intro event member
    exact (List.mem_append.mp member).elim (earlier.1 event) (later.1 event)
  · exact earlier.2.trans later.2

theorem cons {event : Event surroundings} (aside : ¬ event.asked.AsksStore)
    (writes : Writes kind events first second) : Writes kind (event :: events) first second :=
  ⟨List.forall_mem_cons.mpr ⟨aside, writes.1⟩, writes.2⟩

/-- A part that begins with a line about a node. -/
theorem log {level : LogLevel} {message nodeId : String} {time : Instant}
    (writes : Writes LogLine.AboutNode events (first.log level message nodeId time) second) :
    Writes LogLine.AboutNode (⟨.now, time⟩ :: events) first second := by
  have grown : first.Grown LogLine.AboutNode (first.log level message nodeId time) :=
    .log first level message nodeId time rfl
  exact .cons id ⟨writes.1, grown.trans writes.2⟩

end Writes

theorem note_grown (kind : LogLine → Prop) (record : Execution) (level : LogLevel)
    (message : String) (nodeId : Option String)
    (fits : ∀ time, kind ⟨time, level, message, nodeId⟩) :
    (Action.note record level message nodeId).Ensures fun events after =>
      (∀ event ∈ events, event.asked = .now) ∧ record.Grown kind after := by
  rw [note_eq]
  intro time
  exact ⟨by simp, .log record level message nodeId time (fits time)⟩

theorem note_writes (kind : LogLine → Prop) (record : Execution) (level : LogLevel)
    (message : String) (nodeId : Option String)
    (fits : ∀ time, kind ⟨time, level, message, nodeId⟩) :
    (Action.note record level message nodeId).Ensures fun events after =>
      Writes kind events record after := by
  apply (note_grown kind record level message nodeId fits).mono
  rintro events after ⟨clock, grown⟩
  constructor
  · intro event member
    rw [clock event member]
    exact id
  · exact grown

theorem Tried.writes {node : Node} {context : Context} {policy : AttemptPolicy} {left number : Nat}
    {record : Execution} {events : List (Event surroundings)}
    {result : Execution × Except NodeFailure Json}
    (tried : Tried node context policy left number record events result) :
    Writes LogLine.AboutNode events record result.1 := by
  induction tried with
  | succeeds _ _ => exact .cons id (.nil _)
  | fails _ _ _ => exact .cons id (.log (.log (.nil _)))
  | retries _ _ _ _ _ ih => exact .cons id (.log (.cons id ih))

theorem Told.writes {settings : Settings} {failed : Node} {context : Context}
    {handlers : List Node} {record after : Execution} {events : List (Event surroundings)}
    (told : Told settings failed context handlers record events after) :
    Writes LogLine.AboutNode events record after := by
  induction told with
  | nil record => exact .nil record
  | cons _ _ _ _ ih => exact .log (.cons id (.log ih))

theorem runNote_writes (run : Run) (level : LogLevel) (message nodeId : String) :
    (run.note level message nodeId).Ensures fun events after =>
      Writes LogLine.AboutNode events run.record after.record := by
  refine Ensures.bind (note_writes LogLine.AboutNode run.record _ _ _ fun _ => rfl)
    fun events record noted => ?_
  simpa using noted

theorem Ran.writes {plan : Plan} {node : Node} {run : Run} {outcome : Except NodeError Json}
    {events : List (Event surroundings)} {result : Run × Except RunError Unit}
    (ran : Ran plan node run outcome events result) :
    Writes LogLine.AboutNode events run.record result.1.record := by
  cases ran with
  | completes _ tried => exact .log (tried.writes.append (.log (.nil _)))
  | continues _ _ tried told => exact .log (tried.writes.append (told.writes.append (.log (.nil _))))
  | stops _ _ tried told => exact .log (tried.writes.append told.writes)

theorem runNode_writes (plan : Plan) (node : Node) (run : Run) :
    (runNode plan node run).Ensures fun events result =>
      Writes LogLine.AboutNode events run.record result.1.record ∧
        result.2 ≠ .error .cancelled := by
  apply (runNode_ran plan node run).mono
  rintro events result ⟨outcome, ran⟩
  exact ⟨ran.writes, by cases ran <;> simp⟩

/-! ## From the parts to the walk -/

/-- What the parts of a walk have in common when they hold of two parts in a row. -/
structure Composable
    (Part : List (Event surroundings) → Run → Run → Except RunError Unit → Prop) : Prop where
  idle (run : Run) : Part [] run run (.ok ())
  append {first second : List (Event surroundings)} {before between after : Run}
    {outcome : Except RunError Unit} : Part first before between (.ok ()) →
      Part second between after outcome → Part (first ++ second) before after outcome

variable {plan : Plan}
  {Part : List (Event surroundings) → Run → Run → Except RunError Unit → Prop}

/-- What holds of the visits to some nodes holds of following connections to them. -/
theorem follow_ensures_within {Known : String → Prop} (composable : Composable Part)
    (skipping : ∀ (run : Run) (message nodeId : String),
      (run.note .info message nodeId).Ensures fun events after => Part events run after (.ok ()))
    {visit : String → Run → Action (Run × Except RunError Unit)}
    (visiting : ∀ nodeId, Known nodeId → ∀ run, (visit nodeId run).Ensures fun events result =>
      Part events run result.1 result.2) (connections : List Connection)
    (targets : ∀ connection ∈ connections, Known connection.target) (run : Run) :
    (follow visit connections run).Ensures fun events result =>
      Part events run result.1 result.2 := by
  induction connections generalizing run with
  | nil => exact composable.idle run
  | cons connection rest ih =>
      obtain ⟨target, targets⟩ := List.forall_mem_cons.mp targets
      rw [follow]
      split
      · apply Ensures.bind (skipping run _ _)
        intro events skipped first
        exact (ih targets skipped).mono fun more result second => composable.append first second
      · apply Ensures.bind (visiting connection.target target run)
        intro events visited first
        obtain ⟨after, outcome⟩ := visited
        cases outcome with
        | ok _ =>
            exact (ih targets after).mono fun more result second => composable.append first second
        | error error => simpa using first

theorem follow_ensures (composable : Composable Part)
    (skipping : ∀ (run : Run) (message nodeId : String),
      (run.note .info message nodeId).Ensures fun events after => Part events run after (.ok ()))
    {visit : String → Run → Action (Run × Except RunError Unit)}
    (visiting : ∀ nodeId run, (visit nodeId run).Ensures fun events result =>
      Part events run result.1 result.2) (connections : List Connection) (run : Run) :
    (follow visit connections run).Ensures fun events result =>
      Part events run result.1 result.2 :=
  @follow_ensures_within Part (fun _ => True) composable skipping visit
    (fun nodeId _ => visiting nodeId) connections (fun _ _ => trivial) run

/-- What holds of every part of a walk among some nodes holds of the walk, if no connection
leads out of them. -/
theorem walk_ensures_within {Known : String → Prop} (composable : Composable Part)
    (onward : ∀ nodeId vertex, Known nodeId → plan.graph.vertex? nodeId = some vertex →
      ∀ connection ∈ vertex.outgoing, Known connection.target)
    (tooDeep : ∀ nodeId run,
      Part [] run run (.error (.depthExceeded nodeId plan.settings.maxDepth)))
    (checking : ∀ run, (isCancelled plan run).Ensures fun events found =>
      Part events run run (if found then .error .cancelled else .ok ()))
    (unknown : ∀ nodeId reason run, Known nodeId → plan.graph.vertex? nodeId = none →
      Part [] run run (.error (.invalidWorkflow reason)))
    (moving : ∀ path run, Part [] run { run with path } (.ok ()))
    (running : ∀ nodeId vertex run, Known nodeId → plan.graph.vertex? nodeId = some vertex →
      (runNode plan vertex.node run).Ensures fun events result =>
        Part events run result.1 result.2)
    (skipping : ∀ (run : Run) (message nodeId : String),
      (run.note .info message nodeId).Ensures fun events after => Part events run after (.ok ()))
    (allowed : Nat) (nodeId : String) (known : Known nodeId) (run : Run) :
    (walk plan allowed nodeId run).Ensures fun events result =>
      Part events run result.1 result.2 := by
  induction allowed generalizing nodeId run with
  | zero => exact tooDeep nodeId run
  | succ allowed ih =>
      rw [walk]
      apply Ensures.bind (checking run)
      intro events found checked
      cases found with
      | true => simpa using checked
      | false =>
          simp only [Bool.false_eq_true, if_false] at checked ⊢
          cases stands : plan.graph.vertex? nodeId with
          | none => simpa using composable.append checked (unknown nodeId _ run known stands)
          | some vertex =>
              have entered := composable.append checked
                (moving (run.path ++ [vertex.node.id]) run)
              apply Ensures.bind (running nodeId vertex _ known stands)
              intro more ran second
              obtain ⟨after, outcome⟩ := ran
              cases outcome with
              | error error => simpa using composable.append entered second
              | ok _ =>
                  have ranThrough := composable.append entered second
                  apply Ensures.bind (follow_ensures_within composable skipping ih
                    vertex.outgoing (onward nodeId vertex known stands) after)
                  intro others followed third
                  obtain ⟨last, outcome⟩ := followed
                  have walked := composable.append ranThrough third
                  cases outcome with
                  | error error => simpa using walked
                  | ok _ => simpa using composable.append walked (moving last.path.dropLast last)

/-- What holds of every part of a walk holds of the walk. -/
theorem walk_ensures (composable : Composable Part)
    (tooDeep : ∀ nodeId run,
      Part [] run run (.error (.depthExceeded nodeId plan.settings.maxDepth)))
    (checking : ∀ run, (isCancelled plan run).Ensures fun events found =>
      Part events run run (if found then .error .cancelled else .ok ()))
    (unknown : ∀ reason run, Part [] run run (.error (.invalidWorkflow reason)))
    (moving : ∀ path run, Part [] run { run with path } (.ok ()))
    (running : ∀ node run, (runNode plan node run).Ensures fun events result =>
      Part events run result.1 result.2)
    (skipping : ∀ (run : Run) (message nodeId : String),
      (run.note .info message nodeId).Ensures fun events after => Part events run after (.ok ()))
    (allowed : Nat) (nodeId : String) (run : Run) :
    (walk plan allowed nodeId run).Ensures fun events result =>
      Part events run result.1 result.2 :=
  @walk_ensures_within plan Part (fun _ => True) composable (fun _ _ _ _ _ _ => trivial) tooDeep
    checking (fun _ reason run _ _ => unknown reason run) moving
    (fun _ vertex run _ _ => running vertex.node run) skipping allowed nodeId trivial run

/-- What a walk leaves of a record, and how it tells a cancellation. -/
structure Passage (events : List (Event surroundings)) (before after : Run)
    (outcome : Except RunError Unit) : Prop where
  grown : before.record.Grown LogLine.AboutNode after.record
  quiet : ∀ event ∈ events, event.asked.Quiet before.record.id
  cancelled_iff : outcome = .error .cancelled ↔
    ∃ held, ⟨.load before.record.id, .ok held⟩ ∈ events ∧ held.record.status = .cancelled

theorem Passage.of_writes {events : List (Event surroundings)} {before after : Run}
    {outcome : Except RunError Unit}
    (writes : Writes LogLine.AboutNode events before.record after.record)
    (other : outcome ≠ .error .cancelled) : Passage events before after outcome where
  grown := writes.2
  quiet event member := .of_not_asksStore _ (writes.1 event member)
  cancelled_iff := by
    constructor
    · intro cancelled
      exact (other cancelled).elim
    · rintro ⟨held, member, -⟩
      exact (writes.1 _ member trivial).elim

theorem composable_passage : Composable Passage where
  idle run := .of_writes (.nil run.record) (by simp)
  append := by
    intro first second before between after outcome earlier later
    have same := earlier.grown.id_eq
    refine ⟨earlier.grown.trans later.grown, ?_, ?_⟩
    · intro event member
      rcases List.mem_append.mp member with member | member
      · exact earlier.quiet event member
      · exact same ▸ later.quiet event member
    · rw [later.cancelled_iff, same]
      constructor
      · rintro ⟨held, member, cancelled⟩
        exact ⟨held, List.mem_append_right _ member, cancelled⟩
      · rintro ⟨held, member, cancelled⟩
        rcases List.mem_append.mp member with member | member
        · cases earlier.cancelled_iff.mpr ⟨held, member, cancelled⟩
        · exact ⟨held, member, cancelled⟩

theorem isCancelled_passage (run : Run) :
    (isCancelled plan run).Ensures fun events found =>
      Passage events run run (if found then .error .cancelled else .ok ()) := by
  unfold isCancelled
  split
  · intro reply
    cases reply with
    | error error => exact ⟨.refl run.record, by simp [Request.Quiet], by simp⟩
    | ok held =>
        refine ⟨.refl run.record, by simp [Request.Quiet], ?_⟩
        by_cases cancelled : held.record.status = .cancelled
        · simp [cancelled]
        · simp [cancelled]
  · exact composable_passage.idle run

/-- Whoever replies, a walk only appends lines about nodes to the log, only reads
the run's own record, and ends as cancelled exactly if it has read that record as
cancelled. -/
theorem walk_passage (plan : Plan) (allowed : Nat) (nodeId : String) (run : Run) :
    (walk plan allowed nodeId run).Ensures fun events result =>
      Passage events run result.1 result.2 := by
  refine walk_ensures composable_passage ?_ isCancelled_passage ?_ ?_ ?_ ?_ allowed nodeId run
  · intro nodeId run
    exact .of_writes (.nil run.record) (by simp)
  · intro reason run
    exact .of_writes (.nil run.record) (by simp)
  · intro path run
    exact .of_writes (.nil run.record) (by simp)
  · exact fun node run => (runNode_writes plan node run).mono fun events result ran =>
      .of_writes ran.1 ran.2
  · exact fun run message nodeId => (runNote_writes run .info message nodeId).mono
      fun events after noted => .of_writes noted (by simp)

end Engine

end Flowline
