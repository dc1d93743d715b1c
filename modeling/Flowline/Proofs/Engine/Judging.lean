import Flowline.Proofs.Engine.Finalisation
import Flowline.Proofs.Program.Extension

/-!
# Runs that ask about guards

The evaluation of a guard leaves no trace of its own.  Here is the run that asks for
it: the evaluations stand among its events, each with the context that it is made in.
If the answers are what the guards come to, it is the run of the engine.
-/

namespace Flowline.Engine

open Program

/-- Whether a guard holds in a context. -/
abbrev guards : Interface where
  Request := String × Context
  Reply _ := Bool

/-- What the engine asks, and whether guards hold. -/
abbrev judged : Interface := surroundings.extend guards

/-- What guards come to. -/
def verdict (asked : guards.Request) : guards.Reply asked := Guard.holds asked.1 asked.2

/-- Ask whether a guard holds. -/
def judge (guard : String) (context : Context) : Program judged Bool :=
  @Program.request judged (.inr (guard, context))

/-- Follow connections in turn, asking about each guard when its turn comes. -/
def followJudged (visit : String → Run → Program judged (Run × Except RunError Unit)) :
    List Connection → Run → Program judged (Run × Except RunError Unit)
  | [], run => return (run, .ok ())
  | connection :: rest, run =>
      let pass := do
        match ← visit connection.target run with
        | (run, .ok ()) => followJudged visit rest run
        | stopped => return stopped
      match connection.guard with
      | none => pass
      | some guard => do
          if ← judge guard run.context then pass
          else
            let run ← lift (run.note .info
              s!"Skipped {connection.source} -> {connection.target}: condition not met ({guard})"
              connection.target)
            followJudged visit rest run

/-- A guard that holds counts as none, and one that does not leaves a line. -/
theorem followJudged_guarded
    (visit : String → Run → Program judged (Run × Except RunError Unit))
    (source target guard : String) (rest : List Connection) (run : Run) :
    followJudged visit (⟨source, target, some guard⟩ :: rest) run =
      @ask judged _ (.inr (guard, run.context)) fun (holds : Bool) =>
        if holds then followJudged visit (⟨source, target, none⟩ :: rest) run
        else (lift (run.note .info
          s!"Skipped {source} -> {target}: condition not met ({guard})" target)).bind
            (followJudged visit rest) := rfl

/-- Walk on from a node, asking about guards. -/
def walkJudged (plan : Plan) : (allowed : Nat) → String → Run →
    Program judged (Run × Except RunError Unit)
  | 0, nodeId, run => return (run, .error (.depthExceeded nodeId plan.settings.maxDepth))
  | allowed + 1, nodeId, run => do
      if ← lift (isCancelled plan run) then
        return (run, .error .cancelled)
      match plan.graph.vertex? nodeId with
      | none =>
          return (run, .error (.invalidWorkflow s!"node {nodeId} is not part of the workflow"))
      | some vertex =>
          let run := { run with path := run.path ++ [vertex.node.id] }
          match ← lift (runNode plan vertex.node run) with
          | (run, .ok ()) =>
              match ← followJudged (walkJudged plan allowed) vertex.outgoing run with
              | (run, .ok ()) => return ({ run with path := run.path.dropLast }, .ok ())
              | stopped => return stopped
          | stopped => return stopped

/-- Inspect a workflow and walk through it, asking about guards. -/
def traverseJudged (settings : Settings) (workflow : Workflow) (input : Json) (stored : Bool)
    (record : Execution) : Program judged (Execution × Except RunError Unit) :=
  match Graph.build workflow with
  | .error error => return (record, .error (.invalidWorkflow error.message))
  | .ok graph => do
      let plan : Plan := { workflow, graph, settings, stored }
      let record ← lift (inspect plan record)
      let (run, outcome) ← walkJudged plan (settings.maxDepth + 1) workflow.trigger
        { record, context := .start input, path := [] }
      return (run.record, outcome)

/-- Run a workflow, asking about guards. -/
def executeJudged (settings : Settings) (workflow : Workflow) (id : ExecutionId) (input : Json) :
    Program judged Execution := do
  let opened ← lift (opening workflow id)
  let walked ← traverseJudged settings workflow input opened.2.isSome opened.1
  let record ← lift (finish walked.1 walked.2)
  lift (persist record opened.2)

/-! ## The run of the engine -/

theorem resolve_followJudged {visit : String → Run → Action (Run × Except RunError Unit)}
    {visitJudged : String → Run → Program judged (Run × Except RunError Unit)}
    (same : ∀ nodeId run, (visitJudged nodeId run).resolve verdict = visit nodeId run)
    (connections : List Connection) (run : Run) :
    (followJudged visitJudged connections run).resolve verdict = follow visit connections run := by
  induction connections generalizing run with
  | nil => rfl
  | cons connection rest ih =>
      obtain ⟨source, target, guard⟩ := connection
      have passes : (followJudged visitJudged (⟨source, target, none⟩ :: rest) run).resolve verdict =
          follow visit (⟨source, target, none⟩ :: rest) run := by
        simp only [followJudged, follow, bind_eq_bind, resolve_bind, same, Option.filter_none]
        refine congrArg _ (funext fun visited => ?_)
        obtain ⟨after, outcome⟩ := visited
        cases outcome with
        | ok _ => exact ih after
        | error error => rfl
      cases guard with
      | none => exact passes
      | some guard =>
          rw [followJudged_guarded, resolve_added]
          cases holds : Guard.holds guard run.context with
          | true =>
              simp only [verdict, holds, if_true]
              refine passes.trans ?_
              simp [follow, Option.filter, holds]
          | false => simp [follow, Option.filter, verdict, holds, ih]

theorem resolve_walkJudged (plan : Plan) (allowed : Nat) (nodeId : String) (run : Run) :
    (walkJudged plan allowed nodeId run).resolve verdict = walk plan allowed nodeId run := by
  induction allowed generalizing nodeId run with
  | zero => rfl
  | succ allowed ih =>
      simp only [walkJudged, walk, bind_eq_bind, resolve_bind, resolve_lift]
      refine congrArg _ (funext fun found => ?_)
      cases found with
      | true => rfl
      | false =>
          simp only [Bool.false_eq_true, if_false]
          cases plan.graph.vertex? nodeId with
          | none => rfl
          | some vertex =>
              simp only [resolve_bind, resolve_lift]
              refine congrArg _ (funext fun ran => ?_)
              obtain ⟨after, outcome⟩ := ran
              cases outcome with
              | error error => rfl
              | ok _ =>
                  simp only [resolve_bind, resolve_followJudged ih]
                  refine congrArg _ (funext fun followed => ?_)
                  obtain ⟨last, outcome⟩ := followed
                  cases outcome <;> rfl

theorem resolve_traverseJudged (settings : Settings) (workflow : Workflow) (input : Json)
    (stored : Bool) (record : Execution) :
    (traverseJudged settings workflow input stored record).resolve verdict =
      traverse settings workflow input stored record := by
  unfold traverseJudged traverse
  cases Graph.build workflow with
  | error error => rfl
  | ok graph =>
      simp only [bind_eq_bind, resolve_bind, resolve_lift, resolve_walkJudged, walkAll]
      rfl

/-- With the guards evaluated as they are, a run that asks about them is the run of
the engine. -/
theorem resolve_executeJudged (settings : Settings) (workflow : Workflow) (id : ExecutionId)
    (input : Json) :
    (executeJudged settings workflow id input).resolve verdict =
      execute settings workflow id input := by
  simp only [executeJudged, execute_eq, bind_eq_bind, resolve_bind, resolve_lift,
    resolve_traverseJudged]

end Flowline.Engine
