import Flowline.Proofs.Engine.Executions
import Flowline.Proofs.Engine.Finalisation

/-!
# What a run asks around its walk

The opening of a run, its closing and the notes in between read the clock and ask the
store.  They attempt no node.
-/

namespace Flowline.Engine

open Program Flowline.Engine.Action

/-- A request that attempts no node. -/
def Request.Unattempting : Request → Prop
  | .attempt _ => False
  | .now | .sleep _ | .create _ | .load _ | .save _ _ => True

theorem Request.Unattempting.aside {request : Request} (unattempting : request.Unattempting) :
    request.Aside := by
  cases request <;> simp_all [Unattempting, Aside]

theorem aside_of_asks {α : Type} {program : Action α}
    (asks : program.Asks Request.Unattempting) :
    program.Ensures fun events _ => ∀ event ∈ events, event.asked.Aside :=
  asks.ensures.mono fun _ _ unattempting event member => (unattempting event member).aside

theorem now_asks : now.Asks Request.Unattempting := ⟨trivial, fun _ => trivial⟩

theorem create_asks (record : Execution) : (create record).Asks Request.Unattempting :=
  ⟨trivial, fun _ => trivial⟩

theorem load_asks (id : ExecutionId) : (load id).Asks Request.Unattempting :=
  ⟨trivial, fun _ => trivial⟩

theorem save_asks (record : Execution) (expected : Revision) :
    (save record expected).Asks Request.Unattempting := ⟨trivial, fun _ => trivial⟩

theorem note_asks (record : Execution) (level : LogLevel) (message : String)
    (nodeId : Option String) : (note record level message nodeId).Asks Request.Unattempting :=
  ⟨trivial, fun _ => trivial⟩

theorem enterStatus_asks (record : Execution) (status : Execution.Status) :
    (enterStatus record status).Asks Request.Unattempting := by
  refine .bind now_asks fun time => ?_
  split <;> trivial

theorem isCancelled_asks (plan : Plan) (run : Run) :
    (isCancelled plan run).Asks Request.Unattempting := by
  unfold isCancelled
  split
  · exact .bind (load_asks _) fun reply => by split <;> trivial
  · trivial

theorem opening_asks (workflow : Workflow) (id : ExecutionId) :
    (opening workflow id).Asks Request.Unattempting := by
  refine .bind now_asks fun time => .bind (enterStatus_asks _ _) fun running =>
    .bind (note_asks _ _ _ _) fun noted => .bind (create_asks _) fun created => ?_
  split
  · trivial
  · exact .bind (note_asks _ _ _ _) fun _ => trivial

theorem warnAll_asks (messages : List String) (record : Execution) :
    (warnAll messages record).Asks Request.Unattempting := by
  induction messages generalizing record with
  | nil => trivial
  | cons message rest ih => exact .bind (note_asks _ _ _ _) ih

theorem inspect_asks (plan : Plan) (record : Execution) :
    (inspect plan record).Asks Request.Unattempting := by
  rw [inspect_eq]
  exact warnAll_asks _ _

theorem finish_asks (record : Execution) (outcome : Except RunError Unit) :
    (finish record outcome).Asks Request.Unattempting := by
  refine .bind ?_ fun concluded => note_asks _ _ _ _
  cases outcome with
  | ok _ => exact enterStatus_asks _ _
  | error error =>
      by_cases cancelled : error = .cancelled
      · subst cancelled
        exact .bind (note_asks _ _ _ _) fun noted => enterStatus_asks _ _
      · rw [conclude_error record cancelled]
        refine .bind (note_asks _ _ _ _) fun noted => .bind now_asks fun time => ?_
        split <;> trivial

theorem yieldTo_asks (record held : Execution) :
    (yieldTo record held).Asks Request.Unattempting := by
  unfold yieldTo
  split
  · exact .bind (note_asks _ _ _ _) fun _ => trivial
  · trivial

theorem resolveConflict_asks (record : Execution) :
    (resolveConflict record).Asks Request.Unattempting := by
  refine .bind (load_asks _) fun reply => ?_
  split
  · exact note_asks _ _ _ _
  · refine .bind (yieldTo_asks _ _) fun kept => .bind (save_asks _ _) fun saved => ?_
    split
    · trivial
    · exact note_asks _ _ _ _

theorem persist_asks (record : Execution) (revision : Option Revision) :
    (persist record revision).Asks Request.Unattempting := by
  rw [persist_eq]
  refine .bind ?_ fun written => ?_
  · cases revision <;> exact ⟨trivial, fun _ => trivial⟩
  · unfold afterWrite
    split
    · trivial
    · exact resolveConflict_asks record
    · exact note_asks _ _ _ _

end Flowline.Engine
