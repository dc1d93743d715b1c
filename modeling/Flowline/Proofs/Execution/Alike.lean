import Mathlib.Data.List.Forall2
import Flowline.Proofs.Execution.Lifecycle
import Flowline.Store.Basic

/-!
# Records apart from the clock

Two records of one run may differ in what the clock has told: in the times of the run and of
its lines, and in the milliseconds that its last line tells of.  Whatever is done to both of
them at once, they go on to differ in nothing else.
-/

namespace Flowline

/-- The text of the last line of a run: its status, and the milliseconds that it took. -/
def closingText (status : Execution.Status) (milliseconds : Nat) : String :=
  s!"Execution finished with status {status.name} in {milliseconds}ms"

/-- Two lines that differ only in what the clock has told. -/
inductive LogLine.Alike : LogLine → LogLine → Prop where
  | noted (first second : Instant) (level : LogLevel) (message : String)
      (nodeId : Option String) :
      Alike ⟨first, level, message, nodeId⟩ ⟨second, level, message, nodeId⟩
  | closing (first second : Instant) (status : Execution.Status) (spent other : Nat) :
      Alike ⟨first, .info, closingText status spent, none⟩
        ⟨second, .info, closingText status other, none⟩

/-- Two records that differ only in what the clock has told. -/
structure Execution.Alike (left right : Execution) : Prop where
  subject_eq : left.subject = right.subject
  status_eq : left.status = right.status
  error_eq : left.error = right.error
  completed_eq : left.completedAt.isSome = right.completedAt.isSome
  timed_eq : left.duration.isSome = right.duration.isSome
  logs : List.Forall₂ LogLine.Alike left.logs right.logs

/-- Two versions of alike records with the same revision. -/
structure Versioned.Alike (left right : Versioned) : Prop where
  record : left.record.Alike right.record
  revision_eq : left.revision = right.revision

theorem LogLine.Alike.refl (line : LogLine) : line.Alike line :=
  .noted line.timestamp line.timestamp line.level line.message line.nodeId

namespace Execution

theorem Alike.refl (record : Execution) : record.Alike record where
  subject_eq := rfl
  status_eq := rfl
  error_eq := rfl
  completed_eq := rfl
  timed_eq := rfl
  logs := List.forall₂_same.mpr fun line _ => .refl line

theorem Alike.id_eq {left right : Execution} (alike : left.Alike right) : left.id = right.id :=
  congrArg Subject.id alike.subject_eq

/-- Two records of one run of one workflow, by two clocks. -/
structure Twins (who : Subject) (left right : Execution) : Prop extends Alike left right where
  subject : left.subject = who

namespace Twins

variable {who : Subject} {left right : Execution}

theorem id_eq (twins : Twins who left right) : left.id = who.id :=
  congrArg Subject.id twins.subject

theorem right_id_eq (twins : Twins who left right) : right.id = who.id :=
  twins.toAlike.id_eq.symm.trans twins.id_eq

theorem log_of_alike (twins : Twins who left right) {line other : LogLine}
    (alike : line.Alike other) :
    Twins who { left with logs := left.logs ++ [line] }
      { right with logs := right.logs ++ [other] } where
  subject_eq := twins.subject_eq
  status_eq := twins.status_eq
  error_eq := twins.error_eq
  completed_eq := twins.completed_eq
  timed_eq := twins.timed_eq
  logs := List.rel_append twins.logs (.cons alike .nil)
  subject := twins.subject

theorem log (twins : Twins who left right) (level : LogLevel) (message : String)
    (nodeId : Option String) (first second : Instant) :
    Twins who (left.log level message nodeId first) (right.log level message nodeId second) :=
  twins.log_of_alike (.noted first second level message nodeId)

theorem enter (twins : Twins who left right) (status : Status) (first second : Instant) :
    Twins who (left.enter status first) (right.enter status second) := by
  cases final : status.isFinal with
  | true =>
      simp only [Execution.enter, final, if_true]
      exact ⟨⟨twins.subject_eq, rfl, twins.error_eq, rfl, rfl, twins.logs⟩, twins.subject⟩
  | false =>
      simp only [Execution.enter, final, Bool.false_eq_true, if_false]
      exact ⟨⟨twins.subject_eq, rfl, twins.error_eq, twins.completed_eq, twins.timed_eq,
        twins.logs⟩, twins.subject⟩

theorem settle (twins : Twins who left right) (status : Status) (error : Option ErrorSummary) :
    Twins who { left with status, error } { right with status, error } :=
  ⟨⟨twins.subject_eq, rfl, rfl, twins.completed_eq, twins.timed_eq, twins.logs⟩, twins.subject⟩

end Twins

end Execution

theorem Versioned.Alike.refl (version : Versioned) : version.Alike version :=
  ⟨.refl version.record, rfl⟩

end Flowline
