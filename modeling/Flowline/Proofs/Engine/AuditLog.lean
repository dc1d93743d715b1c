import Flowline.Proofs.Engine.Race

/-!
# The log across the versions of a record

The versions of a record that reach the store one after the other keep all lines
of the log, with one exception: the run closes its record with its own log, so the
line of a cancellation that came in between is gone from the next version.
-/

namespace Flowline

open Engine Execution

variable {callers : Type} {id : ExecutionId} {chronicle : List (Party callers × Versioned)}
  {earlier later : Party callers × Versioned}

/-- A cancellation wrote the earlier version and the run writes over it. -/
def Overwrites (earlier later : Party callers × Versioned) : Prop :=
  (∃ name, earlier.1 = .caller name) ∧ later.1 = .run

/-- A log that has every line of another one but the last, which is that of a
cancellation. -/
def LosesMark (before after : List LogLine) : Prop :=
  ∃ kept line, before = kept ++ [line] ∧ line.message = LogLine.cancellation ∧
    kept <+: after ∧ line ∉ after

theorem LosesMark.not_sublist {before after : List LogLine} (loses : LosesMark before after) :
    ¬ before.Sublist after := by
  obtain ⟨kept, line, rfl, -, -, absent⟩ := loses
  intro sublist
  exact absent (sublist.subset (by simp))

theorem Marked.prefix {created marked : Versioned} (mark : Marked created marked) :
    created.record.logs <+: marked.record.logs := by
  obtain ⟨line, -, logs⟩ := mark.logs_eq
  exact ⟨[line], logs.symm⟩

theorem Marked.losesMark {created marked : Versioned} (mark : Marked created marked)
    {record : Execution} (closed : Closed id created.record.logs record) :
    LosesMark marked.record.logs record.logs := by
  obtain ⟨line, foreign, logs⟩ := mark.logs_eq
  refine ⟨_, line, logs, ?_, closed.logs_prefix, fun member => foreign (closed.ofRun line member)⟩
  by_contra other
  exact foreign (.of_ne other)

/-- Every version has the lines of the one before it, or the run has written over a
mark and lost its line. -/
theorem Sound.prefix_or_losesMark (sound : Sound id chronicle)
    (next : [earlier, later] <:+: chronicle) :
    (¬ Overwrites earlier later ∧ earlier.2.record.logs <+: later.2.record.logs) ∨
      (Overwrites earlier later ∧ LosesMark earlier.2.record.logs later.2.record.logs) := by
  cases sound with
  | empty | created | late => simpa using next.length_le
  | marked created marked =>
      cases next.eq_of_length rfl
      exact .inl ⟨by simp [Overwrites], marked.prefix⟩
  | closed created closed =>
      cases next.eq_of_length rfl
      exact .inl ⟨by simp [Overwrites], closed.logs_prefix⟩
  | overruled created marked closed =>
      rw [List.infix_cons_iff] at next
      rcases next with first | second
      · simp only [List.cons_prefix_cons, List.nil_prefix, and_true] at first
        obtain ⟨rfl, rfl⟩ := first
        exact .inl ⟨by simp [Overwrites], marked.prefix⟩
      · cases second.eq_of_length rfl
        exact .inr ⟨⟨⟨_, rfl⟩, rfl⟩, marked.losesMark closed⟩

namespace Engine

/-- In every order of requests and whatever the store refuses, of two versions that
reach the store one after the other the later one has all lines of the earlier one,
in their order, exactly if it is not the run that writes over a cancellation.  In
that case the line of the cancellation is lost, and nothing else. -/
theorem race_keeps_log_iff {σ : Type} [DecidableEq callers] (store : AtomicStore σ)
    (refuses : StoreError → Prop) (settings : Settings) (workflow : Workflow) (id : ExecutionId)
    (input : Json) (state : σ) (fresh : store.load id state = .error (.notFound id))
    (scene : Scene surroundings (@Party.Result callers) σ)
    (reaches : Scene.Reaches (store.answers refuses)
      (race callers settings workflow id input state) scene)
    (earlier later : Party callers × Versioned)
    (next : [earlier, later] <:+: scene.world.chronicle) :
    (earlier.2.record.logs.Sublist later.2.record.logs ↔ ¬ Overwrites earlier later) ∧
      (Overwrites earlier later → LosesMark earlier.2.record.logs later.2.record.logs) := by
  have empty := (AtomicStore.load_eq_error.mp fresh).1
  rcases (race_reaches_good empty reaches).sound.prefix_or_losesMark next with
    ⟨apart, begins⟩ | ⟨overwrites, loses⟩
  · exact ⟨⟨fun _ => apart, fun _ => begins.sublist⟩, fun overwrites => (apart overwrites).elim⟩
  · refine ⟨⟨fun sublist => (loses.not_sublist sublist).elim, fun apart => ?_⟩, fun _ => loses⟩
    exact (apart overwrites).elim

/-- A run that is cancelled after the creation of its record writes over the mark. -/
theorem exists_overruled {σ : Type} [DecidableEq callers] {store : AtomicStore σ}
    {settings : Settings} {workflow : Workflow} {input : Json} {state : σ}
    (fresh : store.cell id state = none) (name : callers) :
    ∃ scene created mark last, Scene.Reaches (store.answers fun _ => False)
        (race callers settings workflow id input state) scene ∧
      scene.world.chronicle = [(.run, created), (.caller name, mark), (.run, last)] := by
  obtain ⟨scene, reaches, marked, record, finished⟩ :=
    @exists_cancelled callers σ store (fun _ => False) settings workflow id input state _ fresh name
  obtain ⟨mark, listed⟩ := (race_cancelled_iff reaches name).mp marked
  rcases race_landed fresh reaches finished with ⟨error, refused⟩ | ⟨revision, member, final, -⟩
  · exact refused.elim
  refine ⟨scene, ?_⟩
  have sound := (race_reaches_good fresh reaches).sound
  generalize scene.world.chronicle = chronicle at sound listed member
  cases sound with
  | empty => cases listed
  | created | closed | late => simp at listed
  | marked created =>
      obtain rfl : _ = (⟨record, revision⟩ : Versioned) := by simpa [eq_comm] using member
      have running : record.status = .running := created.status_eq
      simpa [running, Status.isFinal] using final.isFinal
  | @overruled created mark last other =>
      obtain rfl : name = other := by simp_all
      exact ⟨created, mark, last, reaches, rfl⟩

/-- In memory, the line of a cancellation can be lost. -/
theorem race_loses_line :
    ∃ scene earlier later, Scene.Reaches (Store.Memory.atomic.answers fun _ => False)
        (race Unit {} solo ⟨⟨1⟩⟩ .null []) scene ∧
      [earlier, later] <:+: scene.world.chronicle ∧
      ∃ line ∈ earlier.2.record.logs, line ∉ later.2.record.logs := by
  obtain ⟨scene, created, mark, last, reaches, chronicle⟩ :=
    @exists_overruled Unit ⟨⟨1⟩⟩ Store.Memory _ Store.Memory.atomic {} solo .null [] rfl ()
  have next : [(.caller (), mark), (.run, last)] <:+: scene.world.chronicle :=
    ⟨[(.run, created)], [], chronicle.symm⟩
  refine ⟨scene, _, _, reaches, next, ?_⟩
  rcases (race_reaches_good rfl reaches).sound.prefix_or_losesMark next with
    ⟨apart, -⟩ | ⟨-, kept, line, logs, -, -, absent⟩
  · exact (apart ⟨⟨(), rfl⟩, rfl⟩).elim
  · exact ⟨line, by rw [logs]; simp, absent⟩

/-- In memory, the line of a cancellation is in the log as long as the run does not
write over it. -/
theorem race_keeps_log_in_memory :
    ∃ scene earlier later, Scene.Reaches (Store.Memory.atomic.answers fun _ => False)
        (race Unit {} solo ⟨⟨1⟩⟩ .null []) scene ∧
      [earlier, later] <:+: scene.world.chronicle ∧
      earlier.2.record.logs.Sublist later.2.record.logs := by
  obtain ⟨scene, created, mark, last, reaches, chronicle⟩ :=
    @exists_overruled Unit ⟨⟨1⟩⟩ Store.Memory _ Store.Memory.atomic {} solo .null [] rfl ()
  have next : [(.run, created), (.caller (), mark)] <:+: scene.world.chronicle :=
    ⟨[], [(.run, last)], chronicle.symm⟩
  refine ⟨scene, _, _, reaches, next, ?_⟩
  refine (race_keeps_log_iff Store.Memory.atomic _ {} solo ⟨⟨1⟩⟩ .null [] rfl scene reaches _ _
    next).1.mpr ?_
  simp [Overwrites]

end Engine

end Flowline
