import Mathlib.Data.Nat.Find
import Mathlib.Logic.Function.Basic
import Mathlib.Logic.Relation
import Flowline.Proofs.Program.Trace

/-!
# Interleaved programs

Several parties run programs over one state, and any of them may ask next.  What
they asked is kept in order beside the state.  An invariant of such a world
holds in all of its scenes if every party upholds it, whatever the others do
between two of its requests.
-/

namespace Flowline

/-- How a request may be answered in a state, and which state that leaves. -/
abbrev Answering (interface : Interface) (σ : Type) :=
  (asked : interface.Request) → σ → interface.Reply asked → σ → Prop

/-- A shared state and what every party has asked of it so far. -/
structure World (interface : Interface) (parties σ : Type) where
  state : σ
  history : List (parties × Event interface)

variable {interface : Interface} {parties σ α β : Type} {results : parties → Type}

namespace World

/-- One party asks and is answered. -/
structure Answered (rule : Answering interface σ) (party : parties) (asked : interface.Request)
    (reply : interface.Reply asked) (before after : World interface parties σ) : Prop where
  allowed : rule asked before.state reply after.state
  recorded : after.history = before.history ++ [(party, ⟨asked, reply⟩)]

/-- The events of one party. -/
def own [DecidableEq parties] (party : parties) (world : World interface parties σ) :
    List (Event interface) :=
  world.history.filterMap fun entry => if entry.1 = party then some entry.2 else none

/-- Only other parties have asked between the first world and the second. -/
def Later (party : parties) (before after : World interface parties σ) : Prop :=
  ∃ more, after.history = before.history ++ more ∧ ∀ entry ∈ more, entry.1 ≠ party

theorem Later.refl (party : parties) (world : World interface parties σ) :
    Later party world world := ⟨[], by simp⟩

theorem Later.trans {party : parties} {first second third : World interface parties σ}
    (earlier : Later party first second) (later : Later party second third) :
    Later party first third := by
  obtain ⟨more, grown, others⟩ := earlier
  obtain ⟨rest, grownAgain, othersAgain⟩ := later
  refine ⟨more ++ rest, by rw [grownAgain, grown, List.append_assoc], ?_⟩
  intro entry member
  exact (List.mem_append.mp member).elim (others entry) (othersAgain entry)

theorem Later.history_prefix {party : parties} {before after : World interface parties σ}
    (later : Later party before after) : before.history <+: after.history := by
  obtain ⟨more, grown, -⟩ := later
  exact ⟨more, grown.symm⟩

theorem Answered.history_prefix {rule : Answering interface σ} {party : parties}
    {asked : interface.Request} {reply : interface.Reply asked}
    {before after : World interface parties σ}
    (answered : Answered rule party asked reply before after) :
    before.history <+: after.history :=
  ⟨_, answered.recorded.symm⟩

variable [DecidableEq parties]

theorem mem_own_iff {party : parties} {event : Event interface}
    {world : World interface parties σ} :
    event ∈ world.own party ↔ (party, event) ∈ world.history := by
  simp [own]

/-- What others do leaves a party's own events as they are. -/
theorem Later.own_eq {party : parties} {before after : World interface parties σ}
    (later : Later party before after) : after.own party = before.own party := by
  obtain ⟨more, grown, others⟩ := later
  have foreign : (more.filterMap fun entry =>
      if entry.1 = party then some entry.2 else none) = [] := by
    rw [List.filterMap_eq_nil_iff]
    intro entry member
    simp [others entry member]
  rw [own, grown, List.filterMap_append, foreign, List.append_nil, own]

theorem Answered.own_eq {rule : Answering interface σ} {party : parties}
    {asked : interface.Request} {reply : interface.Reply asked}
    {before after : World interface parties σ}
    (answered : Answered rule party asked reply before after) :
    after.own party = before.own party ++ [⟨asked, reply⟩] := by
  simp [own, answered.recorded]

end World

namespace Program

open World

variable (rule : Answering interface σ) (Good : World interface parties σ → Prop)
  (party : parties)

/-- A party that runs the program keeps every world good and ends as described,
if the others keep worlds good while it waits. -/
def Upholds : Program interface α → World interface parties σ →
    (World interface parties σ → α → Prop) → Prop
  | done value, world, post => ∀ later, Later party world later → Good later → post later value
  | ask asked next, world, post =>
      ∀ later, Later party world later → Good later →
        ∀ reply after, Answered rule party asked reply later after →
          Good after ∧ (next reply).Upholds after post

variable {rule Good party}

theorem Upholds.later {program : Program interface α} {before after : World interface parties σ}
    {post : World interface parties σ → α → Prop}
    (upholds : program.Upholds rule Good party before post) (later : Later party before after) :
    program.Upholds rule Good party after post := by
  cases program with
  | done value => exact fun further follows => upholds further (later.trans follows)
  | ask asked next => exact fun further follows => upholds further (later.trans follows)

/-- What a party does next may rest on the world being good by then. -/
theorem Upholds.of_good {program : Program interface α} {world : World interface parties σ}
    {post : World interface parties σ → α → Prop}
    (upholds : ∀ later, Later party world later → Good later →
      program.Upholds rule Good party later post) :
    program.Upholds rule Good party world post := by
  cases program with
  | done value =>
      intro later follows good
      exact upholds later follows good later (.refl party later) good
  | ask asked next =>
      intro later follows good
      exact upholds later follows good later (.refl party later) good

theorem Upholds.bind {program : Program interface α} {rest : α → Program interface β}
    {world : World interface parties σ} {first : World interface parties σ → α → Prop}
    {post : World interface parties σ → β → Prop}
    (upholds : program.Upholds rule Good party world first)
    (continues : ∀ later value, Good later → first later value →
      (rest value).Upholds rule Good party later post) :
    (program.bind rest).Upholds rule Good party world post := by
  induction program generalizing world with
  | done value =>
      refine .of_good fun later follows good => ?_
      exact continues later value good (upholds later follows good)
  | ask asked next ih =>
      intro later follows good reply after answered
      obtain ⟨stillGood, remaining⟩ := upholds later follows good reply after answered
      exact ⟨stillGood, ih reply remaining⟩

theorem Upholds.mono {program : Program interface α} {world : World interface parties σ}
    {weak strong : World interface parties σ → α → Prop}
    (upholds : program.Upholds rule Good party world strong)
    (weaker : ∀ later value, Good later → strong later value → weak later value) :
    program.Upholds rule Good party world weak := by
  induction program generalizing world with
  | done value =>
      intro later follows good
      exact weaker later value good (upholds later follows good)
  | ask asked next ih =>
      intro later follows good reply after answered
      obtain ⟨stillGood, remaining⟩ := upholds later follows good reply after answered
      exact ⟨stillGood, ih reply remaining⟩

/-- A program that only makes harmless requests upholds an invariant that those
keep.  It leaves one of its traces in the history. -/
theorem Upholds.of_harmless [DecidableEq parties] {program : Program interface α}
    {world : World interface parties σ} (harmless : interface.Request → Prop)
    (keeps : ∀ asked reply before after, harmless asked → Good before →
      Answered rule party asked reply before after → Good after)
    (only : program.Ensures fun events _ => ∀ event ∈ events, harmless event.asked)
    (inhabited : ∀ asked, Nonempty (interface.Reply asked)) :
    program.Upholds rule Good party world fun later value =>
      world.history <+: later.history ∧
        ∃ events, program.Yields events value ∧ later.own party = world.own party ++ events := by
  induction program generalizing world with
  | done value =>
      intro later follows good
      exact ⟨follows.history_prefix, [], .done value, by simp [follows.own_eq]⟩
  | ask asked next ih =>
      intro later follows good reply after answered
      have first : harmless asked := by
        obtain ⟨events, value, yields, -⟩ := @exists_yields interface _ (fun _ => True)
          (fun request => (inhabited request).elim fun reply => ⟨reply, trivial⟩) (next reply)
        exact (only reply).of_yields yields _ List.mem_cons_self
      have others : (next reply).Ensures fun events _ =>
          ∀ event ∈ events, harmless event.asked :=
        (only reply).mono fun events value all event member =>
          all event (List.mem_cons_of_mem _ member)
      refine ⟨keeps asked reply later after first good answered, (ih reply others).mono ?_⟩
      rintro further value - ⟨grows, events, yields, owned⟩
      have grown := follows.history_prefix.trans (answered.history_prefix.trans grows)
      refine ⟨grown, _, .ask yields, ?_⟩
      rw [owned, answered.own_eq, follows.own_eq, List.append_assoc, List.singleton_append]

end Program

/-- What is left of every party's program, and the world between them. -/
structure Scene (interface : Interface) (results : parties → Type) (σ : Type) where
  threads : (party : parties) → Program interface (results party)
  world : World interface parties σ

namespace Scene

open Program

variable [DecidableEq parties] {rule : Answering interface σ}

/-- A party makes its next request. -/
inductive StepBy (rule : Answering interface σ) (party : parties) :
    Scene interface results σ → Scene interface results σ → Prop where
  | intro {scene : Scene interface results σ} {asked : interface.Request}
      {next : interface.Reply asked → Program interface (results party)}
      {reply : interface.Reply asked} {after : World interface parties σ}
      (pending : scene.threads party = .ask asked next)
      (answered : World.Answered rule party asked reply scene.world after) :
      StepBy rule party scene ⟨Function.update scene.threads party (next reply), after⟩

/-- Some party makes its next request. -/
def Step (rule : Answering interface σ) (before after : Scene interface results σ) : Prop :=
  ∃ party, StepBy rule party before after

/-- What any schedule of the parties' requests leads to. -/
abbrev Reaches (rule : Answering interface σ) :
    Scene interface results σ → Scene interface results σ → Prop :=
  Relation.ReflTransGen (Step rule)

/-- The party of a step gets a reply and has one request less to make. -/
theorem StepBy.exists_next {party : parties} {before after : Scene interface results σ}
    (step : StepBy rule party before after) :
    ∃ asked next reply, before.threads party = .ask asked next ∧
      after.threads party = next reply ∧
      World.Answered rule party asked reply before.world after.world := by
  cases step with
  | intro pending answered => exact ⟨_, _, _, pending, Function.update_self party _ _, answered⟩

theorem StepBy.threads_eq {party other : parties} {before after : Scene interface results σ}
    (step : StepBy rule party before after) (different : other ≠ party) :
    after.threads other = before.threads other := by
  cases step with
  | intro pending answered => exact Function.update_of_ne different _ _

theorem StepBy.later {party other : parties} {before after : Scene interface results σ}
    (step : StepBy rule party before after) (different : other ≠ party) :
    World.Later other before.world after.world := by
  cases step with
  | intro pending answered =>
      refine ⟨_, answered.recorded, ?_⟩
      simpa using different.symm

/-- What was asked stays in the history. -/
theorem Reaches.history {before after : Scene interface results σ}
    (reaches : Reaches rule before after) :
    before.world.history <+: after.world.history := by
  induction reaches with
  | refl => exact List.prefix_refl _
  | tail _ step ih =>
      obtain ⟨party, step⟩ := step
      cases step with
      | intro pending answered =>
          exact ih.trans answered.history_prefix

/-- What is left of a party's program is what its own events leave of it. -/
theorem Reaches.leaves {before after : Scene interface results σ}
    (reaches : Reaches rule before after) (party : parties) :
    ∃ events, after.world.own party = before.world.own party ++ events ∧
      (before.threads party).Leaves events (after.threads party) := by
  induction reaches with
  | refl => exact ⟨[], by simp, .nil _⟩
  | tail _ step ih =>
      obtain ⟨events, owned, leaves⟩ := ih
      obtain ⟨mover, step⟩ := step
      by_cases same : party = mover
      · subst same
        obtain ⟨asked, next, reply, pending, left, answered⟩ := step.exists_next
        refine ⟨events ++ [⟨asked, reply⟩], ?_, ?_⟩
        · rw [answered.own_eq, owned, List.append_assoc]
        · rw [left]
          rw [pending] at leaves
          exact leaves.snoc reply
      · refine ⟨events, ?_, ?_⟩
        · rw [(step.later same).own_eq, owned]
        · rwa [step.threads_eq same]

/-- What a party asked on the way was answered in a scene between. -/
theorem Reaches.exists_answered {before after : Scene interface results σ}
    (reaches : Reaches rule before after) {party : parties} {events : List (Event interface)}
    (owned : after.world.own party = before.world.own party ++ events) {event : Event interface}
    (member : event ∈ events) :
    ∃ between next, Reaches rule before between ∧
      World.Answered rule party event.asked event.reply between.world next := by
  induction reaches generalizing events with
  | refl =>
      rw [List.self_eq_append_right] at owned
      simp [owned] at member
  | @tail between after reached step ih =>
      obtain ⟨mover, step⟩ := step
      by_cases same : party = mover
      · subst same
        obtain ⟨asked, next, reply, -, -, answered⟩ := step.exists_next
        obtain ⟨earlier, ownedBefore, -⟩ := Reaches.leaves reached party
        rw [answered.own_eq, ownedBefore, List.append_assoc, List.append_cancel_left_eq] at owned
        subst owned
        rcases List.mem_append.mp member with member | member
        · exact ih ownedBefore member
        · obtain rfl := List.mem_singleton.mp member
          exact ⟨between, _, reached, answered⟩
      · rw [(step.later same).own_eq] at owned
        exact ih owned member

/-- An invariant that every party upholds from the start holds in every scene, and
the parties go on to uphold it. -/
theorem Reaches.upholds {Good : World interface parties σ → Prop}
    {post : (party : parties) → World interface parties σ → results party → Prop}
    {start scene : Scene interface results σ} (good : Good start.world)
    (upholds : ∀ party,
      (start.threads party).Upholds rule Good party start.world (post party))
    (reaches : Reaches rule start scene) :
    Good scene.world ∧
      ∀ party, (scene.threads party).Upholds rule Good party scene.world (post party) := by
  induction reaches with
  | refl => exact ⟨good, upholds⟩
  | tail _ step ih =>
      obtain ⟨party, step⟩ := step
      obtain ⟨wasGood, upheld⟩ := ih
      have passing {other : parties} (different : other ≠ party) := step.later different
      cases step with
      | intro pending answered =>
          have own := upheld party
          rw [pending] at own
          obtain ⟨stillGood, remaining⟩ := own _ (.refl party _) wasGood _ _ answered
          refine ⟨stillGood, fun other => ?_⟩
          by_cases same : other = party
          · subst same
            simpa using remaining
          · simpa [Function.update_of_ne same] using (upheld other).later (passing same)

/-- A party that is done has ended as described. -/
theorem Reaches.ended {Good : World interface parties σ → Prop}
    {post : (party : parties) → World interface parties σ → results party → Prop}
    {start scene : Scene interface results σ} (good : Good start.world)
    (upholds : ∀ party,
      (start.threads party).Upholds rule Good party start.world (post party))
    (reaches : Reaches rule start scene) {party : parties} {value : results party}
    (finished : scene.threads party = .done value) : post party scene.world value := by
  obtain ⟨stillGood, upheld⟩ := reaches.upholds good upholds
  have own := upheld party
  rw [finished] at own
  exact own _ (.refl party _) stillGood

/-- One party's events can come about from one state to another. -/
inductive Allows (rule : Answering interface σ) : σ → List (Event interface) → σ → Prop where
  | nil (state : σ) : Allows rule state [] state
  | cons {before between after : σ} {asked : interface.Request} {reply : interface.Reply asked}
      {events : List (Event interface)} : rule asked before reply between →
      Allows rule between events after → Allows rule before (⟨asked, reply⟩ :: events) after

theorem Allows.snoc {before between after : σ} {events : List (Event interface)}
    {asked : interface.Request} {reply : interface.Reply asked}
    (allows : Allows rule before events between) (allowed : rule asked between reply after) :
    Allows rule before (events ++ [⟨asked, reply⟩]) after := by
  induction allows with
  | nil state => exact .cons allowed (.nil after)
  | cons first _ ih => exact .cons first (ih allowed)

theorem Allows.mono {weak : Answering interface σ}
    (weaker : ∀ asked before reply after, rule asked before reply after →
      weak asked before reply after)
    {before after : σ} {events : List (Event interface)}
    (allows : Allows rule before events after) : Allows weak before events after := by
  induction allows with
  | nil state => exact .nil state
  | cons first _ ih => exact .cons (weaker _ _ _ _ first) ih

/-- A party can go on alone through any events that its program and the state allow, and these
are then its own. -/
theorem exists_passage {party : parties} {scene : Scene interface results σ}
    {events : List (Event interface)} {rest : Program interface (results party)} {state : σ}
    (leaves : (scene.threads party).Leaves events rest)
    (allows : Allows rule scene.world.state events state) :
    ∃ later, Reaches rule scene later ∧ later.threads party = rest ∧ later.world.state = state ∧
      later.world.own party = scene.world.own party ++ events ∧
      ∀ other, other ≠ party → later.threads other = scene.threads other ∧
        later.world.own other = scene.world.own other := by
  generalize pending : scene.threads party = program at leaves
  induction leaves generalizing scene with
  | nil program =>
      cases allows
      exact ⟨scene, .refl, pending, rfl, (List.append_nil _).symm, fun _ _ => ⟨rfl, rfl⟩⟩
  | @ask asked next reply events rest _ ih =>
      cases allows with
      | @cons _ between _ _ _ _ allowed remaining =>
          have answered : World.Answered rule party asked reply scene.world
              ⟨between, scene.world.history ++ [(party, ⟨asked, reply⟩)]⟩ := ⟨allowed, rfl⟩
          have step := StepBy.intro pending answered
          obtain ⟨later, reaches, left, ends, owned, others⟩ :=
            @ih ⟨Function.update scene.threads party (next reply),
              ⟨between, scene.world.history ++ [(party, ⟨asked, reply⟩)]⟩⟩ remaining
              (Function.update_self party _ _)
          refine ⟨later, .head ⟨party, step⟩ reaches, left, ends, ?_, fun other different => ?_⟩
          · rw [owned, answered.own_eq, List.append_assoc, List.singleton_append]
          · obtain ⟨waits, silent⟩ := others other different
            rw [waits, silent, step.threads_eq different, (step.later different).own_eq]
            exact ⟨rfl, rfl⟩

theorem exists_reaches {party : parties} {scene : Scene interface results σ}
    {events : List (Event interface)} {rest : Program interface (results party)} {state : σ}
    (leaves : (scene.threads party).Leaves events rest)
    (allows : Allows rule scene.world.state events state) :
    ∃ later, Reaches rule scene later ∧ later.threads party = rest ∧ later.world.state = state ∧
      ∀ other, other ≠ party → later.threads other = scene.threads other := by
  obtain ⟨later, reaches, left, ends, -, others⟩ := exists_passage leaves allows
  exact ⟨later, reaches, left, ends, fun other different => (others other different).1⟩

/-- If every request can be answered, a party comes to its end by itself. -/
theorem exists_ended (total : ∀ asked state, ∃ reply left, rule asked state reply left)
    (party : parties) (scene : Scene interface results σ) :
    ∃ later, Reaches rule scene later ∧ (∃ value, later.threads party = .done value) ∧
      ∀ other, other ≠ party → later.threads other = scene.threads other := by
  generalize pending : scene.threads party = program
  induction program generalizing scene with
  | done value => exact ⟨scene, .refl, ⟨value, pending⟩, fun _ _ => rfl⟩
  | ask asked next ih =>
      obtain ⟨reply, left, allowed⟩ := total asked scene.world.state
      have answered : World.Answered rule party asked reply scene.world
          ⟨left, scene.world.history ++ [(party, ⟨asked, reply⟩)]⟩ := ⟨allowed, rfl⟩
      have step := StepBy.intro pending answered
      obtain ⟨later, reaches, ended, others⟩ := ih reply
        ⟨Function.update scene.threads party (next reply), _⟩ (Function.update_self party _ _)
      refine ⟨later, .head ⟨party, step⟩ reaches, ended, fun other different => ?_⟩
      rw [others other different, step.threads_eq different]

/-- A program stays as it is while its party makes no request. -/
theorem threads_eq_of_quiet {schedule : Nat → Scene interface results σ}
    (steps : ∀ time, Step rule (schedule time) (schedule (time + 1))) {party : parties}
    {time : Nat} (waited : Nat)
    (quiet : ∀ between, between < waited →
      ¬ StepBy rule party (schedule (time + between)) (schedule (time + between + 1))) :
    (schedule (time + waited)).threads party = (schedule time).threads party := by
  induction waited with
  | zero => rfl
  | succ waited ih =>
      obtain ⟨mover, step⟩ := steps (time + waited)
      have different : party ≠ mover := by
        rintro rfl
        exact quiet waited (Nat.lt_succ_self waited) step
      rw [Nat.add_succ, step.threads_eq different]
      exact ih fun between before => quiet between (Nat.lt_succ_of_lt before)

/-- From any time on a party makes no request, or it makes a next one. -/
theorem quiet_or_exists_next {schedule : Nat → Scene interface results σ}
    (steps : ∀ time, Step rule (schedule time) (schedule (time + 1))) (party : parties)
    (time : Nat) :
    (∀ later, time ≤ later → ¬ StepBy rule party (schedule later) (schedule (later + 1))) ∨
      ∃ asked next reply later, (schedule time).threads party = .ask asked next ∧
        (schedule later).threads party = next reply := by
  classical
  by_cases noisy : ∃ waited,
      StepBy rule party (schedule (time + waited)) (schedule (time + waited + 1))
  · right
    obtain ⟨asked, next, reply, pending, left, -⟩ := (Nat.find_spec noisy).exists_next
    rw [threads_eq_of_quiet steps _ fun _ => Nat.find_min noisy] at pending
    exact ⟨asked, next, reply, _, pending, left⟩
  · left
    intro later reached step
    refine noisy ⟨later - time, ?_⟩
    rwa [Nat.add_sub_cancel' reached]

/-- No schedule, however long, lets one party ask without end. -/
theorem eventually_quiet {schedule : Nat → Scene interface results σ}
    (steps : ∀ time, Step rule (schedule time) (schedule (time + 1))) (party : parties) :
    ∃ time, ∀ later, time ≤ later →
      ¬ StepBy rule party (schedule later) (schedule (later + 1)) := by
  suffices fromAny : ∀ (program : Program interface (results party)) (time : Nat),
      (schedule time).threads party = program →
      ∃ quiet, ∀ later, quiet ≤ later →
        ¬ StepBy rule party (schedule later) (schedule (later + 1)) from
    fromAny _ 0 rfl
  intro program
  induction program with
  | done value =>
      intro time pending
      rcases quiet_or_exists_next steps party time with quiet | ⟨_, _, _, _, asks, -⟩
      · exact ⟨time, quiet⟩
      · rw [pending] at asks
        cases asks
  | ask asked next ih =>
      intro time pending
      rcases quiet_or_exists_next steps party time with quiet | ⟨_, _, reply, later, asks, left⟩
      · exact ⟨time, quiet⟩
      · rw [pending] at asks
        cases asks
        exact ih reply later left

end Scene

end Flowline
