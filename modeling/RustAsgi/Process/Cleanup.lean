import RustAsgi.Asyncio.Tasks
import RustAsgi.Machine

/-!
# Cancelling what is left on the event loop

After the lifespan shutdown `cancel_pending_tasks` submits two coroutines: a barrier,
awaited for a while, and `_cancel_all`, which cancels every other task of the loop and
gathers them. Applications go on meanwhile: their tasks start others, ignore their
cancellation, and other threads submit coroutines.
-/

namespace RustAsgi.Process

open Machine Asyncio

inductive CleanupStage where
  | serving
  /-- Awaits the barrier for at most 5s. -/
  | barrier
  /-- Awaits `_cancel_all` for at most 5s. -/
  | collecting
  | returned (clean : Bool)
  deriving DecidableEq, Repr

structure Cleanup where
  tasks : Tasks
  /-- `loop.is_running()`, which `into_future` checks. -/
  running : Bool
  stage : CleanupStage
  /-- The number of `_barrier()`. -/
  barrier : Option ℕ
  /-- The number of `_cancel_all()`. -/
  cancelAll : Option ℕ
  /-- The tasks that `_cancel_all` has cancelled and gathers. -/
  gathered : Option (List ℕ)
  /-- Somebody has cancelled `_cancel_all` itself. -/
  interrupted : Bool
  deriving DecidableEq, Repr

inductive CleanupAction where
  /-- A thread submits a coroutine. -/
  | submit
  /-- The loop runs a callback. -/
  | turn (count : ℕ) (outcome : Turn)
  | wake (id : ℕ)
  /-- `run_forever` has been left by an exception. -/
  | dies
  | interrupt
  | begin
  /-- The barrier is through, or its timer has fired. -/
  | goOn (timedOut : Bool)
  | collect (timedOut : Bool)
  deriving DecidableEq, Repr

/-- The loop goes on by itself, or `cancel_pending_tasks` learns of the end. -/
def CleanupAction.ofLoop : CleanupAction → Bool
  | .turn _ _ | .wake _ | .collect false => true
  | _ => false

namespace Cleanup

def init : Cleanup :=
  { tasks := .empty, running := true, stage := .serving, barrier := none, cancelAll := none,
    gathered := none, interrupted := false }

def isFinished (s : Cleanup) (id : ℕ) : Bool :=
  decide (s.tasks.lives[id]? = some .finished)

/-- `Task.cancel()` has an effect on it. -/
def isCancellable (s : Cleanup) (id : ℕ) : Bool :=
  s.tasks.lives[id]?.any Life.isTask

/-- What the step of one of the two coroutines does, and which tasks it has cancelled then. -/
def script (s : Cleanup) (id : ℕ) : Option (Turn × Option (List ℕ)) :=
  if s.barrier = some id then some (.finish, s.gathered)
  else if s.cancelAll = some id then
    if s.interrupted then some (.finish, s.gathered)
    else
      match s.gathered with
      | none =>
          let others := s.tasks.all.filter fun each => decide (each ≠ id)
          some (if others = [] then .finish else .wait, some others)
      | some others => some (.finish, some others)
  else none

def turn (s : Cleanup) (count : ℕ) (outcome : Turn) : Option Cleanup :=
  match s.tasks.ready with
  | [] => none
  | id :: _ =>
      match s.script id with
      | some (forced, gathered) =>
          if s.tasks.lives[id]? = some .scheduled then
            if count = 0 ∧ outcome = forced then
              (s.tasks.turn 0 forced).map fun tasks => { s with tasks, gathered }
            else none
          else (s.tasks.turn count outcome).map fun tasks => { s with tasks }
      | none => (s.tasks.turn count outcome).map fun tasks => { s with tasks }

/-- `gather` wakes `_cancel_all` when everything is done, also where it has been cancelled. -/
def mayWake (s : Cleanup) (id : ℕ) : Bool :=
  s.cancelAll != some id || (s.gathered.getD []).all s.isFinished

def step (s : Cleanup) : CleanupAction → Option Cleanup
  | .submit => if s.running then some { s with tasks := s.tasks.submit } else none
  | .turn count outcome => if s.running then s.turn count outcome else none
  | .wake id =>
      if s.running ∧ s.mayWake id = true then
        (s.tasks.wake id).map fun tasks => { s with tasks }
      else none
  | .dies => some { s with running := false }
  | .interrupt =>
      if s.cancelAll.any s.isCancellable then some { s with interrupted := true } else none
  | .begin =>
      if s.stage = .serving then
        if s.running then
          some { s with
            tasks := s.tasks.submit, barrier := some s.tasks.lives.length, stage := .barrier }
        else some { s with stage := .returned false }
      else none
  | .goOn timedOut =>
      if s.stage = .barrier ∧ (timedOut = true ∨ s.barrier.any s.isFinished = true) then
        if s.running then
          some { s with
            tasks := s.tasks.submit, cancelAll := some s.tasks.lives.length
            stage := .collecting }
        else some { s with stage := .returned false }
      else none
  | .collect timedOut =>
      if s.stage = .collecting then
        if timedOut then some { s with stage := .returned false }
        else if s.cancelAll.any s.isFinished then
          some { s with stage := .returned (!s.interrupted) }
        else none
      else none

variable {s next final : Cleanup} {action : CleanupAction} {actions : List CleanupAction}

/-- Everything a step of the loop, or of the cleanup, can do. -/
inductive Step (s : Cleanup) : CleanupAction → Cleanup → Prop where
  | submit : Step s .submit { s with tasks := s.tasks.submit }
  | free {count : ℕ} {outcome : Turn} {tasks : Tasks} {id : ℕ} {rest : List ℕ}
      (first : s.tasks.ready = id :: rest) (turned : s.tasks.turn count outcome = some tasks)
      (unscripted : s.tasks.lives[id]? = some .scheduled → s.script id = none) :
      Step s (.turn count outcome) { s with tasks }
  | scripted {outcome : Turn} {tasks : Tasks} {id : ℕ} {rest : List ℕ} {gathered : Option (List ℕ)}
      (first : s.tasks.ready = id :: rest) (turned : s.tasks.turn 0 outcome = some tasks)
      (scheduled : s.tasks.lives[id]? = some .scheduled)
      (script : s.script id = some (outcome, gathered)) :
      Step s (.turn 0 outcome) { s with tasks, gathered }
  | wake {id : ℕ} {tasks : Tasks} (allowed : s.mayWake id = true)
      (woken : s.tasks.wake id = some tasks) : Step s (.wake id) { s with tasks }
  | dies : Step s .dies { s with running := false }
  | interrupt {id : ℕ} (own : s.cancelAll = some id) (task : s.isCancellable id = true) :
      Step s .interrupt { s with interrupted := true }
  | begin (stage : s.stage = .serving) :
      Step s .begin { s with
        tasks := s.tasks.submit, barrier := some s.tasks.lives.length, stage := .barrier }
  | refused (stage : s.stage = .serving) : Step s .begin { s with stage := .returned false }
  | goOn {timedOut : Bool} (stage : s.stage = .barrier) :
      Step s (.goOn timedOut) { s with
        tasks := s.tasks.submit, cancelAll := some s.tasks.lives.length, stage := .collecting }
  | stopped {timedOut : Bool} (stage : s.stage = .barrier) :
      Step s (.goOn timedOut) { s with stage := .returned false }
  | timeout (stage : s.stage = .collecting) :
      Step s (.collect true) { s with stage := .returned false }
  | collected {id : ℕ} (stage : s.stage = .collecting) (own : s.cancelAll = some id)
      (finished : s.isFinished id = true) :
      Step s (.collect false) { s with stage := .returned (!s.interrupted) }

theorem step_turn {count : ℕ} {outcome : Turn} (turned : s.turn count outcome = some next) :
    Step s (.turn count outcome) next := by
  simp only [turn] at turned
  split at turned
  · cases turned
  · rename_i id rest first
    split at turned
    · rename_i forced gathered script
      split at turned
      · rename_i scheduled
        rw [Option.ite_none_right_eq_some, Option.map_eq_some_iff] at turned
        rcases turned with ⟨⟨rfl, rfl⟩, tasks, turned, rfl⟩
        exact .scripted first turned scheduled script
      · rename_i unscheduled
        rw [Option.map_eq_some_iff] at turned
        rcases turned with ⟨tasks, turned, rfl⟩
        exact .free first turned fun scheduled => absurd scheduled unscheduled
    · rename_i script
      rw [Option.map_eq_some_iff] at turned
      rcases turned with ⟨tasks, turned, rfl⟩
      exact .free first turned fun _ => script

theorem step_cases (stepped : s.step action = some next) : Step s action next := by
  cases action with
  | turn count outcome =>
      simp only [step, Option.ite_none_right_eq_some] at stepped
      exact step_turn stepped.2
  | submit =>
      simp only [step, Option.ite_none_right_eq_some, Option.some.injEq] at stepped
      exact stepped.2 ▸ .submit
  | wake id =>
      simp only [step, Option.ite_none_right_eq_some, Option.map_eq_some_iff] at stepped
      rcases stepped with ⟨⟨_, allowed⟩, tasks, woken, rfl⟩
      exact .wake allowed woken
  | dies => exact Option.some.inj stepped ▸ .dies
  | interrupt =>
      simp only [step, Option.ite_none_right_eq_some, Option.some.injEq, Option.any_eq_true]
        at stepped
      rcases stepped with ⟨⟨id, own, task⟩, rfl⟩
      exact .interrupt own task
  | begin =>
      simp only [step, Option.ite_none_right_eq_some] at stepped
      rcases stepped with ⟨stage, stepped⟩
      split at stepped
      · exact Option.some.inj stepped ▸ .begin stage
      · exact Option.some.inj stepped ▸ .refused stage
  | goOn timedOut =>
      simp only [step, Option.ite_none_right_eq_some] at stepped
      rcases stepped with ⟨⟨stage, _⟩, stepped⟩
      split at stepped
      · exact Option.some.inj stepped ▸ .goOn stage
      · exact Option.some.inj stepped ▸ .stopped stage
  | collect timedOut =>
      simp only [step, Option.ite_none_right_eq_some] at stepped
      rcases stepped with ⟨stage, stepped⟩
      cases timedOut with
      | true => exact Option.some.inj stepped ▸ .timeout stage
      | false =>
          simp only [Bool.false_eq_true, if_false, Option.ite_none_right_eq_some,
            Option.some.injEq, Option.any_eq_true] at stepped
          rcases stepped with ⟨⟨id, own, finished⟩, rfl⟩
          exact .collected stage own finished

/-- How far `_cancel_all`, the coroutine with this number, has come: once it is a task, so is every
coroutine before it; it cancels all of them that have not finished, and finishes after them. -/
structure Gathering (s : Cleanup) (id : ℕ) : Prop where
  inside : id < s.tasks.lives.length
  behind : ∀ barrier ∈ s.barrier, barrier < id
  adopted : s.tasks.lives[id]? ≠ some .submitted →
    ∀ earlier < id, s.tasks.lives[earlier]? ≠ some .submitted
  unseen : s.gathered = none → s.tasks.lives[id]? ≠ some .waiting ∧
    (s.tasks.lives[id]? = some .finished → s.interrupted = true)
  seen : ∀ others ∈ s.gathered, s.tasks.lives[id]? ≠ some .submitted ∧
    ∀ earlier < id, earlier ∈ others ∨ s.tasks.lives[earlier]? = some .finished
  done : ∀ others ∈ s.gathered, s.tasks.lives[id]? ≠ some .waiting →
    ∀ each ∈ others, s.tasks.lives[each]? = some .finished
  others : ∀ others ∈ s.gathered, ∀ each ∈ others, each < s.tasks.lives.length ∧ each ≠ id

theorem Gathering.notSubmitted {id : ℕ} {tasks : Tasks} (gathering : s.Gathering id)
    (follows : s.tasks.Follows tasks) (adopted : s.tasks.lives[id]? ≠ some .submitted)
    {earlier : ℕ} (before : earlier < id) : tasks.lives[earlier]? ≠ some .submitted := by
  intro waits
  have inside := Nat.lt_trans before gathering.inside
  rcases follows _ _ (List.getElem?_eq_getElem inside) with ⟨later, found, _, back⟩
  rw [found, Option.some.injEq] at waits
  have submitted := List.getElem?_eq_getElem inside
  rw [back waits] at submitted
  exact gathering.adopted adopted earlier before submitted

/-- What leaves `_cancel_all` as it is. -/
theorem Gathering.beside {id : ℕ} {tasks : Tasks} (gathering : s.Gathering id)
    (follows : s.tasks.Follows tasks) (same : tasks.lives[id]? = s.tasks.lives[id]?) :
    ({ s with tasks } : Cleanup).Gathering id where
  inside := Nat.lt_of_lt_of_le gathering.inside follows.length_le
  behind := gathering.behind
  adopted := by
    intro adopted earlier before
    exact gathering.notSubmitted follows (same ▸ adopted) before
  unseen := by
    intro unseen
    rw [same]
    exact gathering.unseen unseen
  seen := by
    intro others cancelled
    rw [same]
    rcases gathering.seen others cancelled with ⟨adopted, covers⟩
    refine ⟨adopted, fun earlier before => ?_⟩
    exact (covers earlier before).imp_right follows.finished
  done := by
    intro others cancelled awake each member
    exact follows.finished (gathering.done others cancelled (same ▸ awake) each member)
  others := fun others cancelled each member =>
    (gathering.others others cancelled each member).imp_left (follows.length_le.trans_lt' ·)

/-- `_cancel_all` becomes a task. -/
theorem Gathering.adopt {id : ℕ} {tasks : Tasks} (gathering : s.Gathering id)
    (sound : s.tasks.Sound none) {count : ℕ} {outcome : Turn} {rest : List ℕ}
    (first : s.tasks.ready = id :: rest) (submitted : s.tasks.lives[id]? = some .submitted)
    (turned : s.tasks.turn count outcome = some tasks) :
    ({ s with tasks } : Cleanup).Gathering id where
  inside := Nat.lt_of_lt_of_le gathering.inside (Tasks.follows_turn turned).length_le
  behind := gathering.behind
  adopted := by
    intro _ earlier before
    have inside := Nat.lt_trans before gathering.inside
    rw [Tasks.turn_other turned first (Nat.ne_of_lt before) inside]
    exact sound.adopted first submitted before
  unseen := by
    intro _
    rw [Tasks.turn_submitted turned first submitted]
    exact ⟨nofun, nofun⟩
  seen := by
    intro others cancelled
    exact absurd submitted (gathering.seen others cancelled).1
  done := by
    intro others cancelled
    exact absurd submitted (gathering.seen others cancelled).1
  others := by
    intro others cancelled
    exact absurd submitted (gathering.seen others cancelled).1

/-- `_cancel_all` looks at the other tasks: nothing before it is missed. -/
theorem mem_all_of_adopted {tasks : Tasks} {earlier : ℕ} (inside : earlier < tasks.lives.length)
    (adopted : tasks.lives[earlier]? ≠ some .submitted) :
    earlier ∈ tasks.all ∨ tasks.lives[earlier]? = some .finished := by
  have found := List.getElem?_eq_getElem inside
  rw [found] at adopted ⊢
  cases life : tasks.lives[earlier] with
  | submitted => exact absurd (congrArg some life) adopted
  | finished => exact .inr rfl
  | scheduled | waiting =>
      refine .inl (List.mem_filter.mpr ⟨List.mem_range.mpr inside, ?_⟩)
      rw [found, life]
      rfl

theorem script_own {id : ℕ} (own : s.cancelAll = some id) : s.script id ≠ none := by
  simp only [script, own, if_true]
  split
  · exact nofun
  · split
    · exact nofun
    · split <;> exact nofun

theorem script_other {id : ℕ} {outcome : Turn} {gathered : Option (List ℕ)}
    (other : s.cancelAll ≠ some id) (scripted : s.script id = some (outcome, gathered)) :
    outcome = .finish ∧ gathered = s.gathered := by
  simp only [script, other, if_false] at scripted
  split at scripted
  · simp only [Option.some.injEq, Prod.mk.injEq] at scripted
    exact ⟨scripted.1.symm, scripted.2.symm⟩
  · cases scripted

/-- What the step of `_cancel_all` does. -/
theorem script_cases {id : ℕ} {outcome : Turn} {gathered : Option (List ℕ)}
    (own : s.cancelAll = some id) (behind : ∀ barrier ∈ s.barrier, barrier < id)
    (script : s.script id = some (outcome, gathered)) :
    outcome = .finish ∧ gathered = s.gathered ∧ (s.interrupted = true ∨ s.gathered ≠ none) ∨
      s.gathered = none ∧
        gathered = some (s.tasks.all.filter fun each => decide (each ≠ id)) ∧
        (outcome = .wait ∨ (s.tasks.all.filter fun each => decide (each ≠ id)) = []) := by
  have other : s.barrier ≠ some id := fun same => Nat.lt_irrefl id (behind id same)
  simp only [Cleanup.script, other, if_false, own, if_true] at script
  split at script
  · rename_i interrupted
    simp only [Option.some.injEq, Prod.mk.injEq] at script
    exact .inl ⟨script.1.symm, script.2.symm, .inl interrupted⟩
  · split at script
    · rename_i unseen
      simp only [Option.some.injEq, Prod.mk.injEq] at script
      refine .inr ⟨unseen, script.2.symm, ?_⟩
      rcases script with ⟨outcome, _⟩
      split at outcome
      · rename_i empty
        exact .inr empty
      · exact .inl outcome.symm
    · rename_i others seen
      simp only [Option.some.injEq, Prod.mk.injEq] at script
      refine .inl ⟨script.1.symm, by rw [← script.2, seen], .inr ?_⟩
      rw [seen]
      exact nofun

/-- `_cancel_all` takes a step. -/
theorem Gathering.scripted {id : ℕ} {tasks : Tasks} {outcome : Turn} {rest : List ℕ}
    {gathered : Option (List ℕ)} (gathering : s.Gathering id) (own : s.cancelAll = some id)
    (first : s.tasks.ready = id :: rest) (turned : s.tasks.turn 0 outcome = some tasks)
    (scheduled : s.tasks.lives[id]? = some .scheduled)
    (script : s.script id = some (outcome, gathered)) :
    ({ s with tasks, gathered } : Cleanup).Gathering id := by
  have follows := Tasks.follows_turn turned
  have now := Tasks.turn_scheduled turned first scheduled
  have task : s.tasks.lives[id]? ≠ some .submitted := by
    rw [scheduled]
    exact nofun
  have awake : s.tasks.lives[id]? ≠ some .waiting := by
    rw [scheduled]
    exact nofun
  have still : tasks.lives[id]? ≠ some .submitted := by
    rw [now]
    cases outcome <;> exact nofun
  have adopted (earlier : ℕ) (before : earlier < id) : tasks.lives[earlier]? ≠ some .submitted :=
    gathering.notSubmitted follows task before
  have inside := Nat.lt_of_lt_of_le gathering.inside follows.length_le
  rcases script_cases own gathering.behind script with
    ⟨rfl, rfl, ready⟩ | ⟨unseen, rfl, waits⟩
  · refine ⟨inside, gathering.behind, fun _ => adopted, ?_, ?_, ?_, ?_⟩
    · intro unseen
      rw [now]
      exact ⟨nofun, fun _ => ready.resolve_right fun seen => seen unseen⟩
    · intro others cancelled
      refine ⟨still, fun earlier before => ?_⟩
      exact ((gathering.seen others cancelled).2 earlier before).imp_right follows.finished
    · intro others cancelled _ each member
      exact follows.finished (gathering.done others cancelled awake each member)
    · exact fun others cancelled each member =>
        (gathering.others others cancelled each member).imp_left (follows.length_le.trans_lt' ·)
  · refine ⟨inside, gathering.behind, fun _ => adopted, nofun, ?_, ?_, ?_⟩
    · rintro others ⟨⟩
      refine ⟨still, fun earlier before => ?_⟩
      have within := Nat.lt_trans before gathering.inside
      have taken := gathering.adopted task earlier before
      rcases mem_all_of_adopted within taken with member | complete
      · refine .inl (List.mem_filter.mpr ⟨member, ?_⟩)
        simpa using Nat.ne_of_lt before
      · exact .inr (follows.finished complete)
    · rintro others ⟨⟩ awake each member
      rcases waits with rfl | empty
      · exact absurd now awake
      · rw [empty] at member
        cases member
    · rintro others ⟨⟩ each member
      rcases List.mem_filter.mp member with ⟨listed, other⟩
      have before := List.mem_range.mp (List.mem_filter.mp listed).1
      exact ⟨Nat.lt_of_lt_of_le before follows.length_le, by simpa using other⟩

structure Ordered (s : Cleanup) : Prop where
  sound : s.tasks.Sound none
  barrier : ∀ barrier ∈ s.barrier, barrier < s.tasks.lives.length
  gathering : ∀ id ∈ s.cancelAll, s.Gathering id
  early : s.cancelAll = none → s.gathered = none
  unstarted : s.stage = .serving ∨ s.stage = .barrier → s.cancelAll = none
  started : s.stage = .collecting → ∃ id, s.cancelAll = some id
  clean : s.stage = .returned true → s.interrupted = false ∧
    ∃ id ∈ s.cancelAll, s.tasks.lives[id]? = some .finished

theorem ordered_init : init.Ordered where
  sound := Tasks.sound_empty
  barrier := nofun
  gathering := nofun
  early := fun _ => rfl
  unstarted := fun _ => rfl
  started := nofun
  clean := nofun

theorem Ordered.of_tasks {tasks : Tasks} (ordered : s.Ordered) (sound : tasks.Sound none)
    (follows : s.tasks.Follows tasks)
    (gathering : ∀ id ∈ s.cancelAll, ({ s with tasks } : Cleanup).Gathering id) :
    ({ s with tasks } : Cleanup).Ordered where
  sound := sound
  barrier := fun barrier own =>
    Nat.lt_of_lt_of_le (ordered.barrier barrier own) follows.length_le
  gathering := gathering
  early := ordered.early
  unstarted := ordered.unstarted
  started := ordered.started
  clean := by
    intro stage
    rcases ordered.clean stage with ⟨quiet, id, own, finished⟩
    exact ⟨quiet, id, own, follows.finished finished⟩

theorem Ordered.submit (ordered : s.Ordered) :
    ({ s with tasks := s.tasks.submit } : Cleanup).Ordered := by
  apply ordered.of_tasks ordered.sound.submit s.tasks.follows_submit
  intro id own
  have gathering := ordered.gathering id own
  apply gathering.beside s.tasks.follows_submit
  exact List.getElem?_append_left gathering.inside

/-- The loop runs a callback of somebody else. -/
theorem Ordered.turn {count : ℕ} {outcome : Turn} {tasks : Tasks} {head : ℕ} {rest : List ℕ}
    (ordered : s.Ordered) (first : s.tasks.ready = head :: rest)
    (turned : s.tasks.turn count outcome = some tasks)
    (foreign : s.tasks.lives[head]? = some .scheduled → s.cancelAll ≠ some head) :
    ({ s with tasks } : Cleanup).Ordered := by
  have follows := Tasks.follows_turn turned
  apply ordered.of_tasks (ordered.sound.turn turned) follows
  intro id own
  have gathering := ordered.gathering id own
  by_cases same : id = head
  · subst same
    rcases Tasks.turn_cases turned with ⟨_, _, heads, ⟨submitted, _⟩ | ⟨scheduled, _⟩⟩
    · rw [first, List.cons.injEq] at heads
      exact gathering.adopt ordered.sound first (heads.1 ▸ submitted) turned
    · rw [first, List.cons.injEq] at heads
      exact absurd own (foreign (heads.1 ▸ scheduled))
  · exact gathering.beside follows (Tasks.turn_other turned first same gathering.inside)

theorem Ordered.wake {head : ℕ} {tasks : Tasks} (ordered : s.Ordered)
    (allowed : s.mayWake head = true) (woken : s.tasks.wake head = some tasks) :
    ({ s with tasks } : Cleanup).Ordered := by
  have follows := Tasks.follows_wake woken
  apply ordered.of_tasks (ordered.sound.wake woken) follows
  intro id own
  have gathering := ordered.gathering id own
  simp only [Tasks.wake, Option.ite_none_right_eq_some, Option.some.injEq] at woken
  rcases woken with ⟨waiting, rfl⟩
  by_cases same : id = head
  · subst same
    have now : (s.tasks.schedule id).lives[id]? = some .scheduled :=
      List.getElem?_set_self gathering.inside
    refine ⟨Nat.lt_of_lt_of_le gathering.inside follows.length_le, gathering.behind, ?_, ?_, ?_,
      ?_, ?_⟩
    · intro _ earlier before
      apply gathering.notSubmitted follows _ before
      simp [waiting]
    · intro unseen
      exact absurd waiting (gathering.unseen unseen).1
    · intro others cancelled
      refine ⟨by simp [now], fun earlier before => ?_⟩
      exact ((gathering.seen others cancelled).2 earlier before).imp_right follows.finished
    · intro others cancelled _ each member
      have seen : s.gathered = some others := cancelled
      simp only [mayWake, Option.mem_def.mp own, seen, bne_self_eq_false, Bool.false_or,
        Option.getD_some, List.all_eq_true, isFinished, decide_eq_true_eq] at allowed
      exact follows.finished (allowed each member)
    · exact fun others cancelled each member =>
        (gathering.others others cancelled each member).imp_left (follows.length_le.trans_lt' ·)
  · exact gathering.beside follows (List.getElem?_set_ne (Ne.symm same))

theorem Gathering.of_same {id : ℕ} (gathering : s.Gathering id) (tasks : next.tasks = s.tasks)
    (barrier : next.barrier = s.barrier) (gathered : next.gathered = s.gathered)
    (interrupted : s.interrupted = true → next.interrupted = true) : next.Gathering id := by
  refine ⟨tasks ▸ gathering.inside, barrier ▸ gathering.behind, tasks ▸ gathering.adopted, ?_, ?_,
    ?_, ?_⟩
  · rw [tasks, gathered]
    intro unseen
    exact (gathering.unseen unseen).imp_right
      fun disturbed complete => interrupted (disturbed complete)
  · rw [tasks, gathered]
    exact gathering.seen
  · rw [tasks, gathered]
    exact gathering.done
  · rw [tasks, gathered]
    exact gathering.others

theorem Ordered.of_same (ordered : s.Ordered) (tasks : next.tasks = s.tasks)
    (barrier : next.barrier = s.barrier) (cancelAll : next.cancelAll = s.cancelAll)
    (gathered : next.gathered = s.gathered)
    (interrupted : s.interrupted = true → next.interrupted = true)
    (unstarted : next.stage = .serving ∨ next.stage = .barrier → next.cancelAll = none)
    (started : next.stage = .collecting → ∃ id, next.cancelAll = some id)
    (clean : next.stage = .returned true → next.interrupted = false ∧
      ∃ id ∈ next.cancelAll, next.tasks.lives[id]? = some .finished) : next.Ordered where
  sound := tasks ▸ ordered.sound
  barrier := by
    rw [tasks, barrier]
    exact ordered.barrier
  gathering := by
    rw [cancelAll]
    intro id own
    exact (ordered.gathering id own).of_same tasks barrier gathered interrupted
  early := by
    rw [cancelAll, gathered]
    exact ordered.early
  unstarted := unstarted
  started := started
  clean := clean

theorem Ordered.step (ordered : s.Ordered) (stepped : s.step action = some next) :
    next.Ordered := by
  cases step_cases stepped with
  | submit => exact ordered.submit
  | free first turned unscripted =>
      apply ordered.turn first turned
      intro scheduled own
      exact script_own own (unscripted scheduled)
  | @scripted outcome tasks id rest gathered first turned scheduled script =>
      by_cases own : s.cancelAll = some id
      · have follows := Tasks.follows_turn turned
        have gathering := ordered.gathering id own
        refine ⟨ordered.sound.turn turned, ?_, ?_, ?_, ordered.unstarted, ordered.started, ?_⟩
        · intro barrier same
          exact Nat.lt_of_lt_of_le (ordered.barrier barrier same) follows.length_le
        · intro each same
          have again : s.cancelAll = some each := same
          rw [own, Option.some.injEq] at again
          exact again ▸ gathering.scripted own first turned scheduled script
        · intro none
          exact absurd (own.symm.trans none) nofun
        · intro stage
          rcases ordered.clean stage with ⟨quiet, each, same, finished⟩
          exact ⟨quiet, each, same, follows.finished finished⟩
      · rw [(script_other own script).2]
        exact ordered.turn first turned fun _ => own
  | wake allowed woken => exact ordered.wake allowed woken
  | dies => exact ordered.of_same rfl rfl rfl rfl id ordered.unstarted ordered.started ordered.clean
  | interrupt own task =>
      refine ordered.of_same rfl rfl rfl rfl (fun _ => rfl) ordered.unstarted ordered.started ?_
      intro stage
      rcases ordered.clean stage with ⟨_, each, same, finished⟩
      rw [own, Option.mem_some_iff] at same
      simp [isCancellable, Life.isTask, same, finished] at task
  | begin stage =>
      have unstarted := ordered.unstarted (.inl stage)
      refine ⟨ordered.sound.submit, ?_, ?_, ordered.early, fun _ => unstarted, nofun, nofun⟩
      · rintro barrier ⟨⟩
        simp [Tasks.submit]
      · intro id own
        have some_ : s.cancelAll = some id := own
        rw [unstarted] at some_
        cases some_
  | goOn stage =>
      have unseen := ordered.early (ordered.unstarted (.inr stage))
      have now : s.tasks.submit.lives[s.tasks.lives.length]? = some .submitted := by
        simp [Tasks.submit]
      refine ⟨ordered.sound.submit, ?_, ?_, nofun, nofun, fun _ => ⟨_, rfl⟩, nofun⟩
      · intro barrier same
        exact Nat.lt_of_lt_of_le (ordered.barrier barrier same) s.tasks.follows_submit.length_le
      · rintro id ⟨⟩
        refine ⟨?_, ordered.barrier, ?_, ?_, ?_, ?_, ?_⟩
        · simp [Tasks.submit]
        · intro adopted
          exact absurd now adopted
        · intro _
          rw [now]
          exact ⟨nofun, nofun⟩
        · exact fun _ seen => absurd (unseen.symm.trans seen) nofun
        · exact fun _ seen => absurd (unseen.symm.trans seen) nofun
        · exact fun _ seen => absurd (unseen.symm.trans seen) nofun
  | refused | stopped | timeout => exact ordered.of_same rfl rfl rfl rfl id nofun nofun nofun
  | collected stage own finished =>
      refine ordered.of_same rfl rfl rfl rfl id nofun nofun ?_
      intro clean
      refine ⟨?_, _, own, by simpa [isFinished] using finished⟩
      simpa using clean

theorem numbered_step (stepped : s.step action = some next) :
    s.tasks.lives.length ≤ next.tasks.lives.length ∧
      (next.cancelAll = s.cancelAll ∨ next.cancelAll = some s.tasks.lives.length) := by
  cases step_cases stepped with
  | submit | begin => exact ⟨s.tasks.follows_submit.length_le, .inl rfl⟩
  | goOn => exact ⟨s.tasks.follows_submit.length_le, .inr rfl⟩
  | free _ turned | scripted _ turned => exact ⟨(Tasks.follows_turn turned).length_le, .inl rfl⟩
  | wake _ woken => exact ⟨(Tasks.follows_wake woken).length_le, .inl rfl⟩
  | dies | interrupt | refused | stopped | timeout | collected => exact ⟨Nat.le_refl _, .inl rfl⟩

theorem ordered_of_run (ran : run step init actions = some s) : s.Ordered :=
  run_invariant_of_step Ordered (fun _ _ _ ordered stepped => ordered.step stepped) ran ordered_init

/-- What a coroutine still needs if it does not resist. -/
def weight : Life → ℕ
  | .submitted => 3
  | .waiting => 2
  | .scheduled => 1
  | .finished => 0

def left (s : Cleanup) : ℕ :=
  (s.tasks.lives.map weight).sum + 2 * s.gathered.isNone.toNat

/-- The measure when one coroutine has come further, and `_cancel_all` perhaps with it. -/
theorem left_set {id : ℕ} {life later : Life} {ready : List ℕ} {gathered : Option (List ℕ)}
    (found : s.tasks.lives[id]? = some life)
    (lower : weight later + 2 * gathered.isNone.toNat <
      weight life + 2 * s.gathered.isNone.toNat) :
    ({ s with tasks := { lives := s.tasks.lives.set id later, ready }, gathered } : Cleanup).left <
      s.left := by
  have ranks := sum_map_set_add weight found later
  simp only [left]
  omega

/-- The loop can bring the end of the wait nearer, with a warning only for a cancelled
`_cancel_all`. -/
def Nearer (s : Cleanup) : Prop :=
  ∃ action next, action.ofLoop = true ∧ s.step action = some next ∧
    next.running = true ∧ next.interrupted = s.interrupted ∧
    (next.stage = .returned (!s.interrupted) ∨ next.stage = .collecting ∧ next.left < s.left)

/-- The callback at the head of the queue brings its coroutine further. -/
theorem Ordered.nearer_of_turn (ordered : s.Ordered) (running : s.running = true)
    (stage : s.stage = .collecting) {id : ℕ} {rest : List ℕ}
    (first : s.tasks.ready = id :: rest) : s.Nearer := by
  rcases (ordered.sound.mem id).mp (first ▸ List.mem_cons_self) with ⟨_, life, found, ready⟩
  let popped : Tasks := { s.tasks with ready := rest }
  cases life with
  | waiting | finished => cases ready
  | submitted =>
      refine ⟨.turn 0 .finish, { s with tasks := popped.schedule id }, rfl, ?_,
        running, rfl, .inr ⟨stage, left_set found (by simp [weight])⟩⟩
      have turned : s.tasks.turn 0 .finish = some (popped.schedule id) := by
        simp only [Tasks.turn, first, found, popped]
      simp only [Cleanup.step, running, if_true, Cleanup.turn, first, turned, found]
      split <;> simp
  | scheduled =>
      have turned (outcome : Turn) :
          s.tasks.turn 0 outcome = some (popped.settle id outcome) := by
        simp only [Tasks.turn, first, found, Tasks.spawns, popped]
      cases script : s.script id with
      | none =>
          refine ⟨.turn 0 .finish, { s with tasks := popped.settle id .finish }, rfl, ?_,
            running, rfl, .inr ⟨stage, left_set found (by simp [weight])⟩⟩
          simp only [Cleanup.step, running, if_true, Cleanup.turn, first, script, turned,
            Option.map_some]
      | some forced =>
          rcases forced with ⟨outcome, gathered⟩
          refine ⟨.turn 0 outcome, { s with tasks := popped.settle id outcome, gathered }, rfl, ?_,
            running, rfl, .inr ⟨stage, ?_⟩⟩
          · simp only [Cleanup.step, running, if_true, Cleanup.turn, first, script, turned, found,
              and_self, Option.map_some]
          · by_cases own : s.cancelAll = some id
            · rcases script_cases own (ordered.gathering id own).behind script with
                ⟨rfl, rfl, _⟩ | ⟨unseen, rfl, rfl | empty⟩
              · exact left_set found (by simp [weight])
              · exact left_set found (by simp [weight, unseen])
              · cases outcome with
                | finish => exact left_set found (by simp [weight, unseen])
                | wait => exact left_set found (by simp [weight, unseen])
                | again => exact left_set found (by simp [weight, unseen])
            · rcases script_other own script with ⟨rfl, rfl⟩
              exact left_set found (by simp [weight])

/-- Where nothing is scheduled, something that is waited for can come. -/
theorem Ordered.nearer_of_wake (ordered : s.Ordered) (running : s.running = true)
    (stage : s.stage = .collecting) (idle : s.tasks.ready = []) {id : ℕ}
    (own : s.cancelAll = some id) (unfinished : s.tasks.lives[id]? ≠ some .finished) :
    s.Nearer := by
  have gathering := ordered.gathering id own
  have asleep (each : ℕ) (inside : each < s.tasks.lives.length)
      (going : s.tasks.lives[each]? ≠ some .finished) : s.tasks.lives[each]? = some .waiting := by
    have found := List.getElem?_eq_getElem inside
    have unready : ¬ each ∈ s.tasks.ready := by simp [idle]
    rw [ordered.sound.mem, found] at unready
    rw [found] at going ⊢
    cases life : s.tasks.lives[each] with
    | waiting => rfl
    | finished => exact absurd (congrArg some life) going
    | submitted | scheduled => exact absurd ⟨nofun, _, rfl, by rw [life]; rfl⟩ unready
  have wakes (each : ℕ) (waiting : s.tasks.lives[each]? = some .waiting)
      (allowed : s.mayWake each = true) : s.Nearer := by
    refine ⟨.wake each, { s with tasks := s.tasks.schedule each }, rfl, ?_,
      running, rfl, .inr ⟨stage, left_set waiting (by simp [weight])⟩⟩
    simp only [Cleanup.step, running, allowed, and_self, if_true, Tasks.wake, waiting,
      Option.map_some]
  by_cases all : (s.gathered.getD []).all s.isFinished = true
  · apply wakes id (asleep id gathering.inside unfinished)
    simp [mayWake, all]
  · rw [Bool.not_eq_true, List.all_eq_false] at all
    rcases all with ⟨each, member, unfinished⟩
    cases gathered : s.gathered with
    | none => simp [gathered] at member
    | some others =>
        rw [gathered, Option.getD_some] at member
        rcases gathering.others others gathered each member with ⟨inside, other⟩
        have going : s.tasks.lives[each]? ≠ some .finished := by
          simpa [isFinished] using unfinished
        apply wakes each (asleep each inside going)
        simp [mayWake, own, Ne.symm other]

theorem Ordered.nearer (ordered : s.Ordered) (running : s.running = true)
    (stage : s.stage = .collecting) : s.Nearer := by
  rcases ordered.started stage with ⟨id, own⟩
  by_cases finished : s.tasks.lives[id]? = some .finished
  · refine ⟨.collect false, { s with stage := .returned (!s.interrupted) }, rfl, ?_, running, rfl,
      .inl rfl⟩
    simp [Cleanup.step, stage, own, isFinished, finished]
  · cases queue : s.tasks.ready with
    | nil => exact ordered.nearer_of_wake running stage queue own finished
    | cons head rest => exact ordered.nearer_of_turn running stage queue

/-- `cancel_pending_tasks` keeps its promise when it does not warn: every coroutine that the loop
was given before, by whatever thread or task, has become a task and finished, barrier or not. And as
long as the loop runs, the wait can end without its timer, whoever has ignored what. -/
theorem nothing_left (reached : run step init actions = some s) :
    (∀ later final, s.stage = .serving → run step s later = some final →
      final.stage = .returned true → ∀ id < s.tasks.lives.length,
        final.tasks.lives[id]? = some .finished) ∧
      (s.stage = .collecting → s.running = true →
        ∃ later final, (∀ action ∈ later, action.ofLoop = true) ∧
          run step s later = some final ∧ final.stage = .returned (!s.interrupted)) := by
  have ordered := ordered_of_run reached
  refine ⟨?_, ?_⟩
  · intro later final serving onward clean id before
    have numbered : final.Ordered ∧ s.tasks.lives.length ≤ final.tasks.lives.length ∧
        ∀ number ∈ final.cancelAll, s.tasks.lives.length ≤ number := by
      refine run_invariant_of_step (fun current => current.Ordered ∧
        s.tasks.lives.length ≤ current.tasks.lives.length ∧
        ∀ number ∈ current.cancelAll, s.tasks.lives.length ≤ number) ?_ onward
        ⟨ordered, Nat.le_refl _, ?_⟩
      · rintro current action next ⟨ordered, more, numbered⟩ stepped
        rcases numbered_step stepped with ⟨longer, same | fresh⟩
        · exact ⟨ordered.step stepped, more.trans longer, same ▸ numbered⟩
        · refine ⟨ordered.step stepped, more.trans longer, ?_⟩
          rw [fresh]
          rintro number ⟨⟩
          exact more
      · rw [ordered.unstarted (.inl serving)]
        nofun
    rcases numbered with ⟨ended, _, numbered⟩
    rcases ended.clean clean with ⟨quiet, number, own, finished⟩
    have gathering := ended.gathering number own
    have first := Nat.lt_of_lt_of_le before (numbered number own)
    cases gathered : final.gathered with
    | none =>
        have disturbed := (gathering.unseen gathered).2 finished
        rw [quiet] at disturbed
        cases disturbed
    | some others =>
        rcases (gathering.seen others gathered).2 id first with member | complete
        · apply gathering.done others gathered _ id member
          rw [finished]
          exact nofun
        · exact complete
  · intro stage running
    have progress (current : Cleanup) (invariant : current.Ordered ∧ current.running = true ∧
          current.interrupted = s.interrupted ∧
          (current.stage = .returned (!s.interrupted) ∨ current.stage = .collecting))
        (waiting : current.stage ≠ .returned (!s.interrupted)) : ∃ action next,
          action.ofLoop = true ∧ current.step action = some next ∧
          (next.Ordered ∧ next.running = true ∧ next.interrupted = s.interrupted ∧
            (next.stage = .returned (!s.interrupted) ∨ next.stage = .collecting)) ∧
          (next.stage = .returned (!s.interrupted) ∨ next.left < current.left) := by
      rcases invariant with ⟨ordered, running, same, stage⟩
      rcases ordered.nearer running (stage.resolve_left waiting) with
        ⟨action, next, own, stepped, still, kept, outcome⟩
      rw [same] at kept outcome
      refine ⟨action, next, own, stepped, ⟨ordered.step stepped, still, kept, ?_⟩, ?_⟩
      · exact outcome.imp_right And.left
      · exact outcome.imp_right And.right
    rcases exists_run_until _ (fun current => current.stage = .returned (!s.interrupted)) left
        progress ⟨ordered, running, rfl, .inr stage⟩ with
      ⟨later, final, own, onward, _, complete⟩
    exact ⟨later, final, own, onward, complete⟩

/-- A task that waits, and a coroutine of which the loop has not made one yet. -/
def pendingRun : List CleanupAction :=
  [.submit, .turn 0 .finish, .turn 0 .wait, .submit]

/-- The barrier is late; the first task yields once more before it gives in. -/
def cleanupRun : List CleanupAction :=
  [.begin, .goOn true, .turn 0 .finish, .turn 0 .finish, .turn 0 .finish, .turn 0 .wait,
    .turn 0 .finish, .turn 0 .wait, .wake 0, .wake 1, .turn 0 .again, .turn 0 .finish,
    .turn 0 .finish, .wake 3, .turn 0 .finish, .collect false]

theorem nothing_left_pending : ∃ s final, run step init pendingRun = some s ∧
    run step s cleanupRun = some final ∧ s.tasks.lives = [.waiting, .submitted] ∧
    final.tasks.lives[0]? = some .finished ∧ final.tasks.lives[1]? = some .finished := by
  have reached : ∃ s, run step init pendingRun = some s ∧ s.stage = .serving ∧
      s.tasks.lives = [.waiting, .submitted] ∧ (run step s cleanupRun).any
        (fun final => decide (final.stage = .returned true)) = true :=
    exists_of_run_any (by decide)
  rcases reached with ⟨s, ran, serving, lives, onward⟩
  rcases exists_of_run_any onward with ⟨final, cleaned, clean⟩
  have finished := (nothing_left ran).1 cleanupRun final serving cleaned clean
  rw [lives] at finished
  exact ⟨s, final, ran, cleaned, lives, finished 0 (by decide), finished 1 (by decide)⟩

end Cleanup

end RustAsgi.Process
