import Mathlib.Data.List.Nodup
import Mathlib.Data.List.Range
import Mathlib.Tactic.Common

/-!
# The tasks of an event loop

A coroutine is handed to the loop by a callback that makes a task of it; the first step
of the task is a callback of its own. Callbacks run in the order in which they have been
scheduled. A step may start other tasks, and ends with the task finished, scheduled
again, or waiting for something.

`Tasks.Sound` ties the ready queue to the lives of the tasks. The coroutines that are
not tasks yet stand in it in the order in which they were handed over, which is the
content of `Sound.adopted`: when one becomes a task, all earlier ones have.
-/

namespace Asyncio

/-- How far the coroutine with a number has come. -/
inductive Life where
  /-- The callback that makes a task of it is scheduled. -/
  | submitted
  /-- A task whose next step is scheduled. -/
  | scheduled
  | waiting
  | finished
  deriving DecidableEq, Repr

namespace Life

/-- `asyncio.all_tasks()` lists it. -/
def isTask : Life → Bool
  | .scheduled | .waiting => true
  | .submitted | .finished => false

/-- A callback for it is scheduled. -/
def isReady : Life → Bool
  | .submitted | .scheduled => true
  | .waiting | .finished => false

end Life

/-- What a step of a task comes to. -/
inductive Turn where
  | finish
  | again
  | wait
  deriving DecidableEq, Repr

/-- The life of the task after that step. -/
def Turn.life : Turn → Life
  | .finish => .finished
  | .again => .scheduled
  | .wait => .waiting

/-- Every coroutine the loop was ever given, by number, and the callbacks that are scheduled. -/
structure Tasks where
  lives : List Life
  ready : List ℕ
  deriving DecidableEq, Repr

namespace Tasks

variable {tasks next : Tasks} {id : ℕ}

def empty : Tasks :=
  { lives := [], ready := [] }

/-- `run_coroutine_threadsafe`, or the submission of an awaitable from another thread. -/
def submit (tasks : Tasks) : Tasks :=
  { lives := tasks.lives ++ [.submitted], ready := tasks.ready ++ [tasks.lives.length] }

/-- `create_task`, from within a step. -/
def spawn (tasks : Tasks) : Tasks :=
  { lives := tasks.lives ++ [.scheduled], ready := tasks.ready ++ [tasks.lives.length] }

def spawns : ℕ → Tasks → Tasks
  | 0, tasks => tasks
  | count + 1, tasks => spawns count tasks.spawn

/-- The next step of the task, which has none, is scheduled. -/
def schedule (tasks : Tasks) (id : ℕ) : Tasks :=
  { lives := tasks.lives.set id .scheduled, ready := tasks.ready ++ [id] }

/-- The end of a step of the task. -/
def settle (tasks : Tasks) (id : ℕ) : Turn → Tasks
  | .finish => { tasks with lives := tasks.lives.set id .finished }
  | .again => tasks.schedule id
  | .wait => { tasks with lives := tasks.lives.set id .waiting }

/-- The loop runs the callback that has been scheduled first. A step starts `count` tasks. -/
def turn (tasks : Tasks) (count : ℕ) (outcome : Turn) : Option Tasks :=
  match tasks.ready with
  | [] => none
  | id :: rest =>
      match tasks.lives[id]? with
      | some .submitted => some (({ tasks with ready := rest } : Tasks).schedule id)
      | some .scheduled => some ((spawns count { tasks with ready := rest }).settle id outcome)
      | _ => none

/-- What the task has waited for is there. -/
def wake (tasks : Tasks) (id : ℕ) : Option Tasks :=
  if tasks.lives[id]? = some .waiting then some (tasks.schedule id) else none

/-- The numbers of the tasks that `asyncio.all_tasks()` lists. -/
def all (tasks : Tasks) : List ℕ :=
  (List.range tasks.lives.length).filter fun id => (tasks.lives[id]?.map Life.isTask).getD false

/-- The callbacks that will make tasks, in their order. -/
def waitingList (tasks : Tasks) : List ℕ :=
  tasks.ready.filter fun id => decide (tasks.lives[id]? = some .submitted)

/-- Exactly the coroutines that are ready have a callback, but for the one that is `running`, and
those that are not tasks yet stand in the order of their numbers. -/
structure Sound (tasks : Tasks) (running : Option ℕ) : Prop where
  once : tasks.ready.Nodup
  mem : ∀ id, id ∈ tasks.ready ↔
    running ≠ some id ∧ ∃ life, tasks.lives[id]? = some life ∧ life.isReady = true
  inOrder : tasks.waitingList.Pairwise (· < ·)
  current : ∀ id ∈ running, id < tasks.lives.length

variable {running : Option ℕ}

theorem sound_empty : empty.Sound none where
  once := List.nodup_nil
  mem := by simp [empty]
  inOrder := List.Pairwise.nil
  current := nofun

theorem Sound.lt_length (sound : tasks.Sound running) (member : id ∈ tasks.ready) :
    id < tasks.lives.length := by
  rcases (sound.mem id).mp member with ⟨_, life, found, _⟩
  exact (List.getElem?_eq_some_iff.mp found).1

/-- The first coroutine to become a task leaves none before it. -/
theorem Sound.adopted (sound : tasks.Sound none) {rest : List ℕ} (first : tasks.ready = id :: rest)
    (submitted : tasks.lives[id]? = some .submitted) {earlier : ℕ} (before : earlier < id) :
    tasks.lives[earlier]? ≠ some .submitted := by
  intro waits
  have queued : earlier ∈ tasks.ready := (sound.mem earlier).mpr ⟨nofun, _, waits, rfl⟩
  rw [first, List.mem_cons] at queued
  have behind : earlier ∈ rest := queued.resolve_left (Nat.ne_of_lt before)
  have inOrder := sound.inOrder
  simp only [waitingList, first] at inOrder
  rw [List.filter_cons_of_pos (by simpa using submitted), List.pairwise_cons] at inOrder
  have after := inOrder.1 earlier (List.mem_filter.mpr ⟨behind, by simpa using waits⟩)
  omega

/-- A coroutine that is new to the loop stands at the end of its queue. -/
theorem Sound.push (sound : tasks.Sound running) {life : Life} (ready : life.isReady = true) :
    ({ lives := tasks.lives ++ [life], ready := tasks.ready ++ [tasks.lives.length] } :
      Tasks).Sound running := by
  have fresh : tasks.lives.length ∉ tasks.ready := fun member =>
    Nat.lt_irrefl _ (sound.lt_length member)
  refine ⟨?_, ?_, ?_, ?_⟩
  · simpa using sound.once.concat fresh
  · intro id
    rw [List.mem_append, List.mem_singleton, sound.mem]
    rcases Nat.lt_trichotomy id tasks.lives.length with before | rfl | after
    · rw [List.getElem?_append_left before]
      simp only [Nat.ne_of_lt before, or_false]
    · have other : running ≠ some tasks.lives.length := by
        intro same
        exact Nat.lt_irrefl _ (sound.current _ same)
      simp [other, ready]
    · have beyond : tasks.lives.length + [life].length ≤ id := after
      rw [← List.length_append] at beyond
      simp [List.getElem?_eq_none beyond, List.getElem?_eq_none (Nat.le_of_lt after),
        Nat.ne_of_gt after]
  · have same : tasks.ready.filter (fun id => decide ((tasks.lives ++ [life])[id]? =
        some .submitted)) = tasks.waitingList := by
      apply List.filter_congr
      intro id member
      rw [List.getElem?_append_left (sound.lt_length member)]
    simp only [waitingList, List.filter_append, List.pairwise_append]
    rw [same]
    refine ⟨sound.inOrder, List.Pairwise.sublist List.filter_sublist (List.pairwise_singleton _ _),
      ?_⟩
    intro earlier before later last
    rw [List.mem_singleton.mp (List.mem_filter.mp last).1]
    exact sound.lt_length (List.mem_filter.mp before).1
  · intro id member
    rw [List.length_append]
    exact Nat.lt_add_right _ (sound.current id member)

theorem Sound.submit (sound : tasks.Sound none) : tasks.submit.Sound none :=
  sound.push rfl

theorem Sound.spawns (sound : tasks.Sound running) (count : ℕ) :
    (spawns count tasks).Sound running := by
  induction count generalizing tasks with
  | zero => exact sound
  | succ count ih => exact ih (sound.push rfl)

/-- A task that changes leaves the order of those that are not tasks yet. -/
theorem Sound.inOrder_set (sound : tasks.Sound running) {ready : List ℕ} {life : Life}
    (other : life ≠ .submitted)
    (others : (ready.filter fun each => decide (each ≠ id)).Sublist tasks.ready) :
    ({ lives := tasks.lives.set id life, ready } : Tasks).waitingList.Pairwise (· < ·) := by
  have away (each : ℕ) : (tasks.lives.set id life)[each]? = some .submitted ↔
      each ≠ id ∧ tasks.lives[each]? = some .submitted := by
    by_cases same : each = id
    · subst same
      simp only [List.getElem?_set_self', ne_eq, not_true_eq_false, false_and, iff_false]
      cases tasks.lives[each]? with
      | none => nofun
      | some => simpa using other
    · rw [List.getElem?_set_ne (Ne.symm same)]
      simp [same]
  have split : ({ lives := tasks.lives.set id life, ready } : Tasks).waitingList =
      (ready.filter fun each => decide (each ≠ id)).filter
        fun each => decide (tasks.lives[each]? = some .submitted) := by
    rw [waitingList, List.filter_filter]
    apply List.filter_congr
    intro each _
    rw [decide_eq_decide.mpr (away each), Bool.decide_and, Bool.and_comm]
  rw [split]
  exact sound.inOrder.sublist (others.filter _)

theorem Sound.pop (sound : tasks.Sound none) {rest : List ℕ} (first : tasks.ready = id :: rest) :
    ({ tasks with ready := rest } : Tasks).Sound (some id) := by
  have once := sound.once
  rw [first, List.nodup_cons] at once
  refine ⟨once.2, ?_, ?_, ?_⟩
  · intro each
    have mem := sound.mem each
    rw [first, List.mem_cons] at mem
    constructor
    · intro behind
      refine ⟨?_, (mem.mp (.inr behind)).2⟩
      intro same
      exact once.1 (Option.some.inj same ▸ behind)
    · rintro ⟨other, ready⟩
      exact (mem.mpr ⟨nofun, ready⟩).resolve_left fun same => other (congrArg some same.symm)
  · have inOrder := sound.inOrder
    rw [waitingList, first] at inOrder
    exact inOrder.sublist ((List.sublist_cons_self id rest).filter _)
  · intro each same
    rw [← Option.mem_some_iff.mp same]
    exact sound.lt_length (first ▸ List.mem_cons_self)

/-- A task that waits is not in the queue. -/
theorem Sound.apart (sound : tasks.Sound none) (waiting : tasks.lives[id]? = some .waiting) :
    tasks.Sound (some id) := by
  refine ⟨sound.once, ?_, sound.inOrder, ?_⟩
  · intro each
    rw [sound.mem]
    constructor
    · rintro ⟨_, life, found, ready⟩
      refine ⟨?_, life, found, ready⟩
      rintro ⟨⟩
      rw [waiting] at found
      cases found
      cases ready
    · rintro ⟨_, ready⟩
      exact ⟨nofun, ready⟩
  · intro each same
    rw [← Option.mem_some_iff.mp same]
    exact (List.getElem?_eq_some_iff.mp waiting).1

theorem Sound.absent (sound : tasks.Sound (some id)) : id ∉ tasks.ready :=
  fun member => ((sound.mem id).mp member).1 rfl

theorem Sound.schedule (sound : tasks.Sound (some id)) : (tasks.schedule id).Sound none := by
  have inside := sound.current id rfl
  refine ⟨?_, ?_, ?_, nofun⟩
  · simpa [Tasks.schedule] using sound.once.concat sound.absent
  · intro each
    simp only [Tasks.schedule, List.mem_append, List.mem_singleton, sound.mem]
    by_cases same : each = id
    · subst same
      simp [List.getElem?_set_self inside, Life.isReady]
    · rw [List.getElem?_set_ne (Ne.symm same)]
      simp [same, Ne.symm same]
  · have other : Life.scheduled ≠ .submitted := by decide
    apply sound.inOrder_set other
    rw [List.filter_append]
    simp

/-- The end of a step without a next one. -/
theorem Sound.leave (sound : tasks.Sound (some id)) {life : Life} (unready : life.isReady = false) :
    ({ tasks with lives := tasks.lives.set id life } : Tasks).Sound none := by
  have inside := sound.current id rfl
  refine ⟨sound.once, ?_, ?_, nofun⟩
  · intro each
    rw [sound.mem]
    by_cases same : each = id
    · subst same
      simp [List.getElem?_set_self inside, unready]
    · rw [List.getElem?_set_ne (Ne.symm same)]
      simp [Ne.symm same]
  · apply sound.inOrder_set _ List.filter_sublist
    rintro rfl
    cases unready

theorem Sound.settle (sound : tasks.Sound (some id)) (outcome : Turn) :
    (tasks.settle id outcome).Sound none := by
  cases outcome with
  | finish | wait => exact sound.leave rfl
  | again => exact sound.schedule

/-- What a callback can be: a coroutine becomes a task, or a task takes a step. -/
theorem turn_cases {count : ℕ} {outcome : Turn} (turned : tasks.turn count outcome = some next) :
    ∃ id rest, tasks.ready = id :: rest ∧
      (tasks.lives[id]? = some .submitted ∧
          next = ({ tasks with ready := rest } : Tasks).schedule id ∨
        tasks.lives[id]? = some .scheduled ∧
          next = (spawns count { tasks with ready := rest }).settle id outcome) := by
  simp only [turn] at turned
  split at turned
  · cases turned
  · rename_i id rest first
    refine ⟨id, rest, first, ?_⟩
    split at turned
    · rename_i submitted
      exact .inl ⟨submitted, (Option.some.inj turned).symm⟩
    · rename_i scheduled
      exact .inr ⟨scheduled, (Option.some.inj turned).symm⟩
    · cases turned

theorem Sound.turn (sound : tasks.Sound none) {count : ℕ} {outcome : Turn}
    (turned : tasks.turn count outcome = some next) : next.Sound none := by
  rcases turn_cases turned with ⟨id, rest, first, ⟨_, rfl⟩ | ⟨_, rfl⟩⟩
  · exact (sound.pop first).schedule
  · exact ((sound.pop first).spawns count).settle outcome

theorem Sound.wake (sound : tasks.Sound none) (woken : tasks.wake id = some next) :
    next.Sound none := by
  simp only [Tasks.wake, Option.ite_none_right_eq_some, Option.some.injEq] at woken
  rcases woken with ⟨waiting, rfl⟩
  exact (sound.apart waiting).schedule

/-- A life only goes on: what is finished stays so, and what has become a task stays one. -/
def Follows (tasks next : Tasks) : Prop :=
  ∀ (id : ℕ) (life : Life), tasks.lives[id]? = some life → ∃ later, next.lives[id]? = some later ∧
    (life = .finished → later = .finished) ∧ (later = .submitted → life = .submitted)

theorem Follows.trans {middle : Tasks} (first : tasks.Follows middle)
    (second : middle.Follows next) : tasks.Follows next := by
  intro id life found
  rcases first id life found with ⟨between, foundBetween, kept, back⟩
  rcases second id between foundBetween with ⟨later, foundLater, keptLater, backLater⟩
  exact ⟨later, foundLater, fun finished => keptLater (kept finished),
    fun new => back (backLater new)⟩

theorem Follows.finished (follows : tasks.Follows next)
    (finished : tasks.lives[id]? = some .finished) : next.lives[id]? = some .finished := by
  rcases follows id .finished finished with ⟨later, found, kept, _⟩
  rw [found, kept rfl]

theorem Follows.of_append {more : List Life} (same : next.lives = tasks.lives ++ more) :
    tasks.Follows next := by
  intro id before found
  refine ⟨before, ?_, fun finished => finished, fun new => new⟩
  rw [same, List.getElem?_append_left (List.getElem?_eq_some_iff.mp found).1]
  exact found

theorem Follows.of_set (life : Life) (ready : List ℕ) (other : life ≠ .submitted)
    (going : tasks.lives[id]? ≠ some .finished ∨ life = .finished) :
    tasks.Follows { lives := tasks.lives.set id life, ready } := by
  intro each before found
  by_cases same : each = id
  · subst same
    refine ⟨life, List.getElem?_set_self (List.getElem?_eq_some_iff.mp found).1, ?_, ?_⟩
    · rintro rfl
      exact going.resolve_left fun unfinished => unfinished found
    · intro new
      exact absurd new other
  · refine ⟨before, ?_, fun finished => finished, fun new => new⟩
    rw [List.getElem?_set_ne (Ne.symm same)]
    exact found

theorem follows_submit (tasks : Tasks) : tasks.Follows tasks.submit :=
  .of_append rfl

theorem lives_spawns (count : ℕ) (tasks : Tasks) :
    ∃ more, (spawns count tasks).lives = tasks.lives ++ more := by
  induction count generalizing tasks with
  | zero => exact ⟨[], (List.append_nil _).symm⟩
  | succ count ih =>
      rcases ih tasks.spawn with ⟨more, same⟩
      exact ⟨.scheduled :: more, by rw [spawns, same, spawn, List.append_assoc]; rfl⟩

theorem Follows.length_le (follows : tasks.Follows next) :
    tasks.lives.length ≤ next.lives.length := by
  by_contra shorter
  have inside : next.lives.length < tasks.lives.length := Nat.lt_of_not_le shorter
  rcases follows _ _ (List.getElem?_eq_getElem inside) with ⟨later, found, _⟩
  exact Nat.lt_irrefl _ (List.getElem?_eq_some_iff.mp found).1

theorem settle_lives (tasks : Tasks) (id : ℕ) (outcome : Turn) :
    (tasks.settle id outcome).lives = tasks.lives.set id outcome.life := by
  cases outcome <;> rfl

theorem follows_turn {count : ℕ} {outcome : Turn} (turned : tasks.turn count outcome = some next) :
    tasks.Follows next := by
  have popped (rest : List ℕ) : tasks.Follows { tasks with ready := rest } :=
    .of_append (List.append_nil _).symm
  rcases turn_cases turned with ⟨id, rest, first, ⟨submitted, rfl⟩ | ⟨scheduled, rfl⟩⟩
  · apply (popped rest).trans
    apply Follows.of_set .scheduled _ (by decide)
    simp [submitted]
  · rcases lives_spawns count { tasks with ready := rest } with ⟨more, spawned⟩
    apply (popped rest).trans ((Follows.of_append spawned).trans _)
    have running : (spawns count { tasks with ready := rest }).lives[id]? = some .scheduled := by
      rw [spawned, List.getElem?_append_left (List.getElem?_eq_some_iff.mp scheduled).1]
      exact scheduled
    cases outcome with
    | finish => exact .of_set .finished _ (by decide) (.inr rfl)
    | again => exact .of_set .scheduled _ (by decide) (by simp [running])
    | wait => exact .of_set .waiting _ (by decide) (by simp [running])

/-- A callback is about the coroutine at the head of the queue. -/
theorem turn_other {count : ℕ} {outcome : Turn} {rest : List ℕ}
    (turned : tasks.turn count outcome = some next) (first : tasks.ready = id :: rest) {each : ℕ}
    (other : each ≠ id) (inside : each < tasks.lives.length) :
    next.lives[each]? = tasks.lives[each]? := by
  rcases turn_cases turned with ⟨head, tail, heads, ⟨_, rfl⟩ | ⟨_, rfl⟩⟩
  · rw [first, List.cons.injEq] at heads
    rw [schedule, List.getElem?_set_ne (heads.1 ▸ Ne.symm other)]
  · rw [first, List.cons.injEq] at heads
    rcases lives_spawns count { tasks with ready := tail } with ⟨more, spawned⟩
    rw [settle_lives, List.getElem?_set_ne (heads.1 ▸ Ne.symm other), spawned,
      List.getElem?_append_left inside]

theorem turn_submitted {count : ℕ} {outcome : Turn} {rest : List ℕ}
    (turned : tasks.turn count outcome = some next) (first : tasks.ready = id :: rest)
    (submitted : tasks.lives[id]? = some .submitted) : next.lives[id]? = some .scheduled := by
  rcases turn_cases turned with ⟨head, tail, heads, ⟨_, rfl⟩ | ⟨scheduled, _⟩⟩
  · rw [first, List.cons.injEq] at heads
    rcases heads with ⟨rfl, rfl⟩
    exact List.getElem?_set_self (List.getElem?_eq_some_iff.mp submitted).1
  · rw [first, List.cons.injEq] at heads
    rw [← heads.1, submitted] at scheduled
    cases scheduled

theorem turn_scheduled {count : ℕ} {outcome : Turn} {rest : List ℕ}
    (turned : tasks.turn count outcome = some next) (first : tasks.ready = id :: rest)
    (scheduled : tasks.lives[id]? = some .scheduled) : next.lives[id]? = some outcome.life := by
  rcases turn_cases turned with ⟨head, tail, heads, ⟨submitted, _⟩ | ⟨_, rfl⟩⟩
  · rw [first, List.cons.injEq] at heads
    rw [← heads.1, scheduled] at submitted
    cases submitted
  · rw [first, List.cons.injEq] at heads
    rcases heads with ⟨rfl, rfl⟩
    rcases lives_spawns count { tasks with ready := rest } with ⟨more, spawned⟩
    have inside := (List.getElem?_eq_some_iff.mp scheduled).1
    rw [settle_lives, List.getElem?_set_self]
    rw [spawned, List.length_append]
    exact Nat.lt_add_right _ inside

theorem follows_wake (woken : tasks.wake id = some next) : tasks.Follows next := by
  simp only [wake, Option.ite_none_right_eq_some, Option.some.injEq] at woken
  rcases woken with ⟨waiting, rfl⟩
  exact .of_set .scheduled _ (by decide) (by simp [waiting])

end Tasks

end Asyncio
