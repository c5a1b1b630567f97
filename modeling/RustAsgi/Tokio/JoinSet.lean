import RustAsgi.Machine

/-!
# A Tokio `JoinSet`

A task enters the set when it is spawned. Its entry stays when the task ends, and
leaves the set when `join_next` returns it.
-/

namespace Tokio

open Machine

inductive JoinTask where
  | running
  | finished
  | joined
  deriving DecidableEq, Repr

/-- The tasks in the order in which they have been spawned. -/
structure JoinSet where
  tasks : List JoinTask
  deriving DecidableEq, Repr

namespace JoinSet

inductive Call where
  | spawn
  /-- The task comes to its end, by itself or by an abort. -/
  | finish (index : ℕ)
  /-- `join_next` returns the task. -/
  | join (index : ℕ)
  deriving DecidableEq, Repr

def new : JoinSet :=
  { tasks := [] }

def step (set : JoinSet) : Call → Option JoinSet
  | .spawn => some { tasks := set.tasks ++ [.running] }
  | .finish index =>
      if set.tasks[index]? = some .running then some { tasks := set.tasks.set index .finished }
      else none
  | .join index =>
      if set.tasks[index]? = some .finished then some { tasks := set.tasks.set index .joined }
      else none

/-- The number of entries. -/
def held (set : JoinSet) : ℕ :=
  set.tasks.countP fun task => task ≠ .joined

def live (set : JoinSet) : ℕ :=
  set.tasks.countP fun task => task = .running

def Call.isSpawn (call : Call) : Bool :=
  decide (call = .spawn)

variable {set next final : JoinSet} {call : Call} {calls : List Call}

theorem length_step (stepped : set.step call = some next) :
    next.tasks.length = set.tasks.length + if call.isSpawn then 1 else 0 := by
  cases call with
  | spawn =>
      cases stepped
      simp [Call.isSpawn]
  | finish index | join index =>
      simp only [step, Option.ite_none_right_eq_some, Option.some.injEq] at stepped
      rcases stepped with ⟨_, rfl⟩
      simp [Call.isSpawn]

/-- Every spawned task is one of the tasks, from then on. -/
theorem length_of_run (ran : run step set calls = some final) :
    final.tasks.length = set.tasks.length + calls.countP Call.isSpawn := by
  induction calls generalizing set with
  | nil =>
      cases ran
      simp
  | cons call rest ih =>
      rcases run_cons_eq_some.mp ran with ⟨next, stepped, ran⟩
      rw [ih ran, length_step stepped, List.countP_cons]
      omega

/-- As long as `join_next` has returned nothing, there is an entry for each task. -/
theorem held_of_not_joined (kept : ∀ task ∈ set.tasks, task ≠ .joined) :
    set.held = set.tasks.length := by
  apply List.countP_eq_length.mpr
  simpa using kept

theorem held_of_joined (gone : ∀ task ∈ set.tasks, task = .joined) : set.held = 0 := by
  apply List.countP_eq_zero.mpr
  simpa using gone

/-- The loop `while join_next().await.is_some() {}`, once every task has ended. -/
theorem run_joinAll (joined : ℕ) (finished : ℕ) :
    run step ⟨List.replicate joined .joined ++ List.replicate finished .finished⟩
        ((List.range' joined finished).map .join) =
      some ⟨List.replicate (joined + finished) .joined⟩ := by
  induction finished generalizing joined with
  | zero => simp
  | succ finished ih =>
      have first : step ⟨List.replicate joined .joined ++ List.replicate (finished + 1) .finished⟩
            (.join joined) =
          some ⟨List.replicate (joined + 1) .joined ++ List.replicate finished .finished⟩ := by
        rw [List.replicate_succ' (n := joined), List.replicate_succ (n := finished)]
        simp [step]
      rw [List.range'_succ, List.map_cons, run_cons, first, Option.bind_some, ih]
      congr 3
      omega

end JoinSet

end Tokio
