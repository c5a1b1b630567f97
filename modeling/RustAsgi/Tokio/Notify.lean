import Mathlib.Data.List.Basic
import Mathlib.Tactic.Common

/-!
# Tokio's `Notify`

`notify_waiters` wakes the `Notified` futures that exist when it is called, and
nothing else: it stores no permit for futures that are created later.
-/

namespace Tokio

universe u

/-- A `Notify` that is only ever used through `notified` and `notify_waiters`. -/
structure Notify (Task : Type u) where
  /-- The tasks whose `Notified` future exists and has not been woken. -/
  waiters : List Task
  deriving DecidableEq, Repr

namespace Notify

variable {Task : Type u} {notify : Notify Task} {task other : Task}

def new : Notify Task :=
  { waiters := [] }

def notified (notify : Notify Task) (task : Task) : Notify Task :=
  { notify with waiters := notify.waiters ++ [task] }

def notifyWaiters (notify : Notify Task) : Notify Task :=
  { notify with waiters := [] }

def drop [DecidableEq Task] (notify : Notify Task) (task : Task) : Notify Task :=
  { notify with waiters := notify.waiters.filter fun waiter => waiter ≠ task }

/-- The future of `task` would be pending if it were polled now. -/
def Waits (notify : Notify Task) (task : Task) : Prop :=
  task ∈ notify.waiters

instance [DecidableEq Task] (notify : Notify Task) (task : Task) : Decidable (notify.Waits task) :=
  inferInstanceAs (Decidable (_ ∈ _))

/-- No future is pending. -/
def Quiet (notify : Notify Task) : Prop :=
  notify.waiters = []

theorem quiet_notifyWaiters : notify.notifyWaiters.Quiet :=
  rfl

theorem Quiet.not_waits (quiet : notify.Quiet) : ¬ notify.Waits task := by
  simp only [Quiet] at quiet
  simp [Waits, quiet]

theorem Quiet.drop [DecidableEq Task] (quiet : notify.Quiet) : (notify.drop task).Quiet := by
  simp only [Quiet] at quiet ⊢
  simp [Notify.drop, quiet]

theorem waits_notified : (notify.notified task).Waits task :=
  List.mem_append_right _ (List.mem_singleton_self task)

theorem waits_notified_of_waits (waits : notify.Waits other) :
    (notify.notified task).Waits other :=
  List.mem_append_left _ waits

theorem waits_drop [DecidableEq Task] :
    (notify.drop task).Waits other ↔ notify.Waits other ∧ other ≠ task := by
  simp [Waits, Notify.drop]

end Notify

end Tokio
