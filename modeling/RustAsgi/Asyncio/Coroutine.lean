import Mathlib.Tactic.Common

/-!
# A coroutine behind a future

`into_future` runs a coroutine on the event loop and gives the other side a
future. The coroutine ends on the loop, and its outcome crosses over later.
-/

namespace Asyncio

inductive Outcome where
  | returned
  | raised
  deriving DecidableEq, Repr

/-- The coroutine of an application, and its future once the outcome has crossed over. -/
inductive AppRun where
  | running
  | exited (outcome : Outcome)
  | settled (outcome : Outcome)
  deriving DecidableEq, Repr

/-- A coroutine of the bridge that yields a value. -/
inductive Crossing (Value : Type*) where
  | unscheduled
  | scheduled
  /-- Done on the loop, not yet visible to the other side. -/
  | done (value : Value)
  | visible (value : Value)
  deriving DecidableEq, Repr

end Asyncio
