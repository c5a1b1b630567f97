import RustAsgi.Tokio.Notify

/-!
# `Shutdown` and the tasks that trigger it

`trigger` is three atomic steps on shared state, and any number of calls may be
under way at once. A call is therefore represented by the step it is to take
next. The signal watcher and the heartbeat are given here with the positions at
which another task can come in between.
-/

namespace RustAsgi

open Tokio

inductive ShutdownKind where
  | graceful
  | quick
  deriving DecidableEq, Repr

/-- The tasks that call `Shutdown::wait`. -/
inductive Waiter where
  | serve
  | acceptor (index : ℕ)
  deriving DecidableEq, Repr

structure Shutdown where
  flag : Bool
  quick : Bool
  notify : Notify Waiter
  deriving DecidableEq, Repr

/-- A call of `trigger`, by what it does next. -/
inductive Trigger where
  | storeQuick
  | swap
  | notify
  deriving DecidableEq, Repr

namespace Shutdown

def new : Shutdown :=
  { flag := false, quick := false, notify := .new }

/-- The call `trigger(kind)` before its first step. -/
def trigger : ShutdownKind → Trigger
  | .quick => .storeQuick
  | .graceful => .swap

/-- The next step of a call, and the call if it is not over. -/
def advance (shutdown : Shutdown) : Trigger → Shutdown × Option Trigger
  | .storeQuick => ({ shutdown with quick := true }, some .swap)
  | .swap =>
      if shutdown.flag then (shutdown, none)
      else ({ shutdown with flag := true }, some .notify)
  | .notify => ({ shutdown with notify := shutdown.notify.notifyWaiters }, none)

def kind (shutdown : Shutdown) : ShutdownKind :=
  if shutdown.quick then .quick else .graceful

variable {shutdown : Shutdown} {call : Trigger}

theorem trigger_ne_notify (kind : ShutdownKind) : trigger kind ≠ .notify := by
  cases kind <;> simp [trigger]

theorem advance_flag (set : shutdown.flag = true) : (shutdown.advance call).1.flag = true := by
  cases call with
  | storeQuick => exact set
  | swap => simp [advance, set]
  | notify => exact set

/-- The call that sets the flag goes on to notify. -/
theorem advance_of_unset (unset : shutdown.flag = false)
    (set : (shutdown.advance call).1.flag = true) :
    (shutdown.advance call).2 = some .notify := by
  cases call with
  | storeQuick =>
      have still : shutdown.flag = true := set
      rw [unset] at still
      cases still
  | swap => simp [advance, unset]
  | notify =>
      have still : shutdown.flag = true := set
      rw [unset] at still
      cases still

/-- A call is about to notify only after it has set the flag. -/
theorem flag_of_advance_notify (later : (shutdown.advance call).2 = some .notify) :
    (shutdown.advance call).1.flag = true := by
  cases call with
  | storeQuick => simp [advance] at later
  | swap =>
      cases set : shutdown.flag with
      | false => simp [advance, set]
      | true => simp [advance, set] at later
  | notify => simp [advance] at later

/-- A `swap` that ends the call has found the flag set. -/
theorem flag_of_advance_swap (finished : (shutdown.advance .swap).2 = none) :
    shutdown.flag = true := by
  cases set : shutdown.flag with
  | true => rfl
  | false => simp [advance, set] at finished

/-- A call that finds the flag set does not notify. -/
theorem advance_of_set (set : shutdown.flag = true) :
    (shutdown.advance call).2 ≠ some .notify := by
  cases call with
  | storeQuick => simp [advance]
  | swap => simp [advance, set]
  | notify => simp [advance]

theorem advance_swap_flag : (shutdown.advance .swap).1.flag = true := by
  cases set : shutdown.flag with
  | true => simp [advance, set]
  | false => simp [advance, set]

theorem advance_notify (other : call ≠ .notify) :
    (shutdown.advance call).1.notify = shutdown.notify := by
  cases call with
  | storeQuick => rfl
  | swap =>
      simp only [advance]
      split <;> rfl
  | notify => exact absurd rfl other

end Shutdown

/-- What a step of a task does to its call of `trigger`: it takes the next step of the call, or it
leaves `shutdown` alone and is not about to notify unless it already was. -/
inductive Calling (shutdown : Shutdown) : Bool → Option Trigger → Shutdown → Option Trigger → Prop
  where
  | rest {call? later? : Option Trigger}
      (same : later? = some .notify ↔ call? = some .notify) :
      Calling shutdown false call? shutdown later?
  | advance (call : Trigger) :
      Calling shutdown true (some call) (shutdown.advance call).1 (shutdown.advance call).2

theorem Calling.flag {shutdown after : Shutdown} {advances : Bool} {call? later? : Option Trigger}
    (calling : Calling shutdown advances call? after later?) (set : shutdown.flag = true) :
    after.flag = true := by
  cases calling with
  | rest => exact set
  | advance call => exact Shutdown.advance_flag set

inductive Signal where
  | terminate
  | quit
  | interrupt
  deriving DecidableEq, Repr

namespace Signal

def kind : Signal → ShutdownKind
  | .terminate => .graceful
  | .quit | .interrupt => .quick

end Signal

inductive WatcherStage where
  | listening
  | triggering (signal : Signal) (call : Trigger)
  | ended
  deriving DecidableEq, Repr

structure Watcher where
  /-- The signals that have arrived and have not been received. -/
  arrived : List Signal
  triggered : Bool
  stage : WatcherStage
  deriving DecidableEq, Repr

inductive WatcherAction where
  | signal (signal : Signal)
  /-- The branch of `signal` wins the `select!`. -/
  | receive (signal : Signal)
  | advance
  /-- `serve_done` wins the `select!`. -/
  | done
  deriving DecidableEq, Repr

namespace Watcher

def new : Watcher :=
  { arrived := [], triggered := false, stage := .listening }

def call? (watcher : Watcher) : Option Trigger :=
  match watcher.stage with
  | .triggering _ call => some call
  | _ => none

/-- After `trigger`: a second quick signal ends the watcher, and so does the end of `serve`. -/
def triggeredBy (watcher : Watcher) (signal : Signal) (done : Bool) : Watcher :=
  let leaves := decide (signal.kind = .quick) && watcher.triggered || done
  { watcher with triggered := true, stage := if leaves then .ended else .listening }

def step (shutdown : Shutdown) (done : Bool) (watcher : Watcher) :
    WatcherAction → Option (Shutdown × Watcher)
  -- Several signals of one kind count once until they are received.
  | .signal signal =>
      some (shutdown, { watcher with arrived := watcher.arrived.insert signal })
  | .receive signal =>
      if watcher.stage = .listening ∧ signal ∈ watcher.arrived ∧
          ¬ (signal = .terminate ∧ watcher.triggered = true) then
        some (shutdown, { watcher with
          arrived := watcher.arrived.erase signal
          stage := .triggering signal (Shutdown.trigger signal.kind) })
      else none
  | .advance =>
      match watcher.stage with
      | .triggering signal call =>
          some ((shutdown.advance call).1,
            match (shutdown.advance call).2 with
            | some later => { watcher with stage := .triggering signal later }
            | none => watcher.triggeredBy signal done)
      | _ => none
  | .done =>
      if watcher.stage = .listening ∧ done = true then
        some (shutdown, { watcher with stage := .ended })
      else none

theorem triggeredBy_call? {watcher : Watcher} {signal : Signal} {done : Bool} :
    (watcher.triggeredBy signal done).call? = none := by
  simp only [triggeredBy]
  cases decide (signal.kind = .quick) && watcher.triggered || done <;> rfl

theorem step_calling {shutdown : Shutdown} {done : Bool} {watcher : Watcher}
    {action : WatcherAction} {after : Shutdown × Watcher}
    (stepped : watcher.step shutdown done action = some after) :
    Calling shutdown (decide (action = .advance)) watcher.call? after.1 after.2.call? := by
  cases action with
  | signal signal =>
      simp only [step, Option.some.injEq] at stepped
      subst stepped
      exact .rest Iff.rfl
  | receive signal =>
      simp only [step, Option.ite_none_right_eq_some, Option.some.injEq] at stepped
      rcases stepped with ⟨⟨listening, _⟩, rfl⟩
      apply Calling.rest
      simp [call?, listening, Shutdown.trigger_ne_notify]
  | advance =>
      cases stage : watcher.stage with
      | listening => simp [step, stage] at stepped
      | ended => simp [step, stage] at stepped
      | triggering signal call =>
          simp only [step, stage, Option.some.injEq] at stepped
          subst stepped
          have current : watcher.call? = some call := by simp [call?, stage]
          have later : (match (shutdown.advance call).2 with
              | some later => { watcher with stage := .triggering signal later }
              | none => watcher.triggeredBy signal done : Watcher).call? =
              (shutdown.advance call).2 := by
            cases (shutdown.advance call).2 with
            | some later => rfl
            | none => exact triggeredBy_call?
          rw [current, later]
          exact .advance call
  | done =>
      simp only [step, Option.ite_none_right_eq_some, Option.some.injEq] at stepped
      rcases stepped with ⟨⟨listening, _⟩, rfl⟩
      apply Calling.rest
      simp [call?, listening]

end Watcher

inductive HeartbeatStage where
  /-- Awaits `ticker.tick()`; the first tick is immediate. -/
  | ticking
  | check
  /-- About to compare the parent's process id. -/
  | parent
  /-- About to call `notify()` and `is_alive()`. -/
  | hooks
  | triggering (call : Trigger)
  | ended
  deriving DecidableEq, Repr

structure Heartbeat where
  stage : HeartbeatStage
  /-- How often `notify()` has been called. -/
  beats : ℕ
  deriving DecidableEq, Repr

inductive HeartbeatAction where
  | tick
  | check
  | parent (changed : Bool)
  | hooks (alive : Bool)
  | advance
  deriving DecidableEq, Repr

namespace Heartbeat

def new : Heartbeat :=
  { stage := .ticking, beats := 0 }

def call? (heartbeat : Heartbeat) : Option Trigger :=
  match heartbeat.stage with
  | .triggering call => some call
  | _ => none

def step (shutdown : Shutdown) (heartbeat : Heartbeat) :
    HeartbeatAction → Option (Shutdown × Heartbeat)
  | .tick =>
      if heartbeat.stage = .ticking then some (shutdown, { heartbeat with stage := .check })
      else none
  | .check =>
      if heartbeat.stage = .check then
        some (shutdown, { heartbeat with stage := if shutdown.flag then .ended else .parent })
      else none
  | .parent changed =>
      if heartbeat.stage = .parent then
        some (shutdown, { heartbeat with
          stage := if changed then .triggering (Shutdown.trigger .quick) else .hooks })
      else none
  | .hooks alive =>
      if heartbeat.stage = .hooks then
        some (shutdown, {
          stage := if alive then .ticking else .triggering (Shutdown.trigger .graceful)
          beats := heartbeat.beats + 1 })
      else none
  | .advance =>
      match heartbeat.stage with
      | .triggering call =>
          some ((shutdown.advance call).1,
            { heartbeat with
              stage :=
                match (shutdown.advance call).2 with
                | some later => .triggering later
                | none => .ended })
      | _ => none

/-- Everything a step of the heartbeat can do. -/
inductive Step (shutdown : Shutdown) (heartbeat : Heartbeat) :
    HeartbeatAction → Shutdown × Heartbeat → Prop where
  | tick (stage : heartbeat.stage = .ticking) :
      Step shutdown heartbeat .tick (shutdown, { heartbeat with stage := .check })
  | check (stage : heartbeat.stage = .check) :
      Step shutdown heartbeat .check
        (shutdown, { heartbeat with stage := if shutdown.flag then .ended else .parent })
  | parent {changed : Bool} (stage : heartbeat.stage = .parent) :
      Step shutdown heartbeat (.parent changed) (shutdown, { heartbeat with
        stage := if changed then .triggering (Shutdown.trigger .quick) else .hooks })
  | hooks {alive : Bool} (stage : heartbeat.stage = .hooks) :
      Step shutdown heartbeat (.hooks alive) (shutdown, {
        stage := if alive then .ticking else .triggering (Shutdown.trigger .graceful)
        beats := heartbeat.beats + 1 })
  | advance {call later : Trigger} (stage : heartbeat.stage = .triggering call)
      (onward : (shutdown.advance call).2 = some later) :
      Step shutdown heartbeat .advance
        ((shutdown.advance call).1, { heartbeat with stage := .triggering later })
  | triggered {call : Trigger} (stage : heartbeat.stage = .triggering call)
      (last : (shutdown.advance call).2 = none) :
      Step shutdown heartbeat .advance
        ((shutdown.advance call).1, { heartbeat with stage := .ended })

variable {shutdown : Shutdown} {heartbeat : Heartbeat} {action : HeartbeatAction}
  {after : Shutdown × Heartbeat}

theorem step_cases (stepped : heartbeat.step shutdown action = some after) :
    Step shutdown heartbeat action after := by
  cases action with
  | tick =>
      simp only [step, Option.ite_none_right_eq_some, Option.some.injEq] at stepped
      rcases stepped with ⟨stage, rfl⟩
      exact .tick stage
  | check =>
      simp only [step, Option.ite_none_right_eq_some, Option.some.injEq] at stepped
      rcases stepped with ⟨stage, rfl⟩
      exact .check stage
  | parent changed =>
      simp only [step, Option.ite_none_right_eq_some, Option.some.injEq] at stepped
      rcases stepped with ⟨stage, rfl⟩
      exact .parent stage
  | hooks alive =>
      simp only [step, Option.ite_none_right_eq_some, Option.some.injEq] at stepped
      rcases stepped with ⟨stage, rfl⟩
      exact .hooks stage
  | advance =>
      cases stage : heartbeat.stage with
      | ticking | check | parent | hooks | ended => simp [step, stage] at stepped
      | triggering call =>
          simp only [step, stage, Option.some.injEq] at stepped
          subst stepped
          cases onward : (shutdown.advance call).2 with
          | none => exact .triggered stage onward
          | some later => exact .advance stage onward

theorem step_calling (stepped : heartbeat.step shutdown action = some after) :
    Calling shutdown (decide (action = .advance)) heartbeat.call? after.1 after.2.call? := by
  cases step_cases stepped with
  | tick stage =>
      apply Calling.rest
      simp [call?, stage]
  | check stage =>
      apply Calling.rest
      cases shutdown.flag <;> simp [call?, stage]
  | @parent changed stage =>
      apply Calling.rest
      cases changed <;> simp [call?, stage, Shutdown.trigger_ne_notify]
  | @hooks alive stage =>
      apply Calling.rest
      cases alive <;> simp [call?, stage, Shutdown.trigger_ne_notify]
  | @advance call later stage onward =>
      simp only [call?, stage, ← onward]
      exact .advance call
  | @triggered call stage last =>
      simp only [call?, stage, ← last]
      exact .advance call

end Heartbeat

end RustAsgi
