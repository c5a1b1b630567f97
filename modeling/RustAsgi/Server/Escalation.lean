import RustAsgi.Server.Drain

/-!
# A quick shutdown during the drain

`serve` reads the kind of the shutdown once, before it joins the accept tasks. The
watcher goes on listening for an escalating quick signal, but nothing reads the
quick flag after that.
-/

namespace RustAsgi

open Machine Tokio

theorem Shutdown.advance_quick {shutdown : Shutdown} {call : Trigger} (other : call ≠ .storeQuick) :
    (shutdown.advance call).1.quick = shutdown.quick := by
  cases call with
  | storeQuick => exact absurd rfl other
  | swap =>
      simp only [advance]
      split <;> rfl
  | notify => rfl

theorem Calling.quick {shutdown after : Shutdown} {advances : Bool} {call? later? : Option Trigger}
    (calling : Calling shutdown advances call? after later?)
    (other : advances = true → call? ≠ some .storeQuick) : after.quick = shutdown.quick := by
  cases calling with
  | rest => rfl
  | advance call =>
      apply Shutdown.advance_quick
      rintro rfl
      exact other rfl rfl

namespace Server

variable {config : ServeConfig} {s next final : Server} {action : Action} {actions : List Action}
  {index : ℕ}

/-- The step is the store of a quick trigger. -/
def storesQuick (s : Server) : Action → Bool
  | .watcher .advance => decide (s.watcher.call? = some .storeQuick)
  | .heartbeat .advance => decide (s.heartbeat.call? = some .storeQuick)
  | .connection index .advance =>
      decide (s.connections[index]?.bind Connection.call? = some .storeQuick)
  | _ => false

theorem storesQuick_of_called (called : s.called action = some .storeQuick) :
    s.storesQuick action = true := by
  simp only [Server.called] at called
  split at called
  · simp [storesQuick, called]
  · simp [storesQuick, called]
  · simp [storesQuick, called]
  · cases called

/-- `serve` has read a graceful kind, and its drain is not over. -/
def Graceful (s : Server) : Prop :=
  s.serve = .joining .graceful ∨ s.serve = .draining ∨ s.serve = .sleeping

instance (s : Server) : Decidable s.Graceful :=
  inferInstanceAs (Decidable (_ ∨ _ ∨ _))

/-- No quick trigger comes after the kind has been read. -/
def Sampled (s : Server) (action : Action) : Prop :=
  s.storesQuick action = true → ¬ s.Graceful

instance (s : Server) (action : Action) : Decidable (s.Sampled action) :=
  inferInstanceAs (Decidable (_ → _))

/-- Once the quick flag is set, the drain loop does not wait for requests in flight again. -/
def Overridden (s : Server) : Prop :=
  s.shutdown.quick = true →
    (s.stepServe.any fun next => decide (next.serve = .sleeping)) = false

instance (s : Server) : Decidable s.Overridden :=
  inferInstanceAs (Decidable (_ → _))

/-- A drain is under way only while the quick flag is unset. -/
def Escalated (s : Server) : Prop :=
  s.Graceful → s.shutdown.quick = false

theorem Escalated.overridden (escalated : s.Escalated) : s.Overridden := by
  intro quick
  apply Bool.eq_false_iff.mpr
  intro again
  rw [Option.any_eq_true] at again
  rcases again with ⟨next, stepped, sleeping⟩
  rw [decide_eq_true_eq] at sleeping
  cases stepServe_cases stepped with
  | sleep draining =>
      have unset := escalated (.inr (.inl draining))
      rw [quick] at unset
      cases unset
  | _ => cases sleeping

theorem Escalated.of_same (escalated : s.Escalated) (serve : next.serve = s.serve)
    (quick : s.Graceful → next.shutdown.quick = s.shutdown.quick) : next.Escalated := by
  intro graceful
  rw [Graceful, serve] at graceful
  rw [quick graceful]
  exact escalated graceful

/-- A step of a call of `trigger`, by whichever task. -/
theorem Escalated.call {advances : Bool} {call? later? : Option Trigger} (escalated : s.Escalated)
    (step : CallStep s next advances call? later?)
    (sampled : advances = true → call? = some .storeQuick → ¬ s.Graceful) : next.Escalated := by
  apply escalated.of_same step.serve
  intro graceful
  apply step.calling.quick
  intro advances stores
  exact sampled advances stores graceful

theorem Escalated.stepServe (escalated : s.Escalated) (stepped : ServeStep s next) :
    next.Escalated := by
  cases stepped with
  | sample stage =>
      rintro (joining | draining | sleeping)
      · cases quick : s.shutdown.quick with
        | false => rfl
        | true => simp [Shutdown.kind, quick] at joining
      · cases draining
      · cases sleeping
  | drain stage => exact fun _ => escalated (.inl stage)
  | sleep stage => exact fun _ => escalated (.inr (.inl stage))
  | again stage => exact fun _ => escalated (.inr (.inr stage))
  | await | wake | skip | empty | timeout | abort | finish =>
      rintro (joining | draining | sleeping)
      · cases joining
      · cases draining
      · cases sleeping

theorem Escalated.step (escalated : s.Escalated) (sampled : s.Sampled action)
    (stepped : s.step config action = some next) : next.Escalated := by
  cases step_tasks stepped with
  | serve stepped => exact escalated.stepServe stepped
  | gracefulTimeout | handler => exact escalated
  | acceptor _ stepped => cases stepped <;> exact escalated
  | caller step own =>
      apply escalated.call step
      intro advances stores
      exact sampled (storesQuick_of_called ((own advances).trans stores))

theorem escalated_init (config : ServeConfig) : (init config).Escalated := by
  rintro (joining | draining | sleeping)
  · cases joining
  · cases draining
  · cases sleeping

/-- A quick shutdown overrides a graceful one whose kind has not been read. -/
theorem overridden_of_sampled (sampled : Along (step config) Sampled (init config) actions)
    (ran : run (step config) (init config) actions = some final) : final.Overridden := by
  apply Escalated.overridden
  apply run_invariant Escalated _ sampled ran (escalated_init config)
  intro current action next escalated allowed stepped
  exact escalated.step allowed stepped

/-- The drain cannot tell whether a quick trigger has come: its steps are the same with the quick
flag set and unset. -/
theorem stepServe_quick (graceful : s.Graceful) (quick : Bool) :
    { s with shutdown := { s.shutdown with quick } : Server }.stepServe =
      s.stepServe.map fun next => { next with shutdown := { next.shutdown with quick } } := by
  rcases graceful with joining | draining | sleeping
  · simp only [Server.stepServe, joining]
    split <;> rfl
  · simp only [Server.stepServe, draining]
    split
    · rfl
    · split <;> rfl
  · simp only [Server.stepServe, sleeping, Option.map_some]

/-- A worker with a request in flight is told to terminate, and then to quit: `before` the kind is
read or `after` the drain has begun. -/
def escalateRun (before after : List Action) : List Action :=
  busyRun ++ [.acceptor 0 .check, .serve] ++ before ++ [.serve, .serve] ++ after

/-- SIGQUIT, from its arrival to the end of its trigger. -/
def quitRun : List Action :=
  [.watcher (.signal .quit), .watcher (.receive .quit), .watcher .advance, .watcher .advance]

theorem overridden_of_sampled_before :
    ∃ final, run (step oneListener) (init oneListener) (escalateRun quitRun []) = some final ∧
      final.shutdown.quick = true ∧ final.inFlight = 1 ∧ final.serve = .drained .quick ∧
      final.Overridden := by
  have ran : ∃ final, run (step oneListener) (init oneListener) (escalateRun quitRun []) =
      some final ∧ final.shutdown.quick = true ∧ final.inFlight = 1 ∧
      final.serve = .drained .quick :=
    exists_of_run_any (by decide)
  rcases ran with ⟨final, ran, quick, flight, skipped⟩
  exact ⟨final, ran, quick, flight, skipped, overridden_of_sampled (by decide) ran⟩

/-- The same signal during the drain. -/
theorem escalation_ignored :
    ∃ final, run (step oneListener) (init oneListener) (escalateRun [] quitRun) = some final ∧
      ¬ final.Overridden :=
  exists_of_run_any (by decide)

end Server

end RustAsgi
