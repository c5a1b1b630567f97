import RustAsgi.Server.Drain

/-!
# How long the heartbeat lasts

The heartbeat looks at the flag at every tick, and ends where it finds it set. A
worker that drains does not call `notify()` any more.
-/

namespace RustAsgi

open Machine Tokio

namespace Heartbeat

/-- The calls of `notify()` that are past the check of the flag. -/
def due (heartbeat : Heartbeat) : ℕ :=
  if heartbeat.stage = .parent ∨ heartbeat.stage = .hooks then 1 else 0

/-- What the heartbeat does from where it is, its parent unchanged and its worker alive, up to the
next call of `notify()`. -/
def beat (heartbeat : Heartbeat) : List HeartbeatAction :=
  match heartbeat.stage with
  | .ticking => [.tick, .check, .parent false, .hooks true]
  | .check => [.check, .parent false, .hooks true]
  | .parent => [.parent false, .hooks true]
  | .hooks => [.hooks true]
  | .triggering _ | .ended => []

variable {shutdown : Shutdown} {heartbeat : Heartbeat} {action : HeartbeatAction}
  {after : Shutdown × Heartbeat}

/-- With the flag set, what is due is all that comes. -/
theorem due_step (set : shutdown.flag = true)
    (stepped : heartbeat.step shutdown action = some after) :
    after.2.beats + after.2.due ≤ heartbeat.beats + heartbeat.due := by
  cases step_cases stepped with
  | tick | advance | triggered => simp [due]
  | check => simp [due, set]
  | @parent changed stage => cases changed <;> simp [due, stage]
  | @hooks alive stage => cases alive <;> simp [due, stage]

/-- The heartbeat ends where it finds the flag set, and where its own trigger is over. -/
theorem ended_step (stepped : heartbeat.step shutdown action = some after)
    (ended : after.2.stage = .ended) :
    shutdown.flag = true ∨ heartbeat.call? = some .notify := by
  cases step_cases stepped with
  | tick | advance => cases ended
  | check => exact .inl (by simpa using ended)
  | @parent changed => cases changed <;> cases ended
  | @hooks alive => cases alive <;> cases ended
  | @triggered call stage last =>
      cases call with
      | storeQuick => cases last
      | swap => exact .inl (Shutdown.flag_of_advance_swap last)
      | notify => exact .inr (by simp [call?, stage])

end Heartbeat

namespace Server

variable {config : ServeConfig} {s next final : Server} {action : Action}
  {actions : List Action}

/-- Only its own steps move the heartbeat. -/
theorem heartbeat_step (stepped : s.step config action = some next) :
    next.heartbeat = s.heartbeat ∨ ∃ act, action = .heartbeat act ∧
      s.heartbeat.step s.shutdown act = some (next.shutdown, next.heartbeat) := by
  cases action with
  | heartbeat act =>
      simp only [step, Option.map_eq_some_iff] at stepped
      rcases stepped with ⟨after, moved, rfl⟩
      exact .inr ⟨act, rfl, moved⟩
  | serve =>
      cases stepServe_cases stepped <;> exact .inl rfl
  | gracefulTimeout | watcher | handler =>
      cases step_cases stepped
      exact .inl rfl
  | acceptor =>
      cases step_cases stepped with
      | acceptor _ stepped => cases stepped <;> exact .inl rfl
  | connection =>
      cases step_cases stepped with
      | connection found stepped =>
          rcases stepped.calling found with ⟨_, _, _, _, _, _, heartbeat⟩
          exact .inl heartbeat

/-- The heartbeat runs until the flag is set. -/
def Living (s : Server) : Prop :=
  s.shutdown.flag = false → s.heartbeat.stage ≠ .ended

theorem Living.step (living : s.Living) (silent : s.Silent)
    (stepped : s.step config action = some next) : next.Living := by
  intro unset ended
  have before : s.shutdown.flag = false := by
    apply Bool.eq_false_iff.mpr
    intro set
    rw [flag_step set stepped] at unset
    cases unset
  rcases heartbeat_step stepped with same | ⟨act, rfl, moved⟩
  · rw [same] at ended
    exact living before ended
  · rcases Heartbeat.ended_step moved ended with set | notify
    · rw [before] at set
      cases set
    · exact (silent before).1 (.inr (.inl notify))

/-- The steps of the heartbeat up to its next call of `notify()` can be taken. -/
def CanBeat (config : ServeConfig) (s : Server) : Prop :=
  ∃ later, run (step config) s (s.heartbeat.beat.map .heartbeat) = some later ∧
    later.heartbeat.beats = s.heartbeat.beats + 1

theorem canBeat (unset : s.shutdown.flag = false) (alive : s.heartbeat.stage ≠ .ended)
    (own : s.heartbeat.call? = none) : s.CanBeat config := by
  cases stage : s.heartbeat.stage with
  | ticking | check | parent | hooks =>
      refine ⟨{ s with heartbeat := { stage := .ticking, beats := s.heartbeat.beats + 1 } },
        ?_, rfl⟩
      simp [Heartbeat.beat, stage, run, step, Heartbeat.step, unset]
  | triggering call => simp [Heartbeat.call?, stage] at own
  | ended => exact absurd stage alive

/-- The heartbeat task in the state `s`. -/
structure Beating (config : ServeConfig) (s : Server) : Prop where
  /-- Unless it triggers the shutdown itself, it goes on to its next call of `notify()`. -/
  beats : s.shutdown.flag = false →
    s.heartbeat.stage ≠ .ended ∧ (s.heartbeat.call? = none → s.CanBeat config)
  /-- From the flag on it makes the call that is due, and ends when it looks at the flag again. -/
  stops : s.shutdown.flag = true → ∀ later final, run (step config) s later = some final →
    final.heartbeat.beats ≤ s.heartbeat.beats + s.heartbeat.due ∧
      ∀ next, final.step config (.heartbeat .check) = some next → next.heartbeat.stage = .ended

/-- The calls of `notify()` from the state with `total` made or due are over. -/
def Spent (total : ℕ) (s : Server) : Prop :=
  s.shutdown.flag = true ∧ s.heartbeat.beats + s.heartbeat.due ≤ total

theorem Spent.step {total : ℕ} (spent : s.Spent total)
    (stepped : s.step config action = some next) : next.Spent total := by
  refine ⟨flag_step spent.1 stepped, ?_⟩
  rcases heartbeat_step stepped with same | ⟨act, _, moved⟩
  · rw [same]
    exact spent.2
  · exact le_trans (Heartbeat.due_step spent.1 moved) spent.2

theorem ended_of_check (set : s.shutdown.flag = true)
    (checked : s.step config (.heartbeat .check) = some next) : next.heartbeat.stage = .ended := by
  simp only [step, Heartbeat.step, set, if_true, Option.map_eq_some_iff,
    Option.ite_none_right_eq_some, Option.some.injEq] at checked
  rcases checked with ⟨after, ⟨_, rfl⟩, rfl⟩
  rfl

/-- The heartbeat beats until the flag is set, and not through the drain. -/
theorem beating_of_run (ran : run (step config) (init config) actions = some final) :
    final.Beating config where
  beats := by
    intro unset
    have living : final.Silent ∧ final.Living := by
      apply run_invariant_of_step (fun s => s.Silent ∧ s.Living) _ ran
      · exact ⟨silent_init config, fun _ ended => by cases ended⟩
      · rintro current action next ⟨silent, living⟩ stepped
        exact ⟨silent.step stepped, living.step silent stepped⟩
    have alive := living.2 unset
    exact ⟨alive, canBeat unset alive⟩
  stops := by
    intro set later last onward
    have spent : last.Spent (final.heartbeat.beats + final.heartbeat.due) := by
      apply run_invariant_of_step (Spent _) _ onward ⟨set, le_rfl⟩
      intro current action next spent stepped
      exact spent.step stepped
    constructor
    · exact le_trans (Nat.le_add_right _ _) spent.2
    · intro next checked
      exact ended_of_check spent.1 checked

def changesParent : Action → Bool
  | .heartbeat (.parent changed) => changed
  | _ => false

theorem beating_of_run_busy :
    ∃ final, run (step oneListener) (init oneListener) busyRun = some final ∧
      final.shutdown.flag = true ∧ final.inFlight = 1 ∧ final.Beating oneListener := by
  have ran : ∃ final, run (step oneListener) (init oneListener) busyRun = some final ∧
      final.shutdown.flag = true ∧ final.inFlight = 1 :=
    exists_of_run_any (by decide)
  rcases ran with ⟨final, ran, set, flight⟩
  exact ⟨final, ran, set, flight, beating_of_run ran⟩

/-- The first tick of the drain ends the heartbeat. -/
theorem heartbeat_stops :
    ¬ ∀ (config : ServeConfig) (actions : List Action) (final : Server),
      run (step config) (init config) actions = some final →
        actions.any changesParent = false → final.serve ≠ .done →
          final.heartbeat.stage ≠ .ended := by
  intro lasts
  have ran : ∃ final, run (step oneListener) (init oneListener)
      (busyRun ++ [.acceptor 0 .check, .serve, .serve, .serve, .heartbeat .tick,
        .heartbeat .check]) = some final ∧
      final.serve = .draining ∧ final.heartbeat.stage = .ended :=
    exists_of_run_any (by decide)
  rcases ran with ⟨final, ran, draining, ended⟩
  apply lasts oneListener _ final ran (by decide) _ ended
  rw [draining]
  decide

end Server

end RustAsgi
