import RustAsgi.Http.Wire

/-!
# Who watches the application

The handler of a request watches its application until it has seen its end, or
until it lets go of it. A reaper may take it over; where the service future is
dropped, nobody does, and the application runs on.
-/

namespace RustAsgi.Http

open Asyncio

variable {request : Request} {s next : Http} {action : Action}

/-- What a step of the request does to the application and to those who watch it. -/
inductive AppStep (s next : Http) : Prop where
  | silent (app : next.app = s.app) (appDone : next.appDone = s.appDone)
      (reaper : next.reaper = s.reaper)
  | exit {outcome : Outcome} (running : s.app = .running) (app : next.app = .exited outcome)
      (appDone : next.appDone = s.appDone) (reaper : next.reaper = s.reaper)
  | settle {outcome : Outcome} (exited : s.app = .exited outcome)
      (app : next.app = .settled outcome) (appDone : next.appDone = s.appDone)
      (reaper : next.reaper = s.reaper)
  | observe {outcome : Outcome} (settled : s.app = .settled outcome) (app : next.app = s.app)
      (appDone : next.appDone = true) (reaper : next.reaper = s.reaper)
  | handOver (stage : s.stage ≠ .done) (app : next.app = s.app)
      (appDone : next.appDone = s.appDone) (reaper : next.reaper = .waiting)
  | reaped (waiting : s.reaper = .waiting) (app : next.app = s.app)
      (appDone : next.appDone = s.appDone) (reaper : next.reaper = .finished)

theorem logAccess_app (request : Request) (status size : ℕ) (s : Http) :
    (s.logAccess request status size).app = s.app ∧
      (s.logAccess request status size).appDone = s.appDone ∧
      (s.logAccess request status size).reaper = s.reaper := by
  simp only [logAccess]
  split <;> exact ⟨rfl, rfl, rfl⟩

/-- A failure of Phase A that hands the application over. -/
theorem appStep_fail (stage : s.stage ≠ .done) (status size : ℕ) :
    AppStep s (s.logAccess request status size).spawnDrainReaper.fail := by
  rcases logAccess_app request status size s with ⟨app, appDone, _⟩
  exact .handOver stage app appDone rfl

theorem appStep_pollApp (back onward : Stage) : AppStep s (s.pollApp back onward) := by
  simp only [pollApp]
  split
  · exact .silent rfl rfl rfl
  · split
    · rename_i outcome settled
      exact .observe settled rfl rfl rfl
    · exact .silent rfl rfl rfl

theorem appStep_pollFeed (back onward : Stage) : AppStep s (s.pollFeed back onward) := by
  simp only [pollFeed]
  split <;> exact .silent rfl rfl rfl

theorem appStep_observe (stage : s.stage = .observing) : AppStep s (s.observe request) := by
  simp only [observe]
  split
  · rename_i done
    rcases logAccess_app request s.status s.bytesSent s with ⟨app, appDone, reaper⟩
    exact .silent app appDone reaper
  · split
    · rename_i outcome settled
      rcases logAccess_app request s.status s.bytesSent s.observeApp with ⟨app, appDone, reaper⟩
      exact .observe settled app appDone reaper
    · rcases logAccess_app request s.status s.bytesSent s.spawnDrainReaper with
        ⟨app, appDone, reaper⟩
      exact .handOver (by simp [stage]) app appDone reaper

theorem appStep_poll (polled : Polled request s next) : AppStep s next := by
  cases polled with
  | neverStarted stage => exact appStep_fail (by simp [stage]) 500 0
  | startTimeout stage => exact appStep_fail (by simp [stage]) 500 0
  | rejected stage => exact .handOver (by simp [stage]) rfl rfl rfl
  | phaseAApp | responderApp => exact appStep_pollApp _ _
  | phaseAFeed | responderFeed => exact appStep_pollFeed _ _
  | observe stage => exact appStep_observe stage
  | start | early | unstarted | phaseAAgain | duplicate | suppressed | empty | taken | finished
  | unsent | appTimeout | responderAgain | hand | gone | told | close => exact .silent rfl rfl rfl

theorem appStep_of_step (stepped : s.step request action = some next) : AppStep s next := by
  cases step_cases stepped with
  | poll polled => exact appStep_poll polled
  | exit _ running => exact .exit running rfl rfl rfl
  | settle exited => exact .settle exited rfl rfl rfl
  | reaped waiting | reapTimeout waiting => exact .reaped waiting rfl rfl rfl
  | refused =>
      rcases logAccess_app request 500 0 s with ⟨app, appDone, reaper⟩
      exact .silent app appDone reaper
  | established | push | park | unpark | dropSink | feed | startDeadline | appDeadline | takeChunk
  | dropBody | dropService => exact .silent rfl rfl rfl

theorem running_of_step (stepped : s.step request action = some next)
    (running : next.app = .running) : s.app = .running := by
  cases appStep_of_step stepped with
  | silent app | observe _ app | handOver _ app | reaped _ app => exact app ▸ running
  | exit before => exact before
  | settle _ app =>
      rw [app] at running
      cases running

/-- The handler has seen the end of an application only if there was one. -/
def Watched (s : Http) : Prop :=
  s.appDone = true → ∃ outcome, s.app = .settled outcome

theorem Watched.step (watched : s.Watched) (stepped : s.step request action = some next) :
    next.Watched := by
  intro done
  cases appStep_of_step stepped with
  | silent app appDone | handOver _ app appDone | reaped _ app appDone =>
      rw [app]
      exact watched (appDone ▸ done)
  | exit running _ appDone =>
      rcases watched (appDone ▸ done) with ⟨_, settled⟩
      rw [settled] at running
      cases running
  | settle exited _ appDone =>
      rcases watched (appDone ▸ done) with ⟨_, settled⟩
      rw [settled] at exited
      cases exited
  | observe settled app => exact ⟨_, app.trans settled⟩

theorem watched_init (request : Request) (body : Incoming) : (init request body).Watched :=
  nofun

theorem waiting_of_step (done : s.stage = .done) (stepped : s.step request action = some next)
    (waiting : next.reaper = .waiting) : s.reaper = .waiting := by
  cases appStep_of_step stepped with
  | silent _ _ reaper | exit _ _ _ reaper | settle _ _ _ reaper | observe _ _ _ reaper =>
      exact reaper ▸ waiting
  | handOver stage => exact absurd done stage
  | reaped before => exact before

end RustAsgi.Http
