import RustAsgi.Http.Application
import RustAsgi.Server.Drain
import RustAsgi.WebSocket.Steps

/-!
# What outlives `serve`

`serve` aborts and joins the connection tasks. A responder and a WebSocket driver
are tasks of their own that only the flight guard knows of, and a drain reaper is
known to nobody. An application runs on the event loop until it returns, whoever
waits for it.
-/

namespace RustAsgi

open Machine Tokio

theorem Http.answered_step {request : Request} {s next : Http} {action : Action}
    (answered : ¬ Unanswered s.stage) (stepped : s.step request action = some next) :
    ¬ Unanswered next.stage := by
  have wired := step_wire stepped
  have before : ¬ Unanswered s.wire.stage := answered
  suffices ¬ Unanswered next.wire.stage from this
  generalize s.wire = wire at wired before
  generalize next.wire = later at wired
  cases wired with
  | skip | hand => grind [Unanswered, Stage.inPhaseA, afterBody]
  | _ => simp_all [Unanswered, Stage.inPhaseA]

namespace Handler

/-- The connection's own task is executing the handler. -/
def inline : Handler → Bool
  | .answering | .switching => true
  | .http _ state => decide (state.stage = .establish) || state.stage.inPhaseA
  | _ => false

/-- The responder is running. -/
def hasResponder : Handler → Bool
  | .http _ state => state.stage.inResponder || decide (state.stage = .closing) ||
      decide (state.stage = .observing)
  | _ => false

/-- The task of the WebSocket driver is running. -/
def hasDriver : Handler → Bool
  | .upgrading => true
  | .driving state => decide (state.stage ≠ .done)
  | _ => false

/-- A drain reaper is running. -/
def hasReaper : Handler → Bool
  | .http _ state => decide (state.reaper = .waiting)
  | _ => false

/-- The handler has seen the end of its application. -/
def observed : Handler → Bool
  | .http _ state => state.appDone
  | .driving state => state.appDone
  | _ => false

/-- The application, if it has been submitted, has not returned. -/
def appRunning : Handler → Bool
  | .http _ state => decide (state.app = .running)
  | .driving state => decide (state.app = .running)
  | _ => false

variable {handler next : Handler} {action : HandlerAction} {call : Call}

theorem finished_iff :
    handler.finished = true ↔
      handler.inline = false ∧ handler.hasResponder = false ∧ handler.hasDriver = false := by
  cases handler with
  | answering | answered | switching | upgrading | upgradeFailed =>
      simp [finished, inline, hasResponder, hasDriver]
  | driving state => simp [finished, inline, hasResponder, hasDriver]
  | http request state =>
      cases stage : state.stage <;>
        simp [finished, inline, hasResponder, hasDriver, stage, Stage.inPhaseA, Stage.inResponder]

theorem inline_http {request : Request} {state : Http} :
    (Handler.http request state).inline = false ↔ ¬ Http.Unanswered state.stage := by
  simp [inline, Http.Unanswered]

theorem inline_step (away : handler.inline = false) (stepped : handler.step action = some next) :
    next.inline = false := by
  cases handler with
  | answering | switching => cases away
  | answered | upgradeFailed => cases action <;> cases stepped
  | upgrading =>
      cases action with
      | upgraded succeeded => cases succeeded <;> cases stepped <;> rfl
      | answer | http | ws => cases stepped
  | http request state =>
      rcases step_http stepped with ⟨act, after, moved, rfl⟩
      exact inline_http.mpr (Http.answered_step (inline_http.mp away) moved)
  | driving state =>
      cases action with
      | ws act =>
          simp only [step, Option.map_eq_some_iff] at stepped
          rcases stepped with ⟨after, _, rfl⟩
          rfl
      | answer | http | upgraded => cases stepped

theorem inline_of_dropService (dropped : handler.step (.http .dropService) = some next) :
    next.inline = false := by
  cases handler with
  | http request state =>
      simp only [step, Http.step, Option.map_eq_some_iff, Option.ite_none_right_eq_some,
        Option.some.injEq] at dropped
      rcases dropped with ⟨after, ⟨_, rfl⟩, rfl⟩
      rfl
  | _ => cases dropped

theorem inline_of_responded (ordered : handler.Ordered) (responded : handler.responded = true) :
    handler.inline = false := by
  cases handler with
  | answering | switching => cases responded
  | answered | upgrading | upgradeFailed | driving => rfl
  | http request state => exact inline_http.mpr (ordered.started responded)

def Watched : Handler → Prop
  | .http _ state => state.Watched
  | .driving state => state.Watched
  | _ => True

theorem watched_start (call : Call) : (start call).Watched := by
  cases call with
  | immediate | websocket => trivial
  | http request body => exact Http.watched_init request body

theorem Watched.step (watched : handler.Watched) (stepped : handler.step action = some next) :
    next.Watched := by
  cases handler with
  | answering | switching | answered | upgradeFailed =>
      cases action <;> cases stepped <;> trivial
  | upgrading =>
      cases action with
      | upgraded succeeded =>
          cases succeeded <;> cases stepped
          · trivial
          · exact Ws.watched_init
      | answer | http | ws => cases stepped
  | http request state =>
      rcases step_http stepped with ⟨act, after, moved, rfl⟩
      exact Http.Watched.step watched moved
  | driving state =>
      cases action with
      | ws act =>
          simp only [Handler.step, Option.map_eq_some_iff] at stepped
          rcases stepped with ⟨after, moved, rfl⟩
          exact Ws.Watched.step watched moved
      | answer | http | upgraded => cases stepped

theorem Watched.ended (watched : handler.Watched) (observed : handler.observed = true) :
    handler.appRunning = false := by
  cases handler with
  | answering | switching | answered | upgrading | upgradeFailed => rfl
  | http request state =>
      rcases watched observed with ⟨outcome, settled⟩
      simp [appRunning, settled]
  | driving state =>
      rcases watched observed with ⟨outcome, settled⟩
      simp [appRunning, settled]

theorem done_step (finished : handler.finished = true) (stepped : handler.step action = some next) :
    (next.appRunning = true → handler.appRunning = true) ∧
      (next.hasReaper = true → handler.hasReaper = true) ∧ action.invokes = false := by
  cases handler with
  | answering | switching | upgrading => cases finished
  | answered | upgradeFailed => cases action <;> cases stepped
  | http request state =>
      simp only [Handler.finished, decide_eq_true_eq] at finished
      cases action with
      | http act =>
          simp only [Handler.step, Option.map_eq_some_iff] at stepped
          rcases stepped with ⟨after, moved, rfl⟩
          simp only [appRunning, hasReaper, decide_eq_true_eq]
          refine ⟨Http.running_of_step moved, Http.waiting_of_step finished moved, ?_⟩
          cases act with
          | established succeeded => simp [Http.step, finished] at moved
          | _ => rfl
      | answer | ws | upgraded => cases stepped
  | driving state =>
      simp only [Handler.finished, decide_eq_true_eq] at finished
      cases action with
      | ws act =>
          simp only [Handler.step, Option.map_eq_some_iff] at stepped
          rcases stepped with ⟨after, moved, rfl⟩
          simp only [appRunning, decide_eq_true_eq]
          refine ⟨Ws.running_of_step moved, id, ?_⟩
          cases act with
          | setup succeeded => simp [Ws.step, finished] at moved
          | _ => rfl
      | answer | http | upgraded => cases stepped

end Handler

namespace Server

variable {config : ServeConfig} {s next final : Server} {action : Action} {actions : List Action}
  {index id : ℕ}

/-- A handler that runs in the task of its connection is awaited there. -/
def Attended (s : Server) : Prop :=
  ∀ (id : ℕ) (exchange : Exchange), s.exchanges[id]? = some exchange →
    exchange.handler.inline = true → s.connections[exchange.connection]? = some (.handling id)

theorem Attended.setConnection {connection later : Connection} (attended : s.Attended)
    (found : s.connections[index]? = some connection)
    (released : ∀ id exchange, s.exchanges[id]? = some exchange → connection = .handling id →
      exchange.handler.inline = false ∨ later = .handling id) :
    (s.setConnection index later).Attended := by
  have bound : index < s.connections.length := (List.getElem?_eq_some_iff.mp found).1
  intro id exchange here inline
  have awaited := attended id exchange here inline
  by_cases same : index = exchange.connection
  · subst same
    rw [found, Option.some.injEq] at awaited
    rcases released id exchange here awaited with away | stays
    · rw [away] at inline
      cases inline
    · exact stays ▸ List.getElem?_set_self bound
  · exact (List.getElem?_set_ne same).trans awaited

theorem Attended.passOn {connection later : Connection} (attended : s.Attended)
    (found : s.connections[index]? = some connection)
    (other : ∀ id, connection ≠ .handling id) : (s.setConnection index later).Attended :=
  attended.setConnection found fun id _ _ same => absurd same (other id)

theorem Attended.setHandler {exchange : Exchange} {handler : Handler} {act : HandlerAction}
    (attended : s.Attended) (found : s.exchanges[id]? = some exchange)
    (moved : exchange.handler.step act = some handler) :
    (s.setHandler id exchange handler).Attended := by
  have bound : id < s.exchanges.length := (List.getElem?_eq_some_iff.mp found).1
  intro other each here inline
  simp only [Server.setHandler] at here
  by_cases same : id = other
  · subst same
    rw [List.getElem?_set_self bound, Option.some.injEq] at here
    subst here
    apply attended id exchange found
    apply Bool.of_not_eq_false
    intro away
    rw [Handler.inline_step away moved] at inline
    cases inline
  · rw [List.getElem?_set_ne same] at here
    exact attended other each here inline

theorem Attended.enterFlight {call : Call} (attended : s.Attended)
    (found : s.connections[index]? = some (.admitted call)) :
    (s.enterFlight index call).Attended := by
  have bound : index < s.connections.length := (List.getElem?_eq_some_iff.mp found).1
  have moved : (s.setConnection index (.handling s.exchanges.length)).Attended :=
    attended.passOn found fun _ => nofun
  intro id exchange here inline
  simp only [Server.enterFlight] at here
  rcases Nat.lt_or_ge id s.exchanges.length with old | new
  · rw [List.getElem?_append_left old] at here
    exact moved id exchange here inline
  · rw [List.getElem?_append_right new] at here
    rcases List.getElem?_eq_some_iff.mp here with ⟨first, rfl⟩
    simp only [List.length_singleton] at first
    have last : id = s.exchanges.length := by omega
    subst last
    simp only [Nat.sub_self, List.getElem_cons_zero, Server.enterFlight, Server.setConnection]
    exact List.getElem?_set_self bound

theorem Attended.finish {exchange : Exchange} (attended : s.Attended)
    (found : s.connections[index]? = some (.writing id))
    (held : s.exchanges[id]? = some exchange) : (s.finish index id exchange).Attended := by
  have bound : id < s.exchanges.length := (List.getElem?_eq_some_iff.mp held).1
  have moved : (s.setConnection index
      (if exchange.handler.isWebsocket then .ended else .idle)).Attended :=
    attended.passOn found fun _ => nofun
  intro other each here inline
  simp only [Server.finish] at here
  by_cases same : id = other
  · subst same
    rw [List.getElem?_set_self bound, Option.some.injEq] at here
    subst here
    exact moved id exchange held inline
  · rw [List.getElem?_set_ne same] at here
    exact moved other each here inline

theorem Attended.stepConnection {connection : Connection} {act : ConnectionAction}
    (attended : s.Attended) (whole : s.Whole) (found : s.connections[index]? = some connection)
    (stepped : ConnectionStep config s index connection act next) : next.Attended := by
  cases stepped with
  | refuse | enter | refused | recycle | proceed | dropResponse =>
      exact attended.passOn found fun _ => nofun
  | @count id =>
      have moved : (s.setConnection index (.counted id (s.completed + 1))).Attended :=
        attended.passOn found fun _ => nofun
      exact moved
  | @trigger id call later =>
      have moved : (s.setConnection index (.recycling id later)).Attended :=
        attended.passOn found fun _ => nofun
      exact moved
  | @triggered id =>
      have moved : (s.setConnection index (.writing id)).Attended :=
        attended.passOn found fun _ => nofun
      exact moved
  | guard => exact attended.enterFlight found
  | @answer id exchange held responded =>
      apply attended.setConnection found
      intro other each here same
      cases same
      rw [held, Option.some.injEq] at here
      subst here
      exact .inl (Handler.inline_of_responded (whole _ (List.mem_of_getElem? held)).1 responded)
  | take held moved => exact attended.setHandler held moved
  | finish held => exact attended.finish found held
  | leave free =>
      apply attended.setConnection found
      rintro other each _ rfl
      cases free
  | @dropService id exchange handler held moved =>
      apply (attended.setHandler held moved).setConnection found
      intro other each here same
      cases same
      have bound : id < s.exchanges.length := (List.getElem?_eq_some_iff.mp held).1
      simp only [Server.setHandler] at here
      rw [List.getElem?_set_self bound, Option.some.injEq] at here
      subst here
      exact .inl (Handler.inline_of_dropService moved)
  | dropBody held moved => exact (attended.setHandler held moved).passOn found fun _ => nofun

theorem Attended.step (attended : s.Attended) (whole : s.Whole)
    (stepped : s.step config action = some next) : next.Attended := by
  cases step_cases stepped with
  | serve stepped => cases stepped <;> exact attended
  | gracefulTimeout | watcher | heartbeat => exact attended
  | acceptor _ stepped =>
      cases stepped with
      | leave | enter | park | wake | accept | handshake => exact attended
      | spawn =>
          intro id exchange here inline
          have awaited := attended id exchange here inline
          have bound := (List.getElem?_eq_some_iff.mp awaited).1
          exact (List.getElem?_append_left bound).trans awaited
  | connection found stepped => exact attended.stepConnection whole found stepped
  | handler found _ moved => exact attended.setHandler found moved

theorem attended_init (config : ServeConfig) : (init config).Attended := by
  intro id exchange here
  simp [init] at here

/-- No handler takes an application for ended that runs. -/
def Minded (s : Server) : Prop :=
  ∀ exchange ∈ s.exchanges, exchange.handler.Watched

theorem Minded.step (minded : s.Minded) (stepped : s.step config action = some next) :
    next.Minded := by
  refine exchanges_step ?_ ?_ ?_ minded stepped
  · intro _ call
    exact Handler.watched_start call
  · intro _ _ _ watched moved
    exact watched.step moved
  · intro _ watched _
    exact watched

/-- `serve` has joined the accept tasks. -/
def hasJoined (s : Server) : Bool :=
  match s.serve with
  | .draining | .sleeping | .drained _ | .closing _ | .done => true
  | _ => false

def Joined (s : Server) : Prop :=
  s.hasJoined = true → ∀ acceptor ∈ s.acceptors, acceptor.stage = .ended

theorem AcceptorStep.not_ended {acceptor : Acceptor}
    (stepped : AcceptorStep s index acceptor next) :
    acceptor.stage ≠ .ended := by
  cases stepped with
  | accept stage => rcases stage with stage | stage <;> simp [stage]
  | leave stage | enter stage | park stage | wake stage | handshake stage | spawn stage =>
      simp [stage]

theorem Joined.step (joined : s.Joined) (stepped : s.step config action = some next) :
    next.Joined := by
  cases step_cases stepped with
  | serve stepped =>
      cases stepped with
      | await | wake | sample => exact nofun
      | drain _ ended | skip _ ended => exact fun _ => ended
      | empty stage | timeout stage | sleep stage | again stage | abort stage | finish stage =>
          exact fun _ => joined (by simp [hasJoined, stage])
  | gracefulTimeout | watcher | heartbeat | handler => exact joined
  | acceptor found stepped =>
      have earlier : next.hasJoined = s.hasJoined := by cases stepped <;> rfl
      intro later
      have ended := joined (earlier ▸ later) _ (List.mem_of_getElem? found)
      exact absurd ended stepped.not_ended
  | connection found stepped =>
      rcases stepped.calling found with ⟨_, _, _, serve, acceptors, _⟩
      rw [Joined, hasJoined, serve, acceptors]
      exact joined

/-- The handlers that invoke their application. -/
def invocations (_ : Server) : Action → List ℕ
  | .handler id action => if action.invokes then [id] else []
  | _ => []

/-- No task of a connection or a request is running, and after a drain that has read zero no
application that has been invoked. -/
structure NothingOutlives (reason : DrainEnd) (invoked : List ℕ) (s : Server) : Prop where
  connections : ∀ connection ∈ s.connections, connection.isEnded = true
  responders : ∀ exchange ∈ s.exchanges, exchange.handler.hasResponder = false
  drivers : ∀ exchange ∈ s.exchanges, exchange.handler.hasDriver = false
  reapers : ∀ exchange ∈ s.exchanges, exchange.handler.hasReaper = false
  applications : reason = .empty → ∀ id ∈ invoked, ∀ exchange, s.exchanges[id]? = some exchange →
    exchange.handler.appRunning = false

/-- From the return of `serve` on nothing runs, and nothing is invoked. -/
def Quiet (config : ServeConfig) (reason : DrainEnd) (invoked : List ℕ) (returned : Server) :
    Prop :=
  ∀ later final, run (step config) returned later = some final →
    NothingOutlives reason invoked final ∧ trace (step config) invocations returned later = []

/-- What `serve` finds when the connection tasks are joined: no guard is alive, no reaper is
running, and after a drain that has read zero every application that was let go without its end
having been seen has returned. -/
structure Settled (reason : DrainEnd) (invoked : List ℕ) (s : Server) : Prop where
  flights : s.inFlight = 0
  reapers : ∀ exchange ∈ s.exchanges, exchange.handler.hasReaper = false
  applications : reason = .empty → ∀ id ∈ invoked, ∀ exchange, s.exchanges[id]? = some exchange →
    exchange.handler.observed = false → exchange.handler.appRunning = false

/-- `serve` has returned and left nothing behind. -/
structure AtRest (s : Server) : Prop where
  returned : s.serve = .done
  acceptors : ∀ acceptor ∈ s.acceptors, acceptor.stage = .ended
  connections : ∀ connection ∈ s.connections, connection.isEnded = true
  handlers : ∀ exchange ∈ s.exchanges,
    exchange.handler.finished = true ∧ exchange.handler.hasReaper = false

def StillRunning (s next : Server) : Prop :=
  ∀ (id : ℕ) (exchange : Exchange), next.exchanges[id]? = some exchange →
    exchange.handler.appRunning = true →
    ∃ before, s.exchanges[id]? = some before ∧ before.handler.appRunning = true

theorem AtRest.setHandler {exchange : Exchange} {handler : Handler} {act : HandlerAction}
    (rest : s.AtRest) (found : s.exchanges[id]? = some exchange)
    (moved : exchange.handler.step act = some handler) :
    (s.setHandler id exchange handler).AtRest ∧ s.StillRunning (s.setHandler id exchange handler) ∧
      act.invokes = false := by
  have bound : id < s.exchanges.length := (List.getElem?_eq_some_iff.mp found).1
  rcases rest.handlers exchange (List.mem_of_getElem? found) with ⟨finished, reaper⟩
  rcases Handler.done_step finished moved with ⟨running, reaping, invokes⟩
  refine ⟨⟨rest.returned, rest.acceptors, rest.connections, ?_⟩, ?_, invokes⟩
  · intro each member
    rcases List.mem_or_eq_of_mem_set member with before | rfl
    · exact rest.handlers each before
    · refine ⟨Handler.finished_step finished moved, Bool.eq_false_iff.mpr ?_⟩
      intro waiting
      rw [reaping waiting] at reaper
      cases reaper
  · intro other each here runs
    simp only [Server.setHandler] at here
    by_cases same : id = other
    · subst same
      rw [List.getElem?_set_self bound, Option.some.injEq] at here
      subst here
      exact ⟨exchange, found, running runs⟩
    · rw [List.getElem?_set_ne same] at here
      exact ⟨each, here, runs⟩

theorem AtRest.step (rest : s.AtRest) (stepped : s.step config action = some next) :
    next.AtRest ∧ s.StillRunning next ∧ s.invocations action = [] := by
  have same : s.StillRunning s := fun id exchange here runs => ⟨exchange, here, runs⟩
  cases step_cases stepped with
  | serve stepped =>
      have returned := rest.returned
      cases stepped with
      | await stage | wake stage | sample stage | drain stage | skip stage | empty stage
      | timeout stage | sleep stage | again stage | abort stage | finish stage =>
          rw [returned] at stage
          cases stage
  | gracefulTimeout stage =>
      rw [rest.returned] at stage
      rcases stage with stage | stage <;> cases stage
  | watcher | heartbeat =>
      exact ⟨⟨rest.returned, rest.acceptors, rest.connections, rest.handlers⟩, same, rfl⟩
  | acceptor found stepped =>
      exact absurd (rest.acceptors _ (List.mem_of_getElem? found)) stepped.not_ended
  | connection found stepped =>
      have ended := rest.connections _ (List.mem_of_getElem? found)
      cases stepped with
      | leave =>
          refine ⟨⟨rest.returned, rest.acceptors, ?_, rest.handlers⟩, same, rfl⟩
          intro connection member
          rcases List.mem_or_eq_of_mem_set member with before | rfl
          · exact rest.connections connection before
          · rfl
      | _ => cases ended
  | handler found _ moved =>
      rcases rest.setHandler found moved with ⟨still, running, invokes⟩
      exact ⟨still, running, by simp [invocations, invokes]⟩

theorem run_of_atRest {later : List Action} (rest : s.AtRest)
    (ran : run (step config) s later = some final) :
    final.AtRest ∧ s.StillRunning final ∧ trace (step config) invocations s later = [] := by
  have start : s.AtRest ∧ s.StillRunning s ∧ ([] : List ℕ) = [] :=
    ⟨rest, fun id exchange here runs => ⟨exchange, here, runs⟩, rfl⟩
  refine trace_invariant
    (fun current seen => current.AtRest ∧ s.StillRunning current ∧ seen = []) ?_ ran start
  rintro current action next seen ⟨rest, running, rfl⟩ stepped
  rcases rest.step stepped with ⟨still, before, invokes⟩
  refine ⟨still, ?_, by simp [invokes]⟩
  intro id exchange here runs
  rcases before id exchange here runs with ⟨earlier, found, ran⟩
  exact running id earlier found ran

theorem AtRest.nothingOutlives {reason : DrainEnd} {invoked : List ℕ} (rest : s.AtRest)
    (applications : reason = .empty → ∀ id ∈ invoked, ∀ exchange,
      s.exchanges[id]? = some exchange → exchange.handler.appRunning = false) :
    NothingOutlives reason invoked s where
  connections := rest.connections
  responders := fun exchange member =>
    (Handler.finished_iff.mp (rest.handlers exchange member).1).2.1
  drivers := fun exchange member =>
    (Handler.finished_iff.mp (rest.handlers exchange member).1).2.2
  reapers := fun exchange member => (rest.handlers exchange member).2
  applications := applications

structure Tracked (s : Server) : Prop where
  counted : s.Counted
  whole : s.Whole
  attended : s.Attended
  minded : s.Minded
  joined : s.Joined

theorem Tracked.step (tracked : s.Tracked) (stepped : s.step config action = some next) :
    next.Tracked where
  counted := tracked.counted.step stepped
  whole := tracked.whole.step stepped
  attended := tracked.attended.step tracked.whole stepped
  minded := tracked.minded.step stepped
  joined := tracked.joined.step stepped

theorem tracked_init (config : ServeConfig) : (init config).Tracked where
  counted := counted_init config
  whole := whole_init config
  attended := attended_init config
  minded := by
    intro exchange member
    cases member
  joined := by
    intro joined
    cases joined

theorem Attended.away (attended : s.Attended)
    (ended : ∀ connection ∈ s.connections, connection.isEnded = true) :
    ∀ exchange ∈ s.exchanges, exchange.handler.inline = false := by
  intro exchange member
  rcases List.mem_iff_getElem?.mp member with ⟨id, here⟩
  apply Bool.eq_false_iff.mpr
  intro inline
  cases ended _ (List.mem_of_getElem? (attended id exchange here inline))

theorem Counted.inFlight_eq_zero (counted : s.Counted) :
    s.inFlight = 0 ↔ ∀ exchange ∈ s.exchanges, exchange.handler.finished = true := by
  rw [counted, guards, List.countP_eq_zero]
  simp

theorem returned_of_closing {reason : DrainEnd} (closing : s.serve = .closing reason)
    (returns : s.step config .serve = some next) :
    (∀ connection ∈ s.connections, connection.isEnded = true) ∧
      next = { s with serve := .done } := by
  cases step_cases returns with
  | serve stepped =>
      cases stepped with
      | finish _ ended => exact ⟨ended, rfl⟩
      | await stage | wake stage | sample stage | drain stage | skip stage | empty stage
      | timeout stage | sleep stage | again stage | abort stage =>
          rw [closing] at stage
          cases stage

/-- When `serve` returns, nothing it has started for a request is left, now and from now on,
exactly when all that only the guards and the reapers know of has come to its end. -/
theorem quiet_iff_settled {reason : DrainEnd}
    (ran : run (step config) (init config) actions = some s) (closing : s.serve = .closing reason)
    (returns : s.step config .serve = some next) :
    Quiet config reason (trace (step config) invocations (init config) actions) next ↔
      Settled reason (trace (step config) invocations (init config) actions) s := by
  have tracked : s.Tracked := run_invariant_of_step Tracked
    (fun _ _ _ tracked stepped => tracked.step stepped) ran (tracked_init config)
  generalize trace (step config) invocations (init config) actions = invoked
  rcases returned_of_closing closing returns with ⟨ended, rfl⟩
  have away := tracked.attended.away ended
  constructor
  · intro quiet
    rcases quiet [] _ rfl with ⟨nothing, _⟩
    refine ⟨?_, nothing.reapers, ?_⟩
    · rw [tracked.counted.inFlight_eq_zero]
      intro exchange member
      exact Handler.finished_iff.mpr
        ⟨away exchange member, nothing.responders exchange member, nothing.drivers exchange member⟩
    · intro drained id invokes exchange here _
      exact nothing.applications drained id invokes exchange here
  · intro settled later final ran
    have finished := tracked.counted.inFlight_eq_zero.mp settled.flights
    have rest : ({ s with serve := .done } : Server).AtRest :=
      ⟨rfl, tracked.joined (by simp [hasJoined, closing]), ended,
        fun exchange member => ⟨finished exchange member, settled.reapers exchange member⟩⟩
    rcases run_of_atRest rest ran with ⟨still, running, none_⟩
    refine ⟨still.nothingOutlives ?_, none_⟩
    intro drained id invokes exchange here
    apply Bool.eq_false_iff.mpr
    intro runs
    rcases running id exchange here runs with ⟨before, found, ran⟩
    have watched := tracked.minded before (List.mem_of_getElem? found)
    cases seen : before.handler.observed with
    | true =>
        rw [watched.ended seen] at ran
        cases ran
    | false =>
        rw [settled.applications drained id invokes before found seen] at ran
        cases ran

/-- The end of a graceful shutdown, from the connection that has taken its response on. -/
def closeRun : List Action :=
  [.connection 0 .take, .connection 0 .finish] ++ terminateRun ++ [.serve, .connection 0 .close]

/-- The application of `answerRun` returns before its handler looks for its end. -/
def returnRun : List Action :=
  answerRun.dropLast ++ [.handler 0 (.http (.exit .returned)), .handler 0 (.http .settle),
    .handler 0 (.http .poll)] ++ closeRun

theorem quiet_iff_settled_returned :
    ∃ s next, run (step oneListener) (init oneListener) returnRun = some s ∧
      s.serve = .closing .empty ∧ s.step oneListener .serve = some next ∧
      Quiet oneListener .empty (trace (step oneListener) invocations (init oneListener) returnRun)
        next := by
  have ran : ∃ s, run (step oneListener) (init oneListener) returnRun = some s ∧
      s.serve = .closing .empty ∧ s.inFlight = 0 ∧
      (∀ exchange ∈ s.exchanges,
        exchange.handler.hasReaper = false ∧ exchange.handler.appRunning = false) ∧
      (s.step oneListener .serve).isSome = true :=
    exists_of_run_any (by decide +kernel)
  rcases ran with ⟨s, ran, closing, flights, exchanges, returns⟩
  rcases Option.isSome_iff_exists.mp returns with ⟨next, returns⟩
  refine ⟨s, next, ran, closing, returns, (quiet_iff_settled ran closing returns).mpr ?_⟩
  refine ⟨flights, fun exchange member => (exchanges exchange member).1, ?_⟩
  intro _ id _ exchange here _
  exact (exchanges exchange (List.mem_of_getElem? here)).2

/-- The application goes on after its last chunk: its reaper and itself outlive `serve`. -/
theorem application_outlives :
    ∃ s next, run (step oneListener) (init oneListener) (answerRun ++ closeRun) = some s ∧
      s.serve = .closing .empty ∧ s.step oneListener .serve = some next ∧
      ¬ Quiet oneListener .empty
        (trace (step oneListener) invocations (init oneListener) (answerRun ++ closeRun)) next := by
  have ran : ∃ s, run (step oneListener) (init oneListener) (answerRun ++ closeRun) = some s ∧
      s.serve = .closing .empty ∧
      (s.step oneListener .serve).any (fun next =>
        next.exchanges.any fun exchange => exchange.handler.hasReaper) = true :=
    exists_of_run_any (by decide +kernel)
  rcases ran with ⟨s, ran, closing, reaping⟩
  cases returns : s.step oneListener .serve with
  | none =>
      rw [returns] at reaping
      cases reaping
  | some next =>
      rw [returns, Option.any_some, List.any_eq_true] at reaping
      rcases reaping with ⟨exchange, member, waiting⟩
      refine ⟨s, next, ran, closing, returns, ?_⟩
      intro quiet
      have ended := (quiet [] next rfl).1.reapers exchange member
      rw [waiting] at ended
      cases ended

end Server

end RustAsgi
