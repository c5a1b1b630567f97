import RustAsgi.Http.Body
import RustAsgi.Server.Serve

/-!
# What the tasks of the worker can do

The steps of every task, one constructor for each way a step can go. Every
invariant of the worker is proved by cases on these. A handler that has let go of
its guard never takes it back.
-/

namespace RustAsgi

open Tokio

universe u

/-- How replacing one member of a list changes a count over it. -/
theorem countP_set_add {α : Type u} {list : List α} {index : ℕ} {old : α} (counts : α → Bool)
    (found : list[index]? = some old) (new : α) :
    (list.set index new).countP counts + (if counts old then 1 else 0) =
      list.countP counts + if counts new then 1 else 0 := by
  rcases List.getElem?_eq_some_iff.mp found with ⟨bound, here⟩
  rw [List.countP_set bound, here]
  have counted : (if counts old then 1 else 0) ≤ list.countP counts := by
    split
    · exact List.countP_pos_iff.mpr ⟨old, List.mem_of_getElem? found, ‹_›⟩
    · exact Nat.zero_le _
  omega

theorem countP_set_of_eq {α : Type u} {list : List α} {index : ℕ} {old new : α} {counts : α → Bool}
    (found : list[index]? = some old) (same : counts new = counts old) :
    (list.set index new).countP counts = list.countP counts := by
  have changed := countP_set_add counts found new
  rw [same] at changed
  exact Nat.add_right_cancel changed

theorem Ws.step_done {s next : Ws} {action : Ws.Action} (done : s.stage = .done)
    (stepped : s.step action = some next) : next.stage = .done := by
  have stays : next.stage = s.stage := by
    cases action with
    | setup succeeded => simp [Ws.step, done] at stepped
    | poll => simp [Ws.step, Ws.poll, done] at stepped
    | push event behind =>
        simp only [Ws.step, done, reduceCtorEq, if_false, Ws.push] at stepped
        grind
    | unpark index =>
        simp only [Ws.step, done, reduceCtorEq, if_false, Option.map_eq_some_iff] at stepped
        rcases stepped with ⟨chan, _, rfl⟩
        exact done.symm
    | turn =>
        simp only [Ws.step, Option.map_eq_some_iff] at stepped
        rcases stepped with ⟨loop, _, rfl⟩
        rfl
    | _ => grind [Ws.step]
  rw [stays, done]

namespace Handler

/-- A guard that has been dropped does not come back. -/
theorem finished_step {handler next : Handler} {action : HandlerAction}
    (finished : handler.finished = true) (stepped : handler.step action = some next) :
    next.finished = true := by
  cases handler with
  | answering => cases finished
  | answered => cases action <;> simp [step] at stepped
  | http request state =>
      cases action with
      | http act =>
          simp only [step, Option.map_eq_some_iff] at stepped
          rcases stepped with ⟨after, stepped, rfl⟩
          simp only [Handler.finished, decide_eq_true_eq] at finished ⊢
          exact Http.step_done finished stepped
      | answer | upgraded | ws => simp [step] at stepped
  | switching => cases finished
  | upgrading => cases finished
  | driving state =>
      cases action with
      | ws act =>
          simp only [step, Option.map_eq_some_iff] at stepped
          rcases stepped with ⟨after, stepped, rfl⟩
          simp only [Handler.finished, decide_eq_true_eq] at finished ⊢
          exact Ws.step_done finished stepped
      | answer | upgraded | http => simp [step] at stepped
  | upgradeFailed => cases action <;> simp [step] at stepped

theorem finished_start (call : Call) : (start call).finished = false := by
  cases call <;> rfl

theorem drained_http {request : Request} {state : Http} :
    (Handler.http request state).drained = true ↔ state.Complete := by
  simp [drained, Http.Complete]

def Ordered : Handler → Prop
  | .http _ state => state.Ordered
  | _ => True

theorem ordered_start (call : Call) : (start call).Ordered := by
  cases call with
  | immediate => trivial
  | http request body => exact Http.ordered_init request body
  | websocket => trivial

theorem step_http {request : Request} {state : Http} {next : Handler} {action : HandlerAction}
    (stepped : (Handler.http request state).step action = some next) :
    ∃ act after, state.step request act = some after ∧ next = .http request after := by
  cases action with
  | http act =>
      simp only [step, Option.map_eq_some_iff] at stepped
      rcases stepped with ⟨after, stepped, rfl⟩
      exact ⟨act, after, stepped, rfl⟩
  | answer | upgraded | ws => simp [step] at stepped

/-- A handler that does not run `handle_http`. -/
def Other (handler : Handler) : Prop :=
  ∀ (request : Request) (state : Http), handler ≠ .http request state

theorem Other.ordered {handler : Handler} (other : handler.Other) : handler.Ordered := by
  cases handler with
  | http request state => exact absurd rfl (other request state)
  | _ => trivial

theorem Other.drained {handler : Handler} (other : handler.Other) : handler.drained = true := by
  cases handler with
  | http request state => exact absurd rfl (other request state)
  | _ => rfl

theorem Other.step {handler next : Handler} {action : HandlerAction} (other : handler.Other)
    (stepped : handler.step action = some next) : next.Other := by
  rintro request state rfl
  cases handler with
  | http before inner => exact other before inner rfl
  | answering | answered | switching | upgradeFailed =>
      cases action <;> simp [Handler.step] at stepped
  | upgrading =>
      cases action with
      | upgraded succeeded => cases succeeded <;> simp [Handler.step] at stepped
      | answer | http | ws => simp [Handler.step] at stepped
  | driving inner => cases action <;> simp [Handler.step] at stepped

theorem other_of_not_http (handler : Handler) :
    handler.Other ∨ ∃ request state, handler = .http request state := by
  cases handler with
  | http request state => exact .inr ⟨request, state, rfl⟩
  | _ => exact .inl fun _ _ => nofun

theorem Ordered.step {handler next : Handler} {action : HandlerAction} (ordered : handler.Ordered)
    (stepped : handler.step action = some next) : next.Ordered := by
  rcases other_of_not_http handler with other | ⟨request, state, rfl⟩
  · exact (other.step stepped).ordered
  · rcases step_http stepped with ⟨act, after, moved, rfl⟩
    exact Http.Ordered.step ordered moved

/-- A response that is at its end stays there. -/
theorem drained_step {handler next : Handler} {action : HandlerAction} (ordered : handler.Ordered)
    (drained : handler.drained = true) (stepped : handler.step action = some next) :
    next.drained = true := by
  rcases other_of_not_http handler with other | ⟨request, state, rfl⟩
  · exact (other.step stepped).drained
  · rcases step_http stepped with ⟨act, after, moved, rfl⟩
    exact drained_http.mpr (Http.Complete.step (drained_http.mp drained) ordered moved)

end Handler

def ConnectionAction.advances : ConnectionAction → Bool
  | .advance => true
  | _ => false

/-- The connection has no admitted request. -/
def Connection.isFree : Connection → Bool
  | .idle | .refusing | .ended => true
  | _ => false

theorem Connection.isFree_iff {connection : Connection} :
    connection.isFree = true ↔ connection.serving? = none ∧ connection.isAdmitted = false := by
  cases connection <;> simp [isFree, serving?, isAdmitted]

namespace Server

variable {config : ServeConfig} {s next : Server} {index : ℕ}

inductive ServeStep (s : Server) : Server → Prop where
  | await (stage : s.serve = .start) :
      ServeStep s { s with
        serve := .waiting
        shutdown := { s.shutdown with notify := s.shutdown.notify.notified .serve } }
  | wake (stage : s.serve = .waiting) (woken : ¬ s.shutdown.notify.Waits .serve) :
      ServeStep s { s with serve := .awake }
  | sample (stage : s.serve = .awake) : ServeStep s { s with serve := .joining s.shutdown.kind }
  | drain (stage : s.serve = .joining .graceful)
      (ended : ∀ acceptor ∈ s.acceptors, acceptor.stage = .ended) :
      ServeStep s { s with serve := .draining }
  | skip (stage : s.serve = .joining .quick)
      (ended : ∀ acceptor ∈ s.acceptors, acceptor.stage = .ended) :
      ServeStep s { s with serve := .drained .quick }
  | empty (stage : s.serve = .draining) (nothing : s.inFlight = 0) :
      ServeStep s { s with serve := .drained .empty }
  | timeout (stage : s.serve = .draining) (something : s.inFlight ≠ 0)
      (expired : s.expired = true) :
      ServeStep s { s with serve := .drained .timeout }
  | sleep (stage : s.serve = .draining) (something : s.inFlight ≠ 0) (early : s.expired = false) :
      ServeStep s { s with serve := .sleeping }
  | again (stage : s.serve = .sleeping) : ServeStep s { s with serve := .draining }
  | abort {reason : DrainEnd} (stage : s.serve = .drained reason) :
      ServeStep s { s with serve := .closing reason }
  | finish {reason : DrainEnd} (stage : s.serve = .closing reason)
      (ended : ∀ connection ∈ s.connections, connection.isEnded = true) :
      ServeStep s { s with serve := .done }

theorem stepServe_cases (stepped : s.stepServe = some next) : ServeStep s next := by
  cases stage : s.serve with
  | start =>
      simp only [stepServe, stage, Option.some.injEq] at stepped
      exact stepped ▸ .await stage
  | waiting =>
      simp only [stepServe, stage, Option.ite_none_left_eq_some, Option.some.injEq] at stepped
      rcases stepped with ⟨woken, rfl⟩
      exact .wake stage woken
  | awake =>
      simp only [stepServe, stage, Option.some.injEq] at stepped
      exact stepped ▸ .sample stage
  | joining kind =>
      simp only [stepServe, stage, Option.ite_none_right_eq_some, Option.some.injEq,
        List.all_eq_true, decide_eq_true_eq] at stepped
      rcases stepped with ⟨ended, rfl⟩
      cases kind with
      | graceful => exact .drain stage ended
      | quick => exact .skip stage ended
  | draining =>
      simp only [stepServe, stage] at stepped
      by_cases nothing : s.inFlight = 0
      · rw [if_pos nothing, Option.some.injEq] at stepped
        exact stepped ▸ .empty stage nothing
      · rw [if_neg nothing] at stepped
        by_cases expired : s.expired = true
        · rw [if_pos expired, Option.some.injEq] at stepped
          exact stepped ▸ .timeout stage nothing expired
        · rw [if_neg expired, Option.some.injEq] at stepped
          exact stepped ▸ .sleep stage nothing (Bool.eq_false_iff.mpr expired)
  | sleeping =>
      simp only [stepServe, stage, Option.some.injEq] at stepped
      exact stepped ▸ .again stage
  | drained reason =>
      simp only [stepServe, stage, Option.some.injEq] at stepped
      exact stepped ▸ .abort stage
  | closing reason =>
      simp only [stepServe, stage, Option.ite_none_right_eq_some, Option.some.injEq,
        List.all_eq_true] at stepped
      rcases stepped with ⟨ended, rfl⟩
      exact .finish stage ended
  | done => simp [stepServe, stage] at stepped

inductive AcceptorStep (s : Server) (index : ℕ) (acceptor : Acceptor) : Server → Prop where
  | leave (stage : acceptor.stage = .check) (set : s.shutdown.flag = true) :
      AcceptorStep s index acceptor (s.setAcceptor index acceptor .ended)
  | enter (stage : acceptor.stage = .check) (unset : s.shutdown.flag = false) :
      AcceptorStep s index acceptor (s.setAcceptor index acceptor .select)
  | park (stage : acceptor.stage = .select) :
      AcceptorStep s index acceptor
        { s.setAcceptor index acceptor .selecting with
          shutdown := { s.shutdown with notify := s.shutdown.notify.notified (.acceptor index) } }
  | wake (stage : acceptor.stage = .selecting)
      (woken : ¬ s.shutdown.notify.Waits (.acceptor index)) :
      AcceptorStep s index acceptor (s.setAcceptor index acceptor .ended)
  | accept {later : AcceptorStage} (stage : acceptor.stage = .select ∨ acceptor.stage = .selecting)
      (after : later = .check ∨ (later = .handshake ∧ acceptor.listener = .tls) ∨
        (later = .spawning ∧ acceptor.listener = .plain)) :
      AcceptorStep s index acceptor ((s.dropWait index).setAcceptor index acceptor later)
  | handshake {later : AcceptorStage} (stage : acceptor.stage = .handshake)
      (after : later = .spawning ∨ later = .check) :
      AcceptorStep s index acceptor (s.setAcceptor index acceptor later)
  | spawn (stage : acceptor.stage = .spawning) :
      AcceptorStep s index acceptor
        { s.setAcceptor index acceptor .check with connections := s.connections ++ [.idle] }

theorem stepAcceptor_cases {acceptor : Acceptor} {action : AcceptorAction}
    (stepped : s.stepAcceptor index acceptor action = some next) :
    AcceptorStep s index acceptor next := by
  cases action with
  | check =>
      simp only [stepAcceptor, Option.ite_none_right_eq_some, Option.some.injEq] at stepped
      rcases stepped with ⟨stage, rfl⟩
      cases flag : s.shutdown.flag with
      | true => exact .leave stage flag
      | false => exact .enter stage flag
  | park =>
      simp only [stepAcceptor, Option.ite_none_right_eq_some, Option.some.injEq] at stepped
      rcases stepped with ⟨stage, rfl⟩
      exact .park stage
  | wake =>
      simp only [stepAcceptor, Option.ite_none_right_eq_some, Option.some.injEq] at stepped
      rcases stepped with ⟨⟨stage, woken⟩, rfl⟩
      exact .wake stage woken
  | accept succeeded =>
      simp only [stepAcceptor, Option.ite_none_right_eq_some, Option.some.injEq] at stepped
      rcases stepped with ⟨stage, rfl⟩
      apply AcceptorStep.accept stage
      cases succeeded with
      | false => exact .inl rfl
      | true => cases acceptor.listener <;> simp
  | handshake succeeded =>
      simp only [stepAcceptor, Option.ite_none_right_eq_some, Option.some.injEq] at stepped
      rcases stepped with ⟨stage, rfl⟩
      apply AcceptorStep.handshake stage
      cases succeeded <;> simp
  | spawn =>
      simp only [stepAcceptor, Option.ite_none_right_eq_some, Option.some.injEq] at stepped
      rcases stepped with ⟨stage, rfl⟩
      exact .spawn stage

/-- The steps of the connection task at `index`, from what it is doing and the action. -/
inductive ConnectionStep (config : ServeConfig) (s : Server) (index : ℕ) :
    Connection → ConnectionAction → Server → Prop where
  | refuse {call : Call} (set : s.shutdown.flag = true) :
      ConnectionStep config s index .idle (.request call) (s.setConnection index .refusing)
  | enter {call : Call} (unset : s.shutdown.flag = false) :
      ConnectionStep config s index .idle (.request call) (s.setConnection index (.admitted call))
  | refused : ConnectionStep config s index .refusing .refused (s.setConnection index .idle)
  | guard {call : Call} :
      ConnectionStep config s index (.admitted call) .guard (s.enterFlight index call)
  | answer {id : ℕ} {exchange : Exchange} (found : s.exchanges[id]? = some exchange)
      (responded : exchange.handler.responded = true) :
      ConnectionStep config s index (.handling id) .handled (s.setConnection index (.returned id))
  | count {id : ℕ} :
      ConnectionStep config s index (.returned id) .count
        { s.setConnection index (.counted id (s.completed + 1)) with completed := s.completed + 1 }
  | recycle {id done : ℕ} (reached : 0 < config.maxRequests ∧ config.maxRequests ≤ done) :
      ConnectionStep config s index (.counted id done) .compare
        (s.setConnection index (.recycling id (Shutdown.trigger .graceful)))
  | proceed {id done : ℕ} (below : ¬ (0 < config.maxRequests ∧ config.maxRequests ≤ done)) :
      ConnectionStep config s index (.counted id done) .compare
        (s.setConnection index (.writing id))
  | trigger {id : ℕ} {call later : Trigger} (advanced : (s.shutdown.advance call).2 = some later) :
      ConnectionStep config s index (.recycling id call) .advance
        { s.setConnection index (.recycling id later) with
          shutdown := (s.shutdown.advance call).1 }
  | triggered {id : ℕ} {call : Trigger} (advanced : (s.shutdown.advance call).2 = none) :
      ConnectionStep config s index (.recycling id call) .advance
        { s.setConnection index (.writing id) with shutdown := (s.shutdown.advance call).1 }
  | take {id : ℕ} {exchange : Exchange} {handler : Handler}
      (found : s.exchanges[id]? = some exchange)
      (stepped : exchange.handler.step (.http .takeChunk) = some handler) :
      ConnectionStep config s index (.writing id) .take (s.setHandler id exchange handler)
  | finish {id : ℕ} {exchange : Exchange} (found : s.exchanges[id]? = some exchange)
      (drained : exchange.handler.drained = true) :
      ConnectionStep config s index (.writing id) .finish (s.finish index id exchange)
  | leave {connection : Connection} (free : connection.isFree = true) :
      ConnectionStep config s index connection .close (s.setConnection index .ended)
  | dropService {id : ℕ} {exchange : Exchange} {handler : Handler}
      (found : s.exchanges[id]? = some exchange)
      (stepped : exchange.handler.step (.http .dropService) = some handler) :
      ConnectionStep config s index (.handling id) .close
        ((s.setHandler id exchange handler).setConnection index .ended)
  | dropBody {id : ℕ} {exchange : Exchange} {handler : Handler}
      (found : s.exchanges[id]? = some exchange)
      (stepped : exchange.handler.step (.http .dropBody) = some handler) :
      ConnectionStep config s index (.writing id) .close
        ((s.setHandler id exchange handler).setConnection index .ended)
  | dropResponse {id : ℕ} {exchange : Exchange} (found : s.exchanges[id]? = some exchange) :
      ConnectionStep config s index (.writing id) .close (s.setConnection index .ended)

theorem stepHandler_eq_some {id : ℕ} {exchange : Exchange} {action : HandlerAction}
    (stepped : s.stepHandler id exchange action = some next) :
    ∃ handler, exchange.handler.step action = some handler ∧
      next = s.setHandler id exchange handler := by
  simp only [stepHandler, Option.map_eq_some_iff] at stepped
  rcases stepped with ⟨handler, stepped, rfl⟩
  exact ⟨handler, stepped, rfl⟩

theorem stepConnection_cases {connection : Connection} {action : ConnectionAction}
    (stepped : s.stepConnection config index connection action = some next) :
    ConnectionStep config s index connection action next := by
  simp only [stepConnection] at stepped
  split at stepped
  · rw [Option.some.injEq] at stepped
    subst stepped
    cases flag : s.shutdown.flag with
    | true => exact .refuse flag
    | false => exact .enter flag
  · rw [Option.some.injEq] at stepped
    exact stepped ▸ .refused
  · rw [Option.some.injEq] at stepped
    exact stepped ▸ .guard
  · simp only [Option.bind_eq_some_iff, Option.ite_none_right_eq_some, Option.some.injEq] at stepped
    rcases stepped with ⟨exchange, found, responded, rfl⟩
    exact .answer found responded
  · rw [Option.some.injEq] at stepped
    exact stepped ▸ .count
  · rw [Option.some.injEq] at stepped
    subst stepped
    split
    · exact .recycle ‹_›
    · exact .proceed ‹_›
  · rename_i id call
    rw [Option.some.injEq] at stepped
    subst stepped
    cases advanced : (s.shutdown.advance call).2 with
    | some later => exact .trigger advanced
    | none => exact .triggered advanced
  · rw [Option.bind_eq_some_iff] at stepped
    rcases stepped with ⟨exchange, found, handled⟩
    rcases stepHandler_eq_some handled with ⟨handler, moved, rfl⟩
    exact .take found moved
  · simp only [Option.bind_eq_some_iff, Option.ite_none_right_eq_some, Option.some.injEq] at stepped
    rcases stepped with ⟨exchange, found, drained, rfl⟩
    exact .finish found drained
  · rw [Option.some.injEq] at stepped
    exact stepped ▸ .leave rfl
  · rw [Option.some.injEq] at stepped
    exact stepped ▸ .leave rfl
  · simp only [Option.bind_eq_some_iff, abandon, Option.map_eq_some_iff] at stepped
    rcases stepped with ⟨exchange, found, after, handled, rfl⟩
    rcases stepHandler_eq_some handled with ⟨handler, moved, rfl⟩
    exact .dropService found moved
  · rw [Option.bind_eq_some_iff] at stepped
    rcases stepped with ⟨exchange, found, closed⟩
    split at closed
    · simp only [abandon, Option.map_eq_some_iff] at closed
      rcases closed with ⟨after, handled, rfl⟩
      rcases stepHandler_eq_some handled with ⟨handler, moved, rfl⟩
      exact .dropBody found moved
    · rw [Option.some.injEq] at closed
      exact closed ▸ .dropResponse found
  · cases stepped

/-- A connection's step as a step of a task that calls `trigger`; of the other tasks it sees and
changes nothing. -/
theorem ConnectionStep.calling {connection : Connection} {action : ConnectionAction}
    (found : s.connections[index]? = some connection)
    (stepped : ConnectionStep config s index connection action next) :
    ∃ later : Connection,
      Calling s.shutdown action.advances connection.call? next.shutdown later.call? ∧
      next.connections = s.connections.set index later ∧ next.serve = s.serve ∧
      next.acceptors = s.acceptors ∧ next.watcher = s.watcher ∧ next.heartbeat = s.heartbeat := by
  cases stepped with
  | refuse | enter | refused | guard | answer | count | proceed | dropService | dropBody
  | dropResponse =>
      exact ⟨_, .rest (by simp [Connection.call?]), rfl, rfl, rfl, rfl, rfl⟩
  | recycle =>
      exact ⟨_, .rest (by simp [Connection.call?, Shutdown.trigger]), rfl, rfl, rfl, rfl, rfl⟩
  | @trigger id call later advanced =>
      refine ⟨.recycling id later, ?_, rfl, rfl, rfl, rfl, rfl⟩
      have stepped : Calling s.shutdown true (some call) (s.shutdown.advance call).1
          (s.shutdown.advance call).2 := .advance call
      rw [advanced] at stepped
      exact stepped
  | @triggered id call advanced =>
      refine ⟨.writing id, ?_, rfl, rfl, rfl, rfl, rfl⟩
      have stepped : Calling s.shutdown true (some call) (s.shutdown.advance call).1
          (s.shutdown.advance call).2 := .advance call
      rw [advanced] at stepped
      exact stepped
  | @take id exchange handler found' moved =>
      refine ⟨.writing id, .rest Iff.rfl, ?_, rfl, rfl, rfl, rfl⟩
      rcases List.getElem?_eq_some_iff.mp found with ⟨bound, here⟩
      rw [← here, List.set_getElem_self]
      rfl
  | @finish id exchange =>
      refine ⟨if exchange.handler.isWebsocket then .ended else .idle, .rest ?_, rfl, rfl, rfl, rfl,
        rfl⟩
      split <;> simp [Connection.call?]
  | leave free =>
      refine ⟨.ended, .rest ?_, rfl, rfl, rfl, rfl, rfl⟩
      cases connection <;> first | exact Iff.rfl | cases free

/-- Everything a step of the worker can do. -/
inductive Step (config : ServeConfig) (s : Server) : Action → Server → Prop where
  | serve {next : Server} (stepped : ServeStep s next) : Step config s .serve next
  | gracefulTimeout (stage : s.serve = .draining ∨ s.serve = .sleeping) :
      Step config s .gracefulTimeout { s with expired := true }
  | acceptor {index : ℕ} {action : AcceptorAction} {acceptor : Acceptor} {next : Server}
      (found : s.acceptors[index]? = some acceptor) (stepped : AcceptorStep s index acceptor next) :
      Step config s (.acceptor index action) next
  | watcher {action : WatcherAction} {shutdown : Shutdown} {watcher : Watcher}
      (calling : Calling s.shutdown (decide (action = .advance)) s.watcher.call? shutdown
        watcher.call?) :
      Step config s (.watcher action) { s with shutdown, watcher }
  | heartbeat {action : HeartbeatAction} {shutdown : Shutdown} {heartbeat : Heartbeat}
      (calling : Calling s.shutdown (decide (action = .advance)) s.heartbeat.call? shutdown
        heartbeat.call?) :
      Step config s (.heartbeat action) { s with shutdown, heartbeat }
  | connection {index : ℕ} {connection : Connection} {action : ConnectionAction} {next : Server}
      (found : s.connections[index]? = some connection)
      (stepped : ConnectionStep config s index connection action next) :
      Step config s (.connection index action) next
  | handler {id : ℕ} {exchange : Exchange} {action : HandlerAction} {handler : Handler}
      (found : s.exchanges[id]? = some exchange) (allowed : s.allows exchange action = true)
      (moved : exchange.handler.step action = some handler) :
      Step config s (.handler id action) (s.setHandler id exchange handler)

theorem step_cases {action : Action} (stepped : s.step config action = some next) :
    Step config s action next := by
  cases action with
  | serve => exact .serve (stepServe_cases stepped)
  | gracefulTimeout =>
      simp only [step, Option.ite_none_right_eq_some, Option.some.injEq] at stepped
      rcases stepped with ⟨stage, rfl⟩
      exact .gracefulTimeout stage
  | acceptor index act =>
      simp only [step, Option.bind_eq_some_iff] at stepped
      rcases stepped with ⟨acceptor, found, stepped⟩
      exact .acceptor found (stepAcceptor_cases stepped)
  | watcher act =>
      simp only [step, Option.map_eq_some_iff] at stepped
      rcases stepped with ⟨after, stepped, rfl⟩
      exact .watcher (Watcher.step_calling stepped)
  | heartbeat act =>
      simp only [step, Option.map_eq_some_iff] at stepped
      rcases stepped with ⟨after, stepped, rfl⟩
      exact .heartbeat (Heartbeat.step_calling stepped)
  | connection index act =>
      simp only [step, Option.bind_eq_some_iff] at stepped
      rcases stepped with ⟨connection, found, stepped⟩
      exact .connection found (stepConnection_cases stepped)
  | handler id act =>
      simp only [step, Option.bind_eq_some_iff, Option.ite_none_right_eq_some] at stepped
      rcases stepped with ⟨exchange, found, allowed, stepped⟩
      rcases stepHandler_eq_some stepped with ⟨handler, moved, rfl⟩
      exact .handler found allowed moved

theorem flag_step {action : Action} (set : s.shutdown.flag = true)
    (stepped : s.step config action = some next) : next.shutdown.flag = true := by
  cases step_cases stepped with
  | serve stepped => cases stepped <;> exact set
  | acceptor _ stepped => cases stepped <;> exact set
  | gracefulTimeout | handler => exact set
  | watcher calling => exact calling.flag set
  | heartbeat calling => exact calling.flag set
  | connection found stepped =>
      rcases stepped.calling found with ⟨later, calling, _⟩
      exact calling.flag set

/-- Only its own steps move a connection. -/
theorem connection_step {connection : Connection} {action : Action}
    (found : s.connections[index]? = some connection)
    (stepped : s.step config action = some next) :
    next.connections[index]? = some connection ∨
      ∃ act, action = .connection index act ∧
        ConnectionStep config s index connection act next := by
  have bound : index < s.connections.length := (List.getElem?_eq_some_iff.mp found).1
  cases step_cases stepped with
  | serve stepped => cases stepped <;> exact .inl found
  | gracefulTimeout | watcher | heartbeat | handler => exact .inl found
  | acceptor _ stepped =>
      cases stepped with
      | leave | enter | park | wake | accept | handshake => exact .inl found
      | spawn => exact .inl ((List.getElem?_append_left bound).trans found)
  | @connection other _ act _ here stepped =>
      by_cases same : other = index
      · subst same
        rw [found, Option.some.injEq] at here
        exact .inr ⟨act, rfl, here ▸ stepped⟩
      · rcases stepped.calling here with ⟨later, _, connections, _⟩
        rw [connections, List.getElem?_set_ne same]
        exact .inl found

/-- Only its own steps move an accept task. -/
theorem acceptor_step {acceptor : Acceptor} {action : Action}
    (found : s.acceptors[index]? = some acceptor)
    (stepped : s.step config action = some next) :
    next.acceptors[index]? = some acceptor ∨
      ∃ act, action = .acceptor index act ∧ s.stepAcceptor index acceptor act = some next := by
  by_cases own : ∃ act, action = .acceptor index act
  · rcases own with ⟨act, rfl⟩
    simp only [step, found, Option.bind_some] at stepped
    exact .inr ⟨act, rfl, stepped⟩
  · refine .inl ?_
    rw [← found]
    cases step_cases stepped with
    | serve stepped => cases stepped <;> rfl
    | gracefulTimeout | watcher | heartbeat | handler => rfl
    | @acceptor other act _ _ _ stepped =>
        have apart : other ≠ index := by
          rintro rfl
          exact own ⟨act, rfl⟩
        cases stepped <;> exact List.getElem?_set_ne apart
    | connection here stepped =>
        rcases stepped.calling here with ⟨_, _, _, _, acceptors, _⟩
        rw [acceptors]

/-- What holds of a request from its start, and is kept by its handler and by the end of its
response, holds of all of them. -/
theorem exchanges_step {property : Exchange → Prop}
    (started : ∀ connection call, property { connection, handler := .start call, taken := false })
    (kept : ∀ exchange action handler, property exchange →
      exchange.handler.step action = some handler → property { exchange with handler })
    (finished : ∀ exchange, property exchange → exchange.handler.drained = true →
      property { exchange with taken := true }) {action : Action}
    (holds : ∀ exchange ∈ s.exchanges, property exchange)
    (stepped : s.step config action = some next) :
    ∀ exchange ∈ next.exchanges, property exchange := by
  have keeps {id : ℕ} {exchange : Exchange} {act : HandlerAction} {handler : Handler}
      (found : s.exchanges[id]? = some exchange)
      (moved : exchange.handler.step act = some handler) :
      ∀ each ∈ (s.setHandler id exchange handler).exchanges, property each := by
    intro each member
    rcases List.mem_or_eq_of_mem_set member with before | rfl
    · exact holds each before
    · exact kept _ _ _ (holds exchange (List.mem_of_getElem? found)) moved
  cases step_cases stepped with
  | serve stepped => cases stepped <;> exact holds
  | acceptor _ stepped => cases stepped <;> exact holds
  | gracefulTimeout | watcher | heartbeat => exact holds
  | handler found _ moved => exact keeps found moved
  | connection _ stepped =>
      cases stepped with
      | refuse | enter | refused | answer | count | recycle | proceed | trigger | triggered
      | leave | dropResponse => exact holds
      | take found moved | dropService found moved | dropBody found moved => exact keeps found moved
      | guard =>
          intro each member
          rcases List.mem_append.mp member with before | new
          · exact holds each before
          · rw [List.mem_singleton.mp new]
            exact started _ _
      | finish found drained =>
          intro each member
          rcases List.mem_or_eq_of_mem_set member with before | rfl
          · exact holds each before
          · exact finished _ (holds _ (List.mem_of_getElem? found)) drained

end Server

end RustAsgi
