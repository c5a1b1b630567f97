import RustAsgi.Http.Handle
import RustAsgi.Machine
import RustAsgi.Server.Shutdown
import RustAsgi.WebSocket.Drive

/-!
# `serve`

The worker's tasks around the requests: `serve` itself, one accept task per
listener, the connection tasks, the signal watcher and the heartbeat. They share
the shutdown flag, the counter of the flight guards and the counter of completed
requests. What a request does once it is admitted is its handler, which runs the
machine of `handle_http` or of the WebSocket driver.

Every action is one atomic access to shared state, or something that happens
outside; a run is one interleaving of the tasks.
-/

namespace RustAsgi

open Tokio

/-- What `handle_request` is going to do with a request. -/
inductive Call where
  /-- It answers by itself: a challenge, a redirect or a missing WebSocket key. -/
  | immediate
  | http (request : Request) (body : Incoming)
  | websocket

/-- A request from its flight guard on: `handle_request` and the task it leaves behind. -/
inductive Handler where
  | answering
  | answered
  | http (request : Request) (state : Http)
  /-- `handle_websocket_upgrade` is about to spawn the driver and to return the 101 response. -/
  | switching
  /-- The driver awaits the upgrade. -/
  | upgrading
  | driving (state : Ws)
  | upgradeFailed

inductive HandlerAction where
  | answer
  | http (action : Action)
  | upgraded (succeeded : Bool)
  | ws (action : Ws.Action)

/-- The application is submitted to the event loop. -/
def HandlerAction.invokes : HandlerAction → Bool
  | .http (.established true) | .ws (.setup true) => true
  | _ => false

namespace Handler

def start : Call → Handler
  | .immediate => .answering
  | .http request body => .http request (.init request body)
  | .websocket => .switching

/-- The owner of the guard is gone, and the guard with it. -/
def finished : Handler → Bool
  | .answered | .upgradeFailed => true
  | .http _ state => decide (state.stage = .done)
  | .driving state => decide (state.stage = .done)
  | _ => false

/-- `handle_request` has a response to return. -/
def responded : Handler → Bool
  | .answering | .switching => false
  | .http _ state => state.response.isSome
  | _ => true

/-- The response body is at its end. Only a streamed body can be short of it. -/
def drained : Handler → Bool
  | .http _ state =>
      state.response.isSome &&
        (!state.body.receiver || (state.body.queue.isEmpty && state.body.ending.isSome))
  | _ => true

def isWebsocket : Handler → Bool
  | .switching | .upgrading | .driving _ | .upgradeFailed => true
  | _ => false

def step : Handler → HandlerAction → Option Handler
  | .answering, .answer => some .answered
  | .switching, .answer => some .upgrading
  | .http request state, .http action => (state.step request action).map (.http request)
  | .upgrading, .upgraded succeeded => some (if succeeded then .driving .init else .upgradeFailed)
  | .driving state, .ws action => (state.step action).map .driving
  | _, _ => none

end Handler

structure Exchange where
  connection : ℕ
  handler : Handler
  /-- The connection has taken the whole response from its body. -/
  taken : Bool

inductive Connection where
  | idle
  /-- The 503 response is being written. -/
  | refusing
  /-- `is_set()` was false; the guard has not been created. -/
  | admitted (call : Call)
  /-- Awaits `handle_request`. -/
  | handling (id : ℕ)
  /-- `handle_request` has returned; the request has not been counted. -/
  | returned (id : ℕ)
  | counted (id : ℕ) (done : ℕ)
  | recycling (id : ℕ) (call : Trigger)
  /-- hyper takes the response from its body. -/
  | writing (id : ℕ)
  | ended

inductive ConnectionAction where
  /-- A request arrives; the service looks at the flag. -/
  | request (call : Call)
  | refused
  /-- `FlightGuard::new`. -/
  | guard
  /-- `handle_request` is seen to have returned. -/
  | handled
  | count
  | compare
  | advance
  | take
  /-- hyper sees the end of the response body. -/
  | finish
  /-- The task ends where it awaits: the client is gone, or `abort_all` has reached it. -/
  | close

namespace Connection

/-- The request whose response the connection is waiting for or taking. -/
def serving? : Connection → Option ℕ
  | .handling id | .returned id | .counted id _ | .recycling id _ | .writing id => some id
  | _ => none

def call? : Connection → Option Trigger
  | .recycling _ call => some call
  | _ => none

def isAdmitted : Connection → Bool
  | .admitted _ => true
  | _ => false

def isEnded : Connection → Bool
  | .ended => true
  | _ => false

end Connection

/-- A TLS listener completes the handshake inside its accept loop. -/
inductive Listener where
  | plain
  | tls
  deriving DecidableEq, Repr

inductive AcceptorStage where
  /-- About to look at the flag. -/
  | check
  /-- The flag was not set; `wait()` has not been polled. -/
  | select
  /-- Parked in the `select!`. -/
  | selecting
  | handshake
  | spawning
  | ended
  deriving DecidableEq, Repr

structure Acceptor where
  listener : Listener
  stage : AcceptorStage
  deriving DecidableEq, Repr

inductive AcceptorAction where
  | check
  /-- The `select!` is polled and finds nothing ready. -/
  | park
  /-- `wait()` is ready. -/
  | wake
  | accept (succeeded : Bool)
  | handshake (succeeded : Bool)
  | spawn
  deriving DecidableEq, Repr

/-- Why the drain was left, or not entered. -/
inductive DrainEnd where
  | empty
  | timeout
  | quick
  deriving DecidableEq, Repr

inductive ServeStage where
  /-- Everything is spawned; `wait()` has not been polled. -/
  | start
  | waiting
  /-- About to read the kind. -/
  | awake
  | joining (kind : ShutdownKind)
  /-- About to read `in_flight`. -/
  | draining
  | sleeping
  /-- About to call `abort_all`. -/
  | drained (reason : DrainEnd)
  | closing (reason : DrainEnd)
  | done
  deriving DecidableEq, Repr

structure ServeConfig where
  listeners : List Listener
  /-- `0` is no quota. -/
  maxRequests : ℕ

structure Server where
  shutdown : Shutdown
  serve : ServeStage
  /-- `graceful_timeout` has elapsed. -/
  expired : Bool
  acceptors : List Acceptor
  watcher : Watcher
  heartbeat : Heartbeat
  /-- The entries of the `JoinSet`. -/
  connections : List Connection
  exchanges : List Exchange
  inFlight : ℕ
  completed : ℕ

namespace Server

inductive Action where
  | serve
  | gracefulTimeout
  | acceptor (index : ℕ) (action : AcceptorAction)
  | watcher (action : WatcherAction)
  | heartbeat (action : HeartbeatAction)
  | connection (index : ℕ) (action : ConnectionAction)
  | handler (id : ℕ) (action : HandlerAction)

def init (config : ServeConfig) : Server :=
  { shutdown := .new, serve := .start, expired := false,
    acceptors := config.listeners.map fun listener => { listener, stage := .check },
    watcher := .new, heartbeat := .new, connections := [], exchanges := [],
    inFlight := 0, completed := 0 }

def stepServe (s : Server) : Option Server :=
  match s.serve with
  | .start =>
      some { s with
        serve := .waiting
        shutdown := { s.shutdown with notify := s.shutdown.notify.notified .serve } }
  | .waiting => if s.shutdown.notify.Waits .serve then none else some { s with serve := .awake }
  | .awake => some { s with serve := .joining s.shutdown.kind }
  | .joining kind =>
      if s.acceptors.all fun acceptor => acceptor.stage = .ended then
        some { s with serve := if kind = .graceful then .draining else .drained .quick }
      else none
  | .draining =>
      if s.inFlight = 0 then some { s with serve := .drained .empty }
      else if s.expired then some { s with serve := .drained .timeout }
      else some { s with serve := .sleeping }
  | .sleeping => some { s with serve := .draining }
  | .drained reason => some { s with serve := .closing reason }
  | .closing _ =>
      if s.connections.all fun connection => connection.isEnded then
        some { s with serve := .done }
      else none
  | .done => none

def setAcceptor (s : Server) (index : ℕ) (acceptor : Acceptor) (stage : AcceptorStage) :
    Server :=
  { s with acceptors := s.acceptors.set index { acceptor with stage } }

/-- The loop goes on without its `wait()`. -/
def dropWait (s : Server) (index : ℕ) : Server :=
  { s with shutdown := { s.shutdown with notify := s.shutdown.notify.drop (.acceptor index) } }

def stepAcceptor (s : Server) (index : ℕ) (acceptor : Acceptor) :
    AcceptorAction → Option Server
  | .check =>
      if acceptor.stage = .check then
        some (s.setAcceptor index acceptor (if s.shutdown.flag then .ended else .select))
      else none
  | .park =>
      if acceptor.stage = .select then
        some { s.setAcceptor index acceptor .selecting with
          shutdown := { s.shutdown with notify := s.shutdown.notify.notified (.acceptor index) } }
      else none
  | .wake =>
      if acceptor.stage = .selecting ∧ ¬ s.shutdown.notify.Waits (.acceptor index) then
        some (s.setAcceptor index acceptor .ended)
      else none
  | .accept succeeded =>
      if acceptor.stage = .select ∨ acceptor.stage = .selecting then
        some ((s.dropWait index).setAcceptor index acceptor
          (if !succeeded then .check
            else if acceptor.listener = .tls then .handshake else .spawning))
      else none
  | .handshake succeeded =>
      if acceptor.stage = .handshake then
        some (s.setAcceptor index acceptor (if succeeded then .spawning else .check))
      else none
  | .spawn =>
      if acceptor.stage = .spawning then
        some { s.setAcceptor index acceptor .check with
          connections := s.connections ++ [.idle] }
      else none

/-- The handler of `exchange` has moved on; a guard that it has dropped is counted down. -/
def setHandler (s : Server) (id : ℕ) (exchange : Exchange) (handler : Handler) : Server :=
  { s with
    exchanges := s.exchanges.set id { exchange with handler }
    inFlight :=
      if handler.finished && !exchange.handler.finished then s.inFlight - 1 else s.inFlight }

def stepHandler (s : Server) (id : ℕ) (exchange : Exchange) (action : HandlerAction) :
    Option Server :=
  (exchange.handler.step action).map (s.setHandler id exchange)

def setConnection (s : Server) (index : ℕ) (connection : Connection) : Server :=
  { s with connections := s.connections.set index connection }

/-- `FlightGuard::new` and the call of `handle_request`. -/
def enterFlight (s : Server) (index : ℕ) (call : Call) : Server :=
  { s.setConnection index (.handling s.exchanges.length) with
    exchanges := s.exchanges ++ [{ connection := index, handler := .start call, taken := false }]
    inFlight := s.inFlight + 1 }

/-- hyper drops the service future or the response body with the connection. -/
def abandon (s : Server) (index id : ℕ) (exchange : Exchange) (action : RustAsgi.Action) :
    Option Server :=
  (s.stepHandler id exchange (.http action)).map fun after => after.setConnection index .ended

/-- The response is taken. A connection that has switched protocols ends with it. -/
def finish (s : Server) (index id : ℕ) (exchange : Exchange) : Server :=
  { s.setConnection index (if exchange.handler.isWebsocket then .ended else .idle) with
    exchanges := s.exchanges.set id { exchange with taken := true } }

def stepConnection (config : ServeConfig) (s : Server) (index : ℕ) (connection : Connection)
    (action : ConnectionAction) : Option Server :=
  match connection, action with
  | .idle, .request call =>
      some (s.setConnection index (if s.shutdown.flag then .refusing else .admitted call))
  | .refusing, .refused => some (s.setConnection index .idle)
  | .admitted call, .guard => some (s.enterFlight index call)
  | .handling id, .handled =>
      s.exchanges[id]?.bind fun exchange =>
        if exchange.handler.responded then some (s.setConnection index (.returned id)) else none
  | .returned id, .count =>
      some { s.setConnection index (.counted id (s.completed + 1)) with
        completed := s.completed + 1 }
  | .counted id done, .compare =>
      some (s.setConnection index
        (if 0 < config.maxRequests ∧ config.maxRequests ≤ done then
          .recycling id (Shutdown.trigger .graceful)
        else .writing id))
  | .recycling id call, .advance =>
      some { s.setConnection index
          (match (s.shutdown.advance call).2 with
          | some later => .recycling id later
          | none => .writing id) with
        shutdown := (s.shutdown.advance call).1 }
  | .writing id, .take =>
      s.exchanges[id]?.bind fun exchange => s.stepHandler id exchange (.http .takeChunk)
  | .writing id, .finish =>
      s.exchanges[id]?.bind fun exchange =>
        if exchange.handler.drained then some (s.finish index id exchange) else none
  | .idle, .close | .refusing, .close => some (s.setConnection index .ended)
  | .handling id, .close =>
      s.exchanges[id]?.bind fun exchange => s.abandon index id exchange .dropService
  | .writing id, .close =>
      s.exchanges[id]?.bind fun exchange =>
        match exchange.handler with
        | .http _ _ => s.abandon index id exchange .dropBody
        | _ => some (s.setConnection index .ended)
  | _, _ => none

/-- How `on_upgrade` resolves: hyper is done with the 101 response, or the connection is gone. -/
def upgradeOutcome (s : Server) (exchange : Exchange) : Option Bool :=
  if exchange.taken then some true
  else
    match s.connections[exchange.connection]? with
    | some .ended => some false
    | _ => none

def allows (s : Server) (exchange : Exchange) : HandlerAction → Bool
  | .http action => !action.ofConnection
  | .upgraded succeeded => decide (s.upgradeOutcome exchange = some succeeded)
  | _ => true

def step (config : ServeConfig) (s : Server) : Action → Option Server
  | .serve => s.stepServe
  | .gracefulTimeout =>
      if s.serve = .draining ∨ s.serve = .sleeping then some { s with expired := true } else none
  | .acceptor index action =>
      s.acceptors[index]?.bind fun acceptor => s.stepAcceptor index acceptor action
  | .watcher action =>
      (s.watcher.step s.shutdown (decide (s.serve = .done)) action).map fun after =>
        { s with shutdown := after.1, watcher := after.2 }
  | .heartbeat action =>
      (s.heartbeat.step s.shutdown action).map fun after =>
        { s with shutdown := after.1, heartbeat := after.2 }
  | .connection index action =>
      s.connections[index]?.bind fun connection => s.stepConnection config index connection action
  | .handler id action =>
      s.exchanges[id]?.bind fun exchange =>
        if s.allows exchange action then s.stepHandler id exchange action else none

end Server

end RustAsgi
