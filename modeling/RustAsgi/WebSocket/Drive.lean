import RustAsgi.Machine
import RustAsgi.Asyncio.Coroutine
import RustAsgi.Asyncio.Queue
import RustAsgi.Tokio.Mpsc

/-!
# `drive_websocket`

One WebSocket connection after the 101 response: the handshake with the
application, the bidirectional pump, and the way out. The pump is a biased
`select!` over the application's future, the event channel and the socket. As for
a request, the driver takes one atomic check per `poll` action, and everything
around it (application, event loop, client, timers) has actions of its own.
-/

namespace RustAsgi

open Asyncio Tokio

/-- `WS_CHANNEL_BOUND`. -/
def wsChannelBound : ℕ := 16

/-- `WS_QUEUE_MAXSIZE`. -/
def wsQueueMaxsize : ℕ := 64

/-- Events from the application to the driver. -/
inductive WsEvent where
  | accept
  | sendText (text : String)
  | sendBytes (data : List UInt8)
  | close (code : ℕ) (reason : String)
  deriving DecidableEq, Repr

/-- The messages an application can receive. -/
inductive WsInbound where
  | connect
  | text (text : String)
  | bytes (data : List UInt8)
  | disconnect (code : ℕ) (reason : String)
  deriving DecidableEq, Repr

/-- What the driver writes to the client. -/
inductive ServerFrame where
  | text (text : String)
  | binary (data : List UInt8)
  | pong (data : List UInt8)
  | close (code : ℕ) (reason : String)
  deriving DecidableEq, Repr

namespace ServerFrame

def isPong : ServerFrame → Bool
  | .pong _ => true
  | _ => false

def isClose : ServerFrame → Bool
  | .close _ _ => true
  | _ => false

end ServerFrame

inductive ClientFrame where
  | text (text : String)
  | binary (data : List UInt8)
  | ping (data : List UInt8)
  | pong
  | raw
  | close (frame : Option (ℕ × String))
  deriving DecidableEq, Repr

/-- tungstenite's view of the closing handshake. -/
inductive SocketPhase where
  | active
  | closedByUs
  | closedByPeer
  deriving DecidableEq, Repr

structure Socket where
  inbound : List ClientFrame
  /-- After the inbound frames the stream is at its end, or broken. -/
  ended : Bool
  phase : SocketPhase
  writable : Bool
  /-- The client does not read for the moment. -/
  congested : Bool
  written : List ServerFrame
  deriving DecidableEq, Repr

inductive SocketNext where
  | frame (frame : ClientFrame) (socket : Socket)
  | finished
  | pending

namespace Socket

def new : Socket :=
  { inbound := [], ended := false, phase := .active, writable := true, congested := false,
    written := [] }

/-- `ws.send(frame)`: nothing may be sent after a close frame of either side. -/
def send (socket : Socket) (frame : ServerFrame) : Option Socket :=
  if socket.phase = .active ∧ socket.writable = true then
    some { socket with
      written := socket.written ++ [frame]
      phase := if frame.isClose then .closedByUs else .active }
  else none

/-- A send has to wait for the client. A send that is refused does not wait. -/
def blocked (socket : Socket) : Bool :=
  socket.congested && decide (socket.phase = .active) && socket.writable

/-- `ws.next()`. -/
def next (socket : Socket) : SocketNext :=
  match socket.inbound with
  | frame :: rest =>
      .frame frame
        { socket with
          inbound := rest
          phase :=
            match frame, socket.phase with
            | .close _, .active => .closedByPeer
            | _, phase => phase }
  | [] => if socket.ended then .finished else .pending

end Socket

inductive WsBranch where
  | app
  | rx
  | socket
  deriving DecidableEq, Repr

/-- What follows a `send_close`. -/
inductive AfterClose where
  /-- The application has closed; the pump goes on. -/
  | loop
  /-- The pump is left. -/
  | leave
  /-- The handshake has failed: wait for the application, then return. -/
  | denied
  /-- The handshake has failed: return at once. -/
  | gone
  /-- The client has closed: tell the application, then leave the pump. -/
  | disconnect (code : ℕ) (reason : String)
  deriving DecidableEq, Repr

inductive WsStage where
  | setup
  /-- Awaits the put of `websocket.connect`. -/
  | connecting (put : ℕ)
  | accepting
  | pump (branch : WsBranch)
  /-- Awaits `ws.send`. -/
  | sending (frame : ServerFrame)
  | closing (code : ℕ) (reason : String) (after : AfterClose)
  /-- Awaits `feed_ws`; after a disconnect message the pump is left in any case. -/
  | feeding (put : ℕ) (last : Bool)
  | ending
  /-- Awaits the application for at most 15s. -/
  | finishing
  | done
  deriving DecidableEq, Repr

structure Ws where
  stage : WsStage
  app : AppRun
  appDone : Bool
  appClosed : Bool
  chan : Mpsc WsEvent
  disconnected : Bool
  socket : Socket
  loop : Asyncio.Loop WsInbound
  /-- `loop.is_running()`, which `into_future` checks. -/
  running : Bool
  nextId : ℕ
  /-- The timer of the put that is being awaited has fired. -/
  putTimer : Bool
  acceptTimer : Bool
  finishTimer : Bool
  /-- The messages handed to the event loop for the queue, in order. -/
  submitted : List WsInbound
  /-- The messages the application has received, in order. -/
  received : List WsInbound
  /-- How often `send_close` has been called. -/
  closeCalls : ℕ
  deriving DecidableEq, Repr

namespace Ws

inductive Action where
  | setup (succeeded : Bool)
  | poll
  /-- `WsSink::_push`; `behind` means that parked sends have reserved the free slots. -/
  | push (event : WsEvent) (behind : Bool)
  | unpark (index : ℕ)
  | exit (outcome : Outcome)
  | settle
  | dropSink
  | receive
  | turn
  | putTimeout
  | acceptTimeout
  | finishTimeout
  | stopLoop
  | clientSends (frame : ClientFrame)
  | clientEnds
  | breaks
  /-- The client stops reading, or goes on to read. -/
  | congest (stopped : Bool)
  deriving DecidableEq, Repr

def init : Ws :=
  { stage := .setup, app := .running, appDone := false, appClosed := false,
    chan := .new wsChannelBound, disconnected := false, socket := .new,
    loop := .empty wsQueueMaxsize, running := true, nextId := 0, putTimer := false,
    acceptTimer := false, finishTimer := false, submitted := [], received := [],
    closeCalls := 0 }

def goto (s : Ws) (stage : WsStage) : Ws :=
  { s with stage }

/-- The submission made by `feed_ws`, which fails when the loop has stopped. -/
def feedWs (s : Ws) (message : WsInbound) : Option Ws :=
  if s.running then
    some { s with
      loop := s.loop.submit { id := s.nextId, item := message, nowait := false }
      nextId := s.nextId + 1
      putTimer := false
      submitted := s.submitted ++ [message] }
  else none

/-- Feed a message of the client, or leave the pump when that cannot even be scheduled. -/
def feed (s : Ws) (message : WsInbound) (last : Bool) : Ws :=
  match s.feedWs message with
  | some next => next.goto (.feeding s.nextId last)
  | none => s.goto .ending

def putSucceeded (s : Ws) (put : ℕ) : Bool :=
  s.loop.outcome? put == some true

/-- The awaited put has an outcome or its timer has fired. -/
def putSettled (s : Ws) (put : ℕ) : Bool :=
  (s.loop.outcome? put).isSome || s.putTimer

def finish (s : Ws) : Ws :=
  { s with stage := .done, chan := s.chan.dropReceiver }

def pumpApp (s : Ws) : Ws :=
  if s.appDone then s.goto (.pump .rx)
  else
    match s.app with
    | .settled _ =>
        if s.appClosed then { s with appDone := true, stage := .ending }
        else { s with appDone := true, stage := .closing 1000 "" .leave }
    | _ => s.goto (.pump .rx)

/-- The event branch of the pump, which is off once the application has closed. -/
def pumpRx (s : Ws) : Ws :=
  if s.appClosed then s.goto (.pump .socket)
  else
    match s.chan.recv with
    | .item (.sendText text) chan => { s with chan, stage := .sending (.text text) }
    | .item (.sendBytes data) chan => { s with chan, stage := .sending (.binary data) }
    | .item (.close code reason) chan => { s with chan, stage := .closing code reason .loop }
    -- A duplicate accept is ignored.
    | .item .accept chan => { s with chan, stage := .pump .app }
    | .closed => s.goto (.closing 1000 "" .leave)
    | .pending => s.goto (.pump .socket)

def pumpSocket (s : Ws) : Ws :=
  match s.socket.next with
  | .frame (.text text) socket => ({ s with socket } : Ws).feed (.text text) false
  | .frame (.binary data) socket => ({ s with socket } : Ws).feed (.bytes data) false
  | .frame (.ping data) socket => { s with socket, stage := .sending (.pong data) }
  | .frame .pong socket | .frame .raw socket => { s with socket, stage := .pump .app }
  | .frame (.close frame) socket =>
      let code := (frame.getD (1006, "")).1
      let reason := (frame.getD (1006, "")).2
      if s.appClosed then ({ s with socket } : Ws).feed (.disconnect code reason) true
      else { s with socket, stage := .closing code "" (.disconnect code reason) }
  | .finished => s.feed (.disconnect 1006 "") true
  | .pending => s.goto (.pump .app)

/-- The first event of the application decides the handshake. -/
def pollAccepting (s : Ws) : Option Ws :=
  match s.chan.recv with
  | .item .accept chan => some { s with chan, stage := .pump .app }
  | .item (.close code reason) chan => some { s with chan, stage := .closing code reason .denied }
  | .item _ chan => some { s with chan, stage := .closing 1011 "expected accept" .denied }
  | .closed => some (s.goto (.closing 1011 "app failed" .gone))
  | .pending =>
      if s.acceptTimer then some (s.goto (.closing 1011 "accept timeout" .denied)) else none

/-- The send is over: its error, if any, ends the pump. -/
def sent (frame : ServerFrame) (s : Ws) : Ws :=
  match s.socket.send frame with
  | some socket => { s with socket, stage := .pump .app }
  | none => s.goto .ending

/-- `send_close` ignores the outcome. -/
def sendClose (code : ℕ) (reason : String) (s : Ws) : Ws :=
  { s with
    socket := (s.socket.send (.close code reason)).getD s.socket
    closeCalls := s.closeCalls + 1 }

def afterClose (s : Ws) : AfterClose → Ws
  | .loop => { s with appClosed := true, stage := .pump .app }
  | .leave => s.goto .ending
  | .denied => s.goto .finishing
  | .gone => s.finish
  | .disconnect code reason => s.feed (.disconnect code reason) true

def poll (s : Ws) : Option Ws :=
  match s.stage with
  | .setup => none
  | .connecting put =>
      if s.putSucceeded put then some (s.goto .accepting)
      else if s.putSettled put then some (s.goto (.closing 1011 "setup failed" .gone))
      else none
  | .accepting => s.pollAccepting
  | .pump .app => some s.pumpApp
  | .pump .rx => some s.pumpRx
  | .pump .socket => some s.pumpSocket
  | .sending frame => if s.socket.blocked then none else some (s.sent frame)
  | .closing code reason after =>
      if s.socket.blocked then none else some ((s.sendClose code reason).afterClose after)
  | .feeding put last =>
      if s.putSucceeded put then some (s.goto (if last then .ending else .pump .app))
      else if s.putSettled put then some (s.goto .ending)
      else none
  | .ending =>
      some { s with
        disconnected := true
        chan := s.chan.dropReceiver
        stage := if s.appDone then .done else .finishing }
  | .finishing =>
      match s.app with
      | .settled _ => some s.finish
      | _ => if s.finishTimer then some s.finish else none
  | .done => none

/-- `WsSink::_push`: a rejected call raises and leaves everything as it was. -/
def push (event : WsEvent) (behind : Bool) (s : Ws) : Option Ws :=
  if s.chan.senders && s.chan.receiver && !s.disconnected then
    if behind then
      if s.chan.hasRoom && s.chan.parked.isEmpty then none
      else some { s with chan := s.chan.park event }
    else if s.chan.hasRoom then some { s with chan := s.chan.accept event }
    else none
  else none

def step (s : Ws) : Action → Option Ws
  | .setup succeeded =>
      if s.stage = .setup then
        if succeeded then
          match s.feedWs .connect with
          | some next => some (next.goto (.connecting s.nextId))
          | none => some (s.goto (.closing 1011 "setup failed" .gone))
        else some { s with stage := .closing 1011 "internal error" .gone,
                           chan := s.chan.dropReceiver }
      else none
  | .poll => s.poll
  | .push event behind => if s.stage = .setup then none else s.push event behind
  | .unpark index =>
      if s.stage = .setup then none else (s.chan.unpark index).map fun chan => { s with chan }
  | .exit outcome =>
      if s.stage ≠ .setup ∧ s.app = .running then some { s with app := .exited outcome } else none
  | .settle =>
      match s.app with
      | .exited outcome => some { s with app := .settled outcome }
      | _ => none
  | .dropSink => if s.app = .running then none else some { s with chan := s.chan.dropSenders }
  | .receive =>
      match s.loop.get with
      | some (put, loop) => some { s with loop, received := s.received ++ [put.item] }
      | none => none
  | .turn => s.loop.turn.map fun loop => { s with loop }
  | .putTimeout => some { s with putTimer := true }
  | .acceptTimeout => some { s with acceptTimer := true }
  | .finishTimeout => some { s with finishTimer := true }
  | .stopLoop => some { s with running := false }
  | .clientSends frame =>
      if s.socket.ended then none
      else some { s with socket := { s.socket with inbound := s.socket.inbound ++ [frame] } }
  | .clientEnds => some { s with socket := { s.socket with ended := true } }
  | .breaks => some { s with socket := { s.socket with writable := false } }
  | .congest stopped => some { s with socket := { s.socket with congested := stopped } }

end Ws

end RustAsgi
