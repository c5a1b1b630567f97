import RustAsgi.Asyncio.Coroutine
import RustAsgi.Http.Feed
import RustAsgi.Tokio.Mpsc

/-!
# `handle_http`

One request from the moment its application is submitted: Phase A waits for
`http.response.start`, the responder forwards the body. Both are biased
`select!` loops over the response channel, the application's future, the feed
branch and a deadline.

The Tokio task takes one atomic check per `poll` action: `Stage` names the
branch that the current poll of the `select!` will look at next. Everything else
that can happen in between (the application, the event loop, the network, the
timers, the connection) is an action of its own, so every interleaving is a list
of actions.
-/

namespace RustAsgi

open Asyncio Tokio

abbrev Header := Bytes × Bytes

/-- `RESPONSE_CHANNEL_BOUND`. -/
def responseChannelBound : ℕ := 16

inductive ResponseEvent where
  | start (status : ℕ) (headers : List Header)
  | body (data : Bytes) (moreBody : Bool)
  deriving DecidableEq, Repr

namespace ResponseEvent

/-- The part of `parse_send_message`'s check that an event still shows. -/
def accepted : ResponseEvent → Bool
  | .start status _ => decide (100 ≤ status ∧ status ≤ 599)
  | .body _ _ => true

def isFinal : ResponseEvent → Bool
  | .body _ false => true
  | _ => false

end ResponseEvent

/-- What `handle_http` needs of the `http` crate when it builds the response. -/
structure HttpCrate where
  /-- `HeaderName::from_bytes` and `HeaderValue::from_bytes` both succeed. -/
  validHeader : Header → Bool
  /-- `Builder::body` succeeds after these headers have been added. -/
  builds : List Header → Bool

/-- What is fixed when a request enters `handle_http`. -/
structure Request where
  hasBody : Bool
  isHead : Bool
  /-- An access hook is installed or the access log is on. -/
  accessLog : Bool
  crate : HttpCrate

inductive Branch where
  | rx
  | app
  | feed
  | deadline
  deriving DecidableEq, Repr

inductive Stage where
  | establish
  | phaseA (branch : Branch)
  /-- Phase A awaits `feed_disconnect` after a body event that came before the start. -/
  | rejected (waiting : Option ℕ)
  | responder (branch : Branch)
  /-- The responder awaits `sender.send_data`. -/
  | sendData (data : Bytes) (moreBody : Bool)
  /-- The responder awaits `feed_disconnect` after `send_data` has failed. -/
  | clientGone (waiting : Option ℕ)
  /-- The responder has left its loop and is about to drop the body sender. -/
  | closing
  /-- The body sender is gone; the application's future is looked at once more. -/
  | observing
  | done
  deriving DecidableEq, Repr

namespace Stage

def inPhaseA : Stage → Bool
  | .phaseA _ | .rejected _ => true
  | _ => false

def inResponder : Stage → Bool
  | .responder _ | .sendData _ _ | .clientGone _ => true
  | _ => false

end Stage

structure ResponseHead where
  status : ℕ
  headers : List Header
  deriving DecidableEq, Repr

inductive BodyEnd where
  | endOfStream
  | aborted
  deriving DecidableEq, Repr

structure BodyChannel where
  queue : List Bytes
  /-- Every chunk `send_data` has handed over, in order. -/
  handed : List Bytes
  receiver : Bool
  ending : Option BodyEnd
  deriving DecidableEq, Repr

inductive Reaper where
  | absent
  | waiting
  | finished
  deriving DecidableEq, Repr

structure Http where
  stage : Stage
  /-- `app_done`, then `app_done_local`. -/
  appDone : Bool
  app : AppRun
  feed : Feed
  chan : Mpsc ResponseEvent
  disconnected : Bool
  /-- The `status` local, which the responder logs. -/
  status : ℕ
  response : Option ResponseHead
  body : BodyChannel
  bytesSent : ℕ
  startTimer : Bool
  appTimer : Bool
  reaper : Reaper
  appLogged : Bool
  /-- A completed application future has been polled again, which panics. -/
  repolled : Bool
  access : List (ℕ × ℕ)
  deriving DecidableEq, Repr

inductive Action where
  | established (succeeded : Bool)
  /-- The task executes its next atomic check. -/
  | poll
  /-- `SendSink::_push`; `behind` means that parked sends have reserved the free slots. -/
  | push (event : ResponseEvent) (behind : Bool)
  | unpark (index : ℕ)
  | exit (outcome : Outcome)
  | settle
  | dropSink
  | receive
  | turn
  | frameArrives
  | bodyEnds
  | putTimeout
  | startDeadline
  | appDeadline
  | stopLoop
  | takeChunk
  | dropBody
  /-- hyper drops the service future. -/
  | dropService
  | reap (timeout : Bool)
  deriving DecidableEq, Repr

/-- Only the connection's task drops or reads what it holds of the request. -/
def Action.ofConnection : Action → Bool
  | .takeChunk | .dropBody | .dropService => true
  | _ => false

namespace Http

/-- The request before `establish_http_call`. -/
def init (request : Request) (body : Incoming) : Http :=
  { stage := .establish, appDone := false, app := .running,
    feed := .new request.hasBody body, chan := .new responseChannelBound,
    disconnected := false, status := 0, response := none,
    body := { queue := [], handed := [], receiver := false, ending := none },
    bytesSent := 0, startTimer := false, appTimer := false, reaper := .absent,
    appLogged := false, repolled := false, access := [] }

/-- `log_access` and `log_access_task`. -/
def logAccess (request : Request) (status size : ℕ) (s : Http) : Http :=
  if request.accessLog then { s with access := s.access ++ [(status, size)] } else s

/-- A `return status_response(..)` of Phase A: the locals of the handler are dropped. -/
def fail (s : Http) : Http :=
  { s with
    stage := .done
    response := some { status := 500, headers := [] }
    feed := s.feed.release
    chan := s.chan.dropReceiver }

def spawnDrainReaper (s : Http) : Http :=
  { s with reaper := .waiting }

/-- `StatusCode::from_u16(status).unwrap_or(INTERNAL_SERVER_ERROR)`. -/
def statusCode (status : ℕ) : ℕ :=
  if 100 ≤ status ∧ status ≤ 999 then status else 500

/-- The response that Phase A builds from the start event. -/
def buildResponse (crate : HttpCrate) (status : ℕ) (headers : List Header) : ResponseHead :=
  if crate.builds (headers.filter crate.validHeader) then
    { status := statusCode status, headers := headers.filter crate.validHeader }
  else { status := 500, headers := [] }

/-- Phase A has its start event: the response goes to hyper, the responder takes over.
When the builder fails, the body's receiving half is dropped with it. -/
def respond (request : Request) (status : ℕ) (headers : List Header) (s : Http) : Http :=
  { s with
    stage := .responder .rx
    status
    response := some (buildResponse request.crate status headers)
    feed := s.feed.handOver request.hasBody
    body := { s.body with
      receiver := request.crate.builds (headers.filter request.crate.validHeader) } }

def observeApp (s : Http) : Http :=
  { s with appDone := true, appLogged := true, feed := s.feed.drop }

/-- Await `feed_disconnect`; `none` when it could not even be scheduled. -/
def startDisconnect (feed : Feed) : Option ℕ × Feed :=
  match feed.feedDisconnect with
  | some (id, next) => (some id, next)
  | none => (none, feed)

def disconnectDone (feed : Feed) : Option ℕ → Bool
  | some id => feed.settled id
  | none => true

def pollFeed (back onward : Stage) (s : Http) : Http :=
  match s.feed.poll with
  | .pending => { s with stage := onward }
  | .progress feed => { s with feed }
  | .ready fed feed => { s with stage := back, feed := feed.finish fed }

def pollApp (back onward : Stage) (s : Http) : Http :=
  if s.appDone then { s with stage := onward }
  else
    match s.app with
    | .settled _ => { s.observeApp with stage := back }
    | _ => { s with stage := onward }

def phaseARx (request : Request) (s : Http) : Http :=
  match s.chan.recv with
  | .item (.start status headers) chan =>
      ({ s with chan } : Http).respond request status headers
  | .item (.body _ _) chan =>
      let sent := startDisconnect s.feed.drop
      { s with chan, stage := .rejected sent.1, feed := sent.2 }
  | .closed => (s.logAccess request 500 0).spawnDrainReaper.fail
  | .pending => { s with stage := .phaseA .app }

def responderRx (request : Request) (s : Http) : Http :=
  match s.chan.recv with
  -- A duplicate start is ignored.
  | .item (.start _ _) chan => { s with chan, feed := s.feed.drop, stage := .responder .rx }
  | .item (.body data moreBody) chan =>
      let back := if moreBody then Stage.responder .rx else .closing
      if request.isHead then
        { s with chan, feed := s.feed.drop, bytesSent := s.bytesSent + data.length,
                 stage := back }
      else if data = [] then { s with chan, feed := s.feed.drop, stage := back }
      else
        { s with chan, feed := s.feed.drop, bytesSent := s.bytesSent + data.length,
                 stage := .sendData data moreBody }
  | .closed => { s with feed := s.feed.drop, stage := .closing }
  | .pending => { s with stage := .responder .app }

/-- `sender.send_data(..).await`: it waits for capacity and fails without a receiver. -/
def sendData (data : Bytes) (moreBody : Bool) (s : Http) : Option Http :=
  if s.body.receiver then
    if s.body.queue.length < responseChannelBound then
      some { s with
        stage := if moreBody then .responder .rx else .closing
        body := { s.body with
          queue := s.body.queue ++ [data], handed := s.body.handed ++ [data] } }
    else none
  else
    let sent := startDisconnect s.feed
    some { s with disconnected := true, stage := .clientGone sent.1, feed := sent.2 }

/-- After the loop the source drops the sender on every path. -/
def close (s : Http) : Http :=
  { s with stage := .observing, body := { s.body with ending := some .endOfStream } }

/-- The noop-waker poll of the application's future, the access log and the end. -/
def observe (request : Request) (s : Http) : Http :=
  let seen : Http :=
    if s.appDone then s
    else
      match s.app with
      | .settled _ => s.observeApp
      | _ => s.spawnDrainReaper
  let logged := seen.logAccess request s.status s.bytesSent
  { logged with stage := .done, feed := logged.feed.release, chan := logged.chan.dropReceiver }

def poll (request : Request) (s : Http) : Option Http :=
  match s.stage with
  | .establish => none
  | .phaseA .rx => some (s.phaseARx request)
  | .phaseA .app => some (s.pollApp (.phaseA .rx) (.phaseA .feed))
  | .phaseA .feed => some (s.pollFeed (.phaseA .rx) (.phaseA .deadline))
  | .phaseA .deadline =>
      if s.startTimer then some (s.logAccess request 500 0).spawnDrainReaper.fail
      else some { s with stage := .phaseA .rx }
  | .rejected waiting =>
      if disconnectDone s.feed waiting then some s.spawnDrainReaper.fail else none
  | .responder .rx => some (s.responderRx request)
  | .responder .app => some (s.pollApp (.responder .rx) (.responder .feed))
  | .responder .feed => some (s.pollFeed (.responder .rx) (.responder .deadline))
  | .responder .deadline =>
      if s.appTimer then some { s with stage := .closing, feed := s.feed.drop }
      else some { s with stage := .responder .rx }
  | .sendData data moreBody => s.sendData data moreBody
  | .clientGone waiting =>
      if disconnectDone s.feed waiting then some { s with stage := .closing } else none
  | .closing => some s.close
  | .observing => some (s.observe request)
  | .done => none

/-- `SendSink::_push`: a rejected call raises and leaves everything as it was. -/
def push (event : ResponseEvent) (behind : Bool) (s : Http) : Option Http :=
  if event.accepted && s.chan.senders && s.chan.receiver && !s.disconnected then
    if behind then
      if s.chan.hasRoom && s.chan.parked.isEmpty then none
      else some { s with chan := s.chan.park event }
    else if s.chan.hasRoom then some { s with chan := s.chan.accept event }
    else none
  else none

def moveFeed (move : Feed.Move) (s : Http) : Option Http :=
  (s.feed.step move).map fun feed => { s with feed }

def step (request : Request) (s : Http) : Action → Option Http
  | .established succeeded =>
      if s.stage = .establish then
        if succeeded then some { s with stage := .phaseA .rx }
        else some (s.logAccess request 500 0).fail
      else none
  | .poll => s.poll request
  | .push event behind => if s.stage = .establish then none else s.push event behind
  | .unpark index => (s.chan.unpark index).map fun chan => { s with chan }
  | .exit outcome =>
      if s.stage ≠ .establish ∧ s.app = .running then some { s with app := .exited outcome }
      else none
  | .settle =>
      match s.app with
      | .exited outcome => some { s with app := .settled outcome }
      | _ => none
  -- The sink lives in the frames of the application, so it goes after them.
  | .dropSink =>
      if s.app = .running then none else some { s with chan := s.chan.dropSenders }
  | .receive => if s.stage = .establish then none else s.moveFeed .receive
  | .turn => s.moveFeed .turn
  | .frameArrives => s.moveFeed .frameArrives
  | .bodyEnds => s.moveFeed .bodyEnds
  | .putTimeout => s.moveFeed .timeout
  | .startDeadline => if s.stage.inPhaseA then some { s with startTimer := true } else none
  | .appDeadline => if s.stage.inResponder then some { s with appTimer := true } else none
  | .stopLoop => s.moveFeed .stop
  | .takeChunk =>
      match s.body.queue with
      | _ :: rest => some { s with body := { s.body with queue := rest } }
      | [] => none
  | .dropBody =>
      if s.response.isSome then some { s with body := { s.body with receiver := false } }
      else none
  | .dropService =>
      if s.stage = .establish ∨ s.stage.inPhaseA then
        some { s with stage := .done, feed := s.feed.release, chan := s.chan.dropReceiver }
      else none
  | .reap timeout =>
      match s.reaper with
      | .waiting =>
          match s.app with
          | .settled _ =>
              some { s with
                reaper := .finished, appLogged := true, repolled := s.repolled || s.appDone }
          | _ =>
              if timeout then some { s with reaper := .finished, appLogged := true } else none
      | _ => none

end Http

end RustAsgi
