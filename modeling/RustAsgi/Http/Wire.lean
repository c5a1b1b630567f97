import RustAsgi.Http.Projection

/-!
# The response side of a request

`Wire` is what a request does between the response channel and the connection:
the events still in the channel, the response handed to hyper, the chunks of its
body and the way it ends. `Wire.Step` says once what every step of the request
can do to it, and every property of the response is an invariant of it.
-/

namespace RustAsgi

open Tokio

structure Wire where
  stage : Stage
  chan : Mpsc ResponseEvent
  response : Option ResponseHead
  /-- Every chunk given to the response body, in order. -/
  handed : List Bytes
  ending : Option BodyEnd
  receiver : Bool
  disconnected : Bool
  startTimer : Bool
  appTimer : Bool

namespace Http

/-- The response side of the request. -/
def wire (s : Http) : Wire :=
  { stage := s.stage, chan := s.chan, response := s.response, handed := s.body.handed,
    ending := s.body.ending, receiver := s.body.receiver, disconnected := s.disconnected,
    startTimer := s.startTimer, appTimer := s.appTimer }

end Http

namespace Wire

open Http

/-- A `return status_response(..)` before the response has started. -/
def failed (w : Wire) : Wire :=
  { w with
    stage := .done
    response := some { status := 500, headers := [] }
    chan := w.chan.dropReceiver }

/-- Everything a step of the request can do to its response side. -/
inductive Step (request : Request) (w : Wire) : Action → Wire → Prop where
  | silent (action : Action) : Step request w action w
  | established (stage : w.stage = .establish) :
      Step request w (.established true) { w with stage := .phaseA .rx }
  | refused (stage : w.stage = .establish) : Step request w (.established false) w.failed
  | push {event : ResponseEvent} {behind : Bool} (stage : w.stage ≠ .establish)
      (accepted : event.accepted = true) (senders : w.chan.senders = true)
      (receiver : w.chan.receiver = true) :
      Step request w (.push event behind) { w with chan := w.chan.accept event }
  | park {event : ResponseEvent} {behind : Bool} (stage : w.stage ≠ .establish)
      (accepted : event.accepted = true) (senders : w.chan.senders = true)
      (receiver : w.chan.receiver = true) :
      Step request w (.push event behind) { w with chan := w.chan.park event }
  | unpark {index : ℕ} {chan : Mpsc ResponseEvent}
      (unparked : w.chan.unpark index = some chan) :
      Step request w (.unpark index) { w with chan }
  | dropSink : Step request w .dropSink { w with chan := w.chan.dropSenders }
  | startDeadline : Step request w .startDeadline { w with startTimer := true }
  | appDeadline (stage : w.stage.inResponder = true) :
      Step request w .appDeadline { w with appTimer := true }
  | dropBody : Step request w .dropBody { w with receiver := false }
  | dropService (stage : w.stage = .establish ∨ w.stage.inPhaseA = true) :
      Step request w .dropService { w with stage := .done, chan := w.chan.dropReceiver }
  | phaseA {branch : Branch} (next : Branch) (stage : w.stage = .phaseA branch) :
      Step request w .poll { w with stage := .phaseA next }
  | start {status : ℕ} {headers : List Header} {chan : Mpsc ResponseEvent}
      (stage : w.stage = .phaseA .rx)
      (received : w.chan.recv = .item (.start status headers) chan) :
      Step request w .poll
        { w with
          chan
          stage := .responder .rx
          response := some (buildResponse request.crate status headers)
          receiver := request.crate.builds (headers.filter request.crate.validHeader) }
  | early {data : Bytes} {moreBody : Bool} {chan : Mpsc ResponseEvent} (waiting : Option ℕ)
      (stage : w.stage = .phaseA .rx) (received : w.chan.recv = .item (.body data moreBody) chan) :
      Step request w .poll { w with chan, stage := .rejected waiting }
  | neverStarted (stage : w.stage = .phaseA .rx) (received : w.chan.recv = .closed) :
      Step request w .poll w.failed
  | startTimeout (stage : w.stage = .phaseA .deadline) (fired : w.startTimer = true) :
      Step request w .poll w.failed
  | rejected {waiting : Option ℕ} (stage : w.stage = .rejected waiting) :
      Step request w .poll w.failed
  | responder {branch : Branch} (next : Branch) (stage : w.stage = .responder branch) :
      Step request w .poll { w with stage := .responder next }
  | duplicate {status : ℕ} {headers : List Header} {chan : Mpsc ResponseEvent}
      (stage : w.stage = .responder .rx)
      (received : w.chan.recv = .item (.start status headers) chan) :
      Step request w .poll { w with chan, stage := .responder .rx }
  | skip {data : Bytes} {moreBody : Bool} {chan : Mpsc ResponseEvent}
      (stage : w.stage = .responder .rx) (received : w.chan.recv = .item (.body data moreBody) chan)
      (nothing : request.isHead = true ∨ data = []) :
      Step request w .poll { w with chan, stage := afterBody moreBody }
  | take {data : Bytes} {moreBody : Bool} {chan : Mpsc ResponseEvent}
      (stage : w.stage = .responder .rx) (received : w.chan.recv = .item (.body data moreBody) chan)
      (hasBody : request.isHead = false) (nonempty : data ≠ []) :
      Step request w .poll { w with chan, stage := .sendData data moreBody }
  | closed (stage : w.stage = .responder .rx) (received : w.chan.recv = .closed) :
      Step request w .poll { w with stage := .closing }
  | appTimeout (stage : w.stage = .responder .deadline) (fired : w.appTimer = true) :
      Step request w .poll { w with stage := .closing }
  | hand {data : Bytes} {moreBody : Bool} (stage : w.stage = .sendData data moreBody)
      (receiver : w.receiver = true) :
      Step request w .poll
        { w with handed := w.handed ++ [data], stage := afterBody moreBody }
  | gone {data : Bytes} {moreBody : Bool} (waiting : Option ℕ)
      (stage : w.stage = .sendData data moreBody) (receiver : w.receiver = false) :
      Step request w .poll { w with disconnected := true, stage := .clientGone waiting }
  | told {waiting : Option ℕ} (stage : w.stage = .clientGone waiting) :
      Step request w .poll { w with stage := .closing }
  | close (stage : w.stage = .closing) :
      Step request w .poll { w with stage := .observing, ending := some .endOfStream }
  | observe (stage : w.stage = .observing) :
      Step request w .poll { w with stage := .done, chan := w.chan.dropReceiver }

end Wire

namespace Http

variable {request : Request} {s next : Http}

@[simp]
theorem logAccess_wire (request : Request) (status size : ℕ) (s : Http) :
    (s.logAccess request status size).wire = s.wire := by
  simp only [logAccess]
  split <;> rfl

theorem fail_wire (s : Http) : s.fail.wire = s.wire.failed :=
  rfl

/-- A drain reaper and the log entry leave the response side alone. -/
theorem failed_wire (request : Request) (s : Http) :
    (s.logAccess request 500 0).spawnDrainReaper.fail.wire = s.wire.failed := by
  rw [fail_wire]
  exact congrArg Wire.failed (logAccess_wire request 500 0 s)

theorem pollApp_wire (s : Http) (back onward : Stage) :
    (s.pollApp back onward).wire = { s.wire with stage := back } ∨
      (s.pollApp back onward).wire = { s.wire with stage := onward } := by
  simp only [pollApp]
  split
  · exact .inr rfl
  · split
    · exact .inl rfl
    · exact .inr rfl

theorem pollFeed_wire (s : Http) (back onward : Stage) :
    (s.pollFeed back onward).wire = { s.wire with stage := back } ∨
      (s.pollFeed back onward).wire = s.wire ∨
      (s.pollFeed back onward).wire = { s.wire with stage := onward } := by
  simp only [pollFeed]
  split
  · exact .inr (.inr rfl)
  · exact .inr (.inl rfl)
  · exact .inl rfl

theorem observe_wire (stage : s.stage = .observing) :
    Wire.Step request s.wire .poll (s.observe request).wire := by
  have same : (s.observe request).wire =
      { s.wire with stage := .done, chan := s.wire.chan.dropReceiver } := by
    simp only [observe, logAccess]
    cases s.appDone <;> cases s.app <;> simp only <;> split <;> rfl
  rw [same]
  exact .observe stage

theorem poll_wire (polled : Polled request s next) :
    Wire.Step request s.wire .poll next.wire := by
  cases polled with
  | start stage received => exact .start stage received
  | early stage received => exact .early _ stage received
  | neverStarted stage received =>
      rw [failed_wire]
      exact .neverStarted stage received
  | unstarted stage => exact .phaseA .app stage
  | phaseAApp stage =>
      rcases s.pollApp_wire (.phaseA .rx) (.phaseA .feed) with same | same <;> rw [same]
      · exact .phaseA .rx stage
      · exact .phaseA .feed stage
  | phaseAFeed stage =>
      rcases s.pollFeed_wire (.phaseA .rx) (.phaseA .deadline) with same | same | same <;> rw [same]
      · exact .phaseA .rx stage
      · exact .silent .poll
      · exact .phaseA .deadline stage
  | startTimeout stage fired =>
      rw [failed_wire]
      exact .startTimeout stage fired
  | phaseAAgain stage => exact .phaseA .rx stage
  | rejected stage => exact .rejected stage
  | duplicate stage received => exact .duplicate stage received
  | suppressed stage received head => exact .skip stage received (.inl head)
  | empty stage received => exact .skip stage received (.inr rfl)
  | taken stage received other nonempty => exact .take stage received other nonempty
  | finished stage received => exact .closed stage received
  | unsent stage => exact .responder .app stage
  | responderApp stage =>
      rcases s.pollApp_wire (.responder .rx) (.responder .feed) with same | same <;> rw [same]
      · exact .responder .rx stage
      · exact .responder .feed stage
  | responderFeed stage =>
      rcases s.pollFeed_wire (.responder .rx) (.responder .deadline) with
        same | same | same <;> rw [same]
      · exact .responder .rx stage
      · exact .silent .poll
      · exact .responder .deadline stage
  | appTimeout stage fired => exact .appTimeout stage fired
  | responderAgain stage => exact .responder .rx stage
  | hand stage receiver => exact .hand stage receiver
  | gone stage receiver => exact .gone _ stage receiver
  | told stage => exact .told stage
  | close stage => exact .close stage
  | observe stage => exact observe_wire stage

theorem step_wire {action : Action} (stepped : s.step request action = some next) :
    Wire.Step request s.wire action next.wire := by
  cases step_cases stepped with
  | poll polled => exact poll_wire polled
  | established stage => exact .established stage
  | refused stage =>
      rw [fail_wire, logAccess_wire]
      exact .refused stage
  | push stage accepted senders receiver => exact .push stage accepted senders receiver
  | park stage accepted senders receiver => exact .park stage accepted senders receiver
  | unpark unparked => exact .unpark unparked
  | dropSink => exact .dropSink
  | startDeadline => exact .startDeadline
  | appDeadline stage => exact .appDeadline stage
  | dropBody => exact .dropBody
  | dropService stage => exact .dropService stage
  | exit | settle | feed | takeChunk | reaped | reapTimeout => exact .silent _

theorem step_done {action : Action} (done : s.stage = .done)
    (stepped : s.step request action = some next) : next.stage = .done := by
  have wired := step_wire stepped
  have still : s.wire.stage = .done := done
  generalize s.wire = before at wired still
  generalize after : next.wire = later at wired
  have target : next.stage = later.stage := by rw [← after]; rfl
  rw [target]
  cases wired <;> simp_all

end Http

end RustAsgi
