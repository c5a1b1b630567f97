import RustAsgi.Http.Handle

/-!
# The steps of `handle_http`

What one poll of the handler can do, and what the application, the event loop, the
connection and the timers can do around it, with the guards of each. Every invariant
of a request is a case analysis of `Http.Step`.
-/

namespace RustAsgi

open Asyncio Tokio

/-- What an action does to the feeding side, where that is all it does. -/
def Action.move? : Action → Option Feed.Move
  | .receive => some .receive
  | .turn => some .turn
  | .frameArrives => some .frameArrives
  | .bodyEnds => some .bodyEnds
  | .putTimeout => some .timeout
  | .stopLoop => some .stop
  | _ => none

namespace Http

/-- Where a body event leads. -/
def afterBody (moreBody : Bool) : Stage :=
  if moreBody then .responder .rx else .closing

variable {request : Request} {s next : Http} {action : Action}

/-- Everything one poll of the handler can do. -/
inductive Polled (request : Request) (s : Http) : Http → Prop where
  | start {status : ℕ} {headers : List Header} {chan : Mpsc ResponseEvent}
      (stage : s.stage = .phaseA .rx)
      (received : s.chan.recv = .item (.start status headers) chan) :
      Polled request s (({ s with chan } : Http).respond request status headers)
  | early {data : Bytes} {moreBody : Bool} {chan : Mpsc ResponseEvent}
      (stage : s.stage = .phaseA .rx) (received : s.chan.recv = .item (.body data moreBody) chan) :
      Polled request s { s with
        chan
        stage := .rejected (startDisconnect s.feed.drop).1
        feed := (startDisconnect s.feed.drop).2 }
  | neverStarted (stage : s.stage = .phaseA .rx) (received : s.chan.recv = .closed) :
      Polled request s (s.logAccess request 500 0).spawnDrainReaper.fail
  | unstarted (stage : s.stage = .phaseA .rx) (received : s.chan.recv = .pending) :
      Polled request s { s with stage := .phaseA .app }
  | phaseAApp (stage : s.stage = .phaseA .app) :
      Polled request s (s.pollApp (.phaseA .rx) (.phaseA .feed))
  | phaseAFeed (stage : s.stage = .phaseA .feed) :
      Polled request s (s.pollFeed (.phaseA .rx) (.phaseA .deadline))
  | startTimeout (stage : s.stage = .phaseA .deadline) (fired : s.startTimer = true) :
      Polled request s (s.logAccess request 500 0).spawnDrainReaper.fail
  | phaseAAgain (stage : s.stage = .phaseA .deadline) (running : s.startTimer = false) :
      Polled request s { s with stage := .phaseA .rx }
  | rejected {waiting : Option ℕ} (stage : s.stage = .rejected waiting)
      (told : disconnectDone s.feed waiting = true) : Polled request s s.spawnDrainReaper.fail
  | duplicate {status : ℕ} {headers : List Header} {chan : Mpsc ResponseEvent}
      (stage : s.stage = .responder .rx)
      (received : s.chan.recv = .item (.start status headers) chan) :
      Polled request s { s with chan, feed := s.feed.drop, stage := .responder .rx }
  | suppressed {data : Bytes} {moreBody : Bool} {chan : Mpsc ResponseEvent}
      (stage : s.stage = .responder .rx) (received : s.chan.recv = .item (.body data moreBody) chan)
      (head : request.isHead = true) :
      Polled request s { s with
        chan
        feed := s.feed.drop
        bytesSent := s.bytesSent + data.length
        stage := afterBody moreBody }
  | empty {moreBody : Bool} {chan : Mpsc ResponseEvent} (stage : s.stage = .responder .rx)
      (received : s.chan.recv = .item (.body [] moreBody) chan) (other : request.isHead = false) :
      Polled request s { s with chan, feed := s.feed.drop, stage := afterBody moreBody }
  | taken {data : Bytes} {moreBody : Bool} {chan : Mpsc ResponseEvent}
      (stage : s.stage = .responder .rx) (received : s.chan.recv = .item (.body data moreBody) chan)
      (other : request.isHead = false) (nonempty : data ≠ []) :
      Polled request s { s with
        chan
        feed := s.feed.drop
        bytesSent := s.bytesSent + data.length
        stage := .sendData data moreBody }
  | finished (stage : s.stage = .responder .rx) (received : s.chan.recv = .closed) :
      Polled request s { s with feed := s.feed.drop, stage := .closing }
  | unsent (stage : s.stage = .responder .rx) (received : s.chan.recv = .pending) :
      Polled request s { s with stage := .responder .app }
  | responderApp (stage : s.stage = .responder .app) :
      Polled request s (s.pollApp (.responder .rx) (.responder .feed))
  | responderFeed (stage : s.stage = .responder .feed) :
      Polled request s (s.pollFeed (.responder .rx) (.responder .deadline))
  | appTimeout (stage : s.stage = .responder .deadline) (fired : s.appTimer = true) :
      Polled request s { s with stage := .closing, feed := s.feed.drop }
  | responderAgain (stage : s.stage = .responder .deadline) (running : s.appTimer = false) :
      Polled request s { s with stage := .responder .rx }
  | hand {data : Bytes} {moreBody : Bool} (stage : s.stage = .sendData data moreBody)
      (receiver : s.body.receiver = true) (room : s.body.queue.length < responseChannelBound) :
      Polled request s { s with
        stage := afterBody moreBody
        body := { s.body with
          queue := s.body.queue ++ [data], handed := s.body.handed ++ [data] } }
  | gone {data : Bytes} {moreBody : Bool} (stage : s.stage = .sendData data moreBody)
      (receiver : s.body.receiver = false) :
      Polled request s { s with
        disconnected := true
        stage := .clientGone (startDisconnect s.feed).1
        feed := (startDisconnect s.feed).2 }
  | told {waiting : Option ℕ} (stage : s.stage = .clientGone waiting)
      (told : disconnectDone s.feed waiting = true) : Polled request s { s with stage := .closing }
  | close (stage : s.stage = .closing) : Polled request s s.close
  | observe (stage : s.stage = .observing) : Polled request s (s.observe request)

theorem polled_phaseARx (stage : s.stage = .phaseA .rx) :
    Polled request s (s.phaseARx request) := by
  simp only [phaseARx]
  split
  · rename_i status headers chan received
    exact .start stage received
  · rename_i data moreBody chan received
    exact .early stage received
  · rename_i received
    exact .neverStarted stage received
  · rename_i received
    exact .unstarted stage received

theorem polled_responderRx (stage : s.stage = .responder .rx) :
    Polled request s (s.responderRx request) := by
  simp only [responderRx]
  split
  · rename_i status headers chan received
    exact .duplicate stage received
  · rename_i data moreBody chan received
    split
    · rename_i head
      exact .suppressed stage received head
    · rename_i notHead
      have other := Bool.eq_false_iff.mpr notHead
      split
      · rename_i nothing
        subst nothing
        exact .empty stage received other
      · rename_i nonempty
        exact .taken stage received other nonempty
  · rename_i received
    exact .finished stage received
  · rename_i received
    exact .unsent stage received

theorem polled_sendData {data : Bytes} {moreBody : Bool}
    (stage : s.stage = .sendData data moreBody) (sent : s.sendData data moreBody = some next) :
    Polled request s next := by
  simp only [sendData] at sent
  split at sent
  · rename_i receiver
    rw [Option.ite_none_right_eq_some, Option.some.injEq] at sent
    rcases sent with ⟨room, rfl⟩
    exact .hand stage receiver room
  · rename_i dropped
    exact Option.some.inj sent ▸ .gone stage (Bool.eq_false_iff.mpr dropped)

theorem poll_cases (polled : s.poll request = some next) : Polled request s next := by
  simp only [poll] at polled
  cases stage : s.stage with
  | establish | done => simp [stage] at polled
  | phaseA branch =>
      simp only [stage] at polled
      cases branch with
      | rx => exact Option.some.inj polled ▸ polled_phaseARx stage
      | app => exact Option.some.inj polled ▸ .phaseAApp stage
      | feed => exact Option.some.inj polled ▸ .phaseAFeed stage
      | deadline =>
          simp only at polled
          split at polled
          · rename_i fired
            exact Option.some.inj polled ▸ .startTimeout stage fired
          · rename_i running
            exact Option.some.inj polled ▸ .phaseAAgain stage (Bool.eq_false_iff.mpr running)
  | rejected waiting =>
      simp only [stage, Option.ite_none_right_eq_some, Option.some.injEq] at polled
      rcases polled with ⟨told, rfl⟩
      exact .rejected stage told
  | responder branch =>
      simp only [stage] at polled
      cases branch with
      | rx => exact Option.some.inj polled ▸ polled_responderRx stage
      | app => exact Option.some.inj polled ▸ .responderApp stage
      | feed => exact Option.some.inj polled ▸ .responderFeed stage
      | deadline =>
          simp only at polled
          split at polled
          · rename_i fired
            exact Option.some.inj polled ▸ .appTimeout stage fired
          · rename_i running
            exact Option.some.inj polled ▸ .responderAgain stage (Bool.eq_false_iff.mpr running)
  | sendData data moreBody =>
      simp only [stage] at polled
      exact polled_sendData stage polled
  | clientGone waiting =>
      simp only [stage, Option.ite_none_right_eq_some, Option.some.injEq] at polled
      rcases polled with ⟨told, rfl⟩
      exact .told stage told
  | closing =>
      simp only [stage] at polled
      exact Option.some.inj polled ▸ .close stage
  | observing =>
      simp only [stage] at polled
      exact Option.some.inj polled ▸ .observe stage

/-- Everything a step of a request can do. -/
inductive Step (request : Request) (s : Http) : Action → Http → Prop where
  | established (stage : s.stage = .establish) :
      Step request s (.established true) { s with stage := .phaseA .rx }
  | refused (stage : s.stage = .establish) :
      Step request s (.established false) (s.logAccess request 500 0).fail
  | poll {next : Http} (polled : Polled request s next) : Step request s .poll next
  | push {event : ResponseEvent} (stage : s.stage ≠ .establish) (accepted : event.accepted = true)
      (senders : s.chan.senders = true) (receiver : s.chan.receiver = true)
      (connected : s.disconnected = false) (room : s.chan.hasRoom = true) :
      Step request s (.push event false) { s with chan := s.chan.accept event }
  | park {event : ResponseEvent} (stage : s.stage ≠ .establish) (accepted : event.accepted = true)
      (senders : s.chan.senders = true) (receiver : s.chan.receiver = true)
      (connected : s.disconnected = false)
      (behind : ¬ (s.chan.hasRoom = true ∧ s.chan.parked = [])) :
      Step request s (.push event true) { s with chan := s.chan.park event }
  | unpark {index : ℕ} {chan : Mpsc ResponseEvent} (unparked : s.chan.unpark index = some chan) :
      Step request s (.unpark index) { s with chan }
  | exit {outcome : Outcome} (stage : s.stage ≠ .establish) (running : s.app = .running) :
      Step request s (.exit outcome) { s with app := .exited outcome }
  | settle {outcome : Outcome} (exited : s.app = .exited outcome) :
      Step request s .settle { s with app := .settled outcome }
  | dropSink (ended : s.app ≠ .running) :
      Step request s .dropSink { s with chan := s.chan.dropSenders }
  | feed {action : Action} {move : Feed.Move} {feed : Feed} (own : action.move? = some move)
      (moved : s.feed.step move = some feed) : Step request s action { s with feed }
  | startDeadline (stage : s.stage.inPhaseA = true) :
      Step request s .startDeadline { s with startTimer := true }
  | appDeadline (stage : s.stage.inResponder = true) :
      Step request s .appDeadline { s with appTimer := true }
  | takeChunk {chunk : Bytes} {rest : List Bytes} (queued : s.body.queue = chunk :: rest) :
      Step request s .takeChunk { s with body := { s.body with queue := rest } }
  | dropBody (answered : s.response.isSome = true) :
      Step request s .dropBody { s with body := { s.body with receiver := false } }
  | dropService (stage : s.stage = .establish ∨ s.stage.inPhaseA = true) :
      Step request s .dropService
        { s with stage := .done, feed := s.feed.release, chan := s.chan.dropReceiver }
  | reaped {timeout : Bool} {outcome : Outcome} (waiting : s.reaper = .waiting)
      (settled : s.app = .settled outcome) :
      Step request s (.reap timeout) { s with
        reaper := .finished, appLogged := true, repolled := s.repolled || s.appDone }
  | reapTimeout (waiting : s.reaper = .waiting) (unsettled : ∀ outcome, s.app ≠ .settled outcome) :
      Step request s (.reap true) { s with reaper := .finished, appLogged := true }

theorem step_moveFeed {move : Feed.Move} (own : action.move? = some move)
    (moved : s.moveFeed move = some next) : Step request s action next := by
  simp only [moveFeed, Option.map_eq_some_iff] at moved
  rcases moved with ⟨feed, moved, rfl⟩
  exact .feed own moved

theorem step_push {event : ResponseEvent} {behind : Bool} (stage : s.stage ≠ .establish)
    (pushed : s.push event behind = some next) : Step request s (.push event behind) next := by
  simp only [push, Option.ite_none_right_eq_some, Bool.and_eq_true, Bool.not_eq_true'] at pushed
  rcases pushed with ⟨⟨⟨⟨accepted, senders⟩, receiver⟩, connected⟩, pushed⟩
  cases behind with
  | true =>
      simp only [if_true, Option.ite_none_left_eq_some, List.isEmpty_iff, Option.some.injEq]
        at pushed
      rcases pushed with ⟨waits, rfl⟩
      exact .park stage accepted senders receiver connected waits
  | false =>
      simp only [Bool.false_eq_true, if_false, Option.ite_none_right_eq_some, Option.some.injEq]
        at pushed
      rcases pushed with ⟨room, rfl⟩
      exact .push stage accepted senders receiver connected room

theorem step_cases (stepped : s.step request action = some next) : Step request s action next := by
  cases action with
  | poll => exact .poll (poll_cases stepped)
  | established succeeded =>
      simp only [step, Option.ite_none_right_eq_some] at stepped
      rcases stepped with ⟨stage, stepped⟩
      cases succeeded with
      | true => exact Option.some.inj stepped ▸ .established stage
      | false => exact Option.some.inj stepped ▸ .refused stage
  | push event behind =>
      simp only [step, Option.ite_none_left_eq_some] at stepped
      exact step_push stepped.1 stepped.2
  | unpark index =>
      simp only [step, Option.map_eq_some_iff] at stepped
      rcases stepped with ⟨chan, unparked, rfl⟩
      exact .unpark unparked
  | exit outcome =>
      simp only [step, Option.ite_none_right_eq_some, Option.some.injEq] at stepped
      rcases stepped with ⟨⟨stage, running⟩, rfl⟩
      exact .exit stage running
  | settle =>
      simp only [step] at stepped
      split at stepped
      · rename_i outcome exited
        exact Option.some.inj stepped ▸ .settle exited
      · cases stepped
  | dropSink =>
      simp only [step, Option.ite_none_left_eq_some, Option.some.injEq] at stepped
      rcases stepped with ⟨ended, rfl⟩
      exact .dropSink ended
  | receive =>
      simp only [step, Option.ite_none_left_eq_some] at stepped
      exact step_moveFeed rfl stepped.2
  | turn | frameArrives | bodyEnds | putTimeout | stopLoop => exact step_moveFeed rfl stepped
  | startDeadline =>
      simp only [step, Option.ite_none_right_eq_some, Option.some.injEq] at stepped
      rcases stepped with ⟨stage, rfl⟩
      exact .startDeadline stage
  | appDeadline =>
      simp only [step, Option.ite_none_right_eq_some, Option.some.injEq] at stepped
      rcases stepped with ⟨stage, rfl⟩
      exact .appDeadline stage
  | takeChunk =>
      simp only [step] at stepped
      split at stepped
      · rename_i chunk rest queued
        exact Option.some.inj stepped ▸ .takeChunk queued
      · cases stepped
  | dropBody =>
      simp only [step, Option.ite_none_right_eq_some, Option.some.injEq] at stepped
      rcases stepped with ⟨answered, rfl⟩
      exact .dropBody answered
  | dropService =>
      simp only [step, Option.ite_none_right_eq_some, Option.some.injEq] at stepped
      rcases stepped with ⟨stage, rfl⟩
      exact .dropService stage
  | reap timeout =>
      simp only [step] at stepped
      split at stepped
      · rename_i waiting
        split at stepped
        · rename_i outcome settled
          exact Option.some.inj stepped ▸ .reaped waiting settled
        · rename_i unsettled
          rw [Option.ite_none_right_eq_some, Option.some.injEq] at stepped
          rcases stepped with ⟨rfl, rfl⟩
          exact .reapTimeout waiting fun outcome settled => unsettled outcome settled
      · cases stepped

end Http

end RustAsgi
