import RustAsgi.WebSocket.Drive

/-!
# The steps of `drive_websocket`

What one poll of the driver can do, and what the application, the event loop, the
client and the timers can do around it, with the guards of each. Every invariant of
a connection is a case analysis of `Ws.Step`.
-/

namespace RustAsgi

open Asyncio Tokio

namespace WsEvent

def isClose : WsEvent → Bool
  | .close _ _ => true
  | _ => false

/-- The frame of a data event. -/
def frame? : WsEvent → Option ServerFrame
  | .sendText text => some (.text text)
  | .sendBytes data => some (.binary data)
  | _ => none

end WsEvent

/-- The message that a frame of the client becomes. -/
def ClientFrame.message? : ClientFrame → Option WsInbound
  | .text content => some (.text content)
  | .binary content => some (.bytes content)
  | _ => none

namespace Ws

variable {s next : Ws}

/-- The put that `feed_ws` schedules. -/
def enqueue (s : Ws) (message : WsInbound) : Ws :=
  { s with
    loop := s.loop.submit { id := s.nextId, item := message, nowait := false }
    nextId := s.nextId + 1
    putTimer := false
    submitted := s.submitted ++ [message] }

theorem feedWs_of_running (running : s.running = true) (message : WsInbound) :
    s.feedWs message = some (s.enqueue message) :=
  if_pos running

theorem feedWs_of_stopped (stopped : s.running = false) (message : WsInbound) :
    s.feedWs message = none :=
  if_neg (by simp [stopped])

theorem feed_cases (s : Ws) (message : WsInbound) (last : Bool) :
    (s.running = true ∧
      s.feed message last = (s.enqueue message).goto (.feeding s.nextId last)) ∨
    (s.running = false ∧ s.feed message last = s.goto .ending) := by
  cases running : s.running with
  | true => exact .inl ⟨rfl, by simp only [feed, feedWs_of_running running]⟩
  | false => exact .inr ⟨rfl, by simp only [feed, feedWs_of_stopped running]⟩

/-- Everything one poll of the driver can do. -/
inductive Polled (s : Ws) : Ws → Prop where
  | connected {put : ℕ} (stage : s.stage = .connecting put)
      (succeeded : s.putSucceeded put = true) : Polled s (s.goto .accepting)
  | unconnected {put : ℕ} (stage : s.stage = .connecting put)
      (failed : s.putSucceeded put = false) (settled : s.putSettled put = true) :
      Polled s (s.goto (.closing 1011 "setup failed" .gone))
  | accepted {chan : Mpsc WsEvent} (stage : s.stage = .accepting)
      (received : s.chan.recv = .item .accept chan) :
      Polled s { s with chan, stage := .pump .app }
  | denied {code : ℕ} {reason : String} {chan : Mpsc WsEvent} (stage : s.stage = .accepting)
      (received : s.chan.recv = .item (.close code reason) chan) :
      Polled s { s with chan, stage := .closing code reason .denied }
  | unexpected {event : WsEvent} {frame : ServerFrame} {chan : Mpsc WsEvent}
      (stage : s.stage = .accepting) (received : s.chan.recv = .item event chan)
      (data : event.frame? = some frame) :
      Polled s { s with chan, stage := .closing 1011 "expected accept" .denied }
  | appFailed (stage : s.stage = .accepting) (received : s.chan.recv = .closed) :
      Polled s (s.goto (.closing 1011 "app failed" .gone))
  | acceptTimeout (stage : s.stage = .accepting) (received : s.chan.recv = .pending)
      (fired : s.acceptTimer = true) : Polled s (s.goto (.closing 1011 "accept timeout" .denied))
  | onward {branch : WsBranch} (later : WsBranch) (stage : s.stage = .pump branch)
      (unread : branch = .socket → s.socket.next = .pending) : Polled s (s.goto (.pump later))
  | appEnd {outcome : Outcome} (stage : s.stage = .pump .app) (settled : s.app = .settled outcome)
      (closed : s.appClosed = true) : Polled s { s with appDone := true, stage := .ending }
  | appReturned {outcome : Outcome} (stage : s.stage = .pump .app)
      (settled : s.app = .settled outcome) (opened : s.appClosed = false) :
      Polled s { s with appDone := true, stage := .closing 1000 "" .leave }
  | data {event : WsEvent} {frame : ServerFrame} {chan : Mpsc WsEvent}
      (stage : s.stage = .pump .rx) (opened : s.appClosed = false)
      (received : s.chan.recv = .item event chan) (data : event.frame? = some frame) :
      Polled s { s with chan, stage := .sending frame }
  | appClose {code : ℕ} {reason : String} {chan : Mpsc WsEvent} (stage : s.stage = .pump .rx)
      (opened : s.appClosed = false) (received : s.chan.recv = .item (.close code reason) chan) :
      Polled s { s with chan, stage := .closing code reason .loop }
  | duplicate {chan : Mpsc WsEvent} (stage : s.stage = .pump .rx) (opened : s.appClosed = false)
      (received : s.chan.recv = .item .accept chan) :
      Polled s { s with chan, stage := .pump .app }
  | drained (stage : s.stage = .pump .rx) (opened : s.appClosed = false)
      (received : s.chan.recv = .closed) : Polled s (s.goto (.closing 1000 "" .leave))
  | message {frame : ClientFrame} {message : WsInbound} {socket : Socket}
      (stage : s.stage = .pump .socket) (read : s.socket.next = .frame frame socket)
      (carries : frame.message? = some message) :
      Polled s (({ s with socket } : Ws).feed message false)
  | ping {data : List UInt8} {socket : Socket} (stage : s.stage = .pump .socket)
      (read : s.socket.next = .frame (.ping data) socket) :
      Polled s { s with socket, stage := .sending (.pong data) }
  | ignored {frame : ClientFrame} {socket : Socket} (stage : s.stage = .pump .socket)
      (read : s.socket.next = .frame frame socket) (silent : frame = .pong ∨ frame = .raw) :
      Polled s { s with socket, stage := .pump .app }
  | echoed {frame : Option (ℕ × String)} {socket : Socket} (stage : s.stage = .pump .socket)
      (read : s.socket.next = .frame (.close frame) socket) (closed : s.appClosed = true) :
      Polled s (({ s with socket } : Ws).feed
        (.disconnect (frame.getD (1006, "")).1 (frame.getD (1006, "")).2) true)
  | clientClosed {frame : Option (ℕ × String)} {socket : Socket} (stage : s.stage = .pump .socket)
      (read : s.socket.next = .frame (.close frame) socket) (opened : s.appClosed = false) :
      Polled s { s with
        socket
        stage := .closing (frame.getD (1006, "")).1 ""
          (.disconnect (frame.getD (1006, "")).1 (frame.getD (1006, "")).2) }
  | vanished (stage : s.stage = .pump .socket) (read : s.socket.next = .finished) :
      Polled s (s.feed (.disconnect 1006 "") true)
  | sent {frame : ServerFrame} {socket : Socket} (stage : s.stage = .sending frame)
      (unblocked : s.socket.blocked = false) (sent : s.socket.send frame = some socket) :
      Polled s { s with socket, stage := .pump .app }
  | unsent {frame : ServerFrame} (stage : s.stage = .sending frame)
      (unblocked : s.socket.blocked = false) (unsent : s.socket.send frame = none) :
      Polled s (s.goto .ending)
  | closed {code : ℕ} {reason : String} {after : AfterClose}
      (stage : s.stage = .closing code reason after) (unblocked : s.socket.blocked = false) :
      Polled s ((s.sendClose code reason).afterClose after)
  | fed {put : ℕ} {last : Bool} (stage : s.stage = .feeding put last)
      (succeeded : s.putSucceeded put = true) :
      Polled s (s.goto (if last then .ending else .pump .app))
  | unfed {put : ℕ} {last : Bool} (stage : s.stage = .feeding put last)
      (failed : s.putSucceeded put = false) (settled : s.putSettled put = true) :
      Polled s (s.goto .ending)
  | leave (stage : s.stage = .ending) :
      Polled s { s with
        disconnected := true
        chan := s.chan.dropReceiver
        stage := if s.appDone then .done else .finishing }
  | finish (stage : s.stage = .finishing) : Polled s s.finish

theorem polled_of_pollAccepting (stage : s.stage = .accepting)
    (polled : s.pollAccepting = some next) : Polled s next := by
  simp only [pollAccepting] at polled
  split at polled
  · rename_i chan received
    exact Option.some.inj polled ▸ .accepted stage received
  · rename_i code reason chan received
    exact Option.some.inj polled ▸ .denied stage received
  · rename_i event chan notAccept notClose received
    rw [← Option.some.inj polled]
    cases event with
    | accept => exact absurd rfl notAccept
    | close code reason => exact absurd rfl (notClose code reason)
    | sendText text => exact .unexpected stage received rfl
    | sendBytes data => exact .unexpected stage received rfl
  · rename_i received
    exact Option.some.inj polled ▸ .appFailed stage received
  · rename_i received
    split at polled
    · rename_i fired
      exact Option.some.inj polled ▸ .acceptTimeout stage received fired
    · cases polled

theorem polled_pumpApp (stage : s.stage = .pump .app) : Polled s s.pumpApp := by
  simp only [pumpApp]
  split
  · exact .onward .rx stage nofun
  · split
    · rename_i outcome settled
      split
      · rename_i closed
        exact .appEnd stage settled closed
      · rename_i opened
        exact .appReturned stage settled (Bool.eq_false_iff.mpr opened)
    · exact .onward .rx stage nofun

theorem polled_pumpRx (stage : s.stage = .pump .rx) : Polled s s.pumpRx := by
  simp only [pumpRx]
  split
  · exact .onward .socket stage nofun
  · rename_i opened
    have open_ := Bool.eq_false_iff.mpr opened
    split
    · rename_i text chan received
      exact .data stage open_ received rfl
    · rename_i data chan received
      exact .data stage open_ received rfl
    · rename_i code reason chan received
      exact .appClose stage open_ received
    · rename_i chan received
      exact .duplicate stage open_ received
    · rename_i received
      exact .drained stage open_ received
    · exact .onward .socket stage nofun

theorem polled_pumpSocket (stage : s.stage = .pump .socket) : Polled s s.pumpSocket := by
  simp only [pumpSocket]
  split
  · rename_i text socket read
    exact .message stage read rfl
  · rename_i data socket read
    exact .message stage read rfl
  · rename_i data socket read
    exact .ping stage read
  · rename_i socket read
    exact .ignored stage read (.inl rfl)
  · rename_i socket read
    exact .ignored stage read (.inr rfl)
  · rename_i frame socket read
    split
    · rename_i closed
      exact .echoed stage read closed
    · rename_i opened
      exact .clientClosed stage read (Bool.eq_false_iff.mpr opened)
  · rename_i read
    exact .vanished stage read
  · rename_i nothing
    exact .onward .app stage fun _ => nothing

theorem polled_of_poll (polled : s.poll = some next) : Polled s next := by
  simp only [poll] at polled
  cases stage : s.stage with
  | setup => simp [stage] at polled
  | done => simp [stage] at polled
  | connecting put =>
      simp only [stage] at polled
      split at polled
      · rename_i succeeded
        exact Option.some.inj polled ▸ .connected stage succeeded
      · rename_i failed
        split at polled
        · rename_i settled
          exact Option.some.inj polled ▸ .unconnected stage (Bool.eq_false_iff.mpr failed) settled
        · cases polled
  | accepting =>
      simp only [stage] at polled
      exact polled_of_pollAccepting stage polled
  | pump branch =>
      cases branch with
      | app =>
          simp only [stage, Option.some.injEq] at polled
          exact polled ▸ polled_pumpApp stage
      | rx =>
          simp only [stage, Option.some.injEq] at polled
          exact polled ▸ polled_pumpRx stage
      | socket =>
          simp only [stage, Option.some.injEq] at polled
          exact polled ▸ polled_pumpSocket stage
  | sending frame =>
      simp only [stage] at polled
      split at polled
      · cases polled
      · rename_i unblocked
        have free := Bool.eq_false_iff.mpr unblocked
        rw [← Option.some.inj polled]
        simp only [Ws.sent]
        split
        · rename_i socket sent
          exact .sent stage free sent
        · rename_i unsent
          exact .unsent stage free unsent
  | closing code reason after =>
      simp only [stage] at polled
      split at polled
      · cases polled
      · rename_i unblocked
        exact Option.some.inj polled ▸ .closed stage (Bool.eq_false_iff.mpr unblocked)
  | feeding put last =>
      simp only [stage] at polled
      split at polled
      · rename_i succeeded
        exact Option.some.inj polled ▸ .fed stage succeeded
      · rename_i failed
        split at polled
        · rename_i settled
          exact Option.some.inj polled ▸ .unfed stage (Bool.eq_false_iff.mpr failed) settled
        · cases polled
  | ending =>
      simp only [stage, Option.some.injEq] at polled
      exact polled ▸ .leave stage
  | finishing =>
      simp only [stage] at polled
      split at polled
      · exact Option.some.inj polled ▸ .finish stage
      · split at polled
        · exact Option.some.inj polled ▸ .finish stage
        · cases polled

/-- Everything a step of a connection can do. -/
inductive Step (s : Ws) : Action → Ws → Prop where
  | poll {next : Ws} (polled : Polled s next) : Step s .poll next
  | begin (stage : s.stage = .setup) (running : s.running = true) :
      Step s (.setup true) ((s.enqueue .connect).goto (.connecting s.nextId))
  | stopped (stage : s.stage = .setup) (stopped : s.running = false) :
      Step s (.setup true) (s.goto (.closing 1011 "setup failed" .gone))
  | refused (stage : s.stage = .setup) :
      Step s (.setup false)
        { s with stage := .closing 1011 "internal error" .gone, chan := s.chan.dropReceiver }
  | push {event : WsEvent} (started : s.stage ≠ .setup) (senders : s.chan.senders = true)
      (receiver : s.chan.receiver = true) (connected : s.disconnected = false)
      (room : s.chan.hasRoom = true) :
      Step s (.push event false) { s with chan := s.chan.accept event }
  | park {event : WsEvent} (started : s.stage ≠ .setup) (senders : s.chan.senders = true)
      (receiver : s.chan.receiver = true) (connected : s.disconnected = false)
      (crowded : s.chan.hasRoom = false ∨ s.chan.parked ≠ []) :
      Step s (.push event true) { s with chan := s.chan.park event }
  | unpark {index : ℕ} {chan : Mpsc WsEvent} (started : s.stage ≠ .setup)
      (unparked : s.chan.unpark index = some chan) : Step s (.unpark index) { s with chan }
  | dropSink (ended : s.app ≠ .running) : Step s .dropSink { s with chan := s.chan.dropSenders }
  | exit {outcome : Outcome} (started : s.stage ≠ .setup) (running : s.app = .running) :
      Step s (.exit outcome) { s with app := .exited outcome }
  | settle {outcome : Outcome} (exited : s.app = .exited outcome) :
      Step s .settle { s with app := .settled outcome }
  | receive {put : Put WsInbound} {loop : Loop WsInbound} (got : s.loop.get = some (put, loop)) :
      Step s .receive { s with loop, received := s.received ++ [put.item] }
  | turn {loop : Loop WsInbound} (turned : s.loop.turn = some loop) : Step s .turn { s with loop }
  | putTimeout : Step s .putTimeout { s with putTimer := true }
  | acceptTimeout : Step s .acceptTimeout { s with acceptTimer := true }
  | finishTimeout : Step s .finishTimeout { s with finishTimer := true }
  | stopLoop : Step s .stopLoop { s with running := false }
  | clientSends {frame : ClientFrame} (opened : s.socket.ended = false) :
      Step s (.clientSends frame)
        { s with socket := { s.socket with inbound := s.socket.inbound ++ [frame] } }
  | clientEnds : Step s .clientEnds { s with socket := { s.socket with ended := true } }
  | breaks : Step s .breaks { s with socket := { s.socket with writable := false } }
  | congest {stopped : Bool} :
      Step s (.congest stopped) { s with socket := { s.socket with congested := stopped } }

theorem step_of_push {event : WsEvent} {behind : Bool} (started : s.stage ≠ .setup)
    (pushed : s.push event behind = some next) : Step s (.push event behind) next := by
  simp only [push] at pushed
  split at pushed
  · rename_i allowed
    simp only [Bool.and_eq_true, Bool.not_eq_true'] at allowed
    rcases allowed with ⟨⟨senders, receiver⟩, connected⟩
    split at pushed
    · rename_i isBehind
      subst isBehind
      split at pushed
      · cases pushed
      · rename_i crowded
        rw [← Option.some.inj pushed]
        apply Step.park started senders receiver connected
        simpa [or_iff_not_imp_left] using crowded
    · rename_i first
      split at pushed
      · rename_i room
        rw [← Option.some.inj pushed, Bool.eq_false_iff.mpr first]
        exact .push started senders receiver connected room
      · cases pushed
  · cases pushed

theorem step_cases {action : Action} (stepped : s.step action = some next) :
    Step s action next := by
  cases action with
  | poll => exact .poll (polled_of_poll stepped)
  | push event behind =>
      simp only [step, Option.ite_none_left_eq_some] at stepped
      exact step_of_push stepped.1 stepped.2
  | setup succeeded =>
      simp only [step, Option.ite_none_right_eq_some] at stepped
      rcases stepped with ⟨stage, stepped⟩
      cases succeeded with
      | false => exact Option.some.inj stepped ▸ .refused stage
      | true =>
          cases running : s.running with
          | true =>
              simp only [feedWs_of_running running, if_true, Option.some.injEq] at stepped
              exact stepped ▸ .begin stage running
          | false =>
              simp only [feedWs_of_stopped running, if_true, Option.some.injEq] at stepped
              exact stepped ▸ .stopped stage running
  | unpark index =>
      simp only [step, Option.ite_none_left_eq_some, Option.map_eq_some_iff] at stepped
      rcases stepped with ⟨started, chan, unparked, rfl⟩
      exact .unpark started unparked
  | exit outcome =>
      simp only [step, Option.ite_none_right_eq_some, Option.some.injEq] at stepped
      rcases stepped with ⟨⟨started, running⟩, rfl⟩
      exact .exit started running
  | settle =>
      simp only [step] at stepped
      split at stepped
      · rename_i outcome exited
        exact Option.some.inj stepped ▸ .settle exited
      · cases stepped
  | dropSink =>
      simp only [step, Option.ite_none_left_eq_some, Option.some.injEq] at stepped
      rcases stepped with ⟨ended, rfl⟩
      exact .dropSink ended
  | receive =>
      simp only [step] at stepped
      split at stepped
      · rename_i put loop got
        exact Option.some.inj stepped ▸ .receive got
      · cases stepped
  | turn =>
      simp only [step, Option.map_eq_some_iff] at stepped
      rcases stepped with ⟨loop, turned, rfl⟩
      exact .turn turned
  | clientSends frame =>
      simp only [step, Option.ite_none_left_eq_some, Option.some.injEq] at stepped
      rcases stepped with ⟨opened, rfl⟩
      exact .clientSends (Bool.eq_false_iff.mpr opened)
  | putTimeout => exact Option.some.inj stepped ▸ .putTimeout
  | acceptTimeout => exact Option.some.inj stepped ▸ .acceptTimeout
  | finishTimeout => exact Option.some.inj stepped ▸ .finishTimeout
  | stopLoop => exact Option.some.inj stepped ▸ .stopLoop
  | clientEnds => exact Option.some.inj stepped ▸ .clientEnds
  | breaks => exact Option.some.inj stepped ▸ .breaks
  | congest stopped => exact Option.some.inj stepped ▸ .congest

theorem feed_app (s : Ws) (message : WsInbound) (last : Bool) :
    (s.feed message last).app = s.app ∧ (s.feed message last).appDone = s.appDone := by
  rcases s.feed_cases message last with ⟨_, fed⟩ | ⟨_, fed⟩ <;> rw [fed] <;> exact ⟨rfl, rfl⟩

theorem afterClose_app (s : Ws) (after : AfterClose) :
    (s.afterClose after).app = s.app ∧ (s.afterClose after).appDone = s.appDone := by
  cases after with
  | loop | leave | denied | gone => exact ⟨rfl, rfl⟩
  | disconnect code reason => exact s.feed_app _ _

theorem Polled.app (polled : Polled s next) :
    next.app = s.app ∧
      (next.appDone = true → s.appDone = true ∨ ∃ outcome, s.app = .settled outcome) := by
  cases polled with
  | appEnd _ settled | appReturned _ settled => exact ⟨rfl, fun _ => .inr ⟨_, settled⟩⟩
  | @message _ message socket =>
      rcases feed_app { s with socket } message false with ⟨app, done⟩
      exact ⟨app, fun ended => .inl (done ▸ ended)⟩
  | @echoed frame socket =>
      rcases feed_app { s with socket } (.disconnect (frame.getD (1006, "")).1
        (frame.getD (1006, "")).2) true with ⟨app, done⟩
      exact ⟨app, fun ended => .inl (done ▸ ended)⟩
  | vanished =>
      rcases s.feed_app (.disconnect 1006 "") true with ⟨app, done⟩
      exact ⟨app, fun ended => .inl (done ▸ ended)⟩
  | @closed code reason after =>
      rcases (s.sendClose code reason).afterClose_app after with ⟨app, done⟩
      exact ⟨app, fun ended => .inl (done ▸ ended)⟩
  | _ => exact ⟨rfl, .inl⟩

theorem running_of_step {action : Action} (stepped : s.step action = some next)
    (running : next.app = .running) : s.app = .running := by
  cases step_cases stepped with
  | poll polled => exact polled.app.1 ▸ running
  | exit _ before => exact before
  | settle => cases running
  | _ => exact running

/-- The driver has seen the end of an application only if there was one. -/
def Watched (s : Ws) : Prop :=
  s.appDone = true → ∃ outcome, s.app = .settled outcome

theorem Watched.step {action : Action} (watched : s.Watched)
    (stepped : s.step action = some next) : next.Watched := by
  intro done
  cases step_cases stepped with
  | poll polled =>
      rw [polled.app.1]
      exact (polled.app.2 done).elim watched id
  | exit _ running =>
      rcases watched done with ⟨_, settled⟩
      rw [settled] at running
      cases running
  | settle => exact ⟨_, rfl⟩
  | _ => exact watched done

theorem watched_init : init.Watched :=
  nofun

end Ws

end RustAsgi
