import RustAsgi.WebSocket.AfterClose
import RustAsgi.WebSocket.Finish

/-!
# How far the two ends of a connection get apart

The driver never holds more than a bounded number of messages in either direction, whatever
the client and the application do. An application that waits in `send()` waits for its
client alone, as long as it has not closed: the driver's own steps make room unless a
write of theirs is held up.
-/

namespace RustAsgi

open Machine Asyncio Tokio

namespace ServerFrame

/-- A frame that carries a message of the application. -/
def isData : ServerFrame → Bool
  | .text _ | .binary _ => true
  | .pong _ | .close _ _ => false

end ServerFrame

open WsEvent

theorem WsEvent.isData_of_frame? {event : WsEvent} {frame : ServerFrame}
    (data : event.frame? = some frame) : frame.isData = true := by
  cases event with
  | sendText | sendBytes =>
      cases data
      rfl
  | accept | close => cases data

namespace WsStage

/-- What the driver has taken from the channel and not written. A message that comes before the
handshake, or that cannot be written, is lost, and the driver takes no other. -/
def Holds : WsStage → List ServerFrame → Prop
  | .setup, held | .connecting _, held | .accepting, held | .pump _, held
  | .feeding _ false, held | .closing _ _ .loop, held
  | .closing _ _ (.disconnect _ _), held => held = []
  | .sending frame, held => held = [frame].filter ServerFrame.isData
  | .closing _ _ .leave, held | .closing _ _ .denied, held | .closing _ _ .gone, held
  | .feeding _ true, held | .ending, held | .finishing, held | .done, held => held.length ≤ 1

variable {stage : WsStage} {held : List ServerFrame}

theorem Holds.length_le (holds : stage.Holds held) : held.length ≤ 1 := by
  have nothing (none : held = []) : held.length ≤ 1 := by
    rw [none]
    exact Nat.zero_le 1
  cases stage with
  | setup | connecting | accepting | pump => exact nothing holds
  | sending frame =>
      rw [show held = _ from holds]
      exact List.length_filter_le _ _
  | closing code reason after =>
      cases after with
      | loop | disconnect => exact nothing holds
      | leave | denied | gone => exact holds
  | feeding put last =>
      cases last with
      | false => exact nothing holds
      | true => exact holds
  | ending | finishing | done => exact holds

end WsStage

namespace Socket

theorem next_written {socket after : Socket} {frame : ClientFrame}
    (read : socket.next = .frame frame after) : after.written = socket.written := by
  simp only [next] at read
  split at read
  · simp only [SocketNext.frame.injEq] at read
    rcases read with ⟨_, rfl⟩
    rfl
  · split at read <;> cases read

theorem send_written {socket after : Socket} {frame : ServerFrame}
    (sent : socket.send frame = some after) : after.written = socket.written ++ [frame] := by
  simp only [send, Option.ite_none_right_eq_some, Option.some.injEq] at sent
  rw [← sent.2]

end Socket

namespace Ws

variable {s next final : Ws} {action : Action} {actions : List Action}

/-- The messages that `send()` has accepted. -/
def accepted (s : Ws) : List ServerFrame :=
  s.chan.sent.filterMap frame?

/-- The messages that have been written to the client. -/
def delivered (s : Ws) : List ServerFrame :=
  s.socket.written.filter ServerFrame.isData

/-- The channel keeps its order, and what was taken from it has been written or is held. -/
def Accounts (s : Ws) : Prop :=
  s.chan.Fifo ∧ ∃ held, s.chan.received.filterMap frame? = s.delivered ++ held ∧
    s.stage.Holds held

theorem Accounts.goto (accounts : s.Accounts) (fifo : next.chan.Fifo)
    (received : next.chan.received = s.chan.received)
    (delivered : next.delivered = s.delivered)
    (kept : ∀ held, s.stage.Holds held → next.stage.Holds held) : next.Accounts := by
  rcases accounts with ⟨_, held, taken, holds⟩
  refine ⟨fifo, held, ?_, kept held holds⟩
  rw [received, delivered]
  exact taken

/-- An event that is taken where nothing was held. -/
theorem Accounts.take (accounts : s.Accounts) {event : WsEvent} {chan : Mpsc WsEvent}
    {stage : WsStage} (received : s.chan.recv = .item event chan)
    (idle : ∀ held, s.stage.Holds held → held = [])
    (holds : stage.Holds (frame? event).toList) : ({ s with chan, stage } : Ws).Accounts := by
  rcases accounts with ⟨fifo, held, taken, before⟩
  refine ⟨fifo.recv received, (frame? event).toList, ?_, holds⟩
  rcases Mpsc.recv_item received with ⟨rest, _, rfl⟩
  simp only [List.filterMap_append, taken, idle held before, List.append_nil, delivered]
  cases frame : frame? event <;> simp [frame]

theorem Accounts.feed {message : WsInbound} {last : Bool} (accounts : s.Accounts)
    (idle : ∀ held, s.stage.Holds held → held = []) : (s.feed message last).Accounts := by
  rcases s.feed_cases message last with ⟨_, fed⟩ | ⟨_, fed⟩ <;> rw [fed]
  · refine accounts.goto accounts.1 rfl rfl fun held holds => ?_
    rw [idle held holds]
    cases last
    · rfl
    · exact Nat.zero_le 1
  · exact accounts.goto accounts.1 rfl rfl fun held holds => holds.length_le

theorem delivered_sendClose (s : Ws) (code : ℕ) (reason : String) :
    (s.sendClose code reason).delivered = s.delivered := by
  simp only [delivered, sendClose]
  cases sent : s.socket.send (.close code reason) with
  | none => rfl
  | some socket =>
      rw [Option.getD_some, Socket.send_written sent, List.filter_append]
      exact List.append_nil _

theorem Accounts.polled (accounts : s.Accounts) (polled : Polled s next) : next.Accounts := by
  have read {frame : ClientFrame} {socket : Socket} (stage : s.stage = .pump .socket)
      (read : s.socket.next = .frame frame socket) :
      ({ s with socket } : Ws).Accounts ∧ ∀ held, s.stage.Holds held → held = [] := by
    have same : ({ s with socket } : Ws).delivered = s.delivered :=
      congrArg (List.filter _) (Socket.next_written read)
    refine ⟨accounts.goto accounts.1 rfl same fun _ => id, fun held holds => ?_⟩
    rw [stage] at holds
    exact holds
  cases polled with
  | connected stage | onward _ stage =>
      refine accounts.goto accounts.1 rfl rfl fun held holds => ?_
      rw [stage] at holds
      exact holds
  | unconnected | appFailed | acceptTimeout | appEnd | appReturned | drained | unsent | unfed =>
      exact accounts.goto accounts.1 rfl rfl fun held holds => holds.length_le
  | accepted stage received | appClose stage _ received | duplicate stage _ received =>
      refine accounts.take received (fun held holds => ?_) rfl
      rw [stage] at holds
      exact holds
  | denied stage received | unexpected stage received =>
      refine accounts.take received (fun held holds => ?_) Option.length_toList_le
      rw [stage] at holds
      exact holds
  | data stage _ received data =>
      refine accounts.take received (fun held holds => ?_) ?_
      · rw [stage] at holds
        exact holds
      · rw [data]
        simp [WsStage.Holds, WsEvent.isData_of_frame? data]
  | message stage found => exact (read stage found).1.feed (read stage found).2
  | echoed stage found => exact (read stage found).1.feed (read stage found).2
  | vanished stage =>
      refine accounts.feed fun held holds => ?_
      rw [stage] at holds
      exact holds
  | ping stage found | ignored stage found | clientClosed stage found =>
      refine (read stage found).1.goto accounts.1 rfl rfl fun held holds => ?_
      rw [(read stage found).2 held holds]
      rfl
  | @sent frame socket stage _ sent =>
      rcases accounts with ⟨fifo, held, taken, holds⟩
      rw [stage] at holds
      refine ⟨fifo, [], ?_, rfl⟩
      simp only [delivered, Socket.send_written sent, List.filter_append, List.append_nil]
      rw [← show held = _ from holds]
      exact taken
  | @closed code reason after stage =>
      have sent : (s.sendClose code reason).Accounts :=
        accounts.goto accounts.1 rfl (s.delivered_sendClose code reason) fun _ => id
      cases after with
      | loop =>
          refine sent.goto sent.1 rfl rfl fun held (holds : s.stage.Holds held) => ?_
          rw [stage] at holds
          exact holds
      | leave | denied => exact sent.goto sent.1 rfl rfl fun held holds => holds.length_le
      | gone => exact sent.goto sent.1.dropReceiver rfl rfl fun held holds => holds.length_le
      | disconnect =>
          refine sent.feed fun held (holds : s.stage.Holds held) => ?_
          rw [stage] at holds
          exact holds
  | @fed put last stage =>
      refine accounts.goto accounts.1 rfl rfl fun held holds => ?_
      cases last with
      | false =>
          rw [stage] at holds
          exact holds
      | true => exact holds.length_le
  | leave =>
      refine accounts.goto accounts.1.dropReceiver rfl rfl fun held holds => ?_
      simp only
      split <;> exact holds.length_le
  | finish => exact accounts.goto accounts.1.dropReceiver rfl rfl fun held holds => holds.length_le

theorem Accounts.step (accounts : s.Accounts) (stepped : s.step action = some next) :
    next.Accounts := by
  cases step_cases stepped with
  | poll polled => exact accounts.polled polled
  | begin stage =>
      refine accounts.goto accounts.1 rfl rfl fun held holds => ?_
      rw [stage] at holds
      exact holds
  | stopped => exact accounts.goto accounts.1 rfl rfl fun held holds => holds.length_le
  | refused => exact accounts.goto accounts.1.dropReceiver rfl rfl fun held holds => holds.length_le
  | push => exact accounts.goto accounts.1.accept rfl rfl fun _ => id
  | park => exact accounts.goto accounts.1.park rfl rfl fun _ => id
  | unpark _ unparked =>
      refine accounts.goto (accounts.1.unpark unparked) ?_ rfl fun _ => id
      rcases Mpsc.unpark_cases unparked with ⟨value, _, _, _, rfl⟩
      rfl
  | dropSink => exact accounts.goto accounts.1.dropSenders rfl rfl fun _ => id
  | exit | settle | receive | turn | putTimeout | acceptTimeout | finishTimeout | stopLoop
  | clientSends | clientEnds | breaks | congest => exact accounts

theorem accounts_init : init.Accounts :=
  ⟨rfl, [], rfl, rfl⟩

/-- Permitted actions alone can let an application on that waits in `send()`. -/
def LetsOn (s : Ws) (permitted : Action → Prop) : Prop :=
  ∃ actions final, (∀ action ∈ actions, permitted action) ∧ run step s actions = some final ∧
    final.chan.Released

/-- The driver still reads the channel: the application has not closed. -/
def Listening (s : Ws) : Prop :=
  s.appClosed = false ∧ ∀ code reason, s.stage ≠ .closing code reason .loop

/-- How far a stage is from the next look at the channel. -/
def distance : WsStage → ℕ
  | .pump .socket => 6
  | .sending _ | .feeding _ false | .closing _ _ (.disconnect _ _) | .closing _ _ .loop => 4
  | .pump .app => 3
  | .setup | .connecting _ | .feeding _ true | .closing _ _ .leave | .closing _ _ .denied => 2
  | .pump .rx | .accepting | .closing _ _ .gone | .ending | .finishing => 1
  | .done => 0

/-- The measure that the driver's own steps lower until it reads the channel. -/
def near (s : Ws) : ℕ :=
  distance s.stage + (!s.putTimer).toNat + (!s.acceptTimer).toNat + (!s.finishTimer).toNat

/-- A poll that brings the driver closer to its next look at the channel. -/
def Nearer (s next : Ws) : Prop :=
  next.Listening ∧ next.near < s.near

theorem nearer_of (listening : s.Listening) (closed : next.appClosed = s.appClosed)
    (other : ∀ code reason, next.stage ≠ .closing code reason .loop)
    (put : next.putTimer = s.putTimer) (accept : next.acceptTimer = s.acceptTimer)
    (finish : next.finishTimer = s.finishTimer)
    (lower : distance next.stage < distance s.stage) : Nearer s next := by
  refine ⟨⟨closed.trans listening.1, other⟩, ?_⟩
  simp only [near, put, accept, finish]
  omega

/-- The timer of a put that is scheduled starts again. -/
theorem nearer_feed {middle : Ws} {message : WsInbound} {last : Bool} (listening : s.Listening)
    (closed : middle.appClosed = s.appClosed) (accept : middle.acceptTimer = s.acceptTimer)
    (put : middle.putTimer = s.putTimer) (finish : middle.finishTimer = s.finishTimer)
    (far : (if last then 4 else 6) ≤ distance s.stage) :
    Nearer s (middle.feed message last) := by
  rcases middle.feed_cases message last with ⟨_, fed⟩ | ⟨_, fed⟩ <;> rw [fed]
  · refine ⟨⟨closed.trans listening.1, by simp [enqueue, goto]⟩, ?_⟩
    cases last
    · simp only [near, enqueue, goto, distance, accept, finish, Bool.not_false, Bool.toNat_true,
        Bool.false_eq_true, if_false] at far ⊢
      omega
    · simp only [near, enqueue, goto, distance, accept, finish, Bool.not_false, Bool.toNat_true,
        if_true] at far ⊢
      omega
  · refine nearer_of listening closed (by simp [goto]) put accept finish ?_
    change 1 < distance s.stage
    split at far <;> omega

theorem nearer_pumpApp (listening : s.Listening) (stage : s.stage = .pump .app) :
    Nearer s s.pumpApp := by
  have onward : Nearer s (s.goto (.pump .rx)) :=
    nearer_of listening rfl nofun rfl rfl rfl (by simp [goto, distance, stage])
  simp only [pumpApp]
  split
  · exact onward
  · split
    · split
      · rename_i closed
        simp [listening.1] at closed
      · refine nearer_of listening rfl ?_ rfl rfl rfl (by simp [distance, stage])
        simp
    · exact onward

theorem released_pumpRx (chan : s.chan.Bounded) (listening : s.Listening)
    (buffered : s.chan.buffer ≠ []) : s.pumpRx.chan.Released := by
  simp only [pumpRx, listening.1, Bool.false_eq_true, if_false]
  split
  · rename_i received
    exact chan.released_of_recv received
  · rename_i received
    exact chan.released_of_recv received
  · rename_i received
    exact chan.released_of_recv received
  · rename_i received
    exact chan.released_of_recv received
  · rename_i received
    exact absurd (Mpsc.recv_closed.mp received).1 buffered
  · rename_i received
    exact absurd (Mpsc.recv_pending.mp received).1 buffered

theorem nearer_pumpSocket (listening : s.Listening) (stage : s.stage = .pump .socket) :
    Nearer s s.pumpSocket := by
  have far : distance s.stage = 6 := by rw [stage]; rfl
  have goes {socket : Socket} {later : WsStage}
      (other : ∀ code reason, later ≠ .closing code reason .loop) (lower : distance later < 6) :
      Nearer s { s with socket, stage := later } :=
    nearer_of listening rfl other rfl rfl rfl (far ▸ lower)
  simp only [pumpSocket]
  split
  · exact nearer_feed listening rfl rfl rfl rfl (Nat.le_of_eq far.symm)
  · exact nearer_feed listening rfl rfl rfl rfl (Nat.le_of_eq far.symm)
  · exact goes (by simp) (Nat.lt_of_sub_eq_succ rfl)
  · exact goes (by simp) (Nat.lt_of_sub_eq_succ rfl)
  · exact goes (by simp) (Nat.lt_of_sub_eq_succ rfl)
  · split
    · exact nearer_feed listening rfl rfl rfl rfl (by simp [far])
    · refine goes ?_ (Nat.lt_of_sub_eq_succ rfl)
      simp
  · exact nearer_feed listening rfl rfl rfl rfl (by simp [far])
  · exact nearer_of listening rfl (by simp [goto]) rfl rfl rfl (by simp [goto, distance, stage])

/-- Every poll of a driver that listens makes room, or comes closer to the channel. -/
theorem nearer_poll (chan : s.chan.Bounded) (listening : s.Listening)
    (buffered : s.chan.buffer ≠ []) (polled : s.poll = some next) :
    next.chan.Released ∨ Nearer s next := by
  by_cases app : s.stage = .pump .app
  · simp only [poll, app, Option.some.injEq] at polled
    exact .inr (polled ▸ nearer_pumpApp listening app)
  by_cases rx : s.stage = .pump .rx
  · simp only [poll, rx, Option.some.injEq] at polled
    exact .inl (polled ▸ released_pumpRx chan listening buffered)
  by_cases socket : s.stage = .pump .socket
  · simp only [poll, socket, Option.some.injEq] at polled
    exact .inr (polled ▸ nearer_pumpSocket listening socket)
  have goes {later : WsStage} (other : ∀ code reason, later ≠ .closing code reason .loop)
      (lower : distance later < distance s.stage) : Nearer s (s.goto later) :=
    nearer_of listening rfl other rfl rfl rfl lower
  cases polled_of_poll polled with
  | accepted _ received | denied _ received | unexpected _ received =>
      exact .inl (chan.released_of_recv received)
  | connected stage => exact .inr (goes (by simp) (by simp [distance, stage]))
  | unconnected stage => exact .inr (goes (by simp) (by simp [distance, stage]))
  | appFailed _ received => exact absurd (Mpsc.recv_closed.mp received).1 buffered
  | acceptTimeout _ received => exact absurd (Mpsc.recv_pending.mp received).1 buffered
  | sent stage =>
      exact .inr (nearer_of listening rfl (by simp) rfl rfl rfl (by simp [distance, stage]))
  | unsent stage => exact .inr (goes (by simp) (by simp [distance, stage]))
  | @closed code reason after stage =>
      cases after with
      | loop => exact absurd stage (listening.2 code reason)
      | leave | denied =>
          refine .inr (nearer_of listening rfl (by simp [afterClose, goto]) rfl rfl rfl ?_)
          simp [afterClose, goto, distance, stage]
      | gone => exact .inl (.inr rfl)
      | disconnect =>
          exact .inr (nearer_feed listening rfl rfl rfl rfl (by simp [distance, stage]))
  | @fed put last stage =>
      cases last with
      | false => exact .inr (goes (by simp) (by simp [distance, stage]))
      | true => exact .inr (goes (by simp) (by simp [distance, stage]))
  | @unfed put last stage =>
      cases last with
      | false => exact .inr (goes (by simp) (by simp [distance, stage]))
      | true => exact .inr (goes (by simp) (by simp [distance, stage]))
  | leave | finish => exact .inl (.inr rfl)
  | appEnd stage | appReturned stage => exact absurd stage app
  | data stage | appClose stage | duplicate stage | drained stage => exact absurd stage rx
  | message stage | ping stage | ignored stage | echoed stage | clientClosed stage
  | vanished stage => exact absurd stage socket
  | @onward branch later stage =>
      cases branch with
      | app => exact absurd stage app
      | rx => exact absurd stage rx
      | socket => exact absurd stage socket

/-- A driver that listens and is not held up takes a step towards the channel. -/
theorem exists_nearer (chan : s.chan.Bounded) (listening : s.Listening)
    (buffered : s.chan.buffer ≠ []) (begun : s.stage ≠ .setup) (going : s.stage ≠ .done)
    (unheld : ¬ s.Held) : ∃ action next, action.ofDriver = true ∧ s.step action = some next ∧
      (next.chan.Released ∨ Nearer s next) := by
  by_cases put : s.putTimer = true
  · by_cases accept : s.acceptTimer = true
    · by_cases finish : s.finishTimer = true
      · cases polled : s.poll with
        | some next => exact ⟨.poll, next, rfl, polled, nearer_poll chan listening buffered polled⟩
        | none => exact absurd (held_of_pending put accept finish begun going polled) unheld
      · have lower := timer_lowers _ finish
        refine ⟨.finishTimeout, { s with finishTimer := true }, rfl, rfl, .inr ⟨listening, ?_⟩⟩
        exact Nat.add_lt_add_left lower _
    · have lower := timer_lowers _ accept
      refine ⟨.acceptTimeout, { s with acceptTimer := true }, rfl, rfl, .inr ⟨listening, ?_⟩⟩
      exact Nat.add_lt_add_right (Nat.add_lt_add_left lower _) _
  · have lower := timer_lowers _ put
    refine ⟨.putTimeout, { s with putTimer := true }, rfl, rfl, .inr ⟨listening, ?_⟩⟩
    exact Nat.add_lt_add_right (Nat.add_lt_add_right (Nat.add_lt_add_left lower _) _) _

theorem letsOn_of_listening (sized : Sized s) (sink : s.SinkAt s.stage) (begun : s.stage ≠ .setup)
    (listening : s.Listening) (unblocked : s.socket.blocked = false) :
    s.LetsOn fun action => action.ofDriver = true := by
  have progress (current : Ws) (invariant : Sized current ∧ current.SinkAt current.stage ∧
        current.stage ≠ .setup ∧ current.socket.blocked = false ∧
        (current.chan.Released ∨ current.Listening)) (waits : ¬ current.chan.Released) :
      ∃ act later, act.ofDriver = true ∧ current.step act = some later ∧
        (Sized later ∧ later.SinkAt later.stage ∧ later.stage ≠ .setup ∧
          later.socket.blocked = false ∧ (later.chan.Released ∨ later.Listening)) ∧
        (later.chan.Released ∨ later.near < current.near) := by
    rcases invariant with ⟨sized, sink, begun, unblocked, listens⟩
    have listening := listens.resolve_left waits
    have going : current.stage ≠ .done := by
      intro done
      rw [done] at sink
      exact waits (.inr sink)
    have buffered : current.chan.buffer ≠ [] := by
      intro empty
      apply waits
      left
      rw [Mpsc.hasRoom, empty, sized.bound]
      rfl
    have unheld : ¬ current.Held := by
      rintro ⟨_, blocked⟩
      rw [unblocked] at blocked
      cases blocked
    rcases exists_nearer sized.chan listening buffered begun going unheld with
      ⟨act, later, own, stepped, nearer⟩
    refine ⟨act, later, own, stepped, ⟨sized.step stepped, sinkAt_step sink stepped,
      started_step begun stepped, (client_step own stepped).1.unblocked unblocked,
      nearer.imp_right And.left⟩, nearer.imp_right And.right⟩
  rcases exists_run_until _ (fun current => current.chan.Released) near progress
      ⟨sized, sink, begun, unblocked, .inr listening⟩ with ⟨actions, final, chosen, ran, _, reached⟩
  exact ⟨actions, final, chosen, ran, reached⟩

/-- A driver that is held does not read the channel. -/
theorem not_released_step (held : s.Held) (waits : ¬ s.chan.Released)
    (stepped : s.step action = some next) : ¬ next.chan.Released := by
  have begun : s.stage ≠ .setup := by
    intro stage
    have writing := held.1
    rw [stage] at writing
    cases writing
  cases step_cases stepped with
  | poll =>
      rw [show s.step .poll = s.poll from rfl, poll_of_held held] at stepped
      cases stepped
  | begin stage | stopped stage | refused stage => exact absurd stage begun
  | push _ _ _ _ room => exact absurd (.inl room) waits
  | unpark _ unparked =>
      rcases Mpsc.unpark_cases unparked with ⟨_, _, room, _⟩
      exact absurd (.inl room) waits
  | park | dropSink | exit | settle | receive | turn | putTimeout | acceptTimeout | finishTimeout
  | stopLoop | clientSends | clientEnds | breaks | congest => exact waits

theorem Held.not_letsOn (held : s.Held) (waits : ¬ s.chan.Released) :
    ¬ s.LetsOn fun action => action ≠ .breaks ∧ action ≠ .congest false := by
  rintro ⟨later, final, away, onward, reached⟩
  have along : Along step (fun _ action => action ≠ .breaks ∧ action ≠ .congest false) s later :=
    along_of_forall fun action member _ => away action member
  have stays : final.Held ∧ ¬ final.chan.Released := by
    apply run_invariant (fun current => current.Held ∧ ¬ current.chan.Released) _ along onward
      ⟨held, waits⟩
    intro current action next both away stepped
    exact ⟨(held_step both.1 away stepped).1, not_released_step both.1 both.2 stepped⟩
  exact stays.2 reached

/-- The two ends of a connection never get further apart than its buffers and one message in
either direction. While the application has not closed, a full channel makes it wait for nothing
but a client that does not read. -/
theorem traffic_bounded (ran : run step init actions = some s) :
    (∃ held, s.accepted = s.delivered ++ held ++ s.chan.buffer.filterMap frame? ∧
        s.stage.Holds held ∧ s.accepted.length ≤ s.delivered.length + (wsChannelBound + 1)) ∧
      s.submitted = s.received ++ s.loop.puts.map Put.item ∧
      s.submitted.length ≤ s.received.length + (wsQueueMaxsize + 1) ∧
      (s.stage ≠ .setup → s.Listening →
        (s.socket.blocked = false → s.LetsOn fun action => action.ofDriver = true) ∧
        (s.stage.writing = true → ¬ s.chan.Released →
          ((s.LetsOn fun action => action ≠ .breaks ∧ action ≠ .congest false) ↔
            s.socket.blocked = false))) := by
  have sized : Sized s := sized_of_run ran
  have accounts : s.Accounts := run_invariant_of_step Accounts
    (fun _ _ _ accounts stepped => accounts.step stepped) ran accounts_init
  refine ⟨?_, sized.inlet.order.symm, ?_, fun begun listening => ?_⟩
  · rcases accounts with ⟨fifo, held, taken, holds⟩
    have sent : s.chan.sent = s.chan.received ++ s.chan.buffer := fifo
    have accepted : s.accepted = s.delivered ++ held ++ s.chan.buffer.filterMap frame? := by
      rw [Ws.accepted, sent, List.filterMap_append, taken]
    refine ⟨held, accepted, holds, ?_⟩
    have buffered := s.chan.buffer.length_filterMap_le frame?
    have few := sized.chan.buffered
    have single := holds.length_le
    rw [sized.bound] at few
    simp only [accepted, List.length_append]
    omega
  · have few := sized.items
    have single := sized.inlet.serial.single
    simp only [← sized.inlet.order, List.length_append, List.length_map, Loop.puts_eq]
    omega
  · have sufficient := letsOn_of_listening sized (sinkAt_run ran) begun listening
    refine ⟨sufficient, fun writing waits => ⟨fun letsOn => ?_, fun unblocked => ?_⟩⟩
    · rw [Bool.eq_false_iff]
      intro blocked
      exact Held.not_letsOn ⟨writing, blocked⟩ waits letsOn
    · rcases sufficient unblocked with ⟨later, final, chosen, rest⟩
      refine ⟨later, final, fun action member => ?_, rest⟩
      have own := chosen action member
      constructor
      · rintro rfl
        cases own
      · rintro rfl
        cases own

/-- The application sends on while its client does not read. -/
def heldRun : List Action :=
  [.setup true, .turn, .turn, .turn, .poll, .push .accept false, .poll, .congest true,
    .push (.sendText "more") false, .poll, .poll] ++
    List.replicate 16 (.push (.sendText "more") false)

/-- As much as the bound allows is then under way. -/
theorem traffic_bounded_held :
    ∃ s, run step init heldRun = some s ∧ s.accepted.length = 17 ∧ s.delivered = [] ∧
      ¬ s.LetsOn fun action => action ≠ .breaks ∧ action ≠ .congest false := by
  have reached : ∃ s, run step init heldRun = some s ∧ s.stage = .sending (.text "more") ∧
      s.appClosed = false ∧ s.socket.blocked = true ∧ s.chan.hasRoom = false ∧
      s.chan.receiver = true ∧ s.accepted.length = 17 ∧ s.delivered = [] :=
    exists_of_run_any (by decide)
  rcases reached with ⟨s, ran, stage, opened, blocked, none, receiver, ahead, unread⟩
  rcases traffic_bounded ran with ⟨_, _, _, waiting⟩
  have listening : s.Listening := ⟨opened, by simp [stage]⟩
  have waits : ¬ s.chan.Released := by simp [Mpsc.Released, none, receiver]
  have exactly := (waiting (by simp [stage]) listening).2 (by simp [stage, WsStage.writing]) waits
  refine ⟨s, ran, ahead, unread, fun letsOn => ?_⟩
  rw [exactly, blocked] at letsOn
  cases letsOn

end Ws

end RustAsgi
