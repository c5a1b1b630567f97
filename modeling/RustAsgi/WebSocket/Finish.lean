import RustAsgi.WebSocket.Deadlock
import RustAsgi.WebSocket.Grammar

/-!
# What can hold a WebSocket connection

Once the application has ended, or the client's stream has, the driver leaves its pump,
and each of its awaits on the way out is bounded by a timer, except `ws.send(..)`: a
client that keeps its connection open and does not read holds the driver there.
-/

namespace RustAsgi

open Machine Asyncio Tokio

namespace Ws

variable {s next final : Ws} {action : Action} {actions : List Action}

/-- Only the driver takes these: it is polled, or one of its own timers fires. -/
def Action.ofDriver : Action → Bool
  | .poll | .putTimeout | .acceptTimeout | .finishTimeout => true
  | _ => false

/-- The application's future is ready. -/
def appReady (s : Ws) : Bool :=
  match s.app with
  | .settled _ => true
  | _ => false

theorem appReady_iff : s.appReady = true ↔ ∃ outcome, s.app = .settled outcome := by
  simp only [appReady]
  split
  · rename_i outcome settled
    simp [settled]
  · rename_i unsettled
    simpa using unsettled

/-- The pump comes to an end: its application has, or its client has. -/
def Departing (s : Ws) : Prop :=
  s.appReady = true ∨ s.socket.ended = true

/-- How far a stage is from the end. The branch of the pump that ends it depends on who has gone. -/
def rank (ready : Bool) : WsStage → ℕ
  | .setup => 13
  | .connecting _ => 12
  | .accepting => 11
  | .pump .app => if ready then 6 else 8
  | .pump .rx => if ready then 8 else 7
  | .pump .socket => if ready then 7 else 6
  | .sending _ | .feeding _ false | .closing _ _ .loop => 10
  | .closing _ _ (.disconnect _ _) => 5
  | .closing _ _ .leave | .closing _ _ .denied | .closing _ _ .gone => 4
  | .feeding _ true => 3
  | .ending => 2
  | .finishing => 1
  | .done => 0

/-- The measure that the driver's own steps lower. -/
def ahead (s : Ws) : ℕ :=
  rank s.appReady s.stage + 20 * (s.chan.buffer.length + s.socket.inbound.length) +
    (!s.putTimer).toNat + (!s.acceptTimer).toNat + (!s.finishTimer).toNat

end Ws

namespace WsStage

/-- The driver is on its way out, and past the last look at the application. -/
def leaving : WsStage → Bool
  | .closing _ _ .leave | .ending | .done => true
  | _ => false

/-- The driver awaits `ws.send`. -/
def writing : WsStage → Bool
  | .sending _ | .closing _ _ _ => true
  | _ => false

end WsStage

namespace Ws

variable {s next final : Ws} {action : Action} {actions : List Action}

/-- The driver awaits a `ws.send` that its client does not take. -/
def Held (s : Ws) : Prop :=
  s.stage.writing = true ∧ s.socket.blocked = true

/-- An end that has been seen has led out of the pump. -/
def Left (s : Ws) : Prop :=
  s.appDone = true → s.stage.leaving = true

theorem Left.polled (left : s.Left) (polled : Polled s next) : next.Left := by
  intro done
  cases polled with
  | appEnd | appReturned | unsent | unfed => rfl
  | @fed put last stage =>
      have before := left done
      simp [stage, WsStage.leaving] at before
  | @closed code reason after stage =>
      have before := left (((s.sendClose code reason).afterClose_app after).2 ▸ done)
      rw [stage] at before
      cases after <;> first | rfl | cases before
  | leave =>
      have before : s.appDone = true := done
      simp [before, WsStage.leaving]
  | finish => rfl
  | @message frame message socket stage =>
      have before := left ((feed_app { s with socket } message false).2 ▸ done)
      simp [stage, WsStage.leaving] at before
  | @echoed frame socket stage =>
      have before := left ((feed_app { s with socket } _ true).2 ▸ done)
      simp [stage, WsStage.leaving] at before
  | vanished stage =>
      have before := left ((s.feed_app _ true).2 ▸ done)
      simp [stage, WsStage.leaving] at before
  | connected stage | unconnected stage | accepted stage | denied stage | unexpected stage
  | appFailed stage | acceptTimeout stage | onward later stage | data stage | appClose stage
  | duplicate stage | drained stage | ping stage | ignored stage | clientClosed stage
  | sent stage =>
      have before := left done
      simp [stage, WsStage.leaving] at before

theorem Left.step (left : s.Left) (stepped : s.step action = some next) : next.Left := by
  cases step_cases stepped with
  | poll polled => exact left.polled polled
  | begin stage | stopped stage | refused stage =>
      intro done
      have before := left done
      simp [stage, WsStage.leaving] at before
  | _ => exact left

theorem left_init : init.Left :=
  nofun

end Ws

namespace Socket

theorem next_pending {socket : Socket} (waits : socket.next = .pending) :
    socket.ended = false := by
  simp only [next] at waits
  split at waits
  · cases waits
  · split at waits
    · cases waits
    · rename_i running
      exact Bool.eq_false_iff.mpr running

end Socket

namespace Ws

variable {s next final : Ws} {action : Action} {actions : List Action}

/-- What a poll leaves as it is: whether the client's stream is at its end, and that nothing is held
up by the client. -/
structure SameClient (socket after : Socket) : Prop where
  ended : after.ended = socket.ended
  unblocked : socket.blocked = false → after.blocked = false

theorem feed_socket (s : Ws) (message : WsInbound) (last : Bool) :
    (s.feed message last).socket = s.socket := by
  rcases s.feed_cases message last with ⟨_, fed⟩ | ⟨_, fed⟩ <;> rw [fed] <;> rfl

theorem sameClient_next {socket after : Socket} {frame : ClientFrame}
    (read : socket.next = .frame frame after) : SameClient socket after := by
  simp only [Socket.next] at read
  split at read
  · simp only [SocketNext.frame.injEq] at read
    rcases read with ⟨_, rfl⟩
    refine ⟨rfl, ?_⟩
    simp only [Socket.blocked]
    split
    · simp
    · exact id
  · split at read <;> cases read

theorem sameClient_send {socket after : Socket} {frame : ServerFrame}
    (sent : socket.send frame = some after) : SameClient socket after := by
  simp only [Socket.send, Option.ite_none_right_eq_some, Option.some.injEq] at sent
  rcases sent with ⟨⟨active, writable⟩, rfl⟩
  refine ⟨rfl, ?_⟩
  simp only [Socket.blocked, active, writable]
  split <;> simp

theorem sendClose_kept (s : Ws) (code : ℕ) (reason : String) :
    SameClient s.socket (s.sendClose code reason).socket ∧
      (s.sendClose code reason).socket.inbound = s.socket.inbound := by
  cases sent : s.socket.send (.close code reason) with
  | none => exact ⟨by simpa [sendClose, sent] using ⟨rfl, id⟩, by simp [sendClose, sent]⟩
  | some socket =>
      simp only [sendClose, sent, Option.getD_some]
      exact ⟨sameClient_send sent, Socket.send_inbound sent⟩

theorem afterClose_socket (s : Ws) (after : AfterClose) :
    (s.afterClose after).socket = s.socket := by
  cases after with
  | disconnect code reason => exact s.feed_socket _ _
  | loop | leave | denied | gone => rfl

theorem Polled.client (polled : Polled s next) : SameClient s.socket next.socket := by
  cases polled with
  | message _ read | echoed _ read =>
      rw [feed_socket]
      exact sameClient_next read
  | ping _ read | ignored _ read | clientClosed _ read => exact sameClient_next read
  | vanished =>
      rw [feed_socket]
      exact ⟨rfl, id⟩
  | sent _ _ sent => exact sameClient_send sent
  | @closed code reason after =>
      rw [afterClose_socket]
      exact (s.sendClose_kept code reason).1
  | _ => exact ⟨rfl, id⟩

theorem rank_pump_le (ready : Bool) (branch : WsBranch) : rank ready (.pump branch) ≤ 8 := by
  cases ready <;> cases branch <;> simp [rank]

/-- A message to the application costs less than the frame it comes from. -/
theorem ahead_feed (s : Ws) (message : WsInbound) (last : Bool) :
    (s.feed message last).ahead ≤ (if last then 4 else 11) +
      20 * (s.chan.buffer.length + s.socket.inbound.length) +
        (!s.acceptTimer).toNat + (!s.finishTimer).toNat := by
  rcases s.feed_cases message last with ⟨_, fed⟩ | ⟨_, fed⟩
  · rw [fed]
    cases last
    · simp only [ahead, enqueue, goto, rank, Bool.not_false, Bool.toNat_true, Bool.false_eq_true,
        if_false]
      omega
    · simp only [ahead, enqueue, goto, rank, Bool.not_false, Bool.toNat_true, if_true]
      omega
  · have flag := Bool.toNat_le (!s.putTimer)
    rw [fed]
    simp only [ahead, goto, rank]
    split <;> omega

theorem length_of_recv {event : WsEvent} {chan : Mpsc WsEvent}
    (received : s.chan.recv = .item event chan) :
    s.chan.buffer.length = chan.buffer.length + 1 := by
  rcases Mpsc.recv_item received with ⟨rest, buffered, rfl⟩
  simp [buffered]

theorem length_of_next {frame : ClientFrame} {socket : Socket}
    (read : s.socket.next = .frame frame socket) :
    s.socket.inbound.length = socket.inbound.length + 1 := by
  rw [Socket.next_frame read, List.length_cons]

theorem ahead_goto {stage : WsStage} (lower : rank s.appReady stage < rank s.appReady s.stage) :
    (s.goto stage).ahead < s.ahead := by
  have same : (s.goto stage).appReady = s.appReady := rfl
  rw [ahead, ahead, same]
  simp only [goto]
  omega

theorem ahead_pumpApp (left : s.Left) (stage : s.stage = .pump .app) :
    s.pumpApp.ahead < s.ahead := by
  have unseen : s.appDone = false := by
    rw [Bool.eq_false_iff]
    intro seen
    have before := left seen
    simp [stage, WsStage.leaving] at before
  simp only [pumpApp, unseen, Bool.false_eq_true, if_false]
  split
  · rename_i outcome settled
    split <;> simp [ahead, appReady, settled, stage, rank]
  · rename_i unsettled
    have waiting : s.appReady = false := by
      rw [Bool.eq_false_iff]
      intro ready
      rcases appReady_iff.mp ready with ⟨outcome, settled⟩
      exact unsettled outcome settled
    apply ahead_goto
    rw [stage, waiting]
    decide

/-- An event that is read pays for whatever follows. -/
theorem ahead_recv {event : WsEvent} {chan : Mpsc WsEvent} {stage : WsStage}
    (received : s.chan.recv = .item event chan) (near : rank s.appReady stage ≤ 10) :
    ({ s with chan, stage } : Ws).ahead < s.ahead := by
  have fewer := length_of_recv received
  have same : ({ s with chan, stage } : Ws).appReady = s.appReady := rfl
  simp only [ahead, same]
  omega

/-- So does a frame. -/
theorem ahead_next {frame : ClientFrame} {socket : Socket} {stage : WsStage}
    (read : s.socket.next = .frame frame socket) (near : rank s.appReady stage ≤ 10) :
    ({ s with socket, stage } : Ws).ahead < s.ahead := by
  have fewer := length_of_next read
  have same : ({ s with socket, stage } : Ws).appReady = s.appReady := rfl
  simp only [ahead, same]
  omega

theorem ahead_feed_next {frame : ClientFrame} {socket : Socket} {message : WsInbound} {last : Bool}
    (read : s.socket.next = .frame frame socket) :
    (({ s with socket } : Ws).feed message last).ahead < s.ahead := by
  have fewer := length_of_next read
  have fed := ahead_feed { s with socket } message last
  simp only [ahead] at fed ⊢
  split at fed <;> omega

theorem ahead_pumpRx (stage : s.stage = .pump .rx) : s.pumpRx.ahead < s.ahead := by
  have onward : (s.goto (.pump .socket)).ahead < s.ahead := by
    apply ahead_goto
    rw [stage]
    cases s.appReady <;> decide
  simp only [pumpRx]
  split
  · exact onward
  · split
    · rename_i text chan received
      exact ahead_recv received (Nat.le_refl 10)
    · rename_i data chan received
      exact ahead_recv received (Nat.le_refl 10)
    · rename_i code reason chan received
      exact ahead_recv received (Nat.le_refl 10)
    · rename_i chan received
      exact ahead_recv received (Nat.le_trans (rank_pump_le _ _) (by decide))
    · apply ahead_goto
      rw [stage]
      cases s.appReady <;> simp [rank]
    · exact onward

theorem ahead_pumpSocket (departing : s.Departing) (stage : s.stage = .pump .socket) :
    s.pumpSocket.ahead < s.ahead := by
  simp only [pumpSocket]
  split
  · rename_i text socket read
    exact ahead_feed_next read
  · rename_i data socket read
    exact ahead_feed_next read
  · rename_i data socket read
    exact ahead_next read (Nat.le_refl 10)
  · rename_i socket read
    exact ahead_next read (Nat.le_trans (rank_pump_le _ _) (by decide))
  · rename_i socket read
    exact ahead_next read (Nat.le_trans (rank_pump_le _ _) (by decide))
  · rename_i frame socket read
    split
    · exact ahead_feed_next read
    · exact ahead_next read (by simp [rank])
  · have fed := s.ahead_feed (.disconnect 1006 "") true
    have far : 6 ≤ rank s.appReady s.stage := by
      rw [stage]
      cases s.appReady <;> decide
    simp only [if_true] at fed
    rw [ahead.eq_def s]
    omega
  · rename_i waits
    apply ahead_goto
    have ready : s.appReady = true := by
      rcases departing with ready | ended
      · exact ready
      · rw [Socket.next_pending waits] at ended
        cases ended
    rw [stage, ready]
    decide

theorem ahead_sendClose (code : ℕ) (reason : String) (s : Ws) :
    (s.sendClose code reason).ahead = s.ahead := by
  have same : (s.sendClose code reason).appReady = s.appReady := rfl
  rw [ahead, ahead, same, (s.sendClose_kept code reason).2]
  rfl

theorem ahead_closed {code : ℕ} {reason : String} {after : AfterClose}
    (stage : s.stage = .closing code reason after) :
    ((s.sendClose code reason).afterClose after).ahead < s.ahead := by
  rw [← s.ahead_sendClose code reason]
  have still : (s.sendClose code reason).stage = .closing code reason after := stage
  generalize s.sendClose code reason = sent at still
  cases after with
  | loop =>
      have near := rank_pump_le sent.appReady .app
      have same : ({ sent with appClosed := true, stage := .pump .app } : Ws).appReady =
        sent.appReady := rfl
      simp only [afterClose, ahead, same, still]
      simp only [rank] at near ⊢
      omega
  | leave =>
      apply ahead_goto
      simp [still, rank]
  | denied =>
      apply ahead_goto
      simp [still, rank]
  | gone =>
      simp only [afterClose, finish, ahead, Mpsc.dropReceiver, still, rank]
      omega
  | disconnect status text =>
      have fed := sent.ahead_feed (.disconnect status text) true
      simp only [if_true] at fed
      have far : rank sent.appReady sent.stage = 5 := by rw [still]; rfl
      rw [ahead.eq_def sent]
      exact Nat.lt_of_le_of_lt fed (by omega)

/-- Every poll of the driver comes closer to the end. -/
theorem ahead_poll (left : s.Left) (departing : s.Departing) (polled : s.poll = some next) :
    next.ahead < s.ahead := by
  by_cases app : s.stage = .pump .app
  · simp only [poll, app, Option.some.injEq] at polled
    exact polled ▸ ahead_pumpApp left app
  by_cases rx : s.stage = .pump .rx
  · simp only [poll, rx, Option.some.injEq] at polled
    exact polled ▸ ahead_pumpRx rx
  by_cases socket : s.stage = .pump .socket
  · simp only [poll, socket, Option.some.injEq] at polled
    exact polled ▸ ahead_pumpSocket departing socket
  cases polled_of_poll polled with
  | connected stage =>
      apply ahead_goto
      simp [stage, rank]
  | unconnected stage | appFailed stage | acceptTimeout stage | unsent stage =>
      apply ahead_goto
      rw [stage]
      simp [rank]
  | @unfed put last stage =>
      apply ahead_goto
      rw [stage]
      cases last <;> simp [rank]
  | accepted stage received =>
      exact ahead_recv received (Nat.le_trans (rank_pump_le _ _) (by decide))
  | denied stage received | unexpected stage received => exact ahead_recv received (by simp [rank])
  | @sent frame socket stage _ sent =>
      have same : ({ s with socket, stage := .pump .app } : Ws).appReady = s.appReady := rfl
      have near := rank_pump_le s.appReady .app
      simp only [ahead, same, stage, Socket.send_inbound sent]
      simp only [rank] at near ⊢
      omega
  | closed stage => exact ahead_closed stage
  | @fed put last stage =>
      apply ahead_goto
      have near := rank_pump_le s.appReady .app
      rw [stage]
      cases last
      · exact Nat.lt_of_le_of_lt near (Nat.lt_of_sub_eq_succ rfl)
      · exact Nat.lt_succ_self 2
  | leave stage =>
      simp only [ahead, Mpsc.dropReceiver, stage]
      cases s.appDone <;> simp [rank]
  | finish stage =>
      simp only [ahead, finish, Mpsc.dropReceiver, stage]
      simp [rank]
  | appEnd stage | appReturned stage => exact absurd stage app
  | data stage | appClose stage | duplicate stage | drained stage => exact absurd stage rx
  | message stage | ping stage | ignored stage | echoed stage | clientClosed stage
  | vanished stage => exact absurd stage socket
  | @onward branch later stage =>
      cases branch with
      | app => exact absurd stage app
      | rx => exact absurd stage rx
      | socket => exact absurd stage socket

/-- Where the timers have fired, only a client that does not read keeps the driver waiting. -/
theorem held_of_pending (put : s.putTimer = true) (accept : s.acceptTimer = true)
    (finish : s.finishTimer = true) (begun : s.stage ≠ .setup) (going : s.stage ≠ .done)
    (pending : s.poll = none) : s.Held := by
  simp only [poll] at pending
  cases stage : s.stage with
  | setup => exact absurd stage begun
  | done => exact absurd stage going
  | connecting id | feeding id last =>
      simp only [stage, putSettled, put, Bool.or_true, if_true] at pending
      split at pending <;> cases pending
  | accepting =>
      simp only [stage, pollAccepting, accept, if_true] at pending
      split at pending <;> cases pending
  | pump branch =>
      simp only [stage] at pending
      cases branch <;> cases pending
  | sending frame =>
      simp only [stage, ite_eq_left_iff] at pending
      refine ⟨by rw [stage]; rfl, ?_⟩
      by_contra unblocked
      cases pending unblocked
  | closing code reason after =>
      simp only [stage, ite_eq_left_iff] at pending
      refine ⟨by rw [stage]; rfl, ?_⟩
      by_contra unblocked
      cases pending unblocked
  | ending => simp [stage] at pending
  | finishing =>
      simp only [stage, finish, if_true] at pending
      split at pending <;> cases pending

theorem timer_lowers (timer : Bool) (waiting : timer ≠ true) :
    (!true).toNat < (!timer).toNat := by
  rw [Bool.eq_false_iff.mpr waiting]
  decide

/-- A connection that departs takes a step towards its end, which is one of the driver's unless the
client holds it. -/
theorem exists_ahead (left : s.Left) (departing : s.Departing) (begun : s.stage ≠ .setup)
    (going : s.stage ≠ .done) (unheld : ¬ s.Held) :
    ∃ action next, action.ofDriver = true ∧ s.step action = some next ∧ next.ahead < s.ahead := by
  by_cases put : s.putTimer = true
  · by_cases accept : s.acceptTimer = true
    · by_cases finish : s.finishTimer = true
      · cases polled : s.poll with
        | some next => exact ⟨.poll, next, rfl, polled, ahead_poll left departing polled⟩
        | none => exact absurd (held_of_pending put accept finish begun going polled) unheld
      · have lower := timer_lowers _ finish
        refine ⟨.finishTimeout, { s with finishTimer := true }, rfl, rfl, ?_⟩
        exact Nat.add_lt_add_left lower _
    · have lower := timer_lowers _ accept
      refine ⟨.acceptTimeout, { s with acceptTimer := true }, rfl, rfl, ?_⟩
      exact Nat.add_lt_add_right (Nat.add_lt_add_left lower _) _
  · have lower := timer_lowers _ put
    refine ⟨.putTimeout, { s with putTimer := true }, rfl, rfl, ?_⟩
    exact Nat.add_lt_add_right (Nat.add_lt_add_right (Nat.add_lt_add_left lower _) _) _

theorem client_step (own : action.ofDriver = true) (stepped : s.step action = some next) :
    SameClient s.socket next.socket ∧ next.appReady = s.appReady := by
  cases step_cases stepped with
  | poll polled =>
      refine ⟨polled.client, ?_⟩
      simp only [appReady, polled.app.1]
  | putTimeout | acceptTimeout | finishTimeout => exact ⟨⟨rfl, id⟩, rfl⟩
  | _ => cases own

theorem started_step (begun : s.stage ≠ .setup) (stepped : s.step action = some next) :
    next.stage ≠ .setup := by
  cases step_cases stepped with
  | poll polled => exact polled.started
  | begin => exact nofun
  | stopped | refused => exact nofun
  | _ => exact begun

/-- The connection can come to its end through permitted actions alone. -/
def Finishes (s : Ws) (permitted : Action → Prop) : Prop :=
  ∃ actions final, (∀ action ∈ actions, permitted action) ∧ run step s actions = some final ∧
    final.stage = .done

theorem finishes_of_unblocked (left : s.Left) (departing : s.Departing) (begun : s.stage ≠ .setup)
    (unblocked : s.socket.blocked = false) :
    s.Finishes fun action => action.ofDriver = true := by
  have progress (current : Ws) (invariant : current.Left ∧ current.Departing ∧
        current.stage ≠ .setup ∧ current.socket.blocked = false)
      (going : current.stage ≠ .done) : ∃ act later, act.ofDriver = true ∧
        current.step act = some later ∧ (later.Left ∧ later.Departing ∧
          later.stage ≠ .setup ∧ later.socket.blocked = false) ∧
        (later.stage = .done ∨ later.ahead < current.ahead) := by
    rcases invariant with ⟨left, departing, begun, unblocked⟩
    have unheld : ¬ current.Held := by
      rintro ⟨_, blocked⟩
      rw [unblocked] at blocked
      cases blocked
    rcases exists_ahead left departing begun going unheld with ⟨act, later, own, stepped, lower⟩
    rcases client_step own stepped with ⟨client, ready⟩
    refine ⟨act, later, own, stepped, ⟨left.step stepped, ?_, started_step begun stepped,
      client.unblocked unblocked⟩, .inr lower⟩
    simp only [Departing, ready, client.ended]
    exact departing
  rcases exists_run_until _ (fun current => current.stage = .done) ahead progress
      ⟨left, departing, begun, unblocked⟩ with ⟨actions, final, chosen, ran, _, done⟩
  exact ⟨actions, final, chosen, ran, done⟩

theorem poll_of_held (held : s.Held) : s.poll = none := by
  rcases held with ⟨writing, blocked⟩
  cases stage : s.stage with
  | sending | closing => simp only [poll, stage, blocked, if_true]
  | setup | connecting | accepting | pump | feeding | ending | finishing | done =>
      rw [stage] at writing
      cases writing

/-- The application, the event loop and the timers are of no help to a driver that is held. -/
theorem held_step (held : s.Held) (away : action ≠ .breaks ∧ action ≠ .congest false)
    (stepped : s.step action = some next) : next.Held ∧ next.stage = s.stage := by
  have begun : s.stage ≠ .setup := by
    intro stage
    have writing := held.1
    rw [stage] at writing
    cases writing
  cases step_cases stepped with
  | poll =>
      rw [show s.step .poll = s.poll from rfl, poll_of_held held] at stepped
      cases stepped
  | begin stage | stopped stage | refused stage => exact absurd stage begun
  | breaks => exact absurd rfl away.1
  | @congest stopped =>
      cases stopped with
      | false => exact absurd rfl away.2
      | true =>
          have blocked := held.2
          simp only [Socket.blocked, Bool.and_eq_true] at blocked
          refine ⟨⟨held.1, ?_⟩, rfl⟩
          simp only [Socket.blocked, blocked.1.2, blocked.2, Bool.and_self]
  | push | park | unpark | dropSink | exit | settle | receive | turn | putTimeout | acceptTimeout
  | finishTimeout | stopLoop | clientSends | clientEnds => exact ⟨held, rfl⟩

/-- What can hold a connection whose application or whose client has gone: where its writes do not
wait for the client, the driver's own steps lead to its end; where the driver awaits a write that
does, no timer helps, and nothing but the client or the failure of its connection goes on. -/
theorem drive_finishes_iff (ran : run step init actions = some s) (begun : s.stage ≠ .setup)
    (departing : s.Departing) :
    (s.socket.blocked = false → s.Finishes fun action => action.ofDriver = true) ∧
      (s.stage.writing = true →
        ((s.Finishes fun action => action.ofDriver = true) ↔ s.socket.blocked = false) ∧
        ((s.Finishes fun action => action ≠ .breaks ∧ action ≠ .congest false) ↔
          s.socket.blocked = false)) ∧
      s.Finishes fun action => action.ofDriver = true ∨ action = .congest false := by
  have left : s.Left := run_invariant_of_step Left (fun _ _ _ left stepped => left.step stepped)
    ran left_init
  have sufficient := finishes_of_unblocked left departing begun
  have weaker {permitted allowed : Action → Prop} (state : Ws) (finishes : state.Finishes permitted)
      (weaker : ∀ action, permitted action → allowed action) : state.Finishes allowed := by
    rcases finishes with ⟨actions, final, chosen, rest⟩
    exact ⟨actions, final, fun action member => weaker action (chosen action member), rest⟩
  have own (action : Action) (own : action.ofDriver = true) :
      action ≠ .breaks ∧ action ≠ .congest false := by
    constructor
    · rintro rfl
      cases own
    · rintro rfl
      cases own
  refine ⟨sufficient, ?_, ?_⟩
  · intro writing
    have necessary
        (finishes : s.Finishes fun action => action ≠ .breaks ∧ action ≠ .congest false) :
        s.socket.blocked = false := by
      rw [Bool.eq_false_iff]
      intro blocked
      rcases finishes with ⟨later, final, away, onward, done⟩
      have along : Along step (fun _ action => action ≠ .breaks ∧ action ≠ .congest false) s
          later := along_of_forall fun action member _ => away action member
      have held : final.Held := by
        apply run_invariant Held _ along onward ⟨writing, blocked⟩
        intro current action next held away stepped
        exact (held_step held away stepped).1
      rw [Held, done] at held
      cases held.1
    exact ⟨⟨fun finishes => necessary (weaker s finishes own), sufficient⟩,
      ⟨necessary, fun unblocked => weaker s (sufficient unblocked) own⟩⟩
  · let reader : Ws := { s with socket := { s.socket with congested := false } }
    have moved : s.step (.congest false) = some reader := rfl
    have still : reader.Departing := departing
    have reading := finishes_of_unblocked (left.step moved) still (started_step begun moved) rfl
    rcases reading with ⟨later, final, chosen, onward, done⟩
    refine ⟨.congest false :: later, final, ?_, run_cons_eq_some.mpr ⟨_, rfl, onward⟩, done⟩
    intro action member
    rcases List.mem_cons.mp member with rfl | member
    · exact .inr rfl
    · exact .inl (chosen action member)

/-- The application returns while its client does not read, and the driver is about to close. -/
def stalledRun : List Action :=
  [.setup true, .turn, .turn, .turn, .poll, .push .accept false, .poll, .congest true,
    .exit .returned, .settle, .poll]

theorem drive_finishes_iff_stalled :
    ∃ s, run step init stalledRun = some s ∧
      (¬ s.Finishes fun action => action ≠ .breaks ∧ action ≠ .congest false) ∧
      s.Finishes fun action => action.ofDriver = true ∨ action = .congest false := by
  have reached : ∃ s, run step init stalledRun = some s ∧ s.stage ≠ .setup ∧
      s.appReady = true ∧ s.stage.writing = true ∧ s.socket.blocked = true :=
    exists_of_run_any (by decide)
  rcases reached with ⟨s, ran, begun, ready, writing, blocked⟩
  rcases drive_finishes_iff ran begun (.inl ready) with ⟨_, exactly, reading⟩
  refine ⟨s, ran, ?_, reading⟩
  rw [(exactly writing).2, blocked]
  exact nofun

end Ws

end RustAsgi
