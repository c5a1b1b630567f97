import RustAsgi.WebSocket.Steps

/-!
# Sending after the close

A send raises once the driver has hung up on the sink, by its flag or by dropping
the channel. The driver hangs up when it leaves its pump, and after the close of the
application the pump goes on until the client answers or vanishes.
-/

namespace RustAsgi

open Machine Asyncio Tokio

namespace Ws

variable {s next final : Ws} {action : Action} {actions later : List Action}

/-- The driver has read a close of the application. -/
def CloseRead (s : Ws) : Prop :=
  ∃ event ∈ s.chan.received, event.isClose = true

instance (s : Ws) : Decidable s.CloseRead :=
  inferInstanceAs (Decidable (∃ event ∈ s.chan.received, _))

/-- The driver has read a close of the application and is done with its close frame. -/
def ClosedByApp (s : Ws) : Prop :=
  s.CloseRead ∧ ∀ code reason after, s.stage ≠ .closing code reason after

/-- A send is neither accepted nor does it wait for a slot. -/
def Raises (s : Ws) (event : WsEvent) : Prop :=
  ∀ behind, s.step (.push event behind) = none

/-- The driver has left its pump, or has returned. The wait for the application after a refused
handshake is not in the pump. -/
def hungUp (s : Ws) : Bool :=
  match s.stage with
  | .finishing => s.appClosed
  | .done => true
  | _ => false

/-- Nothing keeps the sink from the channel. -/
def Attached (s : Ws) : Prop :=
  s.chan.receiver = true ∧ s.disconnected = false

/-- The handshake has not brought a close. -/
def Unclosed (s : Ws) : Prop :=
  s.chan.received = [] ∧ s.appClosed = false

/-- In the pump, a close that has been read is known as such. -/
def Abreast (s : Ws) : Prop :=
  s.Attached ∧ (s.CloseRead → s.appClosed = true)

/-- What each stage knows of the sink and of the application's close. -/
def SinkAt (s : Ws) : WsStage → Prop
  | .setup | .connecting _ | .accepting => s.Attached ∧ s.Unclosed
  | .closing _ _ .gone => s.Unclosed
  | .closing _ _ .denied => s.Attached ∧ s.appClosed = false
  | .closing _ _ .loop => s.Attached
  | .pump _ | .sending _ | .feeding _ _ | .ending | .closing _ _ .leave
  | .closing _ _ (.disconnect _ _) => s.Abreast
  | .finishing =>
      s.Attached ∧ s.appClosed = false ∨
        s.chan.receiver = false ∧ (s.CloseRead → s.appClosed = true)
  | .done => s.chan.receiver = false

theorem not_closeRead_of_unclosed (unclosed : s.Unclosed) : ¬ s.CloseRead := by
  rintro ⟨event, member, _⟩
  rw [unclosed.1] at member
  cases member

/-- Reading anything but a close reads no close. -/
theorem closeRead_of_recv {event : WsEvent} {chan : Mpsc WsEvent} {stage : WsStage}
    (received : s.chan.recv = .item event chan) (other : event.isClose = false)
    (closeRead : CloseRead { s with chan, stage }) : s.CloseRead := by
  rcases Mpsc.recv_item received with ⟨rest, _, rfl⟩
  rcases closeRead with ⟨close, member, isClose⟩
  rcases List.mem_append.mp member with earlier | last
  · exact ⟨close, earlier, isClose⟩
  · rw [List.mem_singleton.mp last, other] at isClose
    cases isClose

theorem attached_of_recv {event : WsEvent} {chan : Mpsc WsEvent} {stage : WsStage}
    (attached : s.Attached) (received : s.chan.recv = .item event chan) :
    Attached { s with chan, stage } := by
  rcases Mpsc.recv_item received with ⟨rest, _, rfl⟩
  exact attached

theorem isClose_of_frame? {event : WsEvent} {frame : ServerFrame}
    (data : event.frame? = some frame) : event.isClose = false := by
  cases event with
  | close code reason => cases data
  | accept | sendText text | sendBytes data => rfl

theorem Abreast.recv {event : WsEvent} {chan : Mpsc WsEvent} {stage : WsStage}
    (abreast : s.Abreast) (received : s.chan.recv = .item event chan)
    (other : event.isClose = false) : Abreast { s with chan, stage } :=
  ⟨attached_of_recv abreast.1 received,
    fun closeRead => abreast.2 (closeRead_of_recv received other closeRead)⟩

theorem Abreast.feed {message : WsInbound} {last : Bool} (abreast : s.Abreast) :
    (s.feed message last).SinkAt (s.feed message last).stage := by
  rcases s.feed_cases message last with ⟨_, fed⟩ | ⟨_, fed⟩ <;> rw [fed] <;> exact abreast

theorem sinkAt_afterClose {code : ℕ} {reason : String} {after : AfterClose}
    (sink : s.SinkAt (.closing code reason after)) :
    ((s.sendClose code reason).afterClose after).SinkAt
      ((s.sendClose code reason).afterClose after).stage := by
  cases after with
  | loop => exact ⟨sink, fun _ => rfl⟩
  | leave => exact sink
  | denied => exact .inl sink
  | gone => exact rfl
  | disconnect status text =>
      have abreast : (s.sendClose code reason).Abreast := sink
      exact abreast.feed

theorem sinkAt_poll (sink : s.SinkAt s.stage) (polled : Polled s next) :
    next.SinkAt next.stage := by
  cases polled with
  | connected stage =>
      rw [stage] at sink
      exact sink
  | unconnected stage =>
      rw [stage] at sink
      exact sink.2
  | accepted stage received =>
      rw [stage] at sink
      refine ⟨attached_of_recv sink.1 received, ?_⟩
      intro closeRead
      exact absurd (closeRead_of_recv received rfl closeRead) (not_closeRead_of_unclosed sink.2)
  | denied stage received =>
      rw [stage] at sink
      exact ⟨attached_of_recv sink.1 received, sink.2.2⟩
  | unexpected stage received =>
      rw [stage] at sink
      exact ⟨attached_of_recv sink.1 received, sink.2.2⟩
  | appFailed stage =>
      rw [stage] at sink
      exact sink.2
  | acceptTimeout stage =>
      rw [stage] at sink
      exact ⟨sink.1, sink.2.2⟩
  | data stage _ received data =>
      rw [stage] at sink
      exact sink.recv received (isClose_of_frame? data)
  | appClose stage _ received =>
      rw [stage] at sink
      exact attached_of_recv sink.1 received
  | duplicate stage _ received =>
      rw [stage] at sink
      exact sink.recv received rfl
  | @message frame message socket stage =>
      rw [stage] at sink
      have abreast : ({ s with socket } : Ws).Abreast := sink
      exact abreast.feed
  | @echoed frame socket stage =>
      rw [stage] at sink
      have abreast : ({ s with socket } : Ws).Abreast := sink
      exact abreast.feed
  | vanished stage =>
      rw [stage] at sink
      exact Abreast.feed sink
  | closed stage =>
      rw [stage] at sink
      exact sinkAt_afterClose sink
  | @fed put last stage =>
      rw [stage] at sink
      cases last
      · exact sink
      · exact sink
  | leave stage =>
      rw [stage] at sink
      cases appDone : s.appDone with
      | true => exact rfl
      | false => exact .inr ⟨rfl, sink.2⟩
  | finish => exact rfl
  | onward _ stage | appEnd stage | appReturned stage | drained stage | ping stage | ignored stage
  | clientClosed stage | sent stage | unsent stage | unfed stage =>
      rw [stage] at sink
      exact sink

theorem sinkAt_step (sink : s.SinkAt s.stage) (stepped : s.step action = some next) :
    next.SinkAt next.stage := by
  have same (after : Ws) (received : after.chan.received = s.chan.received)
      (receiver : after.chan.receiver = s.chan.receiver)
      (disconnected : after.disconnected = s.disconnected)
      (appClosed : after.appClosed = s.appClosed) : after.SinkAt s.stage := by
    have alike : ∀ stage, after.SinkAt stage ↔ s.SinkAt stage := by
      intro stage
      simp only [SinkAt, Abreast, Attached, Unclosed, CloseRead, received, receiver, disconnected,
        appClosed]
    exact (alike s.stage).mpr sink
  cases step_cases stepped with
  | poll polled => exact sinkAt_poll sink polled
  | begin stage =>
      rw [stage] at sink
      exact sink
  | stopped stage =>
      rw [stage] at sink
      exact sink.2
  | refused stage =>
      rw [stage] at sink
      exact sink.2
  | unpark _ unparked =>
      rcases Mpsc.unpark_cases unparked with ⟨value, _, _, _, rfl⟩
      exact same _ rfl rfl rfl rfl
  | _ => exact same _ rfl rfl rfl rfl

theorem sinkAt_run (ran : run step init actions = some final) : final.SinkAt final.stage := by
  apply run_invariant_of_step (fun s : Ws => s.SinkAt s.stage) _ ran
  · exact ⟨⟨rfl, rfl⟩, rfl, rfl⟩
  · intro current action next sink stepped
    exact sinkAt_step sink stepped

/-- Past a close the handshake is over, and the pump reads no more events. -/
theorem past_of_closeRead (sink : s.SinkAt s.stage) (closeRead : s.CloseRead) :
    s.stage ≠ .setup ∧ (∀ put, s.stage ≠ .connecting put) ∧ s.stage ≠ .accepting ∧
      ∀ branch, s.stage = .pump branch → s.appClosed = true := by
  refine ⟨?_, ?_, ?_, ?_⟩
  · intro stage
    rw [stage] at sink
    exact not_closeRead_of_unclosed sink.2 closeRead
  · intro put stage
    rw [stage] at sink
    exact not_closeRead_of_unclosed sink.2 closeRead
  · intro stage
    rw [stage] at sink
    exact not_closeRead_of_unclosed sink.2 closeRead
  · intro branch stage
    rw [stage] at sink
    exact sink.2 closeRead

theorem feed_chan (s : Ws) (message : WsInbound) (last : Bool) :
    (s.feed message last).chan = s.chan ∧
      ∀ code reason after, (s.feed message last).stage ≠ .closing code reason after := by
  rcases s.feed_cases message last with ⟨_, fed⟩ | ⟨_, fed⟩
  · rw [fed]
    refine ⟨rfl, ?_⟩
    intro code reason after stage
    cases stage
  · rw [fed]
    refine ⟨rfl, ?_⟩
    intro code reason after stage
    cases stage

/-- After the application's close the driver reads no event and sends no other close. -/
theorem ClosedByApp.poll (closed : s.ClosedByApp) (sink : s.SinkAt s.stage)
    (polled : Polled s next) :
    next.chan.received = s.chan.received ∧
      ∀ code reason after, next.stage ≠ .closing code reason after := by
  rcases past_of_closeRead sink closed.1 with ⟨_, connecting, accepting, pump⟩
  cases polled with
  | connected stage | unconnected stage => exact absurd stage (connecting _)
  | accepted stage | denied stage | unexpected stage | appFailed stage | acceptTimeout stage =>
      exact absurd stage accepting
  | appReturned stage _ opened | data stage opened | appClose stage opened
  | duplicate stage opened | drained stage opened | clientClosed stage _ opened =>
      rw [pump _ stage] at opened
      cases opened
  | message | echoed | vanished =>
      rcases feed_chan _ _ _ with ⟨chan, other⟩
      exact ⟨congrArg Mpsc.received chan, other⟩
  | closed stage => exact absurd stage (closed.2 _ _ _)
  | @fed put last =>
      refine ⟨rfl, ?_⟩
      intro code reason after stage
      cases last <;> cases stage
  | leave =>
      refine ⟨rfl, ?_⟩
      intro code reason after stage
      cases appDone : s.appDone <;> simp [appDone] at stage
  | _ =>
      refine ⟨rfl, ?_⟩
      intro code reason after stage
      cases stage

theorem ClosedByApp.step (closed : s.ClosedByApp) (sink : s.SinkAt s.stage)
    (stepped : s.step action = some next) :
    next.ClosedByApp ∧ next.chan.received = s.chan.received := by
  have kept : next.chan.received = s.chan.received ∧
      ∀ code reason after, next.stage ≠ .closing code reason after := by
    rcases past_of_closeRead sink closed.1 with ⟨setup, _⟩
    cases step_cases stepped with
    | poll polled => exact closed.poll sink polled
    | begin stage | stopped stage | refused stage => exact absurd stage setup
    | unpark _ unparked =>
        rcases Mpsc.unpark_cases unparked with ⟨value, _, _, _, rfl⟩
        exact ⟨rfl, closed.2⟩
    | _ => exact ⟨rfl, closed.2⟩
  refine ⟨⟨?_, kept.2⟩, kept.1⟩
  rw [CloseRead, kept.1]
  exact closed.1

/-- What the application sends after its close is never read. -/
theorem unread_of_closed (ran : run step init actions = some s) (closed : s.ClosedByApp)
    (onward : run step s later = some final) :
    final.ClosedByApp ∧ final.chan.received = s.chan.received := by
  have kept : final.SinkAt final.stage ∧ final.ClosedByApp ∧
      final.chan.received = s.chan.received := by
    apply run_invariant_of_step (fun current : Ws => current.SinkAt current.stage ∧
      current.ClosedByApp ∧ current.chan.received = s.chan.received) _ onward
    · exact ⟨sinkAt_run ran, closed, rfl⟩
    · intro current action next ⟨sink, closed, received⟩ stepped
      rcases closed.step sink stepped with ⟨after, same⟩
      exact ⟨sinkAt_step sink stepped, after, same.trans received⟩
  exact kept.2

/-- An attached sink takes the event, or waits for a slot. -/
theorem not_raises_of_attached (attached : s.Attached) (held : s.chan.senders = true)
    (started : s.stage ≠ .setup) (event : WsEvent) : ¬ s.Raises event := by
  intro raises
  have pushed := raises (!s.chan.hasRoom)
  rcases attached with ⟨receiver, connected⟩
  cases room : s.chan.hasRoom <;>
    simp [step, push, started, held, receiver, connected, room] at pushed

theorem raises_of_dropped (dropped : s.chan.receiver = false) (event : WsEvent) :
    s.Raises event := by
  intro behind
  simp [step, push, dropped]

/-- After the application's close a send raises exactly when the driver has hung up. -/
theorem raises_iff_hungUp (ran : run step init actions = some s) (closed : s.ClosedByApp)
    (onward : run step s later = some final) (held : final.chan.senders = true)
    (event : WsEvent) : final.Raises event ↔ final.hungUp = true := by
  have closedStill := (unread_of_closed ran closed onward).1
  have sink : final.SinkAt final.stage := by
    apply run_invariant_of_step (fun s : Ws => s.SinkAt s.stage) _ onward (sinkAt_run ran)
    intro current action next sink stepped
    exact sinkAt_step sink stepped
  rcases past_of_closeRead sink closedStill.1 with ⟨setup, connecting, accepting, _⟩
  have attached (abreast : final.Abreast) (goesOn : final.hungUp = false) :
      final.Raises event ↔ final.hungUp = true := by
    rw [goesOn]
    refine ⟨?_, fun ended => by cases ended⟩
    intro raises
    exact absurd raises (not_raises_of_attached abreast.1 held setup event)
  cases stage : final.stage with
  | setup => exact absurd stage setup
  | connecting put => exact absurd stage (connecting put)
  | accepting => exact absurd stage accepting
  | closing code reason after => exact absurd stage (closedStill.2 code reason after)
  | pump _ | sending _ | feeding _ _ | ending =>
      rw [stage] at sink
      exact attached sink (by simp [hungUp, stage])
  | finishing =>
      rw [stage] at sink
      simp only [hungUp, stage]
      rcases sink with ⟨attached, opened⟩ | ⟨dropped, known⟩
      · rw [opened]
        refine ⟨?_, fun ended => by cases ended⟩
        intro raises
        exact absurd raises (not_raises_of_attached attached held setup event)
      · exact ⟨fun _ => known closedStill.1, fun _ => raises_of_dropped dropped event⟩
  | done =>
      rw [stage] at sink
      simp only [hungUp, stage, iff_true]
      exact raises_of_dropped sink event

/-- The application closes, and the driver has sent its close frame. -/
def partingRun : List Action :=
  [.setup true, .turn, .turn, .turn, .poll, .push .accept false, .poll,
    .push (.close 1000 "") false, .poll, .poll, .poll]

theorem partingRun_closes :
    ∃ s, run step init partingRun = some s ∧ s.ClosedByApp := by
  have ran : ∃ s, run step init partingRun = some s ∧ s.CloseRead ∧ s.stage = .pump .app :=
    exists_of_run_any (by decide)
  rcases ran with ⟨s, ran, closeRead, stage⟩
  refine ⟨s, ran, closeRead, ?_⟩
  intro code reason after
  rw [stage]
  intro closing
  cases closing

/-- The client's close answers, and the pump is left. -/
theorem raises_iff_hungUp_echoed :
    ∃ s final, run step init partingRun = some s ∧ s.ClosedByApp ∧
      run step s [.clientSends (.close none), .poll, .poll, .poll, .turn, .turn, .turn, .poll,
        .poll] = some final ∧ final.stage = .finishing ∧
      (final.Raises (.sendText "late") ↔ final.hungUp = true) := by
  rcases partingRun_closes with ⟨s, ran, closed⟩
  have onward : ∃ final, run step init (partingRun ++ [.clientSends (.close none), .poll, .poll,
      .poll, .turn, .turn, .turn, .poll, .poll]) = some final ∧ final.stage = .finishing ∧
      final.chan.senders = true :=
    exists_of_run_any (by decide)
  rcases onward with ⟨final, both, finishing, held⟩
  rw [run_append, ran] at both
  have onward := both
  exact ⟨s, final, ran, closed, onward, finishing, raises_iff_hungUp ran closed onward held _⟩

/-- While the client is silent, a late send is accepted. -/
theorem late_send_accepted :
    ∃ s, run step init partingRun = some s ∧ s.ClosedByApp ∧ ¬ s.Raises (.sendText "late") := by
  rcases partingRun_closes with ⟨s, ran, closed⟩
  have accepts : ∃ later, run step init (partingRun ++ [.push (.sendText "late") false]) =
      some later ∧ later.chan.sent ≠ [] :=
    exists_of_run_any (by decide)
  rcases accepts with ⟨later, both, _⟩
  rw [run_append, ran] at both
  refine ⟨s, ran, closed, ?_⟩
  intro raises
  simp [run, raises false] at both

end Ws

end RustAsgi
