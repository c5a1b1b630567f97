import RustAsgi.WebSocket.Steps

/-!
# What the client of a WebSocket gets

The application's events are its data followed by one close, which the driver
supplies if the application does not. They reach the client in full unless the
pump is left with events unread.
-/

namespace RustAsgi

open Machine Asyncio Tokio

namespace WsEvent

def Open (events : List WsEvent) : Prop :=
  ∀ event ∈ events, event.isClose = false

/-- The frames the client is to get: the data before the first close, and the close. -/
def expected : List WsEvent → List ServerFrame
  | [] => [.close 1000 ""]
  | .accept :: rest => expected rest
  | .sendText text :: rest => .text text :: expected rest
  | .sendBytes data :: rest => .binary data :: expected rest
  | .close code reason :: _ => [.close code reason]

theorem expected_append_of_open {events : List WsEvent} (rest : List WsEvent)
    (opened : Open events) :
    expected (events ++ rest) = events.filterMap frame? ++ expected rest := by
  induction events with
  | nil => rfl
  | cons event events ih =>
      have openedRest : Open events := fun later member =>
        opened later (List.mem_cons_of_mem _ member)
      have open_ := opened event List.mem_cons_self
      cases event with
      | accept => exact ih openedRest
      | sendText text => simp [expected, frame?, ih openedRest]
      | sendBytes data => simp [expected, frame?, ih openedRest]
      | close code reason => cases open_

/-- Nothing after a close counts. -/
theorem expected_append_of_closed {events : List WsEvent} (rest : List WsEvent)
    (closed : ∃ event ∈ events, event.isClose = true) :
    expected (events ++ rest) = expected events := by
  induction events with
  | nil => simp at closed
  | cons event events ih =>
      have closedRest (other : event.isClose = false) :
          ∃ event ∈ events, event.isClose = true := by
        rcases closed with ⟨close, member, isClose⟩
        rcases List.mem_cons.mp member with rfl | later
        · rw [other] at isClose
          cases isClose
        · exact ⟨close, later, isClose⟩
      cases event with
      | accept => exact ih (closedRest rfl)
      | sendText text => simp [expected, ih (closedRest rfl)]
      | sendBytes data => simp [expected, ih (closedRest rfl)]
      | close code reason => rfl

theorem Open.concat {events : List WsEvent} {event : WsEvent} (opened : Open events)
    (other : event.isClose = false) : Open (events ++ [event]) := by
  intro each member
  rcases List.mem_append.mp member with earlier | last
  · exact opened each earlier
  · rw [List.mem_singleton.mp last]
    exact other

end WsEvent

open WsEvent

namespace Ws

variable {s next final : Ws} {action : Action} {actions : List Action}

/-- The frames of the application's events, without the replies to pings. -/
def outbound (s : Ws) : List ServerFrame :=
  s.socket.written.filter fun frame => !frame.isPong

/-- The client stays connected and readable, the application starts with `websocket.accept`, and
nothing enters the channel once it has ended. -/
def connected (s : Ws) : Action → Bool
  | .push event _ =>
      decide (s.app = .running) && (!s.chan.sent.isEmpty || decide (event = .accept))
  | .unpark _ => decide (s.app = .running)
  | .clientSends (.close _) | .clientEnds | .breaks => false
  | _ => true

/-- The next poll gives the connection up with events of the application unread: it fails in the
handshake, sees the end of the application before them, or cannot pass on a client message. -/
def loses (s : Ws) : Bool :=
  match s.stage with
  | .setup => !s.running
  | .connecting put => !s.putSucceeded put && s.putSettled put
  | .accepting => s.chan.buffer.isEmpty && !s.chan.sendersGone && s.acceptTimer
  | .pump .app =>
      match s.app with
      | .settled _ =>
          !s.appDone && !s.appClosed && decide (expected s.chan.buffer ≠ [.close 1000 ""])
      | _ => false
  | .pump .socket =>
      match s.socket.inbound with
      | .text _ :: _ | .binary _ :: _ => !s.appClosed && !s.running
      | _ => false
  | .feeding put false => !s.appClosed && !s.putSucceeded put && s.putSettled put
  | _ => false

def Connected (s : Ws) (action : Action) : Prop :=
  s.connected action = true

instance (s : Ws) (action : Action) : Decidable (s.Connected action) :=
  inferInstanceAs (Decidable (_ = _))

def Keeps (s : Ws) (action : Action) : Prop :=
  action = .poll ∨ action = .setup true → s.loses = false

instance (s : Ws) (action : Action) : Decidable (s.Keeps action) :=
  inferInstanceAs (Decidable (_ → _))

/-- Nothing that enters the channel from now on can matter. -/
def Sealed (s : Ws) : Prop :=
  s.app ≠ .running ∨ (∃ event ∈ s.chan.sent, event.isClose = true) ∨
    ((s.chan.senders = false ∨ s.chan.receiver = false) ∧ s.chan.parked = [])

/-- The application has not closed: its data so far is out. -/
def Streaming (s : Ws) : Prop :=
  s.appClosed = false ∧ s.socket.phase = .active ∧ Open s.chan.received ∧
    s.outbound = s.chan.received.filterMap frame?

/-- The application has closed: its data and its close are out. -/
def Closed (s : Ws) : Prop :=
  s.appClosed = true ∧ (∃ event ∈ s.chan.received, event.isClose = true) ∧
    s.outbound = expected s.chan.received

/-- Everything the application has sent is out, or it has sent nothing at all. -/
def Settled (s : Ws) : Prop :=
  Sealed s ∧ (s.chan.sent = [] ∨ s.outbound = expected s.chan.sent)

/-- What each stage knows of the outbound frames. -/
def AtStage (s : Ws) : Prop :=
  match s.stage with
  | .setup => Streaming s ∧ s.chan.received = [] ∧ s.chan.sent = []
  | .connecting _ | .accepting => Streaming s ∧ s.chan.received = []
  | .pump _ | .feeding _ false | .sending (.pong _) => Streaming s ∨ Closed s
  | .sending frame =>
      s.appClosed = false ∧ s.socket.phase = .active ∧ Open s.chan.received ∧
        frame.isClose = false ∧ s.outbound ++ [frame] = s.chan.received.filterMap frame?
  | .closing code reason .loop =>
      s.appClosed = false ∧ s.socket.phase = .active ∧
        ∃ earlier, s.chan.received = earlier ++ [.close code reason] ∧ Open earlier ∧
          s.outbound = earlier.filterMap frame?
  | .closing code reason .leave =>
      Streaming s ∧ Sealed s ∧ expected s.chan.buffer = [.close code reason]
  | .closing _ _ .gone => s.chan.sent = [] ∧ Sealed s
  | .closing _ _ _ | .feeding _ true => False
  | .ending | .finishing | .done => Settled s

/-- The outbound side keeps faith with the application's events. -/
structure Faithful (s : Ws) : Prop where
  fifo : s.chan.Fifo
  opening : ∀ event ∈ s.chan.sent.head?, event = .accept
  waiting : s.chan.sent = [] → ∀ event ∈ s.chan.parked, event = .accept
  stays : s.socket.ended = false ∧ s.socket.writable = true ∧
    ∀ frame ∈ s.socket.inbound, ∀ close, frame ≠ .close close
  atStage : AtStage s

/-- A step beside the driver: it may add events to the channel, none of which matters once the
channel is sealed. -/
theorem AtStage.beside (atStage : AtStage s) (fifo : s.chan.Fifo) (stage : next.stage = s.stage)
    (appClosed : next.appClosed = s.appClosed) (phase : next.socket.phase = s.socket.phase)
    (written : next.socket.written = s.socket.written)
    (received : next.chan.received = s.chan.received) (extra : List WsEvent)
    (started : s.stage = .setup → extra = [])
    (sent : next.chan.sent = s.chan.sent ++ extra)
    (buffer : next.chan.buffer = s.chan.buffer ++ extra)
    (kept : Sealed s → Sealed next ∧
      (extra = [] ∨ ∃ event ∈ s.chan.sent, event.isClose = true)) : AtStage next := by
  have outbound : next.outbound = s.outbound := by simp only [Ws.outbound, written]
  have streaming (before : Streaming s) : Streaming next := by
    simpa only [Streaming, appClosed, phase, received, outbound] using before
  have closed (before : Closed s) : Closed next := by
    simpa only [Closed, appClosed, received, outbound] using before
  have expectedSent (sealed : Sealed s) : expected next.chan.sent = expected s.chan.sent := by
    rcases (kept sealed).2 with rfl | close
    · rw [sent, List.append_nil]
    · rw [sent, expected_append_of_closed extra close]
  have settled (before : Settled s) : Settled next := by
    rcases before with ⟨sealed, nothing | all⟩
    · refine ⟨(kept sealed).1, .inl ?_⟩
      rcases (kept sealed).2 with rfl | ⟨event, member, _⟩
      · rw [sent, nothing, List.append_nil]
      · rw [nothing] at member
        cases member
    · exact ⟨(kept sealed).1, .inr (by rw [outbound, all, expectedSent sealed])⟩
  simp only [AtStage, stage]
  simp only [AtStage] at atStage
  split at atStage
  · rename_i setup
    refine ⟨streaming atStage.1, received.trans atStage.2.1, ?_⟩
    rw [sent, atStage.2.2, started setup, List.append_nil]
  · exact ⟨streaming atStage.1, received.trans atStage.2⟩
  · exact ⟨streaming atStage.1, received.trans atStage.2⟩
  · exact atStage.imp streaming closed
  · exact atStage.imp streaming closed
  · exact atStage.imp streaming closed
  · simpa only [appClosed, phase, received, outbound] using atStage
  · simpa only [appClosed, phase, received, outbound] using atStage
  · rename_i code reason
    rcases atStage with ⟨before, sealed, close⟩
    refine ⟨streaming before, (kept sealed).1, ?_⟩
    rcases (kept sealed).2 with rfl | ⟨event, member, isClose⟩
    · rw [buffer, List.append_nil]
      exact close
    · -- What has been received is open, so the close is still unread.
      have unread : ∃ event ∈ s.chan.buffer, event.isClose = true := by
        rw [show s.chan.sent = _ from fifo] at member
        rcases List.mem_append.mp member with early | late
        · rw [before.2.2.1 event early] at isClose
          cases isClose
        · exact ⟨event, late, isClose⟩
      rw [buffer, expected_append_of_closed extra unread]
      exact close
  · rcases atStage with ⟨nothing, sealed⟩
    refine ⟨?_, (kept sealed).1⟩
    rcases (kept sealed).2 with rfl | ⟨event, member, _⟩
    · rw [sent, nothing, List.append_nil]
    · rw [nothing] at member
      cases member
  · exact atStage
  · exact atStage
  · exact settled atStage
  · exact settled atStage
  · exact settled atStage

/-- Once the application has closed, the rest of what it sends does not count. -/
theorem Closed.settled (closed : Closed s) (fifo : s.chan.Fifo) : Settled s := by
  rcases closed with ⟨_, ⟨event, member, isClose⟩, outbound⟩
  have sent : s.chan.sent = _ := fifo
  refine ⟨.inr (.inl ⟨event, ?_, isClose⟩), .inr ?_⟩
  · rw [sent]
    exact List.mem_append_left _ member
  · rw [sent, expected_append_of_closed _ ⟨event, member, isClose⟩]
    exact outbound

/-- While the application runs and its sends get through, only a close can have sealed the
channel. -/
theorem Sealed.close (sealed : Sealed s) (running : s.app = .running)
    (open_ : (s.chan.senders = true ∧ s.chan.receiver = true) ∨ s.chan.parked ≠ []) :
    ∃ event ∈ s.chan.sent, event.isClose = true := by
  rcases sealed with ended | close | ⟨shut, nobody⟩
  · exact absurd running ended
  · exact close
  · rcases open_ with ⟨senders, receiver⟩ | somebody
    · rcases shut with shut | shut
      · exact Bool.noConfusion (senders.symm.trans shut)
      · exact Bool.noConfusion (receiver.symm.trans shut)
    · exact absurd nobody somebody

theorem Faithful.of_chan_eq (faithful : Faithful s) (chan : next.chan = s.chan)
    (stage : next.stage = s.stage) (appClosed : next.appClosed = s.appClosed)
    (phase : next.socket.phase = s.socket.phase)
    (written : next.socket.written = s.socket.written)
    (app : next.app = .running → s.app = .running)
    (stays : next.socket.ended = false ∧ next.socket.writable = true ∧
      ∀ frame ∈ next.socket.inbound, ∀ close, frame ≠ .close close) : Faithful next where
  fifo := chan ▸ faithful.fifo
  opening := chan ▸ faithful.opening
  waiting := chan ▸ faithful.waiting
  stays := stays
  atStage := by
    refine faithful.atStage.beside faithful.fifo stage appClosed phase written (by rw [chan]) []
      (fun _ => rfl) (by rw [chan, List.append_nil]) (by rw [chan, List.append_nil]) ?_
    intro sealed
    refine ⟨?_, .inl rfl⟩
    rcases sealed with ended | close | shut
    · exact .inl fun running => ended (app running)
    · exact .inr (.inl (chan ▸ close))
    · exact .inr (.inr (chan ▸ shut))

theorem Faithful.enter (faithful : Faithful s) {event : WsEvent} {chan : Mpsc WsEvent}
    (running : s.app = .running) (started : s.stage ≠ .setup)
    (first : s.chan.sent = [] → event = .accept)
    (open_ : (s.chan.senders = true ∧ s.chan.receiver = true) ∨ s.chan.parked ≠ [])
    (sent : chan.sent = s.chan.sent ++ [event]) (buffer : chan.buffer = s.chan.buffer ++ [event])
    (received : chan.received = s.chan.received) : Faithful { s with chan } where
  fifo := by
    simp only [Mpsc.Fifo, sent, buffer, received]
    rw [show s.chan.sent = _ from faithful.fifo, List.append_assoc]
  opening := by
    intro head member
    simp only [sent] at member
    cases before : s.chan.sent with
    | nil =>
        simp only [before, List.nil_append, List.head?_cons, Option.mem_some_iff] at member
        exact member ▸ first before
    | cons old rest =>
        apply faithful.opening
        simpa [before] using member
  waiting := by
    intro nothing
    simp [sent] at nothing
  stays := faithful.stays
  atStage := by
    refine faithful.atStage.beside faithful.fifo rfl rfl rfl rfl received [event]
      (fun setup => absurd setup started) sent buffer ?_
    intro sealed
    have close := sealed.close running open_
    refine ⟨.inr (.inl ?_), .inr close⟩
    rcases close with ⟨found, member, isClose⟩
    exact ⟨found, by simp [sent, member], isClose⟩

theorem Faithful.park (faithful : Faithful s) {event : WsEvent} (running : s.app = .running)
    (first : s.chan.sent = [] → event = .accept)
    (senders : s.chan.senders = true) (receiver : s.chan.receiver = true) :
    Faithful { s with chan := s.chan.park event } where
  fifo := faithful.fifo
  opening := faithful.opening
  waiting := by
    intro nothing other member
    rcases List.mem_append.mp member with earlier | last
    · exact faithful.waiting nothing other earlier
    · rw [List.mem_singleton.mp last]
      exact first nothing
  stays := faithful.stays
  atStage := by
    refine faithful.atStage.beside faithful.fifo rfl rfl rfl rfl rfl [] (fun _ => rfl)
      (List.append_nil _).symm (List.append_nil _).symm ?_
    intro sealed
    exact ⟨.inr (.inl (sealed.close running (.inl ⟨senders, receiver⟩))), .inl rfl⟩

theorem opens_of_connected {event : WsEvent} {behind : Bool}
    (connected : s.Connected (.push event behind)) :
    s.app = .running ∧ (s.chan.sent = [] → event = .accept) := by
  simp only [Connected, Ws.connected, Bool.and_eq_true, Bool.or_eq_true, decide_eq_true_eq]
    at connected
  rcases connected with ⟨running, opens⟩
  refine ⟨running, ?_⟩
  intro nothing
  simpa [nothing] using opens

theorem Faithful.unpark (faithful : Faithful s) {index : ℕ} {chan : Mpsc WsEvent}
    (running : s.app = .running) (started : s.stage ≠ .setup)
    (unparked : s.chan.unpark index = some chan) : Faithful { s with chan } := by
  rcases Mpsc.unpark_cases unparked with ⟨event, found, _, _, rfl⟩
  have member := List.mem_of_getElem? found
  exact faithful.enter running started (fun nothing => faithful.waiting nothing event member)
    (.inr (List.ne_nil_of_mem member)) rfl rfl rfl

theorem Faithful.dropSink (faithful : Faithful s) :
    Faithful { s with chan := s.chan.dropSenders } where
  fifo := faithful.fifo
  opening := faithful.opening
  waiting := faithful.waiting
  stays := faithful.stays
  atStage := by
    refine faithful.atStage.beside faithful.fifo rfl rfl rfl rfl rfl [] (fun _ => rfl)
      (List.append_nil _).symm (List.append_nil _).symm ?_
    intro sealed
    refine ⟨?_, .inl rfl⟩
    rcases sealed with ended | close | ⟨_, nobody⟩
    · exact .inl ended
    · exact .inr (.inl close)
    · exact .inr (.inr ⟨.inl rfl, nobody⟩)

/-- What the driver does to the channel and the outbound side is up to its stages alone. -/
theorem Faithful.of_atStage (faithful : Faithful s) (fifo : next.chan.Fifo)
    (sent : next.chan.sent = s.chan.sent) (parked : next.chan.parked = s.chan.parked ∨
      next.chan.parked = [])
    (stays : next.socket.ended = false ∧ next.socket.writable = true ∧
      ∀ frame ∈ next.socket.inbound, ∀ close, frame ≠ .close close)
    (atStage : AtStage next) : Faithful next where
  fifo := fifo
  opening := sent ▸ faithful.opening
  waiting := by
    intro nothing event member
    rcases parked with same | none
    · exact faithful.waiting (sent ▸ nothing) event (same ▸ member)
    · rw [none] at member
      cases member
  stays := stays
  atStage := atStage

theorem Faithful.goto (faithful : Faithful s) {stage : WsStage} (atStage : AtStage (s.goto stage)) :
    Faithful (s.goto stage) :=
  faithful.of_atStage faithful.fifo rfl (.inl rfl) faithful.stays atStage

theorem Faithful.feed (faithful : Faithful s) {message : WsInbound}
    (pumping : Streaming s ∨ Closed s) (stopped : s.running = false → Closed s) :
    Faithful (s.feed message false) := by
  have kept (next : Ws) (chan : next.chan = s.chan) (socket : next.socket = s.socket)
      (atStage : AtStage next) : Faithful next :=
    faithful.of_atStage (chan ▸ faithful.fifo) (by rw [chan]) (.inl (by rw [chan]))
      (socket ▸ faithful.stays) atStage
  simp only [Ws.feed, feedWs]
  cases running : s.running with
  | true => exact kept _ rfl rfl pumping
  | false => exact kept _ rfl rfl ((stopped running).settled faithful.fifo)

theorem Faithful.pollAccepting (faithful : Faithful s) (stage : s.stage = .accepting)
    (keeps : s.loses = false) (polled : s.pollAccepting = some next) : Faithful next := by
  have atStage := faithful.atStage
  simp only [AtStage, stage] at atStage
  rcases atStage with ⟨⟨appClosed, phase, opened, outbound⟩, noneYet⟩
  have first (event : WsEvent) (rest : List WsEvent) (buffered : s.chan.buffer = event :: rest) :
      event = .accept := by
    apply faithful.opening
    rw [show s.chan.sent = _ from faithful.fifo, noneYet, buffered]
    rfl
  simp only [Ws.pollAccepting] at polled
  split at polled
  · rename_i chan received
    simp only [Option.some.injEq] at polled
    subst next
    have fifo := faithful.fifo.recv received
    rcases Mpsc.recv_item received with ⟨rest, buffered, rfl⟩
    refine faithful.of_atStage fifo rfl (.inl rfl) faithful.stays (.inl ⟨appClosed, phase, ?_, ?_⟩)
    · exact opened.concat rfl
    · change s.outbound = (s.chan.received ++ [WsEvent.accept]).filterMap frame?
      rw [outbound, List.filterMap_append]
      exact (List.append_nil _).symm
  · rename_i received
    rcases Mpsc.recv_item received with ⟨rest, buffered, rfl⟩
    cases first _ rest buffered
  · rename_i event chan notAccept _ received
    rcases Mpsc.recv_item received with ⟨rest, buffered, rfl⟩
    exact absurd (first _ rest buffered) (fun accept => notAccept accept)
  · rename_i received
    simp only [Option.some.injEq] at polled
    subst next
    rcases Mpsc.recv_closed.mp received with ⟨drained, gone⟩
    rcases Mpsc.sendersGone_iff.mp gone with ⟨senders, nobody⟩
    apply faithful.goto
    refine ⟨?_, .inr (.inr ⟨.inl senders, nobody⟩)⟩
    have sent : s.chan.sent = _ := faithful.fifo
    rw [noneYet, drained] at sent
    exact sent
  · rename_i received
    rcases Mpsc.recv_pending.mp received with ⟨drained, alive⟩
    split at polled
    · rename_i fired
      simp [loses, stage, drained, alive, fired] at keeps
    · cases polled

/-- The application branch leaves the pump only with nothing of value unread. -/
theorem Faithful.pumpApp (faithful : Faithful s) (stage : s.stage = .pump .app)
    (keeps : s.loses = false) : Faithful s.pumpApp := by
  have atStage := faithful.atStage
  simp only [AtStage, stage] at atStage
  simp only [Ws.pumpApp]
  split
  · exact faithful.goto atStage
  · rename_i notDone
    split
    · rename_i outcome settled
      have ended : s.app ≠ .running := by simp [settled]
      split
      · rename_i appClosed
        refine faithful.of_atStage faithful.fifo rfl (.inl rfl) faithful.stays ?_
        rcases atStage with ⟨open_, _⟩ | closed
        · exact Bool.noConfusion (appClosed.symm.trans open_)
        · exact closed.settled faithful.fifo
      · rename_i notClosed
        refine faithful.of_atStage faithful.fifo rfl (.inl rfl) faithful.stays ?_
        rcases atStage with streaming | closed
        · refine ⟨streaming, .inl ended, ?_⟩
          simpa [loses, stage, settled, notDone, notClosed] using keeps
        · exact absurd closed.1 notClosed
    · exact faithful.goto atStage

/-- The event branch takes the next event, or finds that there is none to come. -/
theorem Faithful.pumpRx (faithful : Faithful s) (stage : s.stage = .pump .rx) :
    Faithful s.pumpRx := by
  have atStage := faithful.atStage
  simp only [AtStage, stage] at atStage
  simp only [Ws.pumpRx]
  split
  · exact faithful.goto atStage
  · rename_i notClosed
    have streaming : Streaming s := by
      rcases atStage with streaming | closed
      · exact streaming
      · exact absurd closed.1 notClosed
    rcases streaming with ⟨appClosed, phase, opened, outbound⟩
    have grown (event : WsEvent) : (s.chan.received ++ [event]).filterMap frame? =
        s.outbound ++ (frame? event).toList := by
      rw [List.filterMap_append, outbound]
      cases found : frame? event <;> simp [found]
    split
    · rename_i text chan received
      have fifo := faithful.fifo.recv received
      rcases Mpsc.recv_item received with ⟨rest, buffered, rfl⟩
      exact faithful.of_atStage fifo rfl (.inl rfl) faithful.stays
        ⟨appClosed, phase, opened.concat rfl, rfl, (grown (.sendText text)).symm⟩
    · rename_i data chan received
      have fifo := faithful.fifo.recv received
      rcases Mpsc.recv_item received with ⟨rest, buffered, rfl⟩
      exact faithful.of_atStage fifo rfl (.inl rfl) faithful.stays
        ⟨appClosed, phase, opened.concat rfl, rfl, (grown (.sendBytes data)).symm⟩
    · rename_i code reason chan received
      have fifo := faithful.fifo.recv received
      rcases Mpsc.recv_item received with ⟨rest, buffered, rfl⟩
      exact faithful.of_atStage fifo rfl (.inl rfl) faithful.stays
        ⟨appClosed, phase, s.chan.received, rfl, opened, outbound⟩
    · rename_i chan received
      have fifo := faithful.fifo.recv received
      rcases Mpsc.recv_item received with ⟨rest, buffered, rfl⟩
      refine faithful.of_atStage fifo rfl (.inl rfl) faithful.stays
        (.inl ⟨appClosed, phase, opened.concat rfl, ?_⟩)
      exact (List.append_nil _).symm.trans (grown .accept).symm
    · rename_i received
      rcases Mpsc.recv_closed.mp received with ⟨drained, gone⟩
      rcases Mpsc.sendersGone_iff.mp gone with ⟨senders, nobody⟩
      apply faithful.goto
      refine ⟨⟨appClosed, phase, opened, outbound⟩, .inr (.inr ⟨.inl senders, nobody⟩), ?_⟩
      simp only [Ws.goto, drained, expected]
    · exact faithful.goto atStage

/-- The socket branch reads a frame of a client that stays. -/
theorem Faithful.pumpSocket (faithful : Faithful s) (stage : s.stage = .pump .socket)
    (keeps : s.loses = false) : Faithful s.pumpSocket := by
  have atStage := faithful.atStage
  have stays := faithful.stays
  simp only [AtStage, stage] at atStage
  cases inbound : s.socket.inbound with
  | nil =>
      have pending : s.socket.next = .pending := by simp [Socket.next, inbound, stays.1]
      simp only [Ws.pumpSocket, pending]
      exact faithful.goto atStage
  | cons frame rest =>
      have notClose (close : Option (ℕ × String)) : frame ≠ .close close :=
        stays.2.2 frame (inbound ▸ List.mem_cons_self) close
      have read : s.socket.next = .frame frame { s.socket with inbound := rest } := by
        simp only [Socket.next, inbound]
        cases frame <;> first | rfl | exact absurd rfl (notClose _)
      have staysAfter : s.socket.ended = false ∧ s.socket.writable = true ∧
          ∀ frame ∈ rest, ∀ close, frame ≠ .close close :=
        ⟨stays.1, stays.2.1, fun each member => stays.2.2 each (by simp [inbound, member])⟩
      have after (stage : WsStage)
          (atStage : AtStage { s with socket := { s.socket with inbound := rest }, stage }) :
          Faithful { s with socket := { s.socket with inbound := rest }, stage } :=
        faithful.of_atStage faithful.fifo rfl (.inl rfl) staysAfter atStage
      have passed (message : WsInbound) (isMessage : (∃ text, frame = .text text) ∨
          ∃ data, frame = .binary data) :
          Faithful (({ s with socket := { s.socket with inbound := rest } } : Ws).feed message
            false) := by
        have before : Faithful { s with socket := { s.socket with inbound := rest } } :=
          faithful.of_chan_eq rfl rfl rfl rfl rfl id staysAfter
        refine before.feed atStage ?_
        intro stopped
        have stoppedBefore : s.running = false := stopped
        rcases atStage with streaming | closed
        · rcases isMessage with ⟨text, rfl⟩ | ⟨data, rfl⟩ <;>
            simp [loses, stage, inbound, streaming.1, stoppedBefore] at keeps
        · exact closed
      simp only [Ws.pumpSocket, read]
      cases frame with
      | text text => exact passed _ (.inl ⟨text, rfl⟩)
      | binary data => exact passed _ (.inr ⟨data, rfl⟩)
      | ping data => exact after _ atStage
      | pong => exact after _ atStage
      | raw => exact after _ atStage
      | close frame => exact absurd rfl (notClose frame)

/-- What a send that succeeds does to the outbound frames. -/
theorem outbound_send {socket : Socket} {frame : ServerFrame}
    (sent : s.socket.send frame = some socket) :
    socket.written.filter (fun frame => !frame.isPong) =
        s.outbound ++ [frame].filter (fun frame => !frame.isPong) ∧
      socket.ended = s.socket.ended ∧ socket.writable = s.socket.writable ∧
      socket.inbound = s.socket.inbound ∧
      socket.phase = if frame.isClose then .closedByUs else .active := by
  simp only [Socket.send] at sent
  split at sent
  · simp only [Option.some.injEq] at sent
    subst socket
    exact ⟨List.filter_append .., rfl, rfl, rfl, rfl⟩
  · cases sent

/-- A client that stays gets every frame until one of them is a close. -/
theorem Faithful.send_isSome (faithful : Faithful s) (phase : s.socket.phase = .active)
    (frame : ServerFrame) : ∃ socket, s.socket.send frame = some socket := by
  simp only [Socket.send, phase, faithful.stays.2.1, and_self, if_true, Option.some.injEq,
    exists_eq']

theorem Faithful.of_send (faithful : Faithful s) {socket : Socket} {frame : ServerFrame}
    (sent : s.socket.send frame = some socket) {next : Ws} (chan : next.chan = s.chan)
    (socketEq : next.socket = socket) (atStage : AtStage next) : Faithful next := by
  rcases outbound_send sent with ⟨_, ended, writable, inbound, _⟩
  refine faithful.of_atStage (chan ▸ faithful.fifo) (by rw [chan]) (.inl (by rw [chan])) ?_ atStage
  rw [socketEq, ended, writable, inbound]
  exact faithful.stays

theorem Faithful.sent (faithful : Faithful s) {frame : ServerFrame}
    (stage : s.stage = .sending frame) : Faithful (s.sent frame) := by
  have atStage := faithful.atStage
  have data (appClosed : s.appClosed = false) (phase : s.socket.phase = .active)
      (opened : Open s.chan.received) (notClose : frame.isClose = false)
      (notPong : frame.isPong = false)
      (outbound : s.outbound ++ [frame] = s.chan.received.filterMap frame?) :
      Faithful (s.sent frame) := by
    rcases faithful.send_isSome phase frame with ⟨socket, sent⟩
    rcases outbound_send sent with ⟨written, _, _, _, phaseAfter⟩
    simp only [Ws.sent, sent]
    refine faithful.of_send sent rfl rfl (.inl ⟨appClosed, ?_, opened, ?_⟩)
    · simpa [notClose] using phaseAfter
    · have all : socket.written.filter (fun frame => !frame.isPong) =
          s.chan.received.filterMap frame? := by
        rw [written, ← outbound]
        simp [notPong]
      exact all
  cases frame with
  | text text =>
      simp only [AtStage, stage] at atStage
      rcases atStage with ⟨appClosed, phase, opened, notClose, outbound⟩
      exact data appClosed phase opened notClose rfl outbound
  | binary bytes =>
      simp only [AtStage, stage] at atStage
      rcases atStage with ⟨appClosed, phase, opened, notClose, outbound⟩
      exact data appClosed phase opened notClose rfl outbound
  | close code reason =>
      simp only [AtStage, stage] at atStage
      cases atStage.2.2.2.1
  | pong bytes =>
      simp only [AtStage, stage] at atStage
      cases sent : s.socket.send (.pong bytes) with
      | none =>
          simp only [Ws.sent, sent]
          rcases atStage with streaming | closed
          · rcases faithful.send_isSome streaming.2.1 (.pong bytes) with ⟨socket, accepted⟩
            rw [sent] at accepted
            cases accepted
          · exact faithful.goto (closed.settled faithful.fifo)
      | some socket =>
          rcases outbound_send sent with ⟨written, _, _, _, phaseAfter⟩
          have same : socket.written.filter (fun frame => !frame.isPong) = s.outbound := by
            simpa [ServerFrame.isPong] using written
          simp only [Ws.sent, sent]
          refine faithful.of_send sent rfl rfl ?_
          rcases atStage with ⟨appClosed, _, opened, outbound⟩ | ⟨appClosed, close, outbound⟩
          · exact .inl ⟨appClosed, phaseAfter, opened, same.trans outbound⟩
          · exact .inr ⟨appClosed, close, same.trans outbound⟩

/-- A close is sent by an open connection only, and it is the last frame that counts. -/
theorem Faithful.close (faithful : Faithful s) {code : ℕ} {reason : String} {after : AfterClose}
    (stage : s.stage = .closing code reason after) :
    Faithful ((s.sendClose code reason).afterClose after) := by
  have atStage := faithful.atStage
  have sending (phase : s.socket.phase = .active) :
      ∃ socket, s.sendClose code reason = { s with socket, closeCalls := s.closeCalls + 1 } ∧
        s.socket.send (.close code reason) = some socket ∧
        socket.written.filter (fun frame => !frame.isPong) =
          s.outbound ++ [.close code reason] := by
    rcases faithful.send_isSome phase (.close code reason) with ⟨socket, sent⟩
    refine ⟨socket, ?_, sent, (outbound_send sent).1⟩
    simp only [Ws.sendClose, sent, Option.getD_some]
  cases after with
  | loop =>
      simp only [AtStage, stage] at atStage
      rcases atStage with ⟨_, phase, earlier, received, opened, outbound⟩
      rcases sending phase with ⟨socket, same, sent, written⟩
      rw [same]
      refine faithful.of_send sent rfl rfl (.inr ⟨rfl, ⟨.close code reason, ?_, rfl⟩, ?_⟩)
      · exact received ▸ List.mem_append_right _ List.mem_cons_self
      · have all : socket.written.filter (fun frame => !frame.isPong) =
            expected s.chan.received := by
          rw [received, expected_append_of_open _ opened, ← outbound]
          exact written
        exact all
  | leave =>
      simp only [AtStage, stage] at atStage
      rcases atStage with ⟨⟨_, phase, opened, outbound⟩, sealed, close⟩
      rcases sending phase with ⟨socket, same, sent, written⟩
      rw [same]
      have all : socket.written.filter (fun frame => !frame.isPong) = expected s.chan.sent := by
        rw [show s.chan.sent = _ from faithful.fifo, expected_append_of_open _ opened, close,
          ← outbound]
        exact written
      exact faithful.of_send sent rfl rfl ⟨sealed, .inr all⟩
  | gone =>
      simp only [AtStage, stage] at atStage
      have settled : Settled ((s.sendClose code reason).afterClose .gone) :=
        ⟨.inr (.inr ⟨.inr rfl, rfl⟩), .inl atStage.1⟩
      refine faithful.of_atStage faithful.fifo rfl (.inr rfl) ?_ settled
      cases sent : s.socket.send (.close code reason) with
      | none =>
          simpa only [afterClose, Ws.finish, sendClose, sent, Option.getD_none] using faithful.stays
      | some socket =>
          rcases outbound_send sent with ⟨_, ended, writable, inbound, _⟩
          simpa only [afterClose, Ws.finish, sendClose, sent, Option.getD_some, ended, writable,
            inbound] using faithful.stays
  | denied => simp only [AtStage, stage] at atStage
  | disconnect code reason => simp only [AtStage, stage] at atStage

theorem Faithful.fed (faithful : Faithful s) {put : ℕ} (stage : s.stage = .feeding put false)
    (keeps : s.loses = false) (polled : s.poll = some next) : Faithful next := by
  have atStage := faithful.atStage
  simp only [AtStage, stage] at atStage
  simp only [Ws.poll, stage, Bool.false_eq_true, if_false] at polled
  split at polled
  · simp only [Option.some.injEq] at polled
    subst next
    exact faithful.goto atStage
  · rename_i failed
    split at polled
    · rename_i settled
      simp only [Option.some.injEq] at polled
      subst next
      rcases atStage with streaming | closed
      · simp [loses, stage, streaming.1, settled, Bool.eq_false_iff.mpr failed] at keeps
      · exact faithful.goto (closed.settled faithful.fifo)
    · cases polled

/-- The channel is dropped once everything is settled. -/
theorem Settled.dropReceiver (settled : Settled s) (stage : WsStage) (disconnected : Bool) :
    Settled { s with stage, disconnected, chan := s.chan.dropReceiver } :=
  ⟨.inr (.inr ⟨.inr rfl, rfl⟩), settled.2⟩

theorem Faithful.poll (faithful : Faithful s) (keeps : s.loses = false)
    (polled : s.poll = some next) : Faithful next := by
  have atStage := faithful.atStage
  cases stage : s.stage with
  | setup => simp [Ws.poll, stage] at polled
  | done => simp [Ws.poll, stage] at polled
  | connecting put =>
      simp only [AtStage, stage] at atStage
      simp only [Ws.poll, stage] at polled
      split at polled
      · simp only [Option.some.injEq] at polled
        subst next
        exact faithful.goto atStage
      · rename_i failed
        split at polled
        · rename_i settled
          simp [loses, stage, settled, Bool.eq_false_iff.mpr failed] at keeps
        · cases polled
  | accepting =>
      simp only [Ws.poll, stage] at polled
      exact faithful.pollAccepting stage keeps polled
  | pump branch =>
      cases branch with
      | app =>
          simp only [Ws.poll, stage, Option.some.injEq] at polled
          exact polled ▸ faithful.pumpApp stage keeps
      | rx =>
          simp only [Ws.poll, stage, Option.some.injEq] at polled
          exact polled ▸ faithful.pumpRx stage
      | socket =>
          simp only [Ws.poll, stage, Option.some.injEq] at polled
          exact polled ▸ faithful.pumpSocket stage keeps
  | sending frame =>
      simp only [Ws.poll, stage] at polled
      split at polled
      · cases polled
      · simp only [Option.some.injEq] at polled
        exact polled ▸ faithful.sent stage
  | closing code reason after =>
      simp only [Ws.poll, stage] at polled
      split at polled
      · cases polled
      · simp only [Option.some.injEq] at polled
        exact polled ▸ faithful.close stage
  | feeding put last =>
      cases last with
      | false => exact faithful.fed stage keeps polled
      | true => simp only [AtStage, stage] at atStage
  | ending =>
      simp only [AtStage, stage] at atStage
      simp only [Ws.poll, stage, Option.some.injEq] at polled
      subst next
      refine faithful.of_atStage faithful.fifo rfl (.inr rfl) faithful.stays ?_
      cases s.appDone
      · exact atStage.dropReceiver .finishing true
      · exact atStage.dropReceiver .done true
  | finishing =>
      simp only [AtStage, stage] at atStage
      have finished : Faithful s.finish :=
        faithful.of_atStage faithful.fifo rfl (.inr rfl) faithful.stays
          (atStage.dropReceiver .done s.disconnected)
      simp only [Ws.poll, stage] at polled
      split at polled
      · simp only [Option.some.injEq] at polled
        exact polled ▸ finished
      · split at polled
        · simp only [Option.some.injEq] at polled
          exact polled ▸ finished
        · cases polled

theorem Faithful.step (faithful : Faithful s) (connected : s.Connected action)
    (keeps : s.Keeps action) (stepped : s.step action = some next) : Faithful next := by
  have stays := faithful.stays
  cases step_cases stepped with
  | poll => exact faithful.poll (keeps (.inl rfl)) stepped
  | push started senders receiver =>
      rcases opens_of_connected connected with ⟨running, first⟩
      exact faithful.enter running started first (.inl ⟨senders, receiver⟩) rfl rfl rfl
  | park started senders receiver =>
      rcases opens_of_connected connected with ⟨running, first⟩
      exact faithful.park running first senders receiver
  | unpark started unparked => exact faithful.unpark (of_decide_eq_true connected) started unparked
  | begin stage =>
      have atStage := faithful.atStage
      simp only [AtStage, stage] at atStage
      exact faithful.of_atStage faithful.fifo rfl (.inl rfl) stays ⟨atStage.1, atStage.2.1⟩
  | stopped stage stopped => simp [loses, stage, stopped, Keeps] at keeps
  | refused stage =>
      have atStage := faithful.atStage
      simp only [AtStage, stage] at atStage
      exact faithful.of_atStage faithful.fifo rfl (.inr rfl) stays
        ⟨atStage.2.2, .inr (.inr ⟨.inr rfl, rfl⟩)⟩
  | exit | settle =>
      exact faithful.of_chan_eq rfl rfl rfl rfl rfl (fun running => by cases running) stays
  | dropSink => exact faithful.dropSink
  | @clientSends frame =>
      refine faithful.of_chan_eq rfl rfl rfl rfl rfl id ⟨stays.1, stays.2.1, ?_⟩
      intro each member close same
      rcases List.mem_append.mp member with earlier | last
      · exact stays.2.2 each earlier close same
      · rw [List.mem_singleton.mp last] at same
        subst same
        cases connected
  | clientEnds | breaks => cases connected
  | receive | turn | putTimeout | acceptTimeout | finishTimeout | stopLoop | congest =>
      exact faithful.of_chan_eq rfl rfl rfl rfl rfl id stays

theorem faithful_init : Faithful init where
  fifo := rfl
  opening := by simp [init, Mpsc.new]
  waiting := by simp [init, Mpsc.new]
  stays := ⟨rfl, rfl, by simp [init, Socket.new]⟩
  atStage := by
    refine ⟨⟨rfl, rfl, ?_, rfl⟩, rfl, rfl⟩
    intro event member
    cases member

/-- When the driver is done, the client has been sent the data of the application's events up to
its close, and that close or the default one, provided the driver never gave up on them. -/
theorem outbound_of_keeps (connected : Along step Connected init actions)
    (keeps : Along step Keeps init actions) (ran : run step init actions = some final)
    (done : final.stage = .done) (accepted : final.chan.sent ≠ []) :
    final.outbound = expected final.chan.sent := by
  have faithful : Faithful final :=
    run_invariant Faithful
      (fun _ _ _ faithful allowed stepped => faithful.step allowed.1 allowed.2 stepped)
      (connected.and keeps) ran faithful_init
  have settled := faithful.atStage
  simp only [AtStage, done] at settled
  rcases settled.2 with nothing | all
  · exact absurd nothing accepted
  · exact all

def acceptedRun : List Action :=
  [.setup true, .turn, .turn, .turn, .poll, .push .accept false, .poll]

/-- The application says goodbye and returns; its close is read before its end is seen. -/
def goodbyeRun : List Action :=
  acceptedRun ++ [.push (.sendText "bye") false, .push (.close 4000 "done") false, .poll, .poll,
    .poll, .poll, .poll, .poll, .exit .returned, .settle, .poll, .poll]

theorem outbound_of_keeps_goodbye :
    ∃ final, run step init goodbyeRun = some final ∧
      final.outbound = expected final.chan.sent := by
  have ran : ∃ final, run step init goodbyeRun = some final ∧ final.stage = .done ∧
      final.chan.sent ≠ [] :=
    exists_of_run_any (by decide)
  rcases ran with ⟨final, ran, done, accepted⟩
  exact ⟨final, ran, outbound_of_keeps (by decide) (by decide) ran done accepted⟩

/-- The same application a moment faster: its end is seen first, and both events are lost. -/
theorem outbound_lost :
    ∃ final, run step init (acceptedRun ++ [.push (.sendText "bye") false,
        .push (.close 4000 "done") false, .exit .returned, .settle, .poll, .poll, .poll]) =
          some final ∧
      final.stage = .done ∧
      final.chan.sent = [.accept, .sendText "bye", .close 4000 "done"] ∧
      final.outbound = [.close 1000 ""] ∧ final.outbound ≠ expected final.chan.sent :=
  exists_of_run_any (by decide)

end Ws

end RustAsgi
