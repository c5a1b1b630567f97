import RustAsgi.WebSocket.Inlet

/-!
# The grammar of a WebSocket

Towards the application: `websocket.connect`, one `websocket.receive` for each
message of the client, and at most one `websocket.disconnect`, which comes last.
Towards the client: the data of the application's events, then at most one close.
Replies to pings may stand anywhere.
-/

namespace RustAsgi

open Machine Asyncio Tokio

def WsInbound.isDisconnect : WsInbound → Bool
  | .disconnect _ _ => true
  | _ => false

/-- The messages for the application, given the frames that have arrived. -/
def InGrammar (arrived : List ClientFrame) (messages : List WsInbound) : Prop :=
  messages = [] ∨ ∃ receives ends, messages = .connect :: (receives ++ ends) ∧
    receives <+: arrived.filterMap ClientFrame.message? ∧ ends.length ≤ 1 ∧
    ∀ message ∈ ends, message.isDisconnect = true

/-- The frames that the driver does not send on behalf of the protocol. -/
def ownFrames (frames : List ServerFrame) : List ServerFrame :=
  frames.filter fun frame => !frame.isPong

/-- The frames for the client, given the events that the sink has accepted. -/
def OutGrammar (accepted : List WsEvent) (frames : List ServerFrame) : Prop :=
  ∃ data closes, ownFrames frames = data ++ closes ∧
    data <+: accepted.filterMap WsEvent.frame? ∧ (data ≠ [] → accepted.head? = some .accept) ∧
    closes.length ≤ 1 ∧ ∀ frame ∈ closes, frame.isClose = true

theorem ownFrames_append (front back : List ServerFrame) :
    ownFrames (front ++ back) = ownFrames front ++ ownFrames back :=
  List.filter_append ..

theorem OutGrammar.of_close (accepted : List WsEvent) (code : ℕ) (reason : String) :
    OutGrammar accepted [.close code reason] :=
  ⟨[], [.close code reason], rfl, List.nil_prefix, by simp, by simp, by simp [ServerFrame.isClose]⟩

theorem OutGrammar.mono {accepted later : List WsEvent} {frames more : List ServerFrame}
    (grammar : OutGrammar accepted frames) (grown : accepted <+: later)
    (same : ownFrames more = ownFrames frames) : OutGrammar later more := by
  rcases grammar with ⟨data, closes, split_, inOrder, first, rest⟩
  refine ⟨data, closes, same.trans split_, inOrder.trans (grown.filterMap _), ?_, rest⟩
  intro some_
  rcases grown with ⟨extra, rfl⟩
  rw [List.head?_append, first some_]
  rfl

theorem InGrammar.mono {arrived later : List ClientFrame} {messages : List WsInbound}
    (grammar : InGrammar arrived messages) (more : arrived <+: later) :
    InGrammar later messages := by
  rcases grammar with nothing | ⟨receives, ends, same, inOrder, rest⟩
  · exact .inl nothing
  · exact .inr ⟨receives, ends, same, inOrder.trans (more.filterMap _), rest⟩

theorem InGrammar.of_prefix {arrived : List ClientFrame} {messages earlier : List WsInbound}
    (grammar : InGrammar arrived messages) (before : earlier <+: messages) :
    InGrammar arrived earlier := by
  rcases grammar with rfl | ⟨receives, ends, rfl, inOrder, one, only⟩
  · exact .inl (List.prefix_nil.mp before)
  · cases earlier with
    | nil => exact .inl rfl
    | cons first earlier =>
        rw [List.cons_prefix_cons] at before
        rcases before with ⟨rfl, before⟩
        rw [List.prefix_iff_eq_take, List.take_append] at before
        refine .inr ⟨_, _, congrArg _ before, (List.take_prefix _ _).trans inOrder, ?_, ?_⟩
        · exact (List.length_take_le' _ _).trans one
        · exact fun message member => only message (List.mem_of_mem_take member)

namespace Socket

theorem next_frame {socket after : Socket} {frame : ClientFrame}
    (read : socket.next = .frame frame after) : socket.inbound = frame :: after.inbound := by
  simp only [next] at read
  split at read
  · rename_i head rest inbound
    simp only [SocketNext.frame.injEq] at read
    rcases read with ⟨rfl, rfl⟩
    exact inbound
  · split at read <;> cases read

theorem send_inbound {socket after : Socket} {frame : ServerFrame}
    (sent : socket.send frame = some after) : after.inbound = socket.inbound := by
  simp only [send, Option.ite_none_right_eq_some, Option.some.injEq] at sent
  rw [← sent.2]

end Socket

namespace Ws

variable {s next final : Ws} {action : Action} {actions : List Action}
  {arrived : List ClientFrame}

/-- The frames of the client that arrive with a step. -/
def arrives (_ : Ws) : Action → List ClientFrame
  | .clientSends frame => [frame]
  | _ => []

/-- The messages of the frames that have not been read. -/
def unread (s : Ws) : List WsInbound :=
  s.socket.inbound.filterMap ClientFrame.message?

/-- Every message that has been read is submitted, and nothing else but the connect. -/
def Reading (s : Ws) (arrived : List ClientFrame) : Prop :=
  ∃ receives, s.submitted = .connect :: receives ∧
    receives ++ s.unread = arrived.filterMap ClientFrame.message?

/-- The messages for the application at each stage. -/
def Inflow (s : Ws) (arrived : List ClientFrame) : Prop :=
  match s.stage with
  | .setup => s.submitted = [] ∧ s.unread = arrived.filterMap ClientFrame.message?
  | .connecting _ | .accepting | .pump _ | .sending _ | .feeding _ false | .closing _ _ .loop
  | .closing _ _ (.disconnect _ _) => Reading s arrived
  | .closing _ _ _ | .feeding _ true | .ending | .finishing | .done =>
      InGrammar arrived s.submitted

theorem Reading.grammar (reading : Reading s arrived) : InGrammar arrived s.submitted := by
  rcases reading with ⟨receives, submitted, all⟩
  refine .inr ⟨receives, [], by rw [submitted, List.append_nil], ?_, by simp, by simp⟩
  exact ⟨s.unread, all⟩

theorem Reading.of_same (reading : Reading s arrived) (submitted : next.submitted = s.submitted)
    (unread : next.unread = s.unread) : Reading next arrived := by
  simpa only [Reading, submitted, unread] using reading

theorem Reading.arrive {frame : ClientFrame} (reading : Reading s arrived)
    (submitted : next.submitted = s.submitted)
    (more : next.unread = s.unread ++ [frame].filterMap ClientFrame.message?) :
    Reading next (arrived ++ [frame]) := by
  rcases reading with ⟨receives, before, all⟩
  refine ⟨receives, submitted.trans before, ?_⟩
  rw [more, ← List.append_assoc, all, List.filterMap_append]

theorem Reading.message {frame : ClientFrame} {message : WsInbound} {socket : Socket}
    (reading : Reading s arrived) (read : s.socket.next = .frame frame socket)
    (carries : frame.message? = some message) :
    Inflow (({ s with socket } : Ws).feed message false) arrived := by
  rcases reading with ⟨receives, submitted, all⟩
  simp only [unread, Socket.next_frame read, List.filterMap_cons, carries] at all
  rcases ({ s with socket } : Ws).feed_cases message false with ⟨_, same⟩ | ⟨_, same⟩ <;> rw [same]
  · refine ⟨receives ++ [message], by simp [goto, enqueue, submitted], ?_⟩
    rw [List.append_assoc]
    exact all
  · refine .inr ⟨receives, [], by simpa [goto] using submitted, ?_, by simp, by simp⟩
    exact ⟨_, all⟩

theorem Reading.skip {frame : ClientFrame} {socket : Socket} (reading : Reading s arrived)
    (read : s.socket.next = .frame frame socket) (silent : frame.message? = none)
    (stage : WsStage) : Reading { s with socket, stage } arrived := by
  have unread : ({ s with socket, stage } : Ws).unread = s.unread := by
    simp only [Ws.unread, Socket.next_frame read, List.filterMap_cons, silent]
  exact reading.of_same rfl unread

theorem unread_sendClose (s : Ws) (code : ℕ) (reason : String) :
    (s.sendClose code reason).unread = s.unread := by
  simp only [unread, sendClose]
  cases sent : s.socket.send (.close code reason) with
  | none => rfl
  | some socket => rw [Option.getD_some, Socket.send_inbound sent]

theorem InGrammar.disconnect {code : ℕ} {reason : String} (reading : Reading s arrived) :
    Inflow (s.feed (.disconnect code reason) true) arrived := by
  rcases s.feed_cases (.disconnect code reason) true with ⟨_, same⟩ | ⟨_, same⟩ <;> rw [same]
  · rcases reading with ⟨receives, submitted, all⟩
    refine .inr ⟨receives, [.disconnect code reason], ?_, ⟨_, all⟩, by simp, by
      simp [WsInbound.isDisconnect]⟩
    simp [goto, enqueue, submitted]
  · exact reading.grammar

theorem Inflow.polled (inflow : Inflow s arrived) (polled : Polled s next) :
    Inflow next arrived := by
  cases polled with
  | connected stage | accepted stage | onward _ stage | data stage | appClose stage
  | duplicate stage =>
      simp only [Inflow, stage] at inflow
      exact inflow
  | sent stage _ sent =>
      simp only [Inflow, stage] at inflow
      exact inflow.of_same rfl (by simp only [unread, Socket.send_inbound sent])
  | unconnected stage | denied stage | unexpected stage | appFailed stage | acceptTimeout stage
  | appEnd stage | appReturned stage | drained stage | unsent stage =>
      simp only [Inflow, stage] at inflow
      exact inflow.grammar
  | message stage read carries =>
      simp only [Inflow, stage] at inflow
      exact inflow.message read carries
  | ping stage read =>
      simp only [Inflow, stage] at inflow
      exact inflow.skip read rfl _
  | ignored stage read silent =>
      simp only [Inflow, stage] at inflow
      exact inflow.skip read (by rcases silent with rfl | rfl <;> rfl) _
  | clientClosed stage read =>
      simp only [Inflow, stage] at inflow
      exact inflow.skip read rfl _
  | @echoed _ socket stage read =>
      simp only [Inflow, stage] at inflow
      have read : Reading { s with socket } arrived := inflow.skip read rfl s.stage
      exact InGrammar.disconnect read
  | vanished stage =>
      simp only [Inflow, stage] at inflow
      exact InGrammar.disconnect inflow
  | @closed code reason after stage =>
      simp only [Inflow, stage] at inflow
      cases after with
      | loop => exact inflow.of_same rfl (s.unread_sendClose code reason)
      | disconnect =>
          exact InGrammar.disconnect (inflow.of_same rfl (s.unread_sendClose code reason))
      | leave | denied | gone => exact inflow
  | @fed _ last stage =>
      simp only [Inflow, stage] at inflow
      cases last with
      | false => exact inflow
      | true => exact inflow
  | @unfed _ last stage =>
      simp only [Inflow, stage] at inflow
      cases last with
      | false => exact Reading.grammar inflow
      | true => exact inflow
  | leave stage =>
      simp only [Inflow, stage] at inflow
      simp only [Inflow]
      cases s.appDone <;> exact inflow
  | finish stage =>
      simp only [Inflow, stage] at inflow
      exact inflow

theorem Inflow.step (inflow : Inflow s arrived) (stepped : s.step action = some next) :
    Inflow next (arrived ++ s.arrives action) := by
  cases step_cases stepped with
  | poll polled =>
      simp only [arrives, List.append_nil]
      exact inflow.polled polled
  | begin stage =>
      simp only [arrives, List.append_nil]
      simp only [Inflow, stage] at inflow
      refine ⟨[], ?_, inflow.2⟩
      simp only [goto, enqueue, inflow.1]
      rfl
  | stopped stage | refused stage =>
      simp only [arrives, List.append_nil]
      simp only [Inflow, stage] at inflow
      exact .inl inflow.1
  | clientSends =>
      rename_i frame opened
      have more : ({ s with socket := { s.socket with inbound := s.socket.inbound ++ [frame] } } :
          Ws).unread = s.unread ++ [frame].filterMap ClientFrame.message? := by
        simp only [unread, List.filterMap_append]
      simp only [Inflow, arrives] at inflow ⊢
      split at inflow
      · refine ⟨inflow.1, ?_⟩
        rw [more, inflow.2, List.filterMap_append]
      all_goals first | exact inflow.mono (List.prefix_append _ _) | exact inflow.arrive rfl more
  | _ =>
      simp only [arrives, List.append_nil]
      exact inflow

theorem inflow_of_run (ran : run step init actions = some final) :
    Inflow final (trace step arrives init actions) :=
  trace_invariant Inflow (fun _ _ _ _ inflow stepped => inflow.step stepped) ran
    (show Inflow init [] from ⟨rfl, rfl⟩)

/-- The frame that is handed to the socket when the driver enters a stage. -/
def calls : WsStage → List ServerFrame
  | .sending frame => [frame]
  | .closing code reason _ => [.close code reason]
  | _ => []

/-- The frames that a step submits to the socket, whatever becomes of them. -/
def submits (s : Ws) (action : Action) : List ServerFrame :=
  match action, s.step action with
  | .poll, some next | .setup _, some next => calls next.stage
  | _, _ => []

/-- No close has been submitted, and the data is that of the events taken so far. -/
def Sending (s : Ws) (frames : List ServerFrame) : Prop :=
  s.closeCalls = 0 ∧ s.chan.received.head? = some .accept ∧
    ownFrames frames = s.chan.received.filterMap WsEvent.frame?

/-- Nothing but replies to pings may follow. -/
def Shut (s : Ws) (frames : List ServerFrame) : Prop :=
  s.closeCalls ≤ 1 ∧ OutGrammar s.chan.sent frames

def Pumping (s : Ws) (frames : List ServerFrame) : Prop :=
  (s.appClosed = false ∧ Sending s frames) ∨ (s.appClosed = true ∧ Shut s frames)

/-- The frames for the client at each stage. -/
def AtCall (s : Ws) (frames : List ServerFrame) : Prop :=
  match s.stage with
  | .setup | .connecting _ | .accepting =>
      s.appClosed = false ∧ s.closeCalls = 0 ∧ s.chan.received = [] ∧ frames = []
  | .pump _ | .sending _ | .feeding _ false => Pumping s frames
  | .closing _ _ _ => s.closeCalls = 0 ∧ OutGrammar s.chan.sent frames
  | .feeding _ true | .ending | .finishing | .done => Shut s frames

structure Outflow (s : Ws) (frames : List ServerFrame) : Prop where
  fifo : s.chan.Fifo
  atCall : AtCall s frames

variable {frames : List ServerFrame}

theorem Sending.grammar (sending : Sending s frames) (fifo : s.chan.Fifo)
    (closes : List ServerFrame) (one : closes.length ≤ 1)
    (only : ∀ frame ∈ closes, frame.isClose = true) (own : ownFrames closes = closes) :
    OutGrammar s.chan.sent (frames ++ closes) := by
  rcases sending with ⟨_, first, submitted⟩
  have sent : s.chan.sent = s.chan.received ++ s.chan.buffer := fifo
  refine ⟨s.chan.received.filterMap WsEvent.frame?, closes, ?_, ?_, fun _ => ?_, one, only⟩
  · rw [ownFrames_append, submitted, own]
  · rw [sent, List.filterMap_append]
    exact List.prefix_append _ _
  · rw [sent, List.head?_append, first]
    rfl

theorem Sending.shut (sending : Sending s frames) (fifo : s.chan.Fifo) : Shut s frames := by
  have grammar := sending.grammar fifo [] (by simp) (by simp) rfl
  rw [List.append_nil] at grammar
  exact ⟨by rw [sending.1]; exact Nat.zero_le 1, grammar⟩

theorem Sending.close (sending : Sending s frames) (fifo : s.chan.Fifo) (code : ℕ)
    (reason : String) : OutGrammar s.chan.sent (frames ++ [.close code reason]) :=
  sending.grammar fifo _ (by simp) (by simp [ServerFrame.isClose]) rfl

theorem Sending.take {more : List ServerFrame} (sending : Sending s frames) (event : WsEvent)
    (carried : event.frame?.toList = more) (closes : next.closeCalls = s.closeCalls)
    (received : next.chan.received = s.chan.received ++ [event]) :
    Sending next (frames ++ more) := by
  subst more
  rcases sending with ⟨none_, first, submitted⟩
  have own : ownFrames event.frame?.toList = event.frame?.toList := by cases event <;> rfl
  refine ⟨closes.trans none_, ?_, ?_⟩
  · rw [received, List.head?_append, first]
    rfl
  · rw [ownFrames_append, submitted, own, received, List.filterMap_append]
    cases event <;> rfl

theorem Shut.of_same {more : List ServerFrame} (shut : Shut s frames)
    (closes : next.closeCalls = s.closeCalls) (sent : s.chan.sent <+: next.chan.sent)
    (own : ownFrames more = ownFrames frames) : Shut next more :=
  ⟨closes ▸ shut.1, shut.2.mono sent own⟩

theorem Pumping.of_same {more : List ServerFrame} (pumping : Pumping s frames)
    (appClosed : next.appClosed = s.appClosed) (closes : next.closeCalls = s.closeCalls)
    (received : next.chan.received = s.chan.received) (sent : s.chan.sent <+: next.chan.sent)
    (own : ownFrames more = ownFrames frames) : Pumping next more := by
  rcases pumping with ⟨opened, none_, first, submitted⟩ | ⟨closed, shut⟩
  · refine .inl ⟨appClosed.trans opened, closes.trans none_, ?_, ?_⟩
    · rw [received]
      exact first
    · rw [received, own]
      exact submitted
  · exact .inr ⟨appClosed.trans closed, shut.of_same closes sent own⟩

theorem Pumping.shut (pumping : Pumping s frames) (fifo : s.chan.Fifo) : Shut s frames := by
  rcases pumping with ⟨_, sending⟩ | ⟨_, shut⟩
  · exact sending.shut fifo
  · exact shut

theorem Pumping.sending (pumping : Pumping s frames) (opened : s.appClosed = false) :
    Sending s frames := by
  rcases pumping with ⟨_, sending⟩ | ⟨closed, _⟩
  · exact sending
  · rw [opened] at closed
    cases closed

theorem AtCall.beside (atCall : AtCall s frames) (stage : next.stage = s.stage)
    (appClosed : next.appClosed = s.appClosed) (closes : next.closeCalls = s.closeCalls)
    (received : next.chan.received = s.chan.received) (sent : s.chan.sent <+: next.chan.sent) :
    AtCall next frames := by
  simp only [AtCall, stage, appClosed, closes, received]
  simp only [AtCall] at atCall
  split at atCall
  · exact atCall
  · exact atCall
  · exact atCall
  · exact atCall.of_same appClosed closes received sent rfl
  · exact atCall.of_same appClosed closes received sent rfl
  · exact atCall.of_same appClosed closes received sent rfl
  · exact ⟨atCall.1, atCall.2.mono sent rfl⟩
  · exact atCall.of_same closes sent rfl
  · exact atCall.of_same closes sent rfl
  · exact atCall.of_same closes sent rfl
  · exact atCall.of_same closes sent rfl

theorem Pumping.feed (pumping : Pumping s frames) (fifo : s.chan.Fifo) (message : WsInbound)
    (last : Bool) :
    Outflow (s.feed message last) (frames ++ calls (s.feed message last).stage) := by
  have shut := (pumping.shut fifo)
  rcases s.feed_cases message last with ⟨_, same⟩ | ⟨_, same⟩ <;> rw [same]
  · simp only [goto, calls, List.append_nil]
    refine ⟨fifo, ?_⟩
    cases last with
    | false => exact pumping.of_same rfl rfl rfl (List.prefix_refl _) rfl
    | true => exact shut.of_same rfl (List.prefix_refl _) rfl
  · simp only [goto, calls, List.append_nil]
    exact ⟨fifo, shut.of_same rfl (List.prefix_refl _) rfl⟩

theorem Shut.feed (shut : Shut s frames) (fifo : s.chan.Fifo) (message : WsInbound) :
    Outflow (s.feed message true) (frames ++ calls (s.feed message true).stage) := by
  rcases s.feed_cases message true with ⟨_, same⟩ | ⟨_, same⟩ <;> rw [same] <;>
    simp only [goto, calls, List.append_nil] <;>
    exact ⟨fifo, shut.of_same rfl (List.prefix_refl _) rfl⟩

theorem Outflow.polled (outflow : Outflow s frames) (polled : Polled s next) :
    Outflow next (frames ++ calls next.stage) := by
  rcases outflow with ⟨fifo, atCall⟩
  have unchanged : s.chan.sent <+: s.chan.sent := List.prefix_refl _
  cases polled with
  | connected stage =>
      simp only [AtCall, stage] at atCall
      refine ⟨fifo, ?_⟩
      simpa [AtCall, goto, calls] using atCall
  | unconnected stage | appFailed stage | acceptTimeout stage =>
      simp only [AtCall, stage] at atCall
      rcases atCall with ⟨_, closes, _, rfl⟩
      exact ⟨fifo, closes, .of_close _ _ _⟩
  | denied stage received | unexpected stage received =>
      simp only [AtCall, stage] at atCall
      rcases atCall with ⟨_, closes, _, rfl⟩
      exact ⟨fifo.recv received, closes, .of_close _ _ _⟩
  | accepted stage received =>
      simp only [AtCall, stage] at atCall
      rcases atCall with ⟨opened, closes, nothing, rfl⟩
      refine ⟨fifo.recv received, .inl ⟨opened, closes, ?_⟩⟩
      rcases Mpsc.recv_item received with ⟨rest, _, rfl⟩
      simp [nothing, ownFrames, calls, WsEvent.frame?]
  | onward later stage | ignored stage | sent stage =>
      simp only [AtCall, stage] at atCall
      refine ⟨fifo, atCall.of_same rfl rfl rfl unchanged ?_⟩
      simp [calls, goto]
  | ping stage =>
      simp only [AtCall, stage] at atCall
      refine ⟨fifo, atCall.of_same rfl rfl rfl unchanged ?_⟩
      simp [calls, ownFrames, ServerFrame.isPong]
  | appEnd stage | unsent stage =>
      simp only [AtCall, stage] at atCall
      refine ⟨fifo, (atCall.shut fifo).of_same rfl unchanged ?_⟩
      simp [calls, goto]
  | appReturned stage _ opened | drained stage opened | clientClosed stage _ opened =>
      simp only [AtCall, stage] at atCall
      have sending := atCall.sending opened
      exact ⟨fifo, sending.1, sending.close fifo _ _⟩
  | data stage opened received data =>
      simp only [AtCall, stage] at atCall
      refine ⟨fifo.recv received, .inl ⟨opened, ?_⟩⟩
      rcases Mpsc.recv_item received with ⟨rest, _, rfl⟩
      exact (atCall.sending opened).take _ (by simp [data, calls]) rfl rfl
  | duplicate stage opened received =>
      simp only [AtCall, stage] at atCall
      refine ⟨fifo.recv received, .inl ⟨opened, ?_⟩⟩
      rcases Mpsc.recv_item received with ⟨rest, _, rfl⟩
      exact (atCall.sending opened).take .accept rfl rfl rfl
  | @appClose code reason chan stage opened received =>
      simp only [AtCall, stage] at atCall
      have fifoNext := fifo.recv received
      have received : chan.received = s.chan.received ++ [.close code reason] := by
        rcases Mpsc.recv_item received with ⟨rest, _, rfl⟩
        rfl
      have sending : Sending { s with chan, stage := .closing code reason .loop } (frames ++ []) :=
        (atCall.sending opened).take (.close code reason) rfl rfl received
      rw [List.append_nil] at sending
      exact ⟨fifoNext, sending.1, sending.close fifoNext _ _⟩
  | @message frame message socket stage =>
      simp only [AtCall, stage] at atCall
      have pumping : Pumping { s with socket } frames :=
        atCall.of_same rfl rfl rfl unchanged rfl
      exact pumping.feed fifo _ _
  | @echoed frame socket stage =>
      simp only [AtCall, stage] at atCall
      have pumping : Pumping { s with socket } frames :=
        atCall.of_same rfl rfl rfl unchanged rfl
      exact pumping.feed fifo _ _
  | vanished stage =>
      simp only [AtCall, stage] at atCall
      exact Pumping.feed atCall fifo _ _
  | @closed code reason after stage =>
      simp only [AtCall, stage] at atCall
      have shut : Shut (s.sendClose code reason) frames := ⟨by simp [sendClose, atCall.1], atCall.2⟩
      cases after with
      | loop =>
          refine ⟨fifo, .inr ⟨rfl, shut.of_same rfl unchanged ?_⟩⟩
          simp [calls, afterClose]
      | disconnect => exact shut.feed fifo _
      | leave | denied | gone =>
          refine ⟨fifo, shut.of_same rfl unchanged ?_⟩
          simp [calls, afterClose, goto, finish]
  | @fed _ last stage =>
      simp only [AtCall, stage] at atCall
      refine ⟨fifo, ?_⟩
      cases last with
      | false => exact Pumping.of_same atCall rfl rfl rfl unchanged (by simp [calls, goto])
      | true => exact Shut.of_same atCall rfl unchanged (by simp [calls, goto])
  | @unfed _ last stage =>
      simp only [AtCall, stage] at atCall
      have shut : Shut s frames := by
        cases last with
        | false => exact Pumping.shut atCall fifo
        | true => exact atCall
      refine ⟨fifo, shut.of_same rfl unchanged ?_⟩
      simp [calls, goto]
  | leave stage =>
      simp only [AtCall, stage] at atCall
      refine ⟨fifo.dropReceiver, ?_⟩
      simp only [AtCall]
      cases s.appDone <;> exact atCall.of_same rfl unchanged (by simp [calls])
  | finish stage =>
      simp only [AtCall, stage] at atCall
      refine ⟨fifo.dropReceiver, atCall.of_same rfl unchanged ?_⟩
      simp [calls, finish]

theorem Outflow.step (outflow : Outflow s frames) (stepped : s.step action = some next) :
    Outflow next (frames ++ s.submits action) := by
  have fifo := outflow.fifo
  have atCall := outflow.atCall
  cases step_cases stepped with
  | poll polled =>
      simp only [submits, stepped]
      exact outflow.polled polled
  | begin stage =>
      simp only [submits, stepped, goto, calls, List.append_nil]
      simp only [AtCall, stage] at atCall
      exact ⟨fifo, atCall⟩
  | stopped stage =>
      simp only [submits, stepped]
      simp only [AtCall, stage] at atCall
      rcases atCall with ⟨_, closes, _, rfl⟩
      exact ⟨fifo, closes, .of_close _ _ _⟩
  | refused stage =>
      simp only [submits, stepped]
      simp only [AtCall, stage] at atCall
      rcases atCall with ⟨_, closes, _, rfl⟩
      exact ⟨fifo.dropReceiver, closes, .of_close _ _ _⟩
  | push =>
      simp only [submits, List.append_nil]
      exact ⟨fifo.accept, atCall.beside rfl rfl rfl rfl (List.prefix_append _ _)⟩
  | @unpark index chan started unparked =>
      simp only [submits, List.append_nil]
      refine ⟨fifo.unpark unparked, ?_⟩
      rcases Mpsc.unpark_cases unparked with ⟨value, _, _, _, rfl⟩
      exact atCall.beside rfl rfl rfl rfl (List.prefix_append _ _)
  | _ =>
      simp only [submits, List.append_nil]
      exact ⟨fifo, atCall.beside rfl rfl rfl rfl (List.prefix_refl _)⟩

theorem outflow_of_run (ran : run step init actions = some final) :
    Outflow final (trace step submits init actions) :=
  trace_invariant Outflow (fun _ _ _ _ outflow stepped => outflow.step stepped) ran
    (show Outflow init [] from ⟨rfl, rfl, rfl, rfl, rfl⟩)

theorem Outflow.shut (outflow : Outflow s frames) : Shut s frames := by
  rcases outflow with ⟨fifo, atCall⟩
  have nothing (closes : s.closeCalls = 0) (none_ : frames = []) : Shut s frames :=
    ⟨by omega, [], [], by rw [none_]; rfl, List.nil_prefix, by simp, by simp, by simp⟩
  simp only [AtCall] at atCall
  split at atCall
  · exact nothing atCall.2.1 atCall.2.2.2
  · exact nothing atCall.2.1 atCall.2.2.2
  · exact nothing atCall.2.1 atCall.2.2.2
  · exact Pumping.shut atCall fifo
  · exact Pumping.shut atCall fifo
  · exact Pumping.shut atCall fifo
  · exact ⟨by omega, atCall.2⟩
  · exact atCall
  · exact atCall
  · exact atCall
  · exact atCall

/-- The messages that have been put on the application's queue, taken or not. -/
def queued (s : Ws) : List WsInbound :=
  s.received ++ s.loop.items.map Put.item

theorem Inflow.grammar (inflow : Inflow s arrived) : InGrammar arrived s.submitted := by
  simp only [Inflow] at inflow
  split at inflow <;> first | exact .inl inflow.1 | exact Reading.grammar inflow | exact inflow

theorem Inlet.queued_in_order (inlet : Inlet s) : s.queued <+: s.submitted := by
  refine ⟨s.loop.pending.map Put.item, ?_⟩
  rw [← inlet.order, queued, Loop.puts_eq, List.map_append, List.append_assoc]

/-- Both directions of a connection keep to the grammar, whatever the application, the client, the
event loop and the timers do. -/
theorem event_grammar (ran : run step init actions = some final) :
    InGrammar (trace step arrives init actions) final.queued ∧
      OutGrammar final.chan.sent (trace step submits init actions) ∧ final.closeCalls ≤ 1 := by
  have submitted := (inflow_of_run ran).grammar
  have shut := (outflow_of_run ran).shut
  exact ⟨submitted.of_prefix (inlet_of_run ran).queued_in_order, shut.2, shut.1⟩

/-- The client writes, the application answers and closes, and is told of the end. -/
def conversation : List Action :=
  [.setup true, .turn, .turn, .turn, .poll, .push .accept false, .poll,
    .clientSends (.text "hello"), .clientSends (.ping [1]), .poll, .poll, .poll, .turn, .turn,
    .turn, .poll, .poll, .poll, .poll, .poll, .push (.sendText "bye") false,
    .push (.close 1000 "") false, .poll, .poll, .poll, .poll, .poll, .poll,
    .clientSends (.close none), .poll, .poll, .poll, .turn, .turn, .turn, .poll, .poll]

theorem event_grammar_conversation :
    ∃ final, run step init conversation = some final ∧
      final.queued = [.connect, .text "hello", .disconnect 1006 ""] ∧
      InGrammar (trace step arrives init conversation) final.queued ∧
      OutGrammar final.chan.sent (trace step submits init conversation) ∧
      final.closeCalls ≤ 1 := by
  have ran : ∃ final, run step init conversation = some final ∧
      final.queued = [.connect, .text "hello", .disconnect 1006 ""] :=
    exists_of_run_any (by decide)
  rcases ran with ⟨final, ran, queued⟩
  exact ⟨final, ran, queued, event_grammar ran⟩

end Ws

end RustAsgi
