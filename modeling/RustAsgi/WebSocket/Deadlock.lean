import RustAsgi.WebSocket.Inlet

/-!
# The two buffers of a connection

While the driver awaits a put it reads no events, and an application that awaits
its `send` takes no messages. Both wait for good once both buffers are full and
each side has one item too many. Nothing but a message that the application
receives in between, or a timeout, can then keep them from it.
-/

namespace RustAsgi

open Machine Asyncio Tokio

namespace Ws

variable {s next final : Ws} {action : Action} {actions : List Action}

/-- The events of the application that the driver has not read. -/
def backlog (s : Ws) : ℕ :=
  s.chan.buffer.length + s.chan.parked.length

/-- The messages of the driver that the application has not received. -/
def unreceived (s : Ws) : ℕ :=
  s.loop.puts.length

/-- The driver is blocked in `feed_ws` on a full queue, the application in `send()` on a full
channel. -/
def Deadlocked (s : Ws) : Prop :=
  (∃ put ∈ s.loop.putters, s.stage = .connecting put.id ∨ ∃ last, s.stage = .feeding put.id last) ∧
    s.loop.full = true ∧ s.chan.parked ≠ [] ∧ s.chan.hasRoom = false

/-- The next poll of the driver hands a message to the event loop. -/
def feeds (s : Ws) : Bool :=
  match s.stage with
  | .pump .socket =>
      match s.socket.next with
      | .frame (.text _) _ | .frame (.binary _) _ | .finished => s.running
      | .frame (.close _) _ => s.appClosed && s.running
      | _ => false
  | .closing _ _ (.disconnect _ _) => !s.socket.blocked && s.running
  | _ => false

/-- The driver awaits a put. -/
def awaits (s : Ws) : Bool :=
  match s.stage with
  | .connecting _ | .feeding _ _ => true
  | _ => false

/-- The application does not get ahead of the driver and the driver ahead of the application at
once: each may exceed its buffer, but not both. -/
def paced (s : Ws) : Action → Bool
  | .push _ _ =>
      !s.awaits || decide (s.backlog < wsChannelBound ∨ s.unreceived ≤ wsQueueMaxsize)
  | .poll => !s.feeds || decide (s.backlog ≤ wsChannelBound ∨ s.unreceived < wsQueueMaxsize)
  | _ => true

def Paced (s : Ws) (action : Action) : Prop :=
  s.paced action = true

instance (s : Ws) (action : Action) : Decidable (s.Paced action) :=
  inferInstanceAs (Decidable (_ = _))

/-- The two buffers keep to their bounds. -/
structure Sized (s : Ws) : Prop where
  inlet : Inlet s
  bound : s.chan.bound = wsChannelBound
  maxsize : s.loop.maxsize = wsQueueMaxsize
  chan : s.chan.Bounded
  items : s.loop.items.length ≤ wsQueueMaxsize

/-- While the driver awaits a put, not both sides have exceeded their buffers. -/
structure Spare (s : Ws) : Prop extends Sized s where
  setup : s.stage = .setup → s.unreceived = 0
  spare : s.awaits = true → s.backlog ≤ wsChannelBound ∨ s.unreceived ≤ wsQueueMaxsize

/-- A circular wait takes more than both buffers hold. -/
theorem Spare.not_deadlocked (spare : Spare s) : ¬ Deadlocked s := by
  rintro ⟨⟨put, parked, stage⟩, full, sends, crowded⟩
  have waits : s.awaits = true := by
    rcases stage with stage | ⟨last, stage⟩ <;> simp only [awaits, stage]
  have events : wsChannelBound < s.backlog := by
    have sending := List.length_pos_iff.mpr sends
    simp only [Mpsc.hasRoom, spare.bound, decide_eq_false_iff_not] at crowded
    simp only [backlog]
    omega
  have messages : wsQueueMaxsize < s.unreceived := by
    have waiting := List.length_pos_of_mem parked
    simp only [Loop.full, spare.maxsize, decide_eq_true_eq] at full
    simp only [unreceived, Loop.puts, List.length_append]
    omega
  rcases spare.spare waits with few | few <;> omega

/-- What a poll does to the two backlogs: the driver awaits a put only when it has fed one. -/
structure Exchange (s next : Ws) : Prop where
  bound : next.chan.bound = s.chan.bound
  maxsize : next.loop.maxsize = s.loop.maxsize
  chan : s.chan.Bounded → next.chan.Bounded
  items : next.loop.items = s.loop.items
  backlog : next.backlog ≤ s.backlog
  fed : next.awaits = true → s.feeds = true ∧ next.unreceived = s.unreceived + 1

theorem Exchange.of_same (loop : next.loop = s.loop) (chan : next.chan = s.chan)
    (rests : next.awaits = false) : Exchange s next := by
  refine ⟨by rw [chan], by rw [loop], by rw [chan]; exact id, by rw [loop], ?_, by simp [rests]⟩
  simp only [Ws.backlog, chan, Nat.le_refl]

theorem Exchange.of_recv {event : WsEvent} {chan : Mpsc WsEvent} {stage : WsStage}
    (received : s.chan.recv = .item event chan)
    (rests : ({ s with chan, stage } : Ws).awaits = false) : Exchange s { s with chan, stage } := by
  have bounded : s.chan.Bounded → chan.Bounded := fun bounded => bounded.recv received
  rcases Mpsc.recv_item received with ⟨rest, buffered, rfl⟩
  refine ⟨rfl, rfl, bounded, rfl, ?_, by simp [rests]⟩
  simp only [Ws.backlog, buffered, List.length_cons]
  omega

theorem Exchange.of_dropReceiver (loop : next.loop = s.loop)
    (chan : next.chan = s.chan.dropReceiver) (rests : next.awaits = false) : Exchange s next := by
  refine ⟨by rw [chan]; rfl, by rw [loop], ?_, by rw [loop], ?_, by simp [rests]⟩
  · rw [chan]
    exact Mpsc.Bounded.dropReceiver
  simp [Ws.backlog, chan, Mpsc.dropReceiver]

theorem unreceived_enqueue (s : Ws) (message : WsInbound) :
    (s.enqueue message).unreceived = s.unreceived + 1 := by
  simp only [unreceived, enqueue, Loop.puts_submit, List.length_append, List.length_singleton]

theorem Exchange.of_feed {middle : Ws} (loop : middle.loop = s.loop) (chan : middle.chan = s.chan)
    (message : WsInbound) (last : Bool) (feeds : middle.running = true → s.feeds = true) :
    Exchange s (middle.feed message last) := by
  rcases middle.feed_cases message last with ⟨running, same⟩ | ⟨_, same⟩ <;> rw [same]
  · refine ⟨by rw [← chan]; rfl, by rw [← loop]; rfl, by rw [← chan]; exact id,
      by rw [← loop]; rfl, ?_, fun _ => ⟨feeds running, ?_⟩⟩
    · simp only [Ws.backlog, goto, enqueue, chan, Nat.le_refl]
    · change (middle.enqueue message).unreceived = _
      rw [unreceived_enqueue]
      simp only [Ws.unreceived, loop]
  · exact .of_same loop chan rfl

theorem Polled.exchange (polled : Polled s next) : Exchange s next := by
  cases polled with
  | accepted _ received | denied _ received | unexpected _ received | data _ _ received
  | appClose _ _ received | duplicate _ _ received => exact .of_recv received rfl
  | @message frame message socket stage read carries =>
      apply Exchange.of_feed
      · rfl
      · rfl
      · intro running
        cases frame <;> simp only [ClientFrame.message?, reduceCtorEq] at carries <;>
          simpa [feeds, stage, read] using running
  | echoed stage read closed =>
      apply Exchange.of_feed
      · rfl
      · rfl
      · intro running
        simpa [feeds, stage, read, closed] using running
  | vanished stage read =>
      apply Exchange.of_feed
      · rfl
      · rfl
      · intro running
        simpa [feeds, stage, read] using running
  | @closed code reason after stage unblocked =>
      cases after with
      | disconnect later why =>
          change Exchange s ((s.sendClose code reason).feed (.disconnect later why) true)
          apply Exchange.of_feed
          · rfl
          · rfl
          · intro (running : s.running = true)
            simpa [feeds, stage, unblocked] using running
      | loop | leave | denied => exact .of_same rfl rfl rfl
      | gone => exact .of_dropReceiver rfl rfl rfl
  | @fed _ last =>
      refine .of_same rfl rfl ?_
      cases last <;> rfl
  | leave =>
      refine .of_dropReceiver rfl rfl ?_
      simp only [awaits]
      cases s.appDone <;> rfl
  | finish => exact .of_dropReceiver rfl rfl rfl
  | _ => exact .of_same rfl rfl rfl

theorem feed_started (s : Ws) (message : WsInbound) (last : Bool) :
    (s.feed message last).stage ≠ .setup := by
  rcases s.feed_cases message last with ⟨_, same⟩ | ⟨_, same⟩ <;> rw [same] <;> exact nofun

theorem Polled.started (polled : Polled s next) : next.stage ≠ .setup := by
  cases polled with
  | message | echoed | vanished => exact feed_started _ _ _
  | @closed _ _ after =>
      cases after with
      | disconnect => exact feed_started _ _ _
      | loop | leave | denied | gone => exact nofun
  | @fed _ last => cases last <;> exact nofun
  | leave => simp only; split <;> exact nofun
  | _ => exact nofun

theorem Sized.step (sized : Sized s) (stepped : s.step action = some next) : Sized next := by
  have inlet := sized.inlet.step stepped
  rcases sized with ⟨_, bound, maxsize, chan, items⟩
  cases step_cases stepped with
  | poll polled =>
      have exchange := polled.exchange
      refine ⟨inlet, exchange.bound.trans bound, exchange.maxsize.trans maxsize,
        exchange.chan chan, ?_⟩
      rw [exchange.items]
      exact items
  | refused => exact ⟨inlet, bound, maxsize, chan.dropReceiver, items⟩
  | push _ _ _ _ room => exact ⟨inlet, bound, maxsize, chan.accept room, items⟩
  | park _ _ receiver => exact ⟨inlet, bound, maxsize, chan.park receiver, items⟩
  | unpark _ unparked =>
      refine ⟨inlet, ?_, maxsize, chan.unpark unparked, items⟩
      rcases Mpsc.unpark_cases unparked with ⟨_, _, _, _, rfl⟩
      exact bound
  | dropSink => exact ⟨inlet, bound, maxsize, chan.dropSenders, items⟩
  | receive got =>
      refine ⟨inlet, bound, (Loop.maxsize_get got).trans maxsize, chan, ?_⟩
      have taken := congrArg List.length (Loop.items_get got)
      rw [List.length_cons] at taken
      rw [taken] at items
      exact Nat.le_of_succ_le items
  | turn turned =>
      refine ⟨inlet, bound, (Loop.maxsize_turn turned).trans maxsize, chan, ?_⟩
      rw [← maxsize] at items
      have few := Loop.length_items_turn turned (by rw [maxsize]; decide) items
      exact few.trans_eq maxsize
  | _ => exact ⟨inlet, bound, maxsize, chan, items⟩

theorem sized_init : Sized init where
  inlet := inlet_init
  bound := rfl
  maxsize := rfl
  chan := Mpsc.bounded_new _
  items := Nat.zero_le _

theorem sized_of_run (ran : run step init actions = some final) : Sized final :=
  run_invariant_of_step Sized (fun _ _ _ sized stepped => sized.step stepped) ran sized_init

theorem backlog_unpark {index : ℕ} {chan : Mpsc WsEvent}
    (unparked : s.chan.unpark index = some chan) :
    ({ s with chan } : Ws).backlog = s.backlog := by
  rcases Mpsc.unpark_cases unparked with ⟨value, found, _, _, rfl⟩
  have member := (List.getElem?_eq_some_iff.mp found).1
  simp only [backlog, Mpsc.accept, List.length_append, List.length_singleton,
    List.length_eraseIdx_of_lt member]
  omega

theorem Spare.step (spare : Spare s) (paced : s.Paced action)
    (stepped : s.step action = some next) : Spare next := by
  have sized := spare.toSized.step stepped
  have few := spare.spare
  cases step_cases stepped with
  | poll polled =>
      have exchange := polled.exchange
      refine ⟨sized, fun setup => absurd setup polled.started, fun waits => ?_⟩
      have fewer := exchange.backlog
      rcases exchange.fed waits with ⟨feeds, more⟩
      simp only [Paced, Ws.paced, feeds, Bool.not_true, Bool.false_or, decide_eq_true_eq] at paced
      omega
  | begin stage =>
      refine ⟨sized, fun setup => ?_, fun _ => .inr ?_⟩
      · cases setup
      change (s.enqueue .connect).unreceived ≤ wsQueueMaxsize
      rw [unreceived_enqueue, spare.setup stage]
      decide
  | push | park =>
      refine ⟨sized, spare.setup, fun (waits : s.awaits = true) => ?_⟩
      simp only [Paced, Ws.paced, waits, Bool.not_true, Bool.false_or, decide_eq_true_eq] at paced
      simp only [backlog] at paced
      simp only [backlog, Mpsc.accept, Mpsc.park, List.length_append, List.length_singleton]
      refine paced.imp_left fun room => ?_
      omega
  | unpark started unparked =>
      refine ⟨sized, spare.setup, fun waits => ?_⟩
      rw [backlog_unpark unparked]
      exact few waits
  | receive got =>
      have taken := congrArg List.length (Loop.puts_get got)
      have setup := spare.setup
      simp only [List.length_cons] at taken
      simp only [unreceived] at few setup
      refine ⟨sized, ?_, ?_⟩
      · intro stage
        have nothing := setup stage
        omega
      · intro waits
        refine (few waits).imp_right fun room => ?_
        simp only [unreceived]
        omega
  | turn turned =>
      have same := spare.inlet.serial.puts_turn turned
      refine ⟨sized, ?_, ?_⟩
      · intro stage
        simpa only [unreceived, same] using spare.setup stage
      · intro waits
        refine (few waits).imp_right fun room => ?_
        simpa only [unreceived, same] using room
  | refused | stopped =>
      refine ⟨sized, ?_, ?_⟩
      · intro setup
        cases setup
      · intro waits
        cases waits
  | _ => exact ⟨sized, spare.setup, few⟩

theorem spare_init : Spare init where
  toSized := sized_init
  setup := fun _ => rfl
  spare := fun waits => by cases waits

theorem spare_of_paced (paced : Along step Paced init actions)
    (ran : run step init actions = some final) : Spare final :=
  run_invariant Spare (fun _ _ _ spare allowed stepped => spare.step allowed stepped) paced ran
    spare_init

/-- The driver awaits a put, and both sides have exceeded their buffers. -/
def Overrun (s : Ws) : Prop :=
  s.awaits = true ∧ wsChannelBound < s.backlog ∧ wsQueueMaxsize < s.unreceived

theorem fed_of_running {middle : Ws} {message : WsInbound} {last : Bool}
    (loop : middle.loop = s.loop) (chan : middle.chan = s.chan) (running : middle.running = true) :
    (middle.feed message last).awaits = true ∧ (middle.feed message last).backlog = s.backlog ∧
      (middle.feed message last).unreceived = s.unreceived + 1 := by
  rcases middle.feed_cases message last with ⟨_, same⟩ | ⟨stopped, _⟩
  · rw [same]
    refine ⟨rfl, ?_, ?_⟩
    · simp only [Ws.backlog, goto, enqueue, chan]
    · change (middle.enqueue message).unreceived = _
      rw [unreceived_enqueue]
      simp only [Ws.unreceived, loop]
  · rw [stopped] at running
    cases running

theorem Polled.fed_of_feeds (polled : Polled s next) (feeds : s.feeds = true) :
    next.awaits = true ∧ next.backlog = s.backlog ∧ next.unreceived = s.unreceived + 1 := by
  cases polled with
  | @message frame message socket stage read carries =>
      apply fed_of_running
      · rfl
      · rfl
      · cases frame <;> simp only [ClientFrame.message?, reduceCtorEq] at carries <;>
          simpa [Ws.feeds, stage, read] using feeds
  | echoed stage read closed =>
      apply fed_of_running
      · rfl
      · rfl
      · simpa [Ws.feeds, stage, read, closed] using feeds
  | vanished stage read =>
      apply fed_of_running
      · rfl
      · rfl
      · simpa [Ws.feeds, stage, read] using feeds
  | @closed code reason after stage unblocked =>
      cases after with
      | disconnect =>
          have running : s.running = true := by simpa [Ws.feeds, stage, unblocked] using feeds
          apply fed_of_running
          · rfl
          · rfl
          · exact running
      | loop | leave | denied | gone => simp [Ws.feeds, stage] at feeds
  | @onward branch _ stage unread =>
      cases branch with
      | app | rx => simp [Ws.feeds, stage] at feeds
      | socket => simp [Ws.feeds, stage, unread rfl] at feeds
  | ping stage read => simp [Ws.feeds, stage, read] at feeds
  | ignored stage read silent =>
      rcases silent with rfl | rfl <;> simp [Ws.feeds, stage, read] at feeds
  | clientClosed stage read opened => simp [Ws.feeds, stage, read, opened] at feeds
  | connected stage | unconnected stage | accepted stage | denied stage | unexpected stage
  | appFailed stage | acceptTimeout stage | appEnd stage | appReturned stage | data stage
  | appClose stage | duplicate stage | drained stage | sent stage | unsent stage | fed stage
  | unfed stage | leave stage | finish stage => simp [Ws.feeds, stage] at feeds

theorem overrun_of_unpaced (unpaced : ¬ s.Paced action) (stepped : s.step action = some next) :
    next.Overrun := by
  cases step_cases stepped with
  | poll polled =>
      simp only [Paced, Ws.paced, Bool.or_eq_true, Bool.not_eq_true', decide_eq_true_eq,
        not_or, Bool.not_eq_false] at unpaced
      rcases unpaced with ⟨feeds, most, more⟩
      rcases polled.fed_of_feeds feeds with ⟨awaits, backlog, unreceived⟩
      refine ⟨awaits, ?_, ?_⟩ <;> omega
  | push | park =>
      simp only [Paced, Ws.paced, Bool.or_eq_true, Bool.not_eq_true', decide_eq_true_eq,
        not_or, Bool.not_eq_false] at unpaced
      rcases unpaced with ⟨awaits, most, more⟩
      refine ⟨awaits, ?_, Nat.lt_of_not_le more⟩
      simp only [backlog] at most
      simp only [backlog, Mpsc.accept, Mpsc.park, List.length_append, List.length_singleton]
      omega
  | _ => exact absurd rfl unpaced

/-- The event loop and the channel do these by themselves. -/
def Inner (action : Action) : Prop :=
  action = .turn ∨ action = .unpark 0

/-- The driver and the application block each other once the event loop and the channel have done
what is due. -/
def Blocks (s : Ws) : Prop :=
  ∃ actions, (∀ action ∈ actions, Inner action) ∧
    ∃ final, run step s actions = some final ∧ final.Deadlocked

theorem exists_turns (inlet : Inlet s) (full : s.loop.full = true) :
    ∃ count loop, run step s (List.replicate count .turn) = some { s with loop } ∧
      loop.ready = [] ∧ loop.full = true ∧ loop.pending = s.loop.pending := by
  induction effort : s.loop.effort using Nat.strong_induction_on generalizing s with
  | h effort ih =>
      subst effort
      by_cases idle : s.loop.ready = []
      · exact ⟨0, s.loop, rfl, idle, full, rfl⟩
      · rcases inlet.serial.turn_of_full full idle with ⟨loop, turned, items, less⟩
        have stepped : s.step .turn = some { s with loop } := by
          simp only [step, turned, Option.map_some]
        have stays : loop.full = true := by
          simpa only [Loop.full, items, Loop.maxsize_turn turned] using full
        have pending : loop.pending = s.loop.pending := by
          have puts := inlet.serial.puts_turn turned
          rw [Loop.puts_eq, Loop.puts_eq, items] at puts
          exact List.append_cancel_left puts
        rcases ih loop.effort less (inlet.step stepped) stays rfl with
          ⟨count, later, ran, done, crowded, same⟩
        refine ⟨count + 1, later, ?_, done, crowded, same.trans pending⟩
        rw [List.replicate_succ, run_cons_eq_some]
        exact ⟨_, stepped, ran⟩

theorem exists_unparks (started : s.stage ≠ .setup) (bounded : s.chan.Bounded)
    (many : s.chan.bound < s.backlog) :
    ∃ count chan, run step s (List.replicate count (.unpark 0)) = some { s with chan } ∧
      chan.parked ≠ [] ∧ chan.hasRoom = false := by
  induction free : s.chan.bound - s.chan.buffer.length generalizing s with
  | zero =>
      have few := bounded.buffered
      refine ⟨0, s.chan, rfl, ?_, ?_⟩
      · intro nobody
        simp only [backlog, nobody, List.length_nil] at many
        omega
      · simp only [Mpsc.hasRoom, decide_eq_false_iff_not]
        omega
  | succ less ih =>
      have room : s.chan.hasRoom = true := by
        simp only [Mpsc.hasRoom, decide_eq_true_eq]
        omega
      have waits : s.chan.parked ≠ [] := by
        intro nobody
        simp only [backlog, nobody, List.length_nil] at many
        omega
      rcases bounded.unpark_oldest room waits with ⟨chan, unparked, bound, buffer, parked⟩
      have stepped : s.step (.unpark 0) = some { s with chan } := by
        simp only [step, started, if_false, unparked, Option.map_some]
      have more : chan.bound < ({ s with chan } : Ws).backlog := by
        rw [backlog_unpark unparked, bound]
        exact many
      have left : chan.bound - chan.buffer.length = less := by omega
      rcases @ih { s with chan } started (bounded.unpark unparked) more left with
        ⟨count, later, ran, sends, crowded⟩
      refine ⟨count + 1, later, ?_, sends, crowded⟩
      rw [List.replicate_succ, run_cons_eq_some]
      exact ⟨_, stepped, ran⟩

theorem Sized.full_of_overrun (sized : Sized s) (overrun : s.Overrun) :
    s.loop.full = true ∧ s.loop.pending ≠ [] := by
  have messages := overrun.2.2
  have single := sized.inlet.serial.single
  have items := sized.items
  simp only [unreceived, Loop.puts_eq, List.length_append] at messages
  constructor
  · simp only [Loop.full, sized.maxsize, decide_eq_true_eq]
    refine ⟨by decide, ?_⟩
    omega
  · intro nothing
    simp only [nothing, List.length_nil] at messages
    omega

/-- The put that the driver awaits is the one under way. -/
theorem Inlet.stage_of_awaits (inlet : Inlet s) (awaits : s.awaits = true) {put : Put WsInbound}
    (under : put ∈ s.loop.pending) :
    s.stage = .connecting put.id ∨ ∃ last, s.stage = .feeding put.id last := by
  have last := inlet.serial.last put under
  have awaited := inlet.awaited
  cases stage : s.stage with
  | connecting id =>
      simp only [Awaited, stage] at awaited
      left
      congr 1
      omega
  | feeding id done =>
      simp only [Awaited, stage] at awaited
      right
      refine ⟨done, ?_⟩
      congr 1
      omega
  | _ => simp [Ws.awaits, stage] at awaits

theorem Sized.blocks (sized : Sized s) (overrun : s.Overrun) : s.Blocks := by
  rcases sized.full_of_overrun overrun with ⟨full, under⟩
  rcases exists_turns sized.inlet full with ⟨turns, loop, turned, idle, crowded, pending⟩
  have started : s.stage ≠ .setup := by
    intro setup
    simp [Overrun, Ws.awaits, setup] at overrun
  have many : s.chan.bound < s.backlog := sized.bound ▸ overrun.2.1
  rcases @exists_unparks { s with loop } started sized.chan many with
    ⟨unparks, chan, unparked, sends, noRoom⟩
  refine ⟨List.replicate turns .turn ++ List.replicate unparks (.unpark 0), ?_,
    { s with loop, chan }, ?_, ?_, crowded, sends, noRoom⟩
  · intro action member
    rcases List.mem_append.mp member with turn | unpark
    · exact .inl (List.eq_of_mem_replicate turn)
    · exact .inr (List.eq_of_mem_replicate unpark)
  · rw [run_append, turned]
    exact unparked
  · have putters : loop.pending = loop.putters := by
      simp [Loop.pending, Loop.woken, Loop.fresh, idle]
    rcases List.exists_mem_of_ne_nil _ under with ⟨put, member⟩
    refine ⟨put, ?_, sized.inlet.stage_of_awaits overrun.1 member⟩
    rw [← putters, pending]
    exact member

/-- A step that is not paced leaves the two sides to block each other, in any run. -/
theorem blocks_of_unpaced (ran : run step init actions = some s) (unpaced : ¬ s.Paced action)
    (stepped : s.step action = some next) : next.Blocks :=
  ((sized_of_run ran).step stepped).blocks (overrun_of_unpaced unpaced stepped)

theorem not_blocks_of_paced (paced : Along step Paced init actions)
    (ran : run step init actions = some final) : ¬ final.Blocks := by
  rintro ⟨inner, byThemselves, blocked, ranInner, deadlocked⟩
  have still : Along step Paced final inner := by
    apply along_of_forall
    intro action member s
    rcases byThemselves action member with rfl | rfl <;> rfl
  have ranOn : run step init (actions ++ inner) = some blocked := by
    rw [run_append, ran]
    exact ranInner
  have spare : Spare blocked := spare_of_paced (along_append paced ran still) ranOn
  exact spare.not_deadlocked deadlocked

/-- As long as the driver never awaits a put with more than 16 events unread and more than 64
messages not received, the two sides do not block each other. -/
theorem not_deadlocked_of_paced (paced : Along step Paced init actions)
    (ran : run step init actions = some final) : ¬ final.Deadlocked := by
  have spare : Spare final := spare_of_paced paced ran
  exact spare.not_deadlocked

section Conversation

/-- The pump waits for something to do, and the queue has room. -/
structure Waits (s : Ws) : Prop where
  stage : s.stage = .pump .app
  app : s.app = .running
  fresh : s.appDone = false
  attached : s.appClosed = false
  quiet : s.chan.recv = .pending
  drained : s.socket.inbound = []
  going : s.socket.ended = false
  running : s.running = true
  idle : s.loop.ready = []
  room : s.loop.full = false
  unreported : s.loop.outcome? s.nextId = none

def textPut (id : ℕ) (text : String) : Put WsInbound :=
  { id, item := .text text, nowait := false }

/-- A message of the client gets to the queue. -/
def textRound (text : String) : List Action :=
  [.clientSends (.text text)] ++ [.poll, .poll, .poll] ++ [.turn, .turn, .turn] ++ [.poll]

theorem run_turns {loop : Loop WsInbound} {put : Put WsInbound}
    (under : s.loop = loop.submit put) (idle : loop.ready = []) (room : loop.full = false) :
    run step s [.turn, .turn, .turn] = some { s with loop := loop.taken put } := by
  rcases Loop.turns_submit put idle room with ⟨started, reporting, first, second, third⟩
  simp [run, step, under, first, second, third]

theorem Waits.run_round (waits : s.Waits) (text : String) :
    run step s (textRound text) = some { s with
      loop := s.loop.taken (textPut s.nextId text)
      nextId := s.nextId + 1
      putTimer := false
      submitted := s.submitted ++ [.text text] } := by
  let heard : Ws := { s with socket := { s.socket with inbound := [.text text] } }
  let submitted : Ws := { s with
    stage := .feeding s.nextId false
    loop := s.loop.submit (textPut s.nextId text)
    nextId := s.nextId + 1
    putTimer := false
    submitted := s.submitted ++ [.text text] }
  let taken : Ws := { submitted with loop := s.loop.taken (textPut s.nextId text) }
  have sends : run step s [.clientSends (.text text)] = some heard := by
    simp [run, step, waits.going, waits.drained, heard]
  have submits : run step heard [.poll, .poll, .poll] = some submitted := by
    have read : heard.socket.next = .frame (.text text) s.socket := by
      simp only [Socket.next, heard, ← waits.drained]
    simp [run, step, poll, pumpApp, pumpRx, pumpSocket, goto, feed, feedWs, heard, waits.stage,
      waits.app, waits.fresh, waits.attached, waits.quiet, waits.running, read, textPut, submitted]
  have takes : run step submitted [.turn, .turn, .turn] = some taken :=
    run_turns rfl waits.idle waits.room
  have finishes : run step taken [.poll] = some { taken with stage := .pump .app } := by
    have reported : taken.loop.outcome? s.nextId = some true :=
      Loop.outcome?_taken waits.unreported
    simp [run, step, poll, putSucceeded, goto, reported, taken, submitted]
  rw [textRound, run_append, run_append, run_append, sends, Option.bind_some, submits,
    Option.bind_some, takes, Option.bind_some, finishes, ← waits.stage]

/-- The application accepts, and `messages` messages of the client are put on its queue. -/
def fedRun (messages : ℕ) : List Action :=
  [.setup true, .turn, .turn, .turn, .poll, .push .accept false, .poll, .receive] ++
    (List.replicate messages (textRound "more")).flatten

/-- What that leads to. -/
def fed (messages : ℕ) : Ws :=
  { init with
    stage := .pump .app
    chan := { Mpsc.new wsChannelBound with sent := [.accept], received := [.accept] }
    loop := { Loop.empty wsQueueMaxsize with
      items := (List.range messages).map fun index => textPut (index + 1) "more"
      reported := (0, true) :: (List.range messages).map fun index => (index + 1, true) }
    nextId := messages + 1
    submitted := .connect :: List.replicate messages (.text "more")
    received := [.connect] }

theorem run_fedRun {messages : ℕ} (few : messages ≤ wsQueueMaxsize) :
    run step init (fedRun messages) = some (fed messages) := by
  have accepted : run step init [.setup true, .turn, .turn, .turn, .poll, .push .accept false,
      .poll, .receive] = some (fed 0) := rfl
  rw [fedRun, run_append, accepted, Option.bind_some]
  refine run_rounds fed fun index before => ?_
  have waits : (fed index).Waits := by
    refine ⟨rfl, rfl, rfl, rfl, rfl, rfl, rfl, rfl, rfl, ?_, ?_⟩
    · simp [Loop.full, fed, Loop.empty]
      omega
    · simp [Loop.outcome?, fed]
      omega
  rw [waits.run_round]
  simp [fed, init, Loop.taken, textPut, List.range_succ, List.replicate_succ']

/-- The client sends a message more than the queue holds, and the driver takes it. -/
def blockedRun : List Action :=
  fedRun 64 ++ [.clientSends (.text "more"), .poll, .poll, .poll, .turn, .turn]

theorem not_deadlocked_of_paced_fed :
    ∃ final, run step init (fedRun 2 ++ List.replicate 16 (.push (.sendText "reply") false)) =
        some final ∧ ¬ final.Deadlocked := by
  have ran : ∃ final, run step init
      (fedRun 2 ++ List.replicate 16 (.push (.sendText "reply") false)) = some final ∧ True :=
    exists_of_run_any (by decide)
  rcases ran with ⟨final, ran, _⟩
  exact ⟨final, ran, not_deadlocked_of_paced (by decide) ran⟩

/-- The application answers seventeen times before it receives again. -/
theorem deadlocked_of_replies :
    ∃ final, run step init (blockedRun ++ List.replicate 16 (.push (.sendText "reply") false) ++
        [.push (.sendText "reply") true]) = some final ∧ final.Deadlocked := by
  have ran : ∃ final, run step init (blockedRun ++
      List.replicate 16 (.push (.sendText "reply") false) ++ [.push (.sendText "reply") true]) =
        some final ∧
      (final.stage = .feeding 65 false ∧ final.loop.putters.map Put.id = [65] ∧
        final.loop.full = true ∧ final.chan.parked ≠ [] ∧ final.chan.hasRoom = false) := by
    simp only [blockedRun, List.append_assoc]
    have few : 64 ≤ wsQueueMaxsize := Nat.le_refl _
    rw [run_append, run_fedRun few, Option.bind_some]
    exact exists_of_run_any (by decide +kernel)
  rcases ran with ⟨final, ran, stage, parked, full, sends, crowded⟩
  refine ⟨final, ran, ?_, full, sends, crowded⟩
  rcases List.map_eq_singleton_iff.mp parked with ⟨put, putters, id⟩
  refine ⟨put, by simp [putters], .inr ⟨false, ?_⟩⟩
  rw [stage, id]

end Conversation

end Ws

end RustAsgi
