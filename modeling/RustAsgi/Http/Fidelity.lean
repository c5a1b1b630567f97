import Mathlib.Data.List.Dedup
import RustAsgi.Http.Finish
import RustAsgi.Http.Response

/-!
# Response fidelity

What the events of an application come to at its client: the status of the start event,
and the data of the body events. Nothing of it is lost on the way, and as long as the
client reads and no deadline passes the handler's own polls bring all of it there, and
then the end of the body.
-/

namespace RustAsgi

open Machine Tokio ResponseEvent

/-- The handler's polls, the sends that wait for room and a client that reads. -/
def Action.delivers : Action → Bool
  | .poll | .unpark _ | .takeChunk => true
  | _ => false

namespace Wire

open Http

variable {request : Request} {w next : Wire} {action : Action} {events : List ResponseEvent}
  {senders : Bool}

/-- The builder accepts the headers of the start event. -/
def Builds (request : Request) (w : Wire) : Prop :=
  ∀ status headers rest, w.chan.sent ++ w.chan.parked = .start status headers :: rest →
    request.crate.builds (headers.filter request.crate.validHeader) = true

/-- Somebody takes the chunks of the response, or will take them once it starts; a response to
`HEAD` has none. -/
def Taken (request : Request) (w : Wire) : Prop :=
  request.isHead = true ∨
    if w.stage.inPhaseA then Builds request w else w.receiver = true

/-- A response on its way with no deadline passed, of an application that sends no more than these
events. -/
structure Carries (request : Request) (events : List ResponseEvent) (senders : Bool) (w : Wire) :
    Prop where
  delivers : Delivers request w
  events : w.chan.sent ++ w.chan.parked = events
  senders : w.chan.senders = senders
  connected : w.disconnected = false
  inTime : w.appTimer = false
  taken : Taken request w
  going : w.stage ≠ .done

theorem Taken.mono (taken : Taken request w)
    (kept : next.chan.sent ++ next.chan.parked = w.chan.sent ++ w.chan.parked)
    (receiver : next.receiver = w.receiver) (phase : next.stage.inPhaseA = w.stage.inPhaseA) :
    Taken request next := by
  simp only [Taken, Builds, kept, receiver, phase]
  exact taken

/-- What the sends, the sink and the client are told by keeps a response on its way. -/
theorem Carries.goto (carries : Carries request events senders w) (delivers : Delivers request next)
    (kept : next.chan.sent ++ next.chan.parked = w.chan.sent ++ w.chan.parked)
    (sink : next.chan.senders = w.chan.senders) (gone : next.disconnected = w.disconnected)
    (timer : next.appTimer = w.appTimer) (taken : Taken request next)
    (going : next.stage ≠ .done) : Carries request events senders next where
  delivers := delivers
  events := kept.trans carries.events
  senders := sink.trans carries.senders
  connected := gone.trans carries.connected
  inTime := timer.trans carries.inTime
  taken := taken
  going := going

/-- Once the response has started, its client stays as it is. -/
theorem Carries.onward (carries : Carries request events senders w)
    (answered : w.stage.inPhaseA = false) (delivers : Delivers request next)
    (kept : next.chan.sent ++ next.chan.parked = w.chan.sent ++ w.chan.parked)
    (sink : next.chan.senders = w.chan.senders) (gone : next.disconnected = w.disconnected)
    (timer : next.appTimer = w.appTimer) (receiver : next.receiver = w.receiver)
    (still : next.stage.inPhaseA = false) (going : next.stage ≠ .done) :
    Carries request events senders next :=
  carries.goto delivers kept sink gone timer
    (carries.taken.mono kept receiver (still.trans answered.symm)) going

/-- A parked send enters the channel behind everything that was sent before it. -/
theorem unpark_kept (delivers : Delivers request w) {index : ℕ} {chan : Mpsc ResponseEvent}
    (unparked : w.chan.unpark index = some chan) :
    chan.sent ++ chan.parked = w.chan.sent ++ w.chan.parked ∧ chan.senders = w.chan.senders := by
  rcases Mpsc.unpark_cases unparked with ⟨value, found, _, _, rfl⟩
  rcases delivers.unparked found with ⟨only, empty⟩
  refine ⟨?_, rfl⟩
  simp only [Mpsc.accept]
  rw [empty, only, List.append_nil]

/-- The channel is read with the sends kept. -/
theorem recv_kept {event : ResponseEvent} {chan : Mpsc ResponseEvent}
    (received : w.chan.recv = .item event chan) :
    chan.sent ++ chan.parked = w.chan.sent ++ w.chan.parked ∧ chan.senders = w.chan.senders := by
  rcases received_recv received with ⟨_, sent, parked, same, _⟩
  rw [sent, parked]
  exact ⟨rfl, same⟩

/-- The polls, the sends and the client that reads keep a response on its way. -/
theorem Carries.step (carries : Carries request events senders w) (begun : events ≠ [])
    (own : action.delivers = true) (before : w.stage ≠ .observing)
    (stepped : Step request w action next) : Carries request events senders next := by
  have atStage := carries.delivers.atStage
  have later : Delivers request next := by
    apply carries.delivers.step _ stepped
    cases action <;> first | rfl | cases own
  cases stepped with
  | silent => exact carries
  | established | refused | push | park | dropSink | startDeadline | appDeadline | dropBody
  | dropService => cases own
  | unpark unparked =>
      rcases unpark_kept carries.delivers unparked with ⟨kept, sink⟩
      exact carries.goto later kept sink rfl rfl (carries.taken.mono kept rfl rfl)
        carries.going
  | phaseA branch stage =>
      exact carries.goto later rfl rfl rfl rfl (carries.taken.mono rfl rfl (by rw [stage]; rfl))
        (by simp)
  | @start status headers chan stage received =>
      rcases recv_kept received with ⟨kept, sink⟩
      apply carries.goto later kept sink rfl rfl _ (by simp)
      refine carries.taken.imp_right fun builds => ?_
      rw [stage] at builds
      rcases Mpsc.recv_item received with ⟨rest, buffered, _⟩
      refine builds status headers (rest ++ w.chan.parked) ?_
      simp only [AtStage, stage] at atStage
      rw [show w.chan.sent = _ from carries.delivers.fifo, atStage.1.1, buffered]
      rfl
  | early waiting stage received =>
      simp only [AtStage, stage] at atStage
      cases carries.delivers.first atStage.1.1 received
  | neverStarted stage received =>
      simp only [AtStage, stage] at atStage
      rcases Mpsc.recv_closed.mp received with ⟨drained, gone⟩
      refine absurd ?_ begun
      rw [← carries.events, show w.chan.sent = _ from carries.delivers.fifo, atStage.1.1, drained,
        (Mpsc.sendersGone_iff.mp gone).2]
      rfl
  | startTimeout stage fired =>
      rw [carries.delivers.timer] at fired
      cases fired
  | rejected stage => simp only [AtStage, stage] at atStage
  | responder branch stage =>
      exact carries.onward (by rw [stage]; rfl) later rfl rfl rfl rfl rfl rfl (by simp)
  | duplicate stage received | take stage received =>
      rcases recv_kept received with ⟨kept, sink⟩
      exact carries.onward (by rw [stage]; rfl) later kept sink rfl rfl rfl rfl (by simp)
  | @skip data moreBody chan stage received =>
      rcases recv_kept received with ⟨kept, sink⟩
      apply carries.onward (by rw [stage]; rfl) later kept sink rfl rfl rfl <;>
        cases moreBody <;> simp [afterBody, Stage.inPhaseA]
  | closed stage =>
      exact carries.onward (by rw [stage]; rfl) later rfl rfl rfl rfl rfl rfl (by simp)
  | appTimeout stage fired =>
      rw [carries.inTime] at fired
      cases fired
  | @hand data moreBody stage =>
      apply carries.onward (by rw [stage]; rfl) later rfl rfl rfl rfl rfl <;>
        cases moreBody <;> simp [afterBody, Stage.inPhaseA]
  | gone waiting stage receiver =>
      simp only [AtStage, stage] at atStage
      rcases carries.taken with head | reads
      · rw [atStage.2.2.1] at head
        cases head
      · rw [stage, receiver] at reads
        cases reads
  | told stage =>
      simp only [AtStage, stage] at atStage
      rw [carries.connected] at atStage
      cases atStage.2.2.1
  | close stage =>
      exact carries.onward (by rw [stage]; rfl) later rfl rfl rfl rfl rfl rfl (by simp)
  | observe stage => exact absurd stage before

end Wire

namespace Stage

/-- The `select!` has looked at its channel in this pass. -/
def inPass : Stage → Bool
  | .phaseA .rx | .responder .rx => false
  | .phaseA _ | .responder _ => true
  | _ => false

end Stage

namespace Http

variable {request : Request} {s next : Http} {events : List ResponseEvent} {senders : Bool}
  {actions : List Action}

/-- The measure that lowers until a response is with its client. -/
def undelivered (s : Http) : ℕ :=
  s.ahead + 4 * s.stage.inPass.toNat + 41 * s.chan.parked.length

/-- There is something to read where the channel is looked at next. -/
def Busy (s : Http) : Prop :=
  s.stage = .phaseA .rx ∨ s.stage = .responder .rx → s.chan.recv ≠ .pending

/-- A pass begins with a look at the channel, and goes on only where that is empty. -/
theorem inPass_poll (busy : s.Busy) (polled : Polled request s next) :
    next.stage.inPass.toNat ≤ s.stage.inPass.toNat := by
  cases pass : s.stage.inPass with
  | true => exact Bool.toNat_le _
  | false =>
      suffices out : next.stage.inPass = false by rw [out]
      cases polled with
      | unstarted stage received => exact absurd received (busy (.inl stage))
      | unsent stage received => exact absurd received (busy (.inr stage))
      | phaseAApp stage | phaseAFeed stage | phaseAAgain stage | responderApp stage
      | responderFeed stage | responderAgain stage | appTimeout stage | startTimeout stage =>
          rw [stage] at pass
          cases pass
      | @suppressed data moreBody | @empty moreBody | @hand data moreBody =>
          cases moreBody <;> rfl
      | _ => rfl

theorem parked_poll (polled : Polled request s next) :
    next.chan.parked.length ≤ s.chan.parked.length := by
  have wired := poll_wire polled
  change next.wire.chan.parked.length ≤ s.wire.chan.parked.length
  generalize s.wire = wire at wired
  generalize next.wire = later at wired
  have read {event : ResponseEvent} {chan : Mpsc ResponseEvent}
      (received : wire.chan.recv = .item event chan) :
      chan.parked.length ≤ wire.chan.parked.length := by
    rw [(Wire.received_recv received).2.2.1]
  cases wired with
  | neverStarted | startTimeout | rejected | observe => exact Nat.zero_le _
  | start _ received | early _ _ received | duplicate _ received | skip _ received
  | take _ received => exact read received
  | silent | phaseA | responder | closed | appTimeout | hand | gone | told | close =>
      exact Nat.le_refl _

theorem undelivered_poll (busy : s.Busy) (polled : Polled request s next) :
    next.stage = .done ∨ next.undelivered < s.undelivered := by
  have pass := inPass_poll busy polled
  have parked := parked_poll polled
  rcases ahead_poll polled with done | lower | ⟨stage, _, rfl⟩ | ⟨stage, _, rfl⟩
  · exact .inl done
  · right
    simp only [undelivered]
    omega
  · right
    simp only [undelivered, ahead, stage, Stage.ahead, Branch.ahead, Stage.inPass,
      Bool.toNat_true, Bool.toNat_false]
    omega
  · right
    simp only [undelivered, ahead, stage, Stage.ahead, Branch.ahead, Stage.inPass,
      Bool.toNat_true, Bool.toNat_false]
    omega

/-- A send that waits for room gets it where the channel is empty. -/
theorem exists_unpark (roomy : s.Roomy) (empty : s.chan.buffer = [])
    (waiting : s.chan.parked ≠ []) :
    ∃ next, s.step request (.unpark 0) = some next ∧ next.undelivered < s.undelivered := by
  cases parked : s.chan.parked with
  | nil => exact absurd parked waiting
  | cons event rest =>
      have room : s.chan.hasRoom = true := by
        simp [Mpsc.hasRoom, empty, roomy.bound, responseChannelBound]
      have receiver := roomy.bounded.attended waiting
      have unparked : s.chan.unpark 0 =
          some (({ s.chan with parked := rest } : Mpsc ResponseEvent).accept event) := by
        simp [Mpsc.unpark, parked, room, receiver]
      refine ⟨_, congrArg (Option.map _) unparked, ?_⟩
      simp only [undelivered, ahead, Mpsc.accept, parked, List.length_append, List.length_cons,
        List.length_nil]
      omega

/-- The response is with its client as far as the application has gone on with it. -/
def AtRest (s : Http) : Prop :=
  s.stage = .observing ∨ (∃ branch, s.stage = .responder branch) ∧ s.chan.buffer = [] ∧
    s.chan.parked = [] ∧ s.chan.senders = true

theorem exists_poll {branch : Branch}
    (stage : s.stage = .phaseA branch ∨ s.stage = .responder branch) :
    ∃ next, s.poll request = some next := by
  rcases stage with stage | stage <;> simp only [poll, stage] <;> cases branch <;>
    first | exact ⟨_, rfl⟩ | (simp only; split <;> exact ⟨_, rfl⟩)

/-- A response that is not at rest comes closer to its client. -/
theorem exists_closer (roomy : s.Roomy) (carries : s.wire.Carries request events senders)
    (begun : events ≠ []) (moves : ¬ s.AtRest) :
    ∃ action next, action.delivers = true ∧ s.step request action = some next ∧
      (next.stage = .done ∨ next.undelivered < s.undelivered) := by
  have atStage := carries.delivers.atStage
  have poll (busy : s.Busy) (polls : ∃ next, s.poll request = some next) :
      ∃ action next, action.delivers = true ∧ s.step request action = some next ∧
        (next.stage = .done ∨ next.undelivered < s.undelivered) := by
    rcases polls with ⟨next, polled⟩
    exact ⟨.poll, next, rfl, polled, undelivered_poll busy (poll_cases polled)⟩
  have unpark (empty : s.chan.buffer = []) (waiting : s.chan.parked ≠ []) :
      ∃ action next, action.delivers = true ∧ s.step request action = some next ∧
        (next.stage = .done ∨ next.undelivered < s.undelivered) := by
    rcases exists_unpark roomy empty waiting with ⟨next, stepped, lower⟩
    exact ⟨.unpark 0, next, rfl, stepped, .inr lower⟩
  have fifo : s.chan.sent = s.chan.received ++ s.chan.buffer := carries.delivers.fifo
  have all : s.chan.sent ++ s.chan.parked = events := carries.events
  have busy (readable : s.chan.buffer ≠ []) : s.Busy := by
    intro _ pending
    exact readable (Mpsc.recv_pending.mp pending).1
  cases stage : s.stage with
  | establish =>
      simp only [Wire.AtStage, show s.wire.stage = _ from stage] at atStage
      refine absurd ?_ begun
      rw [← all, show s.chan.sent = _ from atStage.2.1, show s.chan.parked = _ from atStage.2.2]
      rfl
  | rejected waiting => simp only [Wire.AtStage, show s.wire.stage = _ from stage] at atStage
  | clientGone waiting =>
      simp only [Wire.AtStage, show s.wire.stage = _ from stage, carries.connected] at atStage
      cases atStage.2.2.1
  | done => exact absurd stage carries.going
  | observing => exact absurd (.inl stage) moves
  | closing =>
      exact poll (by simp [Busy, stage]) ⟨s.close, by simp only [Http.poll, stage]⟩
  | sendData data moreBody =>
      simp only [Wire.AtStage, show s.wire.stage = _ from stage] at atStage
      have receiver : s.body.receiver = true := by
        rcases carries.taken with head | reads
        · rw [atStage.2.2.1] at head
          cases head
        · rw [show s.wire.stage = _ from stage] at reads
          exact reads
      by_cases room : s.body.queue.length < responseChannelBound
      · apply poll (by simp [Busy, stage])
        simp only [Http.poll, stage, sendData, receiver, room, if_true]
        exact ⟨_, rfl⟩
      · cases queued : s.body.queue with
        | nil => simp [queued, responseChannelBound] at room
        | cons chunk rest =>
            refine ⟨.takeChunk, { s with body := { s.body with queue := rest } }, rfl, ?_, .inr ?_⟩
            · simp only [step, queued]
            · simp only [undelivered, ahead, queued, List.length_cons]
              omega
  | phaseA branch =>
      simp only [Wire.AtStage, show s.wire.stage = _ from stage] at atStage
      have unread : s.chan.received = [] := atStage.1.1
      by_cases empty : s.chan.buffer = []
      · apply unpark empty
        intro nobody
        rw [← all, fifo, unread, empty, nobody] at begun
        exact begun rfl
      · exact poll (busy empty) (exists_poll (.inl stage))
  | responder branch =>
      have polls := @exists_poll request s branch (.inr stage)
      by_cases empty : s.chan.buffer = []
      · by_cases nobody : s.chan.parked = []
        · have gone : s.chan.senders = false := by
            rw [Bool.eq_false_iff]
            intro sink
            exact moves (.inr ⟨⟨branch, stage⟩, empty, nobody, sink⟩)
          apply poll _ polls
          intro _ pending
          simp [Mpsc.recv, empty, Mpsc.sendersGone, gone, nobody] at pending
        · exact unpark empty nobody
      · exact poll (busy empty) polls

/-- The handler's polls, the sends that wait and a client that reads bring a response to rest. -/
theorem comes_to_rest (roomy : s.Roomy) (carries : s.wire.Carries request events senders)
    (begun : events ≠ []) :
    ∃ more final, (∀ action ∈ more, action.delivers = true) ∧
      run (step request) s more = some final ∧
      (final.Roomy ∧ final.wire.Carries request events senders) ∧ final.AtRest := by
  apply exists_run_until
    (fun current => current.Roomy ∧ current.wire.Carries request events senders) AtRest undelivered
    _ ⟨roomy, carries⟩
  rintro current ⟨roomy, carries⟩ moves
  rcases exists_closer roomy carries begun moves with ⟨action, next, own, stepped, closer⟩
  have before : current.wire.stage ≠ .observing := fun stage => moves (.inl stage)
  have later := carries.step begun own before (step_wire stepped)
  have going : next.stage ≠ .done := later.going
  exact ⟨action, next, own, stepped, ⟨roomy.step stepped, later⟩, .inr (closer.resolve_left going)⟩

/-- At rest, the client has the response to all that was sent, and its end if there is one. -/
theorem AtRest.delivered (rest : s.AtRest) (carries : s.wire.Carries request events senders)
    {status : ℕ} {headers : List Header} {later : List ResponseEvent}
    (start : events = .start status headers :: later) :
    s.response = some (buildResponse request.crate status headers) ∧
      s.body.handed = request.expected events ∧
      (senders = false ∨ (∃ event ∈ events, event.isFinal = true) → s.body.ending ≠ none) := by
  have atStage := carries.delivers.atStage
  have fifo : s.chan.sent = s.chan.received ++ s.chan.buffer := carries.delivers.fifo
  have all : s.chan.sent ++ s.chan.parked = events := carries.events
  have response (started : Wire.Started request s.wire) :
      s.response = some (buildResponse request.crate status headers) := by
    rcases started with ⟨first, firstHeaders, others, received, built⟩
    rw [fifo, show s.chan.received = _ from received, start] at all
    simp only [List.cons_append, List.cons.injEq, ResponseEvent.start.injEq] at all
    rcases all.1 with ⟨rfl, rfl⟩
    exact built
  rcases rest with stage | ⟨⟨branch, stage⟩, empty, nobody, sink⟩
  · simp only [Wire.AtStage, show s.wire.stage = _ from stage] at atStage
    refine ⟨response atStage.1, ?_, fun _ => atStage.2.2⟩
    rw [← carries.events]
    exact atStage.2.1.handed_eq carries.delivers.fifo carries.connected carries.inTime
  · simp only [Wire.AtStage, show s.wire.stage = _ from stage] at atStage
    rcases atStage with ⟨started, _, opened, handed⟩
    have read : s.chan.received = events := by
      rw [← all, fifo, empty, nobody, List.append_nil, List.append_nil]
    refine ⟨response started, read ▸ handed, ?_⟩
    rintro (gone | ⟨event, member, isFinal⟩)
    · rw [← carries.senders, show s.wire.chan.senders = _ from sink] at gone
      cases gone
    · rw [opened event (show event ∈ s.chan.received from read ▸ member)] at isFinal
      cases isFinal

/-- The application awaits each `send()` before the next, and starts with the start event;
the deadline for that event does not pass. -/
def Awaited (s : Http) (action : Action) : Prop :=
  s.wire.awaited action = true

instance (s : Http) (action : Action) : Decidable (s.Awaited action) :=
  inferInstanceAs (Decidable (_ = _))

/-- What the client has of the response to these events, and what it comes to have. -/
structure Faithful (request : Request) (s : Http) : Prop where
  /-- The response has the status of the start event unless the builder refuses the headers. -/
  status : ∀ status headers rest head, s.chan.sent = .start status headers :: rest →
    s.response = some head → head.status =
      if request.crate.builds (headers.filter request.crate.validHeader) then status else 500
  /-- Nothing but the data of the body events is handed over, in order. -/
  ordered : s.body.handed <+: request.expected s.chan.sent
  /-- While the client is there, what was sent has been handed over, is in the responder's hand or
  is in the channel. -/
  accounted : s.disconnected = false → s.chan.sent = s.chan.received ++ s.chan.buffer ∧
    s.body.handed ++ s.stage.inHand = request.expected s.chan.received
  /-- A body that has ended in time is the whole of it. -/
  whole : s.body.ending ≠ none → s.disconnected = false → s.appTimer = false →
    s.body.handed = request.expected (s.chan.sent ++ s.chan.parked)
  /-- Whatever the handler is at, its polls bring the status and all of the data to a client that
  reads, and the end of the body once the application has sent or left it. -/
  arrives : ∀ status headers rest, s.chan.sent ++ s.chan.parked = .start status headers :: rest →
    s.stage ≠ .done → s.disconnected = false → s.appTimer = false → s.wire.Taken request →
    ∃ more final, (∀ action ∈ more, action.delivers = true) ∧
      run (step request) s more = some final ∧
      final.response.map ResponseHead.status = some
        (if request.crate.builds (headers.filter request.crate.validHeader) then status else 500) ∧
      final.body.handed = request.expected (s.chan.sent ++ s.chan.parked) ∧
      (s.chan.senders = false ∨
          (∃ event ∈ s.chan.sent ++ s.chan.parked, event.isFinal = true) →
        final.body.ending ≠ none)

/-- The response of an application that awaits its sends is faithful in every state. -/
theorem response_fidelity (body : Incoming)
    (awaited : Along (step request) Awaited (init request body) actions)
    (ran : run (step request) (init request body) actions = some s) : s.Faithful request := by
  have delivers : Wire.Delivers request s.wire :=
    run_invariant (fun current : Http => Wire.Delivers request current.wire)
      (fun _ _ _ delivers awaited stepped => delivers.step awaited (step_wire stepped))
      awaited ran (Wire.delivers_init request body)
  have roomy : s.Roomy := by
    apply run_invariant_of_step Roomy _ ran (roomy_init request body)
    intro current action next roomy stepped
    exact roomy.step stepped
  refine ⟨?_, delivers.handed_prefix, fun connected => ⟨delivers.fifo, delivers.accounts connected⟩,
    delivers.handed_eq, ?_⟩
  · intro status headers rest head sent response
    rw [delivers.response_eq sent response]
    apply delivers.status_eq
    rw [show s.wire.chan.sent = _ from sent]
    exact List.mem_cons_self
  · intro status headers rest sends going connected inTime taken
    have carries : s.wire.Carries request (s.chan.sent ++ s.chan.parked) s.chan.senders :=
      ⟨delivers, rfl, rfl, connected, inTime, taken, going⟩
    rcases comes_to_rest roomy carries (by simp [sends]) with
      ⟨more, final, own, ran, ⟨_, later⟩, atRest⟩
    rcases atRest.delivered later sends with ⟨response, handed, ended⟩
    refine ⟨more, final, own, ran, ?_, handed, ended⟩
    rw [response, Option.map_some]
    apply congrArg some
    apply delivers.status_eq
    rw [show s.wire.chan.sent ++ s.wire.chan.parked = _ from sends]
    exact List.mem_cons_self

/-- Two chunks, the second of which has to wait behind sixteen empty ones. -/
def streamingRun : List Action :=
  [.established true, .push (.start 200 []) false, .poll, .push (.body [1] true) false] ++
  List.replicate 15 (.push (.body [] true) false) ++ [.push (.body [2] false) true]

/-- The application has sent all of it, nothing has been read, and all of it arrives. -/
theorem response_fidelity_two :
    ∃ s, run (step download) (init download (.new [] false)) streamingRun = some s ∧
      s.body.handed = [] ∧
      ∃ more final, run (step download) s more = some final ∧
        final.response.map ResponseHead.status = some 200 ∧
        final.body.handed = [[1], [2]] ∧ final.body.ending ≠ none := by
  have ran : ∃ s, run (step download) (init download (.new [] false)) streamingRun = some s ∧
      s.body.handed = [] ∧ s.stage = .responder .rx ∧ s.disconnected = false ∧
      s.appTimer = false ∧ s.body.receiver = true ∧
      s.chan.sent ++ s.chan.parked = [.start 200 [], .body [1] true] ++
        List.replicate 15 (.body [] true) ++ [.body [2] false] :=
    exists_of_run_any (by decide +kernel)
  rcases ran with ⟨s, ran, unread, stage, connected, inTime, receiver, sends⟩
  have faithful := response_fidelity (.new [] false) (by decide +kernel) ran
  have taken : s.wire.Taken download := by
    right
    rw [show s.wire.stage = _ from stage]
    exact receiver
  rcases faithful.arrives 200 [] _ sends (by simp [stage]) connected inTime taken with
    ⟨more, final, _, arrived, status, handed, ended⟩
  have last : ∃ event ∈ s.chan.sent ++ s.chan.parked, event.isFinal = true := by
    rw [sends]
    decide
  refine ⟨s, ran, unread, more, final, arrived, status, ?_, ended (.inr last)⟩
  rw [handed, sends]
  rfl

def headerName (index : ℕ) : Bytes :=
  [index / 17576 % 26, index / 676 % 26, index / 26 % 26, index % 26].map fun digit =>
    UInt8.ofNat (97 + digit)

def manyHeaders : List Header :=
  (List.range 32769).map fun index => (headerName index, [])

/-- A `GET` to an `http` crate whose header map holds 24576 names, as it does. -/
def crowded : Request :=
  { hasBody := false, isHead := false, accessLog := false,
    crate := {
      validHeader := fun _ => true
      builds := fun headers => decide ((headers.map Prod.fst).dedup.length ≤ 24576) } }

theorem letter_inj {first second : ℕ} (small : first < 26) (small' : second < 26)
    (same : UInt8.ofNat (97 + first) = UInt8.ofNat (97 + second)) : first = second := by
  have values := congrArg UInt8.toNat same
  simp only [UInt8.toNat_ofNat'] at values
  omega

theorem headerName_inj {first second : ℕ} (small : first < 32769) (small' : second < 32769)
    (same : headerName first = headerName second) : first = second := by
  simp only [headerName, List.map_cons, List.map_nil, List.cons.injEq, and_true] at same
  rcases same with ⟨highest, high, low, lowest⟩
  have highestEq := letter_inj (by omega) (by omega) highest
  have highEq := letter_inj (by omega) (by omega) high
  have lowEq := letter_inj (by omega) (by omega) low
  have lowestEq := letter_inj (by omega) (by omega) lowest
  omega

theorem crowded_refuses {headers : List Header} (distinct : (headers.map Prod.fst).Nodup)
    (many : 24576 < headers.length) : crowded.crate.builds headers = false := by
  simp only [crowded, distinct.dedup, List.length_map, decide_eq_false_iff_not]
  omega

theorem manyHeaders_nodup : (manyHeaders.map Prod.fst).Nodup := by
  simp only [manyHeaders, List.map_map]
  apply List.Nodup.map_on
  · intro first member second member' same
    exact headerName_inj (List.mem_range.mp member) (List.mem_range.mp member') same
  · exact List.nodup_range

theorem length_manyHeaders : manyHeaders.length = 32769 := by
  rw [manyHeaders, List.length_map, List.length_range]

/-- An accepted start event with status 200 is answered with 500. -/
theorem status_lost :
    ∃ final, run (step crowded) (init crowded (.new [] false))
        [.established true, .push (.start 200 manyHeaders) false, .poll] = some final ∧
      final.chan.sent = [.start 200 manyHeaders] ∧
      final.response.map ResponseHead.status = some 500 := by
  refine ⟨_, rfl, rfl, ?_⟩
  have refused : crowded.crate.builds (manyHeaders.filter crowded.crate.validHeader) = false := by
    have kept : manyHeaders.filter crowded.crate.validHeader = manyHeaders :=
      List.filter_eq_self.mpr fun _ _ => rfl
    rw [kept]
    exact crowded_refuses manyHeaders_nodup (by rw [length_manyHeaders]; omega)
  change some (buildResponse crowded.crate 200 manyHeaders).status = some 500
  rw [buildResponse, refused]
  rfl

end Http

end RustAsgi
