import RustAsgi.Http.Polling

/-!
# The access log

The exits of Phase A and the end of the responder each write their own entry of
the access log. The responder logs the status of the start event and the bytes of
the body events that it has taken, whether or not it hands them on.
-/

namespace RustAsgi

open Asyncio Machine Tokio

namespace ResponseEvent

def data : ResponseEvent → Bytes
  | .start _ _ => []
  | .body data _ => data

end ResponseEvent

/-- How far a request is with its access entry. -/
inductive LogPhase where
  | before
  /-- A body event has come before the start. -/
  | refused
  | streaming
  | finished
  deriving DecidableEq, Repr

namespace Stage

def logPhase : Stage → LogPhase
  | .establish | .phaseA _ => .before
  | .rejected _ => .refused
  | .responder _ | .sendData _ _ | .clientGone _ | .closing | .observing => .streaming
  | .done => .finished

/-- The data that has been taken and is yet to be handed over. -/
def pending : Stage → Bytes
  | .sendData data _ => data
  | _ => []

end Stage

namespace Http

variable {request : Request} {body : Incoming} {s next final : Http} {action : Action}
  {actions : List Action}

/-- The data of the events that the handler has taken. -/
def taken (s : Http) : Bytes :=
  s.chan.received.flatMap ResponseEvent.data

/-- What of it belongs into the response body. -/
def shown (request : Request) (s : Http) : Bytes :=
  if request.isHead then [] else s.taken

/-- The first event is a start from which the response can be built. -/
def answers (request : Request) (s : Http) : Action → Bool
  | .poll =>
      match s.stage with
      | .phaseA .rx =>
          match s.chan.recv with
          | .item (.start _ headers) _ =>
              request.crate.builds (headers.filter request.crate.validHeader)
          | .item (.body _ _) _ => false
          | _ => true
      | _ => true
  | _ => true

def Answers (request : Request) (s : Http) (action : Action) : Prop :=
  s.answers request action = true

instance (s : Http) (action : Action) : Decidable (s.Answers request action) :=
  inferInstanceAs (Decidable (_ = _))

/-- What the log holds in each phase. -/
def Logged (s : Http) : LogPhase → Prop
  | .before => s.access = [] ∧ s.chan.received = [] ∧ s.response = none
  | .refused => False
  | .streaming => s.access = [] ∧ ∃ head, s.response = some head ∧ head.status = s.status
  | .finished => ∀ head, s.response = some head → s.access = [(head.status, s.bytesSent)]

structure Accounted (request : Request) (s : Http) : Prop where
  accepted : ∀ event ∈ s.chan.buffer ++ s.chan.parked, event.accepted = true
  counted : s.bytesSent = s.taken.length
  handed : s.disconnected = false → s.body.handed.flatten ++ s.stage.pending = s.shown request
  logged : s.Logged s.stage.logPhase

/-- The fields that the invariant speaks of, apart from the channel's two ends. -/
def recorded (s : Http) : LogPhase × Bytes × List ResponseEvent × (ℕ × ℕ × List (ℕ × ℕ)) ×
    Option ResponseHead × List Bytes × Bool :=
  (s.stage.logPhase, s.stage.pending, s.chan.received, (s.status, s.bytesSent, s.access),
    s.response, s.body.handed, s.disconnected)

theorem Accounted.of_same (accounted : s.Accounted request) (same : next.recorded = s.recorded)
    (accepted : ∀ event ∈ next.chan.buffer ++ next.chan.parked, event.accepted = true) :
    next.Accounted request := by
  simp only [recorded, Prod.mk.injEq] at same
  rcases same with ⟨phase, pending, received, ⟨status, bytesSent, access⟩, response, handed,
    disconnected⟩
  have taken : next.taken = s.taken := by rw [Http.taken, Http.taken, received]
  have shown : next.shown request = s.shown request := by rw [Http.shown, Http.shown, taken]
  refine ⟨accepted, ?_, ?_, ?_⟩
  · rw [bytesSent, taken, accounted.counted]
  · rw [disconnected, handed, pending, shown]
    exact accounted.handed
  · rw [phase]
    have before := accounted.logged
    generalize s.stage.logPhase = current at before
    cases current with
    | before =>
        simp only [Logged] at before ⊢
        rw [access, received, response]
        exact before
    | refused => exact before
    | streaming =>
        simp only [Logged] at before ⊢
        rw [access, response, status]
        exact before
    | finished =>
        simp only [Logged] at before ⊢
        rw [access, response, bytesSent]
        exact before

theorem Accounted.of_chan (accounted : s.Accounted request) (same : next.recorded = s.recorded)
    (chan : next.chan = s.chan) : next.Accounted request := by
  apply accounted.of_same same
  rw [chan]
  exact accounted.accepted

/-- A failure before the start of the response. -/
theorem Accounted.fail (accounted : s.Accounted request) (on : request.accessLog = true)
    (before : s.stage.logPhase = .before) :
    (s.logAccess request 500 0).fail.Accounted request := by
  have logged := accounted.logged
  rw [before] at logged
  rcases logged with ⟨access, received, _⟩
  have nothing : s.taken = [] := by rw [Http.taken, received, List.flatMap_nil]
  have counted := accounted.counted
  rw [nothing, List.length_nil] at counted
  have pending : s.stage.pending = [] := by
    cases stage : s.stage <;> simp_all [Stage.logPhase, Stage.pending]
  have handed := accounted.handed
  rw [pending] at handed
  simp only [logAccess, on, if_true]
  refine ⟨?_, ?_, handed, ?_⟩
  · intro event member
    rcases List.mem_append.mp member with buffered | parked
    · exact accounted.accepted event (List.mem_append_left _ buffered)
    · cases parked
  · exact counted.trans (congrArg List.length nothing).symm
  · intro head response
    cases response
    simp [Http.fail, access, counted]

theorem Accounted.hand (accounted : s.fail.Accounted request) :
    s.spawnDrainReaper.fail.Accounted request :=
  accounted.of_chan rfl rfl

theorem Accounted.pollApp {back onward : Stage} (accounted : s.Accounted request)
    (phases : back.logPhase = s.stage.logPhase ∧ onward.logPhase = s.stage.logPhase)
    (pendings : back.pending = s.stage.pending ∧ onward.pending = s.stage.pending) :
    (s.pollApp back onward).Accounted request := by
  simp only [Http.pollApp]
  split
  · refine accounted.of_chan ?_ rfl
    simp only [recorded, phases, pendings]
  · split
    · refine accounted.of_chan ?_ rfl
      simp only [recorded, phases, pendings]
      rfl
    · refine accounted.of_chan ?_ rfl
      simp only [recorded, phases, pendings]

theorem Accounted.pollFeed {back onward : Stage} (accounted : s.Accounted request)
    (phases : back.logPhase = s.stage.logPhase ∧ onward.logPhase = s.stage.logPhase)
    (pendings : back.pending = s.stage.pending ∧ onward.pending = s.stage.pending) :
    (s.pollFeed back onward).Accounted request := by
  simp only [Http.pollFeed]
  split
  · refine accounted.of_chan ?_ rfl
    simp only [recorded, phases, pendings]
  · exact accounted.of_chan rfl rfl
  · refine accounted.of_chan ?_ rfl
    simp only [recorded, phases, pendings]

/-- The events that a receive leaves in the channel. -/
theorem accepted_recv {event : ResponseEvent} {chan : Mpsc ResponseEvent}
    (accounted : s.Accounted request) (received : s.chan.recv = .item event chan) :
    event.accepted = true ∧ (∀ other ∈ chan.buffer ++ chan.parked, other.accepted = true) ∧
      chan.received = s.chan.received ++ [event] := by
  rcases Mpsc.recv_item received with ⟨rest, buffered, rfl⟩
  have accepted := accounted.accepted
  rw [buffered] at accepted
  refine ⟨accepted event (by simp), ?_, rfl⟩
  intro other member
  exact accepted other (List.mem_cons_of_mem _ member)

theorem statusCode_of_accepted {status : ℕ} {headers : List Header}
    (accepted : (ResponseEvent.start status headers).accepted = true) :
    statusCode status = status := by
  simp only [ResponseEvent.accepted, decide_eq_true_eq] at accepted
  simp only [statusCode]
  rw [if_pos]
  omega

/-- The start event is logged as it stands where the response can be built from it. -/
theorem Accounted.start {status : ℕ} {headers : List Header} {chan : Mpsc ResponseEvent}
    (accounted : s.Accounted request) (answers : s.Answers request .poll)
    (stage : s.stage = .phaseA .rx) (received : s.chan.recv = .item (.start status headers) chan) :
    (({ s with chan } : Http).respond request status headers).Accounted request := by
  have logged := accounted.logged
  have handed := accounted.handed
  rw [stage] at logged handed
  rcases logged with ⟨access, _⟩
  rcases accepted_recv accounted received with ⟨accepted, others, events⟩
  simp only [Answers, Http.answers, stage, received] at answers
  have taken : chan.received.flatMap ResponseEvent.data = s.taken := by
    simp [Http.taken, events, ResponseEvent.data]
  refine ⟨others, ?_, ?_, ?_⟩
  · exact accounted.counted.trans (congrArg List.length taken.symm)
  · simp only [Stage.pending, Http.shown] at handed
    simp only [Http.respond, Http.shown, Http.taken, Stage.pending, taken]
    exact handed
  · refine ⟨access, _, rfl, ?_⟩
    simp [buildResponse, answers, statusCode_of_accepted accepted, Http.respond]

/-- The responder counts the data of what it takes, and hands it on unless the method is HEAD. -/
theorem Accounted.take {event : ResponseEvent} {chan : Mpsc ResponseEvent} {feed : Feed}
    {bytesSent : ℕ} {onward : Stage} (accounted : s.Accounted request)
    (stage : s.stage = .responder .rx) (received : s.chan.recv = .item event chan)
    (counts : bytesSent = s.bytesSent + event.data.length)
    (streaming : onward.logPhase = .streaming)
    (pending : onward.pending = if request.isHead then [] else event.data) :
    ({ s with chan, feed, bytesSent, stage := onward } : Http).Accounted request := by
  have logged := accounted.logged
  have handed := accounted.handed
  rw [stage] at logged handed
  rcases accepted_recv accounted received with ⟨_, others, events⟩
  have taken : chan.received.flatMap ResponseEvent.data = s.taken ++ event.data := by
    simp [Http.taken, events]
  refine ⟨others, ?_, ?_, ?_⟩
  · simp only [Http.taken, taken, List.length_append]
    rw [counts, accounted.counted]
    rfl
  · intro connected
    have sofar := handed connected
    simp only [Stage.pending, List.append_nil, Http.shown] at sofar
    simp only [Http.shown, Http.taken, taken, pending, sofar]
    cases request.isHead <;> simp
  · rw [streaming]
    exact logged

@[simp]
theorem logPhase_afterBody (moreBody : Bool) : (afterBody moreBody).logPhase = .streaming := by
  cases moreBody <;> rfl

@[simp]
theorem pending_afterBody (moreBody : Bool) : (afterBody moreBody).pending = [] := by
  cases moreBody <;> rfl

theorem Accounted.send {data : Bytes} {moreBody : Bool} (accounted : s.Accounted request)
    (stage : s.stage = .sendData data moreBody) :
    ({ s with
      stage := afterBody moreBody
      body := { s.body with
        queue := s.body.queue ++ [data]
        handed := s.body.handed ++ [data] } } : Http).Accounted request := by
  have logged := accounted.logged
  have handed := accounted.handed
  rw [stage] at logged handed
  refine ⟨accounted.accepted, accounted.counted, ?_, ?_⟩
  · intro connected
    simp only [pending_afterBody, List.append_nil, List.flatten_append, List.flatten_singleton]
    exact handed connected
  · rw [logPhase_afterBody]
    exact logged

theorem Accounted.gone {data : Bytes} {moreBody : Bool} {feed : Feed} {waiting : Option ℕ}
    (accounted : s.Accounted request) (stage : s.stage = .sendData data moreBody) :
    ({ s with disconnected := true, stage := .clientGone waiting, feed } : Http).Accounted
      request := by
  have logged := accounted.logged
  rw [stage] at logged
  refine ⟨accounted.accepted, accounted.counted, ?_, logged⟩
  intro connected
  cases connected

theorem Accounted.observe (accounted : s.Accounted request) (on : request.accessLog = true)
    (stage : s.stage = .observing) : (s.observe request).Accounted request := by
  have logged := accounted.logged
  have handed := accounted.handed
  rw [stage] at logged handed
  rcases logged with ⟨access, head, response, status⟩
  -- What the last look at the application does is not in the books of the response.
  have seen : ∃ seen : Http, s.observe request = { seen.logAccess request s.status s.bytesSent with
      stage := .done
      feed := (seen.logAccess request s.status s.bytesSent).feed.release
      chan := (seen.logAccess request s.status s.bytesSent).chan.dropReceiver } ∧
      seen.recorded = s.recorded ∧ seen.chan = s.chan := by
    simp only [Http.observe]
    split
    · exact ⟨s, rfl, rfl, rfl⟩
    · split
      · exact ⟨s.observeApp, rfl, rfl, rfl⟩
      · exact ⟨s.spawnDrainReaper, rfl, rfl, rfl⟩
  rcases seen with ⟨seen, done, same, chan⟩
  simp only [recorded, Prod.mk.injEq] at same
  rcases same with ⟨_, _, received, ⟨_, bytesSent, before⟩, answer, chunks, disconnected⟩
  rw [done]
  simp only [logAccess, on, if_true]
  refine ⟨?_, ?_, ?_, ?_⟩
  · intro event member
    rw [chan] at member
    rcases List.mem_append.mp member with buffered | parked
    · exact accounted.accepted event (List.mem_append_left _ buffered)
    · cases parked
  · simp only [Http.taken, Mpsc.dropReceiver, received, bytesSent]
    exact accounted.counted
  · simp only [Http.shown, Http.taken, Mpsc.dropReceiver, received, disconnected, chunks,
      Stage.pending]
    exact handed
  · intro other some_
    simp only [answer, response, Option.some.injEq] at some_
    subst some_
    simp only [before, access, List.nil_append, status, bytesSent]

theorem Accounted.poll (accounted : s.Accounted request) (on : request.accessLog = true)
    (answers : s.Answers request .poll) (polled : Polled request s next) :
    next.Accounted request := by
  cases polled with
  | start stage received => exact accounted.start answers stage received
  | early stage received => simp [Answers, Http.answers, stage, received] at answers
  | neverStarted stage | startTimeout stage =>
      have failed := accounted.fail on (by simp [stage, Stage.logPhase])
      exact failed.hand
  | rejected stage =>
      have logged := accounted.logged
      rw [stage] at logged
      cases logged
  | phaseAApp stage | responderApp stage =>
      apply accounted.pollApp <;> simp [stage, Stage.logPhase, Stage.pending]
  | phaseAFeed stage | responderFeed stage =>
      apply accounted.pollFeed <;> simp [stage, Stage.logPhase, Stage.pending]
  | duplicate stage received =>
      exact accounted.take stage received rfl rfl (by simp [ResponseEvent.data, Stage.pending])
  | suppressed stage received head =>
      exact accounted.take stage received rfl (logPhase_afterBody _) (by simp [head])
  | empty stage received =>
      exact accounted.take stage received rfl (logPhase_afterBody _) (by simp [ResponseEvent.data])
  | taken stage received other =>
      exact accounted.take stage received rfl rfl
        (by simp [other, ResponseEvent.data, Stage.pending])
  | hand stage => exact accounted.send stage
  | gone stage => exact accounted.gone stage
  | observe stage => exact accounted.observe on stage
  | unstarted stage | phaseAAgain stage | finished stage | unsent stage | appTimeout stage
  | responderAgain stage | told stage | close stage =>
      refine accounted.of_chan ?_ rfl
      simp [recorded, stage, Stage.logPhase, Stage.pending, Http.close]

theorem Accounted.accept {event : ResponseEvent} (accounted : s.Accounted request)
    (accepted : event.accepted = true) :
    ({ s with chan := s.chan.accept event } : Http).Accounted request := by
  refine accounted.of_same rfl ?_
  intro other member
  simp only [Mpsc.accept, List.mem_append, List.mem_singleton] at member
  rcases member with (buffered | rfl) | parked
  · exact accounted.accepted other (List.mem_append_left _ buffered)
  · exact accepted
  · exact accounted.accepted other (List.mem_append_right _ parked)

theorem Accounted.park {event : ResponseEvent} (accounted : s.Accounted request)
    (accepted : event.accepted = true) :
    ({ s with chan := s.chan.park event } : Http).Accounted request := by
  refine accounted.of_same rfl ?_
  intro other member
  simp only [Mpsc.park, List.mem_append, List.mem_singleton] at member
  rcases member with buffered | parked | rfl
  · exact accounted.accepted other (List.mem_append_left _ buffered)
  · exact accounted.accepted other (List.mem_append_right _ parked)
  · exact accepted

theorem Accounted.unpark {index : ℕ} {chan : Mpsc ResponseEvent} (accounted : s.Accounted request)
    (unparked : s.chan.unpark index = some chan) : { s with chan : Http }.Accounted request := by
  rcases Mpsc.unpark_cases unparked with ⟨value, found, _, _, rfl⟩
  refine accounted.of_same rfl ?_
  intro other member
  simp only [Mpsc.accept, List.mem_append, List.mem_singleton] at member
  rcases member with (buffered | rfl) | parked
  · exact accounted.accepted other (List.mem_append_left _ buffered)
  · exact accounted.accepted other (List.mem_append_right _ (List.mem_of_getElem? found))
  · exact accounted.accepted other (List.mem_append_right _ (List.mem_of_mem_eraseIdx parked))

/-- A service future that is dropped before the response leaves no entry. -/
theorem Accounted.dropService (accounted : s.Accounted request)
    (stage : s.stage = .establish ∨ s.stage.inPhaseA = true) :
    ({ s with stage := .done, feed := s.feed.release, chan := s.chan.dropReceiver } :
      Http).Accounted request := by
  have before : s.stage.logPhase = .before ∧ s.stage.pending = [] ∨
      s.stage.logPhase = .refused := by
    cases current : s.stage <;>
      simp_all [Stage.logPhase, Stage.pending, Stage.inPhaseA]
  have logged := accounted.logged
  have handed := accounted.handed
  rcases before with ⟨before, pending⟩ | refused
  · rw [before] at logged
    rw [pending] at handed
    refine ⟨?_, accounted.counted, handed, ?_⟩
    · intro event member
      rcases List.mem_append.mp member with buffered | parked
      · exact accounted.accepted event (List.mem_append_left _ buffered)
      · cases parked
    · intro head response
      rw [logged.2.2] at response
      cases response
  · rw [refused] at logged
    cases logged

theorem Accounted.step (accounted : s.Accounted request) (on : request.accessLog = true)
    (answers : s.Answers request action) (stepped : s.step request action = some next) :
    next.Accounted request := by
  cases step_cases stepped with
  | poll polled => exact accounted.poll on answers polled
  | established stage =>
      refine accounted.of_chan ?_ rfl
      simp [recorded, stage, Stage.logPhase, Stage.pending]
  | refused stage => exact accounted.fail on (by rw [stage]; rfl)
  | push _ accepted => exact accounted.accept accepted
  | park _ accepted => exact accounted.park accepted
  | unpark unparked => exact accounted.unpark unparked
  | dropService stage => exact accounted.dropService stage
  | dropSink => exact accounted.of_same rfl accounted.accepted
  | exit | settle | feed | startDeadline | appDeadline | takeChunk | dropBody | reaped
  | reapTimeout => exact accounted.of_chan rfl rfl

theorem accounted_init (request : Request) (body : Incoming) :
    (init request body).Accounted request where
  accepted := fun _ member => by cases member
  counted := rfl
  handed := fun _ => by simp [init, Stage.pending, shown, taken, Mpsc.new]
  logged := ⟨rfl, rfl, rfl⟩

/-- A request that is over has its one entry: with the status of its response and, unless the client
has left during the response, the data that the handler has taken. That is what it has handed over,
or would have for another method than HEAD. -/
theorem logged_once (body : Incoming) {head : ResponseHead} (on : request.accessLog = true)
    (answers : Along (step request) (Answers request) (init request body) actions)
    (ran : run (step request) (init request body) actions = some final)
    (done : final.stage = .done) (responded : final.response = some head) :
    ∃ size, final.access = [(head.status, size)] ∧ (final.disconnected = false →
      size = final.taken.length ∧ final.body.handed.flatten = final.shown request) := by
  have accounted : final.Accounted request := by
    apply run_invariant (Accounted request) _ answers ran (accounted_init request body)
    intro current action next accounted allowed stepped
    exact accounted.step on allowed stepped
  have logged := accounted.logged
  have handed := accounted.handed
  rw [done] at logged handed
  refine ⟨final.bytesSent, logged head responded, ?_⟩
  intro connected
  refine ⟨accounted.counted, ?_⟩
  simpa [Stage.pending] using handed connected

/-- The application answers with one chunk and returns. -/
def answeredRun : List Action :=
  [.established true, .push (.start 200 []) false, .poll, .push (.body [1, 2] false) false, .poll]

theorem logged_once_get :
    ∃ final, run (step loggedGet) (init loggedGet (.new [] false))
        (answeredRun ++ [.poll, .poll, .poll]) = some final ∧
      ∃ size, final.access = [(200, size)] ∧ (final.disconnected = false →
        size = final.taken.length ∧ final.body.handed.flatten = final.shown loggedGet) := by
  have ran : ∃ final, run (step loggedGet) (init loggedGet (.new [] false))
      (answeredRun ++ [.poll, .poll, .poll]) = some final ∧
      final.stage = .done ∧ final.response = some { status := 200, headers := [] } :=
    exists_of_run_any (by decide)
  rcases ran with ⟨final, ran, done, responded⟩
  exact ⟨final, ran, logged_once (.new [] false) rfl (by decide) ran done responded⟩

/-- For HEAD the chunk is counted, and nothing is handed to the response body. -/
theorem head_counted :
    ¬ ∀ (request : Request) (body : Incoming) (actions : List Action) (final : Http)
      (head : ResponseHead), request.accessLog = true →
        run (step request) (init request body) actions = some final → final.stage = .done →
          final.response = some head →
            final.access = [(head.status, final.body.handed.flatten.length)] := by
  intro equal
  have ran : ∃ final, run (step { loggedGet with isHead := true })
      (init { loggedGet with isHead := true } (.new [] false))
      (answeredRun ++ [.poll, .poll]) = some final ∧
      final.stage = .done ∧ final.response = some { status := 200, headers := [] } ∧
      final.access = [(200, 2)] ∧ final.body.handed = [] :=
    exists_of_run_any (by decide)
  rcases ran with ⟨final, ran, done, responded, access, handed⟩
  have claimed := equal _ _ _ final _ rfl ran done responded
  rw [access, handed] at claimed
  cases claimed

end Http

end RustAsgi
