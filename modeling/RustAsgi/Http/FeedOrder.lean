import RustAsgi.Http.Projection

/-!
# The order of body chunks

What `feed_step` pulls it submits, chunk by chunk. The application receives the
chunks in the order in which their puts enter the queue, and that is the order of
submission as long as no callback of the event loop lets one put pass another.
A put that has been left behind by a dropped `feed_step` makes this possible:
the next put may take its first step between the wake-up of the older one and
its resumption.
-/

namespace RustAsgi

open Machine Asyncio

namespace Feed

/-- A put that carries body data. -/
def chunkPut (put : Put Message) : Bool :=
  !put.nowait && put.item.chunk?.isSome

def putChunk? (put : Put Message) : Option Bytes :=
  put.item.chunk?

/-- The body data that are on their way through the loop, in order of release. -/
def inLoop (loop : Loop Message) : List Bytes :=
  (loop.order chunkPut).filterMap putChunk?

/-- Body data is never handed over by `put_nowait`. -/
def Patient (loop : Loop Message) : Prop :=
  ∀ put ∈ loop.puts, put.item.chunk?.isSome = true → put.nowait = false

/-- Where the chunks of the body are: pulled, submitted, under way or received. -/
structure InStep (frames : List Frame) (feed : Feed) : Prop where
  pulled : feed.pulled.filterMap FrameResult.chunk? ++
    (feed.body.buffered ++ feed.body.arriving).filterMap Frame.chunk? =
      frames.filterMap Frame.chunk?
  submitted : feed.submitted.filterMap Message.chunk? <+:
    feed.pulled.filterMap FrameResult.chunk?
  running : feed.running = true →
    feed.submitted.filterMap Message.chunk? = feed.pulled.filterMap FrameResult.chunk?
  patient : Patient feed.loop
  first : feed.first.bind Message.chunk? = none
  order : feed.received.filterMap Message.chunk? ++ inLoop feed.loop =
    feed.submitted.filterMap Message.chunk?

theorem chunkPut_patient {put : Put Message} (chunk : chunkPut put = true) :
    put.nowait = false := by
  simp only [chunkPut, Bool.and_eq_true, Bool.not_eq_eq_eq_not, Bool.not_true] at chunk
  exact chunk.1

theorem inLoop_submit (loop : Loop Message) (id : ℕ) (message : Message) (nowait : Bool)
    (patient : message.chunk?.isSome = true → nowait = false) :
    inLoop (loop.submit { id, item := message, nowait }) =
      inLoop loop ++ message.chunk?.toList := by
  simp only [inLoop, Loop.order_submit, List.filterMap_append]
  congr 1
  cases chunk : message.chunk? with
  | none => simp [chunkPut, chunk]
  | some body =>
      have waits := patient (by simp [chunk])
      simp [chunkPut, putChunk?, chunk, waits]

theorem patient_submit {loop : Loop Message} {id : ℕ} {message : Message} {nowait : Bool}
    (patient : Patient loop) (waits : message.chunk?.isSome = true → nowait = false) :
    Patient (loop.submit { id, item := message, nowait }) := by
  intro put member chunk
  rcases Loop.mem_puts_submit_iff.mp member with old | rfl
  · exact patient put old chunk
  · exact waits chunk

variable {frames : List Frame} {feed next : Feed}

/-- The step of the body stream behind `body.frame()`. -/
theorem frame_chunks {body after : Incoming} {result : FrameResult}
    (available : body.frame = some (result, after)) :
    result.chunk?.toList ++ (after.buffered ++ after.arriving).filterMap Frame.chunk? =
      (body.buffered ++ body.arriving).filterMap Frame.chunk? := by
  simp only [Incoming.frame] at available
  split at available
  · rename_i frame rest buffered
    simp only [Option.some.injEq, Prod.mk.injEq] at available
    rcases available with ⟨rfl, rfl⟩
    simp only [buffered, FrameResult.chunk?, List.cons_append, List.filterMap_cons]
    cases frame.chunk? <;> simp
  · split at available
    · split at available <;>
        simp only [Option.some.injEq, Prod.mk.injEq] at available <;>
        rcases available with ⟨rfl, rfl⟩ <;> simp [FrameResult.chunk?]
    · cases available

theorem filterMap_concat {α β : Type*} (f : α → Option β) (front : List α) (last : α) :
    (front ++ [last]).filterMap f = front.filterMap f ++ (f last).toList := by
  rw [List.filterMap_append]
  cases found : f last <;> simp [found]

theorem InStep.pull {body : Incoming} {result : FrameResult} (inStep : InStep frames feed)
    (available : feed.body.frame = some (result, body)) :
    (feed.pulled ++ [result]).filterMap FrameResult.chunk? ++
      (body.buffered ++ body.arriving).filterMap Frame.chunk? = frames.filterMap Frame.chunk? := by
  rw [← inStep.pulled, ← frame_chunks available, filterMap_concat, List.append_assoc]

/-- A pull whose message carries the chunk of the frame keeps the submissions in step. -/
theorem InStep.pull_enqueue {body : Incoming} {result : FrameResult} {message : Message}
    (inStep : InStep frames feed) (available : feed.body.frame = some (result, body))
    (running : feed.running = true) (same : message.chunk? = result.chunk?) :
    InStep frames ((feed.read body result).enqueue message false) where
  pulled := inStep.pull available
  submitted := by
    simp only [enqueue, read, filterMap_concat, same, inStep.running running]
    exact List.prefix_rfl
  running := by
    intro _
    simp only [enqueue, read, filterMap_concat, same, inStep.running running]
  patient := patient_submit inStep.patient (fun _ => rfl)
  first := inStep.first
  order := by
    simp only [enqueue, read, filterMap_concat]
    rw [inLoop_submit _ _ _ _ (fun _ => rfl), ← List.append_assoc, inStep.order]

/-- A pull that submits nothing: the frame is empty, or the loop has stopped. -/
theorem InStep.pull_silent {body : Incoming} {result : FrameResult}
    (inStep : InStep frames feed) (available : feed.body.frame = some (result, body))
    (silent : result.chunk? = none ∨ feed.running = false) :
    InStep frames (feed.read body result) where
  pulled := inStep.pull available
  submitted := by
    simp only [read, filterMap_concat]
    exact inStep.submitted.trans (List.prefix_append _ _)
  running := by
    intro running
    rcases silent with noChunk | stopped
    · simpa only [read, filterMap_concat, noChunk, Option.toList_none, List.append_nil] using
        inStep.running running
    · have impossible := running
      rw [read_running, stopped] at impossible
      cases impossible
  patient := inStep.patient
  first := inStep.first
  order := inStep.order

theorem InStep.enqueue_disconnect (inStep : InStep frames feed) (nowait : Bool) :
    InStep frames (feed.enqueue .disconnect nowait) where
  pulled := inStep.pulled
  submitted := by
    simpa only [enqueue, filterMap_concat, Message.chunk?, Option.toList_none,
      List.append_nil] using inStep.submitted
  running := by
    intro running
    simpa only [enqueue, filterMap_concat, Message.chunk?, Option.toList_none,
      List.append_nil] using inStep.running running
  patient := patient_submit inStep.patient (by simp [Message.chunk?])
  first := inStep.first
  order := by
    simp only [enqueue, filterMap_concat]
    rw [inLoop_submit _ _ _ _ (by simp [Message.chunk?]), ← List.append_assoc, inStep.order]

theorem InStep.of_same (inStep : InStep frames feed)
    (body : next.body.buffered ++ next.body.arriving = feed.body.buffered ++ feed.body.arriving)
    (pulled : next.pulled = feed.pulled) (submitted : next.submitted = feed.submitted)
    (received : next.received = feed.received) (loop : next.loop = feed.loop)
    (first : next.first = feed.first) (running : next.running = true → feed.running = true) :
    InStep frames next where
  pulled := by simpa only [body, pulled] using inStep.pulled
  submitted := by simpa only [submitted, pulled] using inStep.submitted
  running := by
    intro stillRunning
    simpa only [submitted, pulled] using inStep.running (running stillRunning)
  patient := by simpa only [loop] using inStep.patient
  first := by simpa only [first] using inStep.first
  order := by simpa only [received, loop, submitted] using inStep.order

theorem InStep.await (inStep : InStep frames feed) (future : FeedFuture) :
    InStep frames (feed.await future) :=
  inStep.of_same rfl rfl rfl rfl rfl rfl id

theorem InStep.drop (inStep : InStep frames feed) : InStep frames feed.drop :=
  inStep.of_same rfl rfl rfl rfl rfl rfl id

theorem InStep.finish (inStep : InStep frames feed) (fed : Bool) :
    InStep frames (feed.finish fed) :=
  inStep.of_same rfl rfl rfl rfl rfl rfl id

theorem InStep.polled (inStep : InStep frames feed) (polled : Polled feed next) :
    InStep frames next := by
  cases polled with
  | skip future available noChunk =>
      exact (inStep.pull_silent available (.inl noChunk)).finish true
  | chunk future available nonempty running =>
      have submitted : InStep frames
          ((feed.read _ _).enqueue (.request _ true) false) :=
        inStep.pull_enqueue available running rfl
      exact submitted.await _
  | chunkRefused future available nonempty stopped =>
      exact (inStep.pull_silent available (.inr stopped)).finish false
  | @ending result body future available atEnd running =>
      have noChunk : Message.terminal.chunk? = result.chunk? := by
        rcases atEnd with rfl | rfl <;> rfl
      exact (inStep.pull_enqueue available running noChunk).await _
  | endingRefused future available atEnd stopped =>
      exact (inStep.pull_silent available (.inr stopped)).finish false
  | completed fed pendingPut => exact inStep.finish fed
  | failed future running => exact (inStep.enqueue_disconnect true).await _

/-- The turn lets no put of body data pass another. -/
def Fair (feed : Feed) (move : Move) : Prop :=
  move = .turn → feed.loop.overtakes chunkPut = false

theorem InStep.turn (inStep : InStep frames feed) {loop : Loop Message}
    (turned : feed.loop.turn = some loop) (fair : feed.loop.overtakes chunkPut = false) :
    InStep frames { feed with loop } where
  pulled := inStep.pulled
  submitted := inStep.submitted
  running := inStep.running
  patient := fun put member => inStep.patient put (Loop.mem_puts_turn turned member)
  first := inStep.first
  order := by
    have kept := Loop.order_turn chunkPut (fun put => chunkPut_patient) turned fair
    simpa only [inLoop, kept] using inStep.order

/-- The message that waits from the start is no chunk. -/
theorem InStep.takeFirst {message : Message} (inStep : InStep frames feed)
    (first : feed.first = some message) :
    InStep frames { feed with first := none, received := feed.received ++ [message] } := by
  have noChunk : message.chunk? = none := by simpa [first] using inStep.first
  refine ⟨inStep.pulled, inStep.submitted, inStep.running, inStep.patient, rfl, ?_⟩
  simpa only [filterMap_concat, noChunk, Option.toList_none, List.append_nil] using inStep.order

/-- A get takes the oldest chunk out of the loop, or no chunk at all. -/
theorem InStep.get {put : Put Message} {loop : Loop Message} (inStep : InStep frames feed)
    (got : feed.loop.get = some (put, loop)) :
    InStep frames { feed with loop, received := feed.received ++ [put.item] } := by
  have members := Loop.mem_puts_get got
  refine ⟨inStep.pulled, inStep.submitted, inStep.running, ?_, inStep.first, ?_⟩
  · intro other member
    exact inStep.patient other (members.2 other member)
  · have before := inStep.order
    simp only [inLoop, Loop.order_get chunkPut got, List.filterMap_append] at before
    simp only [filterMap_concat, inLoop, List.append_assoc]
    rw [← before]
    congr 2
    cases chunk : put.item.chunk? with
    | none => simp [chunkPut, chunk]
    | some body =>
        have waits := inStep.patient put members.1 (by simp [chunk])
        simp [chunkPut, putChunk?, chunk, waits]

/-- The step lemma: a fair move keeps the chunks in step. -/
theorem InStep.step {move : Move} (inStep : InStep frames feed) (fair : Fair feed move)
    (stepped : feed.step move = some next) : InStep frames next := by
  cases step_cases stepped with
  | poll _ _ polled => exact inStep.polled polled
  | first first => exact inStep.takeFirst first
  | get _ got => exact inStep.get got
  | turn turned => exact inStep.turn turned (fair rfl)
  | frameArrives arriving =>
      exact inStep.of_same (by simp [arriving]) rfl rfl rfl rfl rfl id
  | disconnect => exact inStep.enqueue_disconnect true
  | disconnectRefused => exact inStep
  | stop => exact inStep.of_same rfl rfl rfl rfl rfl rfl (fun running => by cases running)
  | drop => exact inStep.drop
  | bodyEnds | handOver | release | timeout => exact inStep.of_same rfl rfl rfl rfl rfl rfl id

theorem inStep_new (frames : List Frame) (hasBody failure : Bool) :
    InStep frames (.new hasBody (.new frames failure)) where
  pulled := rfl
  submitted := List.prefix_rfl
  running := fun _ => rfl
  patient := by
    intro put member
    cases member
  first := by cases hasBody <;> rfl
  order := rfl

/-- What the application has received is what was pulled first. -/
theorem InStep.received (inStep : InStep frames feed) :
    feed.received.filterMap Message.chunk? <+: frames.filterMap Frame.chunk? :=
  calc feed.received.filterMap Message.chunk?
      <+: feed.submitted.filterMap Message.chunk? := ⟨_, inStep.order⟩
    _ <+: feed.pulled.filterMap FrameResult.chunk? := inStep.submitted
    _ <+: frames.filterMap Frame.chunk? := ⟨_, inStep.pulled⟩

end Feed

namespace Http

variable {request : Request} {s final : Http} {actions : List Action}

/-- The event loop runs no callback that lets one put of body data pass another. -/
def Fair (s : Http) (action : Action) : Prop :=
  action = .turn → s.feed.loop.overtakes Feed.chunkPut = false

instance (s : Http) (action : Action) : Decidable (s.Fair action) :=
  inferInstanceAs (Decidable (_ → _))

theorem Fair.moves {action : Action} (fair : s.Fair action) :
    Along Feed.step Feed.Fair s.feed (s.moves request action) :=
  along_moves_of_turn fair

/-- Body data reaches the application in the order of the frames, without loss or
repetition, as long as no put overtakes another. -/
theorem received_prefix_of_fair (frames : List Frame) (failure : Bool)
    (fair : Along (step request) Fair (init request (.new frames failure)) actions)
    (ran : run (step request) (init request (.new frames failure)) actions = some final) :
    final.feed.received.filterMap Message.chunk? <+: frames.filterMap Frame.chunk? := by
  have fairMoves := along_trace Http.feed (fun _ _ _ stepped => step_moves stepped)
    (fun _ _ allowed => Fair.moves allowed) fair ran
  have inStep := run_invariant (Feed.InStep frames)
    (fun _ _ _ inStep allowed stepped => inStep.step allowed stepped)
    fairMoves (run_moves ran) (Feed.inStep_new frames request.hasBody failure)
  exact inStep.received

def upload : Request :=
  { hasBody := true, isHead := false, accessLog := false,
    crate := { validHeader := fun _ => true, builds := fun _ => true } }

theorem received_prefix_of_fair_two :
    ∃ final, run (step upload) (init upload (.new [.data [1], .data [2]] false))
        [.established true, .frameArrives, .frameArrives, .poll, .poll, .poll, .turn, .turn,
          .receive] = some final ∧
      final.feed.received.filterMap Message.chunk? <+:
        [Frame.data [1], .data [2]].filterMap Frame.chunk? := by
  have ran : ∃ final, run (step upload) (init upload (.new [.data [1], .data [2]] false))
      [.established true, .frameArrives, .frameArrives, .poll, .poll, .poll, .turn, .turn,
        .receive] = some final ∧ final.feed.received = [.request [1] true] :=
    exists_of_run_any (by decide)
  rcases ran with ⟨final, ran, _⟩
  exact ⟨final, ran, received_prefix_of_fair _ false (by decide) ran⟩

end Http

namespace Feed

variable {feed : Feed} {bytes : Bytes} {rest : List Frame}

/-- Nothing keeps the feeding side from the next frame. -/
structure Ready (feed : Feed) : Prop where
  bodyOpt : feed.bodyOpt = true
  feeding : feed.feeding = true
  future : feed.future = .frame
  running : feed.running = true
  idle : feed.loop.ready = []
  room : feed.loop.full = false
  unreported : feed.loop.outcome? feed.nextId = none

/-- The put of a frame has been submitted, and is awaited. -/
def submitting (feed : Feed) (bytes : Bytes) (rest : List Frame) : Feed :=
  ((feed.read { feed.body with buffered := rest } (.frame (.data bytes))).enqueue
    (.request bytes true) false).await (.chunk feed.nextId)

/-- The put has found a slot. -/
def fed (feed : Feed) (bytes : Bytes) (rest : List Frame) : Feed :=
  { feed.submitting bytes rest with
    loop := feed.loop.taken { id := feed.nextId, item := .request bytes true, nowait := false } }

theorem Ready.poll (ready : feed.Ready) (buffered : feed.body.buffered = .data bytes :: rest)
    (nonempty : bytes ≠ []) : feed.poll = .progress (feed.submitting bytes rest) := by
  simp only [Feed.poll, ready.bodyOpt, ready.feeding, Bool.and_self, if_true, ready.future,
    Incoming.frame, buffered, feedFrame, nonempty, if_false, feedMessage, schedule, read_running,
    ready.running]
  rfl

theorem Ready.poll_submitting (ready : feed.Ready) :
    (feed.submitting bytes rest).poll = .pending := by
  have bodyOpt : (feed.submitting bytes rest).bodyOpt = true := ready.bodyOpt
  have feeding : (feed.submitting bytes rest).feeding = true := ready.feeding
  have future : (feed.submitting bytes rest).future = .chunk feed.nextId := rfl
  have timer : (feed.submitting bytes rest).timedOut = false := rfl
  have unreported : (feed.submitting bytes rest).loop.outcome? feed.nextId = none :=
    ready.unreported
  simp [Feed.poll, settled, bodyOpt, feeding, future, timer, unreported]

theorem Ready.poll_fed (ready : feed.Ready) :
    (feed.fed bytes rest).poll = .ready true (feed.fed bytes rest) := by
  have bodyOpt : (feed.fed bytes rest).bodyOpt = true := ready.bodyOpt
  have feeding : (feed.fed bytes rest).feeding = true := ready.feeding
  have future : (feed.fed bytes rest).future = .chunk feed.nextId := rfl
  have reported : (feed.fed bytes rest).loop.outcome? feed.nextId = some true :=
    Loop.outcome?_taken ready.unreported
  simp [Feed.poll, bodyOpt, feeding, future, reported]

end Feed

namespace Http

section Uploading

variable {request : Request} {s : Http}

/-- Phase A has nothing but the body to look at. -/
structure Uneventful (s : Http) : Prop where
  stage : s.stage = .phaseA .rx
  quiet : s.chan.recv = .pending
  running : s.app = .running
  fresh : s.appDone = false
  early : s.startTimer = false

theorem Uneventful.run_polls (uneventful : s.Uneventful) :
    run (step request) s [.poll, .poll] = some { s with stage := .phaseA .feed } := by
  rcases uneventful with ⟨stage, quiet, running, fresh, _⟩
  simp [run, step, poll, phaseARx, pollApp, stage, quiet, running, fresh]

theorem run_turns {loop : Loop Message} {put : Put Message} (under : s.feed.loop = loop.submit put)
    (idle : loop.ready = []) (room : loop.full = false) :
    run (step request) s [.turn, .turn, .turn] =
      some { s with feed := { s.feed with loop := loop.taken put } } := by
  rcases Loop.turns_submit put idle room with ⟨started, reporting, first, second, third⟩
  simp [run, step, moveFeed, Feed.step, under, first, second, third]

/-- What brings a frame to the queue: a pass of the `select!` that submits its put and leaves it
pending, the turns of the put, and a pass that finds it done. -/
def uploadRound : List Action :=
  [.poll, .poll] ++ [.poll, .poll, .poll] ++ [.turn, .turn, .turn] ++ [.poll, .poll] ++ [.poll]

theorem Uneventful.run_round {bytes : Bytes} {rest : List Frame} (uneventful : s.Uneventful)
    (ready : s.feed.Ready) (buffered : s.feed.body.buffered = .data bytes :: rest)
    (nonempty : bytes ≠ []) :
    run (step request) s uploadRound =
      some { s with feed := (s.feed.fed bytes rest).finish true } := by
  let submitted : Http := { s with feed := s.feed.submitting bytes rest }
  let taken : Http := { s with feed := s.feed.fed bytes rest }
  have submits : run (step request) { s with stage := .phaseA .feed } [.poll, .poll, .poll] =
      some submitted := by
    simp [run, step, Http.poll, pollFeed, ready.poll buffered nonempty, ready.poll_submitting,
      uneventful.early, uneventful.stage, submitted]
  have takes : run (step request) submitted [.turn, .turn, .turn] = some taken :=
    run_turns rfl ready.idle ready.room
  have still : taken.Uneventful := { uneventful with }
  have finishes : run (step request) { taken with stage := .phaseA .feed } [.poll] =
      some { s with feed := (s.feed.fed bytes rest).finish true } := by
    simp [run, step, Http.poll, pollFeed, taken, ready.poll_fed, uneventful.stage]
  rw [uploadRound, run_append, run_append, run_append, run_append, uneventful.run_polls,
    Option.bind_some, submits, Option.bind_some, takes, Option.bind_some, still.run_polls,
    Option.bind_some, finishes]

def uploadFrame (index : ℕ) : Frame :=
  .data [UInt8.ofNat index]

def uploadFrames : List Frame :=
  (List.range 66).map uploadFrame

def uploadPut (id : ℕ) : Put Message :=
  { id, item := .request [UInt8.ofNat id] true, nowait := false }

/-- The upload when so many of its frames have arrived, and so many of these are on the queue. -/
def uploading (arrived queued : ℕ) : Http :=
  { init upload (.new uploadFrames false) with
    stage := .phaseA .rx
    feed := { Feed.new true (.new uploadFrames false) with
      body := { Incoming.new uploadFrames false with
        arriving := uploadFrames.drop arrived
        buffered := (uploadFrames.take arrived).drop queued }
      loop := { Loop.empty requestQueueMaxsize with
        items := (List.range queued).map uploadPut
        reported := (List.range queued).map fun id => (id, true) }
      nextId := queued
      pulled := (List.range queued).map fun index => .frame (uploadFrame index)
      submitted := (List.range queued).map fun id => (uploadPut id).item } }

theorem step_frameArrives {n : ℕ} (before : n < 66) :
    step upload (uploading n 0) .frameArrives = some (uploading (n + 1) 0) := by
  have arriving : uploadFrames.drop n = uploadFrame n :: uploadFrames.drop (n + 1) := by
    rw [List.drop_eq_getElem_cons (by simpa [uploadFrames] using before)]
    simp [uploadFrames]
  have arrived : uploadFrames.take (n + 1) = uploadFrames.take n ++ [uploadFrame n] := by
    rw [List.take_add_one]
    simp [uploadFrames, before]
  simp [step, moveFeed, Feed.step, uploading, arriving, arrived]

theorem run_uploadRound {n : ℕ} (before : n < 64) :
    run (step upload) (uploading 66 n) uploadRound = some (uploading 66 (n + 1)) := by
  have buffered : (uploading 66 n).feed.body.buffered =
      uploadFrame n :: (uploadFrames.take 66).drop (n + 1) := by
    have within : n < (uploadFrames.take 66).length := by
      simp [uploadFrames]
      omega
    simp only [uploading]
    rw [List.drop_eq_getElem_cons within]
    simp [uploadFrames]
  have uneventful : (uploading 66 n).Uneventful := ⟨rfl, rfl, rfl, rfl, rfl⟩
  have ready : (uploading 66 n).feed.Ready := by
    refine ⟨rfl, rfl, rfl, rfl, rfl, ?_, ?_⟩
    · simp [Loop.full, uploading, Loop.empty, requestQueueMaxsize]
      omega
    · simp [Loop.outcome?, uploading]
      omega
  rw [uneventful.run_round ready buffered (List.cons_ne_nil _ _)]
  simp [uploading, Feed.fed, Feed.submitting, Feed.finish, Feed.drop, Feed.await, Feed.enqueue,
    Feed.read, Loop.taken, List.range_succ, uploadPut, uploadFrame, Feed.new]

/-- All frames arrive, and sixty-four of them fill the queue. -/
def fillingRun : List Action :=
  [.established true] ++ List.replicate 66 .frameArrives ++
    (List.replicate 64 uploadRound).flatten

theorem run_fillingRun :
    run (step upload) (init upload (.new uploadFrames false)) fillingRun =
      some (uploading 66 64) := by
  have established : run (step upload) (init upload (.new uploadFrames false))
      [.established true] = some (uploading 0 0) := rfl
  have arrived : run (step upload) (uploading 0 0) (List.replicate 66 .frameArrives) =
      some (uploading 66 0) :=
    run_replicate (fun n => uploading n 0) fun n before => step_frameArrives before
  have filled : run (step upload) (uploading 66 0) (List.replicate 64 uploadRound).flatten =
      some (uploading 66 64) :=
    run_rounds (uploading 66) fun n before => run_uploadRound before
  rw [fillingRun, run_append, run_append, established, Option.bind_some, arrived,
    Option.bind_some, filled]

/-- With the queue full, the put of the next frame parks, and the start event drops the
`feed_step` that awaits it. -/
def supersedingRun : List Action :=
  [.poll, .poll, .poll, .poll, .poll, .turn, .turn, .push (.start 200 []) false]

/-- The responder pulls the last frame, and its put takes its first step right after the
application's `get` has woken the older one. -/
def overtakingRun : List Action :=
  fillingRun ++ (supersedingRun ++ [.poll, .poll, .poll, .poll, .turn, .receive, .turn, .turn] ++
    List.replicate 64 .receive)

theorem received_overtaken :
    ∃ final, run (step upload) (init upload (.new uploadFrames false)) overtakingRun =
        some final ∧
      ¬ final.feed.received.filterMap Message.chunk? <+:
        uploadFrames.filterMap Frame.chunk? := by
  rw [overtakingRun, run_append, run_fillingRun, Option.bind_some]
  exact exists_of_run_any (by decide +kernel)

end Uploading

end Http

end RustAsgi
