import RustAsgi.Asyncio.Capacity
import RustAsgi.Http.Disconnect
import RustAsgi.Http.FeedOrder

/-!
# Backpressure on the request body

`feed_step` pulls a frame and awaits its put before the next one is pulled, so the
chunks that are held back are those in the queue and one more. The put goes on when
another branch of the select wins, and the next `feed_step` knows nothing of it.
-/

namespace RustAsgi

open Machine Asyncio

namespace Feed

variable {feed next : Feed} {move : Move} {loop : Loop Message}

/-- The chunks of the body that the application has not taken: queued, or held by a put. -/
def chunks (feed : Feed) : ℕ :=
  feed.loop.puts.countP chunkPut

/-- A `feed_step` is under way that awaits the put of a chunk, or the disconnect after that put. -/
def awaitsPut (feed : Feed) : Bool :=
  feed.bodyOpt &&
    match feed.future with
    | .chunk _ | .disconnect _ => true
    | .frame | .terminal _ => false

/-- A `feed_step` is only dropped while what it has put finds a slot. -/
def SparesPut (feed : Feed) (move : Move) : Prop :=
  (move = .drop ∨ ∃ hasBody, move = .handOver hasBody) → feed.awaitsPut = true →
    feed.loop.puts.length ≤ requestQueueMaxsize

/-- There are no more frames to pull. -/
def AtEnd (feed : Feed) : Prop :=
  feed.body.buffered = [] ∧ feed.body.arriving = []

/-- What the current `feed_step` may rely on. -/
def Holds (feed : Feed) : FeedFuture → Prop
  | .frame => feed.AtEnd ∨ feed.loop.puts.length ≤ requestQueueMaxsize
  | .chunk id =>
      feed.loop.puts.length ≤ requestQueueMaxsize ∨
        ∃ item, feed.loop.Overfull { id, item, nowait := false }
  | .terminal _ => feed.AtEnd
  | .disconnect _ => True

/-- The feeding side holds back at most one chunk besides the queue, and pulls the next one only
when there is a slot for it. -/
structure Backed (feed : Feed) : Prop where
  maxsize : feed.loop.maxsize = requestQueueMaxsize
  saturated : feed.loop.Saturated
  dated : feed.loop.Dated feed.nextId
  arrived : feed.body.ended = true → feed.body.arriving = []
  few : feed.chunks ≤ requestQueueMaxsize + 1
  live : feed.bodyOpt = true → feed.Holds feed.future

theorem backed_new (frames : List Frame) (hasBody failure : Bool) :
    (new hasBody (.new frames failure)).Backed where
  maxsize := rfl
  saturated := Loop.saturated_empty requestQueueMaxsize
  dated := Loop.dated_empty requestQueueMaxsize 0
  arrived := fun ended => by cases ended
  few := Nat.zero_le _
  live := fun _ => .inr (Nat.zero_le _)

/-- What a ready poll of the body leaves of it. -/
theorem frame_kept {body after : Incoming} {result : FrameResult}
    (available : body.frame = some (result, after)) :
    after.arriving = body.arriving ∧ after.ended = body.ended ∧
      (result = .error ∨ result = .finished →
        body.ended = true ∧ body.buffered = [] ∧ after.buffered = []) := by
  simp only [Incoming.frame] at available
  split at available
  · rename_i frame rest buffered
    simp only [Option.some.injEq, Prod.mk.injEq] at available
    rcases available with ⟨rfl, rfl⟩
    simp
  · rename_i drained
    split at available
    · rename_i ended
      split at available
      · simp only [Option.some.injEq, Prod.mk.injEq] at available
        rcases available with ⟨rfl, rfl⟩
        exact ⟨rfl, rfl, fun _ => ⟨ended, drained, drained⟩⟩
      · simp only [Option.some.injEq, Prod.mk.injEq] at available
        rcases available with ⟨rfl, rfl⟩
        exact ⟨rfl, rfl, fun _ => ⟨ended, drained, drained⟩⟩
    · cases available

theorem not_atEnd_of_frame {frame : Frame} {body : Incoming}
    (available : feed.body.frame = some (.frame frame, body)) : ¬ feed.AtEnd := by
  rintro ⟨drained, _⟩
  simp only [Incoming.frame, drained] at available
  split at available
  · split at available <;> simp at available
  · cases available

theorem chunks_le_length (feed : Feed) : feed.chunks ≤ feed.loop.puts.length :=
  List.countP_le_length

theorem length_enqueue (feed : Feed) (message : Message) (nowait : Bool) :
    (feed.enqueue message nowait).loop.puts.length = feed.loop.puts.length + 1 := by
  simp only [enqueue, Loop.puts_submit, List.length_append, List.length_singleton]

theorem chunks_enqueue_of_silent {message : Message} (nowait : Bool)
    (silent : message.chunk? = none) : (feed.enqueue message nowait).chunks = feed.chunks := by
  simp [chunks, enqueue, Loop.puts_submit, List.countP_append, chunkPut, silent]

/-- Only a poll adds a chunk. -/
theorem chunks_step (other : move ≠ .poll) (stepped : feed.step move = some next) :
    next.chunks ≤ feed.chunks := by
  cases step_cases stepped with
  | poll => exact absurd rfl other
  | turn turned => exact Loop.countP_puts_turn chunkPut turned
  | get _ got =>
      simp only [chunks, Loop.puts_get got, List.countP_cons]
      omega
  | disconnect => rw [chunks_enqueue_of_silent true rfl]
  | disconnectRefused | first => exact Nat.le_refl _
  | frameArrives | bodyEnds | drop | handOver | release | timeout | stop =>
      have quiet := (quiet_step rfl stepped).2.2
      rw [chunks, chunks, quiet]

/-- A `feed_step` that goes on to the next frame has seen the outcome of its put. -/
theorem outcome_of_fed (pendingPut : feed.future ≠ .frame)
    (stepped : feed.step .poll = some (feed.finish true)) :
    ∃ id, feed.future = .chunk id ∧ feed.loop.outcome? id = some true := by
  have refused : feed.finish false ≠ feed.finish true := by
    intro same
    cases congrArg Feed.feeding same
  simp only [step, poll] at stepped
  split at stepped
  · split at stepped
    · rename_i future
      exact absurd future pendingPut
    · rename_i id future
      split at stepped
      · rename_i succeeded
        exact ⟨id, future, succeeded⟩
      · split at stepped
        · simp only [putFailed] at stepped
          split at stepped
          · cases congrArg Feed.future (Option.some.inj stepped)
          · exact absurd (Option.some.inj stepped) refused
        · cases stepped
    · split at stepped
      · exact absurd (Option.some.inj stepped) refused
      · cases stepped
    · split at stepped
      · exact absurd (Option.some.inj stepped) refused
      · cases stepped
  · cases stepped

theorem Backed.enqueue_silent {message : Message} {nowait : Bool} {future : FeedFuture}
    (backed : feed.Backed) (silent : message.chunk? = none)
    (holds : ((feed.enqueue message nowait).await future).Holds future) :
    ((feed.enqueue message nowait).await future).Backed where
  maxsize := backed.maxsize
  saturated := backed.saturated.submit _
  dated := backed.dated.submit rfl
  arrived := backed.arrived
  few := by
    have few := backed.few
    rw [← chunks_enqueue_of_silent nowait silent] at few
    exact few
  live := fun _ => holds

theorem Backed.finish {fed : Bool} (backed : feed.Backed)
    (holds : fed = true → feed.AtEnd ∨ feed.loop.puts.length ≤ requestQueueMaxsize) :
    (feed.finish fed).Backed where
  maxsize := backed.maxsize
  saturated := backed.saturated
  dated := backed.dated
  arrived := backed.arrived
  few := backed.few
  live := by
    intro live
    simp only [Feed.finish, Bool.and_eq_true] at live
    exact holds live.2

/-- Reading a frame takes no slot, and at the end it leaves nothing behind. -/
theorem Backed.read {body : Incoming} {result : FrameResult} (backed : feed.Backed)
    (future : feed.future = .frame) (available : feed.body.frame = some (result, body)) :
    (feed.read body result).Backed := by
  rcases frame_kept available with ⟨arriving, ended, atEnd⟩
  refine ⟨backed.maxsize, backed.saturated, backed.dated, ?_, backed.few, ?_⟩
  · intro complete
    exact arriving.trans (backed.arrived (ended.symm.trans complete))
  · intro bodyOpt
    have holds := backed.live bodyOpt
    rw [future] at holds
    rw [show (feed.read body result).future = .frame from future]
    rcases holds with exhausted | room
    · refine .inl ⟨?_, arriving.trans exhausted.2⟩
      have drained := exhausted
      cases result with
      | frame frame => exact absurd exhausted (not_atEnd_of_frame available)
      | error => exact (atEnd (.inl rfl)).2.2
      | finished => exact (atEnd (.inr rfl)).2.2
    · exact .inr room

/-- The chunk that is put into a queue with a slot for it, or behind a full one. -/
theorem Backed.put {message : Message} (backed : feed.Backed)
    (room : feed.loop.puts.length ≤ requestQueueMaxsize) :
    ((feed.enqueue message false).await (.chunk feed.nextId)).Backed where
  maxsize := backed.maxsize
  saturated := backed.saturated.submit _
  dated := backed.dated.submit rfl
  arrived := backed.arrived
  few := by
    have few := (feed.enqueue message false).chunks_le_length
    rw [length_enqueue] at few
    exact few.trans (Nat.succ_le_succ room)
  live := by
    intro _
    rcases Nat.lt_or_eq_of_le room with spare | total
    · left
      have length := length_enqueue feed message false
      simp only [await, length]
      omega
    · right
      refine ⟨message, Loop.overfull_submit backed.saturated backed.dated ?_⟩
      exact total.trans backed.maxsize.symm

theorem Backed.poll (backed : feed.Backed) (stepped : feed.step .poll = some next) :
    next.Backed := by
  rcases polled_of_step stepped with ⟨bodyOpt, _, polled⟩
  have holds := backed.live bodyOpt
  cases polled with
  | skip future available noChunk =>
      have read := backed.read future available
      refine read.finish ?_
      intro _
      have reading := read.live bodyOpt
      rw [show (feed.read _ _).future = .frame from future] at reading
      exact reading
  | chunk future available nonempty running =>
      rw [future] at holds
      have room := holds.resolve_left (not_atEnd_of_frame available)
      exact (backed.read future available).put room
  | chunkRefused future available =>
      refine (backed.read future available).finish ?_
      intro fed
      cases fed
  | ending future available atEnd running =>
      rcases frame_kept available with ⟨arriving, _, drained⟩
      rcases drained atEnd with ⟨ended, _, nothing⟩
      refine (backed.read future available).enqueue_silent rfl ?_
      exact ⟨nothing, arriving.trans (backed.arrived ended)⟩
  | endingRefused future available =>
      refine (backed.read future available).finish ?_
      intro fed
      cases fed
  | completed fed pendingPut =>
      apply backed.finish
      rintro rfl
      rcases outcome_of_fed pendingPut stepped with ⟨id, future, succeeded⟩
      rw [future] at holds
      rcases holds with room | ⟨item, overfull⟩
      · exact .inr room
      · rw [overfull.outcome?_eq_none] at succeeded
        cases succeeded
  | failed future running => exact backed.enqueue_silent rfl trivial

/-- A dropped `feed_step` has left its chunk where it finds a slot. -/
theorem Backed.drop (backed : feed.Backed)
    (spares : feed.awaitsPut = true → feed.loop.puts.length ≤ requestQueueMaxsize)
    (feeding : Bool) : ({ feed.drop with feeding } : Feed).Backed where
  maxsize := backed.maxsize
  saturated := backed.saturated
  dated := backed.dated
  arrived := backed.arrived
  few := backed.few
  live := by
    intro bodyOpt
    have live : feed.bodyOpt = true := bodyOpt
    have holds := backed.live live
    cases future : feed.future with
    | frame =>
        rw [future] at holds
        exact holds
    | terminal id =>
        rw [future] at holds
        exact .inl holds
    | chunk id => exact .inr (spares (by simp [awaitsPut, live, future]))
    | disconnect id => exact .inr (spares (by simp [awaitsPut, live, future]))

theorem Backed.turn (backed : feed.Backed) (turned : feed.loop.turn = some loop) :
    ({ feed with loop } : Feed).Backed := by
  have positive : 0 < feed.loop.maxsize := by
    rw [backed.maxsize]
    decide
  have fewer := Loop.length_puts_turn turned
  have maxsize := (Loop.maxsize_turn turned).trans backed.maxsize
  refine ⟨maxsize, backed.saturated.turn positive turned, backed.dated.turn turned,
    backed.arrived, ?_, ?_⟩
  · exact (Loop.countP_puts_turn chunkPut turned).trans backed.few
  · intro bodyOpt
    have holds := backed.live bodyOpt
    cases future : feed.future with
    | frame =>
        rw [future] at holds
        exact holds.imp_right fewer.trans
    | terminal id =>
        rw [future] at holds
        exact holds
    | disconnect id => trivial
    | chunk id =>
        rw [future] at holds
        simp only [Holds]
        rcases holds with room | ⟨item, overfull⟩
        · exact .inl (fewer.trans room)
        · by_cases room : loop.puts.length ≤ requestQueueMaxsize
          · exact .inl room
          · refine .inr ⟨item, overfull.turn positive rfl turned ?_⟩
            omega

theorem Backed.get {put : Put Message} {received : List Message} (backed : feed.Backed)
    (got : feed.loop.get = some (put, loop)) : ({ feed with loop, received } : Feed).Backed := by
  have fewer := congrArg List.length (Loop.puts_get got)
  rw [List.length_cons] at fewer
  have maxsize := (Loop.maxsize_get got).trans backed.maxsize
  refine ⟨maxsize, backed.saturated.get got, backed.dated.get got, backed.arrived, ?_, ?_⟩
  · have few := backed.few
    rw [chunks, Loop.puts_get got, List.countP_cons] at few
    exact (Nat.le_add_right _ _).trans few
  · intro bodyOpt
    have holds := backed.live bodyOpt
    cases future : feed.future with
    | frame =>
        rw [future] at holds
        refine holds.imp_right ?_
        intro room
        simp only
        omega
    | terminal id =>
        rw [future] at holds
        exact holds
    | disconnect id => trivial
    | chunk id =>
        rw [future] at holds
        refine .inl ?_
        simp only
        rcases holds with room | ⟨item, overfull⟩
        · omega
        · have total := overfull.total
          rw [backed.maxsize] at total
          omega

theorem Backed.frameArrives {frame : Frame} {rest : List Frame} (backed : feed.Backed)
    (arriving : feed.body.arriving = frame :: rest) :
    ({ feed with body := { feed.body with
      arriving := rest, buffered := feed.body.buffered ++ [frame] } } : Feed).Backed := by
  have goesOn : ¬ feed.AtEnd := by
    rintro ⟨_, nothing⟩
    rw [arriving] at nothing
    cases nothing
  refine ⟨backed.maxsize, backed.saturated, backed.dated, ?_, backed.few, ?_⟩
  · intro ended
    have nothing := backed.arrived ended
    rw [arriving] at nothing
    cases nothing
  · intro bodyOpt
    have holds := backed.live bodyOpt
    cases future : feed.future with
    | frame =>
        rw [future] at holds
        exact .inr (holds.resolve_left goesOn)
    | terminal id =>
        rw [future] at holds
        exact absurd holds goesOn
    | disconnect id => trivial
    | chunk id =>
        rw [future] at holds
        exact holds

theorem Backed.bodyEnds (backed : feed.Backed) (arriving : feed.body.arriving = []) :
    ({ feed with body := { feed.body with ended := true } } : Feed).Backed := by
  refine ⟨backed.maxsize, backed.saturated, backed.dated, fun _ => arriving, backed.few, ?_⟩
  intro bodyOpt
  have holds := backed.live bodyOpt
  cases future : feed.future with
  | frame | terminal id | disconnect id | chunk id =>
      rw [future] at holds
      exact holds

/-- The step lemma, for every move but the disconnect message of a request that is given up. -/
theorem Backed.step (backed : feed.Backed) (spares : feed.SparesPut move)
    (other : move ≠ .disconnect) (stepped : feed.step move = some next) : next.Backed := by
  cases step_cases stepped with
  | disconnect | disconnectRefused => exact absurd rfl other
  | poll => exact backed.poll stepped
  | turn turned => exact backed.turn turned
  | get _ got => exact backed.get got
  | drop => exact backed.drop (spares (.inl rfl)) feed.feeding
  | handOver hasBody => exact backed.drop (spares (.inr ⟨hasBody, rfl⟩)) _
  | frameArrives arriving => exact backed.frameArrives arriving
  | bodyEnds arriving => exact backed.bodyEnds arriving
  | release =>
      refine ⟨backed.maxsize, backed.saturated, backed.dated, backed.arrived, backed.few, ?_⟩
      intro bodyOpt
      cases bodyOpt
  | first | timeout | stop =>
      exact ⟨backed.maxsize, backed.saturated, backed.dated, backed.arrived, backed.few,
        backed.live⟩

end Feed

/-- The select loops are on, or come back. -/
def Stage.pulls : Stage → Bool
  | .establish | .phaseA _ | .responder _ => true
  | .sendData _ moreBody => moreBody
  | .rejected _ | .clientGone _ | .closing | .observing | .done => false

theorem Wire.Step.pulls_step {request : Request} {w next : Wire} {action : Action}
    (stepped : Wire.Step request w action next) (pulls : next.stage.pulls = true) :
    w.stage.pulls = true := by
  cases stepped with
  | silent | push | park | unpark | dropSink | startDeadline | appDeadline | dropBody => exact pulls
  | established stage | phaseA _ stage | start stage | responder _ stage | duplicate stage
  | skip stage | take stage =>
      rw [stage]
      rfl
  | @hand data moreBody stage =>
      rw [stage]
      cases moreBody with
      | true => rfl
      | false => cases pulls
  | refused | dropService | early | neverStarted | startTimeout | rejected | closed | appTimeout
  | gone | told | close | observe => cases pulls

namespace Http

variable {request : Request} {s next final : Http} {action : Action} {actions : List Action}

/-- Another branch of the select wins over the one that feeds, and the loop goes on. -/
def supersedes (s : Http) : Action → Bool
  | .poll =>
      match s.stage with
      | .phaseA .rx =>
          match s.chan.recv with
          | .item (.start _ _) _ => true
          | _ => false
      | .responder .rx =>
          match s.chan.recv with
          | .item (.start _ _) _ => true
          | .item (.body _ moreBody) _ => moreBody
          | _ => false
      | .phaseA .app | .responder .app =>
          match s.appDone, s.app with
          | false, .settled _ => true
          | _, _ => false
      | _ => false
  | _ => false

/-- A `feed_step` that awaits its put is superseded only while everything under way finds a slot. -/
def SparesPut (s : Http) (action : Action) : Prop :=
  s.supersedes action = true → s.feed.awaitsPut = true →
    s.feed.loop.puts.length ≤ requestQueueMaxsize

instance (s : Http) (action : Action) : Decidable (s.SparesPut action) :=
  inferInstanceAs (Decidable (_ → _))

/-- While the loops are on, the feeding side is backed; afterwards nothing is pulled. -/
structure Buffered (s : Http) : Prop where
  few : s.feed.chunks ≤ requestQueueMaxsize + 1
  backed : s.stage.pulls = true → s.feed.Backed

theorem pulls_step (stepped : s.step request action = some next)
    (pulls : next.stage.pulls = true) : s.stage.pulls = true := by
  have moved := step_wire stepped
  exact moved.pulls_step pulls

/-- These moves neither drop a `feed_step` nor send a disconnect message. -/
theorem spared_of_other {feed : Feed} {move : Feed.Move} (dropped : move ≠ .drop)
    (handedOver : ∀ hasBody, move ≠ .handOver hasBody) (disconnect : move ≠ .disconnect) :
    feed.SparesPut move ∧ move ≠ .disconnect := by
  refine ⟨?_, disconnect⟩
  rintro (drop | ⟨hasBody, handOver⟩)
  · exact absurd drop dropped
  · exact absurd handOver (handedOver hasBody)

theorem spared_pollApp
    (spares : (match s.appDone, s.app with
      | false, .settled _ => true
      | _, _ => false) = true → s.feed.awaitsPut = true →
        s.feed.loop.puts.length ≤ requestQueueMaxsize) :
    Along Feed.step (fun feed move => feed.SparesPut move ∧ move ≠ .disconnect) s.feed
      s.pollAppMoves := by
  simp only [pollAppMoves]
  cases appDone : s.appDone with
  | true => trivial
  | false =>
      cases app : s.app with
      | running | exited => trivial
      | settled outcome =>
          rw [appDone, app] at spares
          exact along_singleton ⟨fun _ => spares rfl, by simp⟩

theorem spared_pollFeed (s : Http) :
    Along Feed.step (fun feed move => feed.SparesPut move ∧ move ≠ .disconnect) s.feed
      s.pollFeedMoves := by
  simp only [pollFeedMoves]
  split
  · trivial
  · exact along_singleton (spared_of_other (by simp) (by simp) (by simp))

theorem pulls_of_poll_mem (polled : .poll ∈ s.moves request action) : s.stage.pulls = true := by
  rcases (poll_mem_moves polled).2 with stage | stage
  · rw [stage]
    rfl
  · rw [stage]
    rfl

theorem pulls_afterBody (moreBody : Bool) : (afterBody moreBody).pulls = moreBody := by
  cases moreBody <;> rfl

theorem spared_poll (spares : s.SparesPut .poll) (polled : Polled request s next)
    (pulls : next.stage.pulls = true) :
    Along Feed.step (fun feed move => feed.SparesPut move ∧ move ≠ .disconnect) s.feed
      (s.moves request .poll) := by
  simp only [Http.SparesPut, supersedes] at spares
  simp only [Http.moves]
  cases polled with
  | start stage received =>
      simp only [stage, received] at spares
      simp only [stage, phaseARxMoves, received]
      exact along_singleton ⟨fun _ => spares trivial, by simp⟩
  | duplicate stage received =>
      simp only [stage, received] at spares
      simp only [stage, responderRxMoves, received]
      exact along_singleton ⟨fun _ => spares trivial, by simp⟩
  | suppressed stage received | empty stage received =>
      simp only [stage, received] at spares
      simp only [stage, responderRxMoves, received]
      rw [pulls_afterBody] at pulls
      exact along_singleton ⟨fun _ => spares pulls, by simp⟩
  | taken stage received =>
      simp only [stage, received] at spares
      simp only [stage, responderRxMoves, received]
      exact along_singleton ⟨fun _ => spares pulls, by simp⟩
  | phaseAApp stage | responderApp stage =>
      simp only [stage] at spares ⊢
      exact spared_pollApp spares
  | phaseAFeed stage | responderFeed stage =>
      simp only [stage]
      exact s.spared_pollFeed
  | unstarted stage received =>
      simp only [stage, phaseARxMoves, received]
      trivial
  | unsent stage received =>
      simp only [stage, responderRxMoves, received]
      trivial
  | phaseAAgain stage running | responderAgain stage running =>
      simp only [stage, running]
      trivial
  | hand stage receiver =>
      simp only [stage, receiver, if_true]
      trivial
  | early | neverStarted | startTimeout | rejected | finished | appTimeout | gone | told | close
  | observe => cases pulls

/-- While the loops go on, the moves of the feeding side are spared and send no disconnect. -/
theorem SparesPut.moves (spares : s.SparesPut action) (stepped : s.step request action = some next)
    (pulls : next.stage.pulls = true) :
    Along Feed.step (fun feed move => feed.SparesPut move ∧ move ≠ .disconnect) s.feed
      (s.moves request action) := by
  cases step_cases stepped with
  | poll polled => exact spared_poll spares polled pulls
  | @feed action move _ own =>
      rw [moves_of_move own]
      apply along_singleton
      cases action <;> cases own <;> exact spared_of_other (by simp) (by simp) (by simp)
  | refused | dropService => cases pulls
  | established | push | park | unpark | exit | settle | dropSink | startDeadline | appDeadline
  | takeChunk | dropBody | reaped | reapTimeout => trivial

/-- Without a poll of the feed branch no chunk is added. -/
theorem chunks_of_unpolled (unpolled : .poll ∉ s.moves request action)
    (stepped : s.step request action = some next) : next.feed.chunks ≤ s.feed.chunks := by
  have along : Along Feed.step (fun _ move => move ≠ .poll) s.feed (s.moves request action) := by
    apply along_of_forall
    rintro move member _ rfl
    exact unpolled member
  apply run_invariant (fun feed : Feed => feed.chunks ≤ s.feed.chunks) _ along
    (step_moves stepped) (Nat.le_refl _)
  intro feed move next few other moved
  exact (Feed.chunks_step other moved).trans few

theorem backed_moves {moves : List Feed.Move} {feed after : Feed} (backed : feed.Backed)
    (along : Along Feed.step (fun feed move => feed.SparesPut move ∧ move ≠ .disconnect) feed moves)
    (ran : run Feed.step feed moves = some after) : after.Backed := by
  apply run_invariant Feed.Backed _ along ran backed
  intro feed move next backed allowed moved
  exact backed.step allowed.1 allowed.2 moved

theorem buffered_init (request : Request) (frames : List Frame) (failure : Bool) :
    (init request (.new frames failure)).Buffered where
  few := Nat.zero_le _
  backed := fun _ => Feed.backed_new frames request.hasBody failure

theorem Buffered.step (buffered : s.Buffered) (spares : s.SparesPut action)
    (stepped : s.step request action = some next) : next.Buffered := by
  refine ⟨?_, ?_⟩
  · by_cases polled : .poll ∈ s.moves request action
    · have along := s.spared_pollFeed
      rw [← moves_of_poll_mem polled] at along
      have backed := buffered.backed (pulls_of_poll_mem polled)
      exact (backed_moves backed along (step_moves stepped)).few
    · exact (chunks_of_unpolled polled stepped).trans buffered.few
  · intro pulls
    have before := buffered.backed (pulls_step stepped pulls)
    exact backed_moves before (spares.moves stepped pulls) (step_moves stepped)

/-- The application holds the peer back: besides the full queue one chunk is in flight. -/
theorem chunks_le_of_spares (frames : List Frame) (failure : Bool)
    (spares : Along (step request) SparesPut (init request (.new frames failure)) actions)
    (ran : run (step request) (init request (.new frames failure)) actions = some final) :
    final.feed.chunks ≤ requestQueueMaxsize + 1 := by
  have buffered : final.Buffered := by
    apply run_invariant Buffered _ spares ran (buffered_init request frames failure)
    intro s action next buffered spares stepped
    exact buffered.step spares stepped
  exact buffered.few

/-- The start event supersedes the put of the first chunk, which finds a slot. -/
def roomyRun : List Action :=
  [.established true, .frameArrives, .frameArrives, .poll, .poll, .poll,
    .push (.start 200 []) false, .poll, .poll, .poll, .poll, .poll, .poll]

theorem chunks_le_of_spares_roomy :
    ∃ final, run (step upload) (init upload (.new [.data [1], .data [2]] false)) roomyRun =
        some final ∧ final.feed.chunks ≤ requestQueueMaxsize + 1 := by
  have ran : ∃ final, run (step upload) (init upload (.new [.data [1], .data [2]] false))
      roomyRun = some final ∧ final.feed.chunks = 2 := exists_of_run_any (by decide)
  rcases ran with ⟨final, ran, _⟩
  exact ⟨final, ran, chunks_le_of_spares _ false (by decide) ran⟩

/-- The responder pulls one more frame. -/
def crowdedRun : List Action :=
  fillingRun ++ (supersedingRun ++ [.poll, .poll, .poll, .poll])

theorem chunks_crowded :
    ∃ final, run (step upload) (init upload (.new uploadFrames false)) crowdedRun = some final ∧
      ¬ final.feed.chunks ≤ requestQueueMaxsize + 1 := by
  rw [crowdedRun, run_append, run_fillingRun, Option.bind_some]
  exact exists_of_run_any (by decide +kernel)

end Http

end RustAsgi
