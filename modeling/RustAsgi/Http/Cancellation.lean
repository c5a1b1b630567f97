import RustAsgi.Http.FeedOrder

/-!
# Cancelling a step of the feed

The select loops drop `feed_step` whenever another branch wins and build it anew in
the next round. The future does not suspend between a frame in hand and the put of
it, so a drop finds either no frame pulled or a put that lives on in the event loop.
-/

namespace RustAsgi

open Machine

namespace Feed

variable {frames : List Frame} {feed next : Feed} {move : Move}

/-- The non-empty data frames that `body.frame()` has handed out, in order. -/
def pulledChunks (feed : Feed) : List Bytes :=
  feed.pulled.filterMap FrameResult.chunk?

/-- The data chunks handed to `queue.put`, in order. -/
def submittedChunks (feed : Feed) : List Bytes :=
  feed.submitted.filterMap Message.chunk?

/-- The non-empty data frames that are still to be pulled. -/
def unreadChunks (feed : Feed) : List Bytes :=
  (feed.body.buffered ++ feed.body.arriving).filterMap Frame.chunk?

/-- The submission of the last chunk has failed, and feeding is over. -/
structure Refused (feed : Feed) (chunk : Bytes) : Prop where
  stopped : feed.running = false
  released : feed.bodyOpt = false
  last : feed.pulledChunks = feed.submittedChunks ++ [chunk]

/-- Every chunk is unread, submitted, or the one whose submission ended the feed. -/
structure Accounted (frames : List Frame) (feed : Feed) : Prop where
  read : feed.pulledChunks ++ feed.unreadChunks = frames.filterMap Frame.chunk?
  submitted : feed.submittedChunks = feed.pulledChunks ∨ ∃ chunk, feed.Refused chunk

theorem pulledChunks_read (feed : Feed) (body : Incoming) (result : FrameResult) :
    (feed.read body result).pulledChunks = feed.pulledChunks ++ result.chunk?.toList :=
  filterMap_concat FrameResult.chunk? feed.pulled result

theorem submittedChunks_enqueue (feed : Feed) (message : Message) (nowait : Bool) :
    (feed.enqueue message nowait).submittedChunks =
      feed.submittedChunks ++ message.chunk?.toList :=
  filterMap_concat Message.chunk? feed.submitted message

/-- A pull moves a chunk from the unread ones to the pulled ones. -/
theorem chunks_read {body : Incoming} {result : FrameResult}
    (available : feed.body.frame = some (result, body)) :
    (feed.read body result).pulledChunks ++ (feed.read body result).unreadChunks =
      feed.pulledChunks ++ feed.unreadChunks := by
  rw [pulledChunks_read, List.append_assoc]
  exact congrArg (feed.pulledChunks ++ ·) (frame_chunks available)

/-- While the body is held, no submission has failed. -/
theorem Accounted.submitted_eq (accounted : Accounted frames feed) (bodyOpt : feed.bodyOpt = true) :
    feed.submittedChunks = feed.pulledChunks := by
  rcases accounted.submitted with same | ⟨_, refused⟩
  · exact same
  · rw [refused.released] at bodyOpt
    cases bodyOpt

/-- A move that pulls nothing, submits no chunk and revives neither the body nor the loop. -/
theorem Accounted.of_same (accounted : Accounted frames feed)
    (pulled : next.pulledChunks = feed.pulledChunks)
    (submitted : next.submittedChunks = feed.submittedChunks)
    (unread : next.unreadChunks = feed.unreadChunks)
    (bodyOpt : feed.bodyOpt = false → next.bodyOpt = false)
    (running : feed.running = false → next.running = false) : Accounted frames next := by
  refine ⟨?_, ?_⟩
  · rw [pulled, unread]
    exact accounted.read
  · rw [submitted, pulled]
    rcases accounted.submitted with same | ⟨chunk, refused⟩
    · exact .inl same
    · refine .inr ⟨chunk, running refused.stopped, bodyOpt refused.released, ?_⟩
      rw [pulled, submitted]
      exact refused.last

/-- A message without body data may be submitted at any time. -/
theorem Accounted.enqueue_silent {message : Message} (accounted : Accounted frames feed)
    (silent : message.chunk? = none) (nowait : Bool) :
    Accounted frames (feed.enqueue message nowait) := by
  have submitted := submittedChunks_enqueue feed message nowait
  rw [silent, Option.toList_none, List.append_nil] at submitted
  exact accounted.of_same rfl submitted rfl id id

/-- The frame in hand and the put of its chunk are one step of the future. -/
theorem Accounted.put {body : Incoming} {result : FrameResult}
    (accounted : Accounted frames feed) (message : Message) (bodyOpt : feed.bodyOpt = true)
    (available : feed.body.frame = some (result, body))
    (carries : message.chunk? = result.chunk?) :
    Accounted frames ((feed.read body result).enqueue message false) where
  read := (chunks_read available).trans accounted.read
  submitted := by
    left
    calc ((feed.read body result).enqueue message false).submittedChunks
        = feed.submittedChunks ++ message.chunk?.toList := submittedChunks_enqueue _ _ _
      _ = feed.pulledChunks ++ result.chunk?.toList := by
          rw [accounted.submitted_eq bodyOpt, carries]
      _ = (feed.read body result).pulledChunks := (pulledChunks_read _ _ _).symm

/-- A frame without data is skipped. -/
theorem Accounted.skip {body : Incoming} {result : FrameResult}
    (accounted : Accounted frames feed) (bodyOpt : feed.bodyOpt = true)
    (available : feed.body.frame = some (result, body)) (silent : result.chunk? = none) :
    Accounted frames (feed.read body result) where
  read := (chunks_read available).trans accounted.read
  submitted := by
    left
    rw [pulledChunks_read, silent, Option.toList_none, List.append_nil]
    exact accounted.submitted_eq bodyOpt

theorem Accounted.refuse {body : Incoming} {bytes : Bytes} (accounted : Accounted frames feed)
    (bodyOpt : feed.bodyOpt = true)
    (available : feed.body.frame = some (.frame (.data bytes), body)) (nonempty : bytes ≠ [])
    (stopped : feed.running = false) :
    Accounted frames ((feed.read body (.frame (.data bytes))).finish false) where
  read := (chunks_read available).trans accounted.read
  submitted := by
    right
    refine ⟨bytes, stopped, Bool.and_false _, ?_⟩
    have pulled := pulledChunks_read feed body (.frame (.data bytes))
    simp only [FrameResult.chunk?, Frame.chunk?, nonempty, if_false, Option.toList_some] at pulled
    rw [← accounted.submitted_eq bodyOpt] at pulled
    exact pulled

theorem Accounted.finish {fed : Bool} (accounted : Accounted frames feed) :
    Accounted frames (feed.finish fed) := by
  refine accounted.of_same rfl rfl rfl ?_ (fun stopped => stopped)
  intro released
  simp only [Feed.finish, released, Bool.false_and]

theorem Accounted.polled (accounted : Accounted frames feed) (bodyOpt : feed.bodyOpt = true)
    (polled : Polled feed next) : Accounted frames next := by
  cases polled with
  | skip _ available noChunk => exact (accounted.skip bodyOpt available noChunk).finish
  | @chunk bytes _ _ available =>
      have put := accounted.put (.request bytes true) bodyOpt available rfl
      exact put.of_same rfl rfl rfl id id
  | chunkRefused _ available nonempty stopped =>
      exact accounted.refuse bodyOpt available nonempty stopped
  | @ending result _ _ available atEnd =>
      have silent : result.chunk? = none := by
        rcases atEnd with rfl | rfl <;> rfl
      have put := accounted.put .terminal bodyOpt available silent.symm
      exact put.of_same rfl rfl rfl id id
  | endingRefused _ available atEnd =>
      refine (accounted.skip bodyOpt available ?_).finish
      rcases atEnd with rfl | rfl <;> rfl
  | completed => exact accounted.finish
  | failed => exact (accounted.enqueue_silent rfl true).of_same rfl rfl rfl id id

/-- The step lemma: no move loses or repeats a chunk, a drop at any await point included. -/
theorem Accounted.step (accounted : Accounted frames feed)
    (stepped : feed.step move = some next) : Accounted frames next := by
  cases step_cases stepped with
  | poll bodyOpt _ polled => exact accounted.polled bodyOpt polled
  | frameArrives arriving =>
      exact accounted.of_same rfl rfl (by simp [unreadChunks, arriving]) id id
  | disconnect => exact accounted.enqueue_silent rfl true
  | disconnectRefused => exact accounted
  | release => exact accounted.of_same rfl rfl rfl (fun _ => rfl) id
  | stop => exact accounted.of_same rfl rfl rfl id (fun _ => rfl)
  | bodyEnds | drop | handOver | timeout | turn | first | get =>
      exact accounted.of_same rfl rfl rfl id id

theorem Accounted.run {moves : List Move} (accounted : Accounted frames feed)
    (ran : Machine.run Feed.step feed moves = some next) : Accounted frames next := by
  apply run_invariant_of_step (Accounted frames) _ ran accounted
  intro feed move next accounted stepped
  exact accounted.step stepped

end Feed

namespace Http

variable {request : Request} {final : Http} {actions : List Action}

end Http

end RustAsgi
