import RustAsgi.Machine
import RustAsgi.Asyncio.Queue

/-!
# Feeding a request body

`feed_step` moves one frame of the request body into the application's queue. It
is one branch of the `select!` loops of `handle_http`, so its future is polled,
dropped and rebuilt at the pleasure of the other branches, while the put it has
scheduled lives on in the event loop.

`Feed` is everything `feed_step` and the application's `receive` touch: the body
stream, the locals `body_opt` and `feeding`, the state of the current future and
the event loop with its queue. `Feed.step` is the machine of that part alone;
`handle_http` drives it.
-/

namespace RustAsgi

abbrev Bytes := List UInt8

/-- `REQUEST_QUEUE_MAXSIZE`. -/
def requestQueueMaxsize : ℕ := 64

/-- The messages an HTTP application can receive. -/
inductive Message where
  | request (body : Bytes) (moreBody : Bool)
  | disconnect
  deriving DecidableEq, Repr

namespace Message

def terminal : Message :=
  .request [] false

/-- An `http.request` with `more_body=False`. -/
def isTerminal : Message → Bool
  | .request _ false => true
  | _ => false

def isRequest : Message → Bool
  | .request _ _ => true
  | .disconnect => false

/-- The body of an `http.request` that carries data. -/
def chunk? : Message → Option Bytes
  | .request body _ => if body = [] then none else some body
  | .disconnect => none

end Message

/-- The frames of a request body: data, or metadata that is skipped. -/
inductive Frame where
  | data (bytes : Bytes)
  | trailers
  deriving DecidableEq, Repr

namespace Frame

def chunk? : Frame → Option Bytes
  | .data bytes => if bytes = [] then none else some bytes
  | .trailers => none

end Frame

/-- hyper's body stream: what is still on the wire and what has arrived unread. -/
structure Incoming where
  arriving : List Frame
  buffered : List Frame
  /-- The stream breaks off with an error instead of ending. -/
  failure : Bool
  /-- The end, or the failure, has arrived. -/
  ended : Bool
  /-- The failure has been handed to the reader. -/
  reported : Bool
  deriving DecidableEq, Repr

/-- What a poll of `body.frame()` that is ready yields. -/
inductive FrameResult where
  | frame (frame : Frame)
  | error
  | finished
  deriving DecidableEq, Repr

namespace FrameResult

def chunk? : FrameResult → Option Bytes
  | .frame read => read.chunk?
  | _ => none

end FrameResult

namespace Incoming

def new (frames : List Frame) (failure : Bool) : Incoming :=
  { arriving := frames, buffered := [], failure, ended := false, reported := false }

/-- `body.frame()`: an error is reported once, and after the end it stays at the end. -/
def frame (body : Incoming) : Option (FrameResult × Incoming) :=
  match body.buffered with
  | frame :: rest => some (.frame frame, { body with buffered := rest })
  | [] =>
      if body.ended then
        if body.failure && !body.reported then
          some (.error, { body with reported := true })
        else some (.finished, body)
      else none

end Incoming

/-- Where the future of the current `feed_step` stands. A future that has not been
polled yet waits for a frame, which loses nothing when dropped. -/
inductive FeedFuture where
  | frame
  | chunk (id : ℕ)
  | terminal (id : ℕ)
  | disconnect (id : ℕ)
  deriving DecidableEq, Repr

/-- The feeding side of one request. -/
structure Feed where
  body : Incoming
  /-- `body_opt.is_some()`. -/
  bodyOpt : Bool
  feeding : Bool
  future : FeedFuture
  /-- The timer of the put that is being awaited has fired. -/
  timedOut : Bool
  loop : Asyncio.Loop Message
  /-- `loop.is_running()`, which `into_future` checks. -/
  running : Bool
  nextId : ℕ
  /-- `_Receive._first`, the pre-seeded message of a bodyless request. -/
  first : Option Message
  /-- What `body.frame()` has handed out, in order. -/
  pulled : List FrameResult
  /-- The messages handed to the event loop for the queue, in order. -/
  submitted : List Message
  /-- The messages the application has received, in order. -/
  received : List Message
  deriving DecidableEq, Repr

inductive FeedPoll where
  | pending
  | progress (feed : Feed)
  | ready (fed : Bool) (feed : Feed)

namespace Feed

def new (hasBody : Bool) (body : Incoming) : Feed :=
  { body, bodyOpt := hasBody, feeding := hasBody, future := .frame, timedOut := false,
    loop := .empty requestQueueMaxsize, running := true, nextId := 0,
    first := if hasBody then none else some .terminal,
    pulled := [], submitted := [], received := [] }

/-- `queue.put(message)` or `put_nowait(message)` becomes a coroutine of the loop. -/
def enqueue (feed : Feed) (message : Message) (nowait : Bool) : Feed :=
  { feed with
    loop := feed.loop.submit { id := feed.nextId, item := message, nowait }
    nextId := feed.nextId + 1
    timedOut := false
    submitted := feed.submitted ++ [message] }

/-- Schedule a put through `into_future`, which refuses when the loop has stopped. -/
def schedule (feed : Feed) (message : Message) (nowait : Bool) : Option (ℕ × Feed) :=
  if feed.running then some (feed.nextId, feed.enqueue message nowait) else none

def feedMessage (feed : Feed) (message : Message) : Option (ℕ × Feed) :=
  feed.schedule message false

def feedDisconnect (feed : Feed) : Option (ℕ × Feed) :=
  feed.schedule .disconnect true

def await (feed : Feed) (future : FeedFuture) : Feed :=
  { feed with future }

def settled (feed : Feed) (id : ℕ) : Bool :=
  (feed.loop.outcome? id).isSome || feed.timedOut

def putFailed (feed : Feed) : FeedPoll :=
  match feed.feedDisconnect with
  | some (id, next) => .progress (next.await (.disconnect id))
  | none => .ready false feed

/-- `feed_step` with a frame in hand. There is no suspension point before the put of the
frame has been scheduled. -/
def feedFrame (feed : Feed) : FrameResult → FeedPoll
  | .frame (.data bytes) =>
      if bytes = [] then .ready true feed
      else
        match feed.feedMessage (.request bytes true) with
        | some (id, next) => .progress (next.await (.chunk id))
        | none => feed.putFailed
  | .frame .trailers => .ready true feed
  -- The source has one arm for the end of the body and for its failure.
  | .error | .finished =>
      match feed.feedMessage .terminal with
      | some (id, next) => .progress (next.await (.terminal id))
      | none => .ready false feed

def read (feed : Feed) (body : Incoming) (result : FrameResult) : Feed :=
  { feed with body, pulled := feed.pulled ++ [result] }

@[simp]
theorem read_running (feed : Feed) (body : Incoming) (result : FrameResult) :
    (feed.read body result).running = feed.running :=
  rfl

/-- One poll of the feed branch, up to its next suspension point. -/
def poll (feed : Feed) : FeedPoll :=
  if feed.bodyOpt && feed.feeding then
    match feed.future with
    | .frame =>
        match feed.body.frame with
        | some (result, body) => (feed.read body result).feedFrame result
        | none => .pending
    | .chunk id =>
        if feed.loop.outcome? id = some true then .ready true feed
        else if feed.settled id then feed.putFailed
        else .pending
    | .terminal id => if feed.settled id then .ready false feed else .pending
    | .disconnect id => if feed.settled id then .ready false feed else .pending
  else .pending

/-- Another branch has won: the future is dropped, its put is not. -/
def drop (feed : Feed) : Feed :=
  { feed with future := .frame, timedOut := false }

/-- The feed branch has won with this result. -/
def finish (feed : Feed) (fed : Bool) : Feed :=
  { feed.drop with feeding := fed, bodyOpt := feed.bodyOpt && fed }

/-- The responder takes over: `feeding = has_body && body_opt.is_some()`. -/
def handOver (feed : Feed) (hasBody : Bool) : Feed :=
  { feed.drop with feeding := hasBody && feed.bodyOpt }

/-- The owner of the body is gone; nothing is fed any more. -/
def release (feed : Feed) : Feed :=
  { feed.drop with bodyOpt := false }

/-- `receive()`: the pre-seeded message first, then the queue. -/
def receive (feed : Feed) : Option Feed :=
  match feed.first with
  | some message =>
      some { feed with first := none, received := feed.received ++ [message] }
  | none =>
      match feed.loop.get with
      | some (put, loop) => some { feed with loop, received := feed.received ++ [put.item] }
      | none => none

def afterPoll : FeedPoll → Option Feed
  | .pending => none
  | .progress next => some next
  | .ready fed next => some (next.finish fed)

inductive Move where
  | frameArrives
  | bodyEnds
  | poll
  | drop
  | handOver (hasBody : Bool)
  | release
  | disconnect
  | timeout
  | turn
  | receive
  | stop
  deriving DecidableEq, Repr

def step (feed : Feed) : Move → Option Feed
  | .frameArrives =>
      match feed.body.arriving with
      | frame :: rest =>
          some { feed with
            body := { feed.body with
              arriving := rest, buffered := feed.body.buffered ++ [frame] } }
      | [] => none
  | .bodyEnds =>
      if feed.body.arriving = [] then
        some { feed with body := { feed.body with ended := true } }
      else none
  | .poll => afterPoll feed.poll
  | .drop => some feed.drop
  | .handOver hasBody => some (feed.handOver hasBody)
  | .release => some feed.release
  | .disconnect => some ((feed.feedDisconnect.map Prod.snd).getD feed)
  | .timeout => some { feed with timedOut := true }
  | .turn => feed.loop.turn.map fun loop => { feed with loop }
  | .receive => feed.receive
  | .stop => some { feed with running := false }

/-- Everything one poll of the feed branch can do to the feeding side. -/
inductive Polled (feed : Feed) : Feed → Prop where
  | skip {frame : Frame} {body : Incoming} (future : feed.future = .frame)
      (available : feed.body.frame = some (.frame frame, body)) (noChunk : frame.chunk? = none) :
      Polled feed ((feed.read body (.frame frame)).finish true)
  | chunk {bytes : Bytes} {body : Incoming} (future : feed.future = .frame)
      (available : feed.body.frame = some (.frame (.data bytes), body)) (nonempty : bytes ≠ [])
      (running : feed.running = true) :
      Polled feed (((feed.read body (.frame (.data bytes))).enqueue (.request bytes true)
        false).await (.chunk feed.nextId))
  | chunkRefused {bytes : Bytes} {body : Incoming} (future : feed.future = .frame)
      (available : feed.body.frame = some (.frame (.data bytes), body)) (nonempty : bytes ≠ [])
      (stopped : feed.running = false) :
      Polled feed ((feed.read body (.frame (.data bytes))).finish false)
  | ending {result : FrameResult} {body : Incoming} (future : feed.future = .frame)
      (available : feed.body.frame = some (result, body))
      (atEnd : result = .error ∨ result = .finished) (running : feed.running = true) :
      Polled feed (((feed.read body result).enqueue .terminal false).await
        (.terminal feed.nextId))
  | endingRefused {result : FrameResult} {body : Incoming} (future : feed.future = .frame)
      (available : feed.body.frame = some (result, body))
      (atEnd : result = .error ∨ result = .finished) (stopped : feed.running = false) :
      Polled feed ((feed.read body result).finish false)
  | completed (fed : Bool) (pendingPut : feed.future ≠ .frame) : Polled feed (feed.finish fed)
  | failed {id : ℕ} (future : feed.future = .chunk id) (running : feed.running = true) :
      Polled feed ((feed.enqueue .disconnect true).await (.disconnect feed.nextId))

theorem polled_of_putFailed {feed next : Feed} {id : ℕ} (future : feed.future = .chunk id)
    (failed : afterPoll feed.putFailed = some next) : Polled feed next := by
  cases running : feed.running with
  | true =>
      simp only [putFailed, feedDisconnect, schedule, running, if_true, afterPoll,
        Option.some.injEq] at failed
      subst next
      exact .failed future running
  | false =>
      simp only [putFailed, feedDisconnect, schedule, running, Bool.false_eq_true, if_false,
        afterPoll, Option.some.injEq] at failed
      subst next
      exact .completed false (by simp [future])

theorem polled_of_feedFrame {feed next : Feed} {result : FrameResult} {body : Incoming}
    (future : feed.future = .frame) (available : feed.body.frame = some (result, body))
    (fed : afterPoll ((feed.read body result).feedFrame result) = some next) :
    Polled feed next := by
  have ending (atEnd : result = .error ∨ result = .finished)
      (same : (feed.read body result).feedFrame result =
        match (feed.read body result).feedMessage .terminal with
        | some (id, next) => .progress (next.await (.terminal id))
        | none => .ready false (feed.read body result)) : Polled feed next := by
    rw [same] at fed
    cases running : feed.running with
    | true =>
        simp only [feedMessage, schedule, read_running, running, if_true, afterPoll,
          Option.some.injEq] at fed
        subst next
        exact .ending future available atEnd running
    | false =>
        simp only [feedMessage, schedule, read_running, running, Bool.false_eq_true, if_false,
          afterPoll, Option.some.injEq] at fed
        subst next
        exact .endingRefused future available atEnd running
  cases result with
  | error => exact ending (.inl rfl) rfl
  | finished => exact ending (.inr rfl) rfl
  | frame frame =>
      cases frame with
      | trailers =>
          simp only [feedFrame, afterPoll, Option.some.injEq] at fed
          subst next
          exact .skip future available rfl
      | data bytes =>
          by_cases empty : bytes = []
          · simp only [feedFrame, empty, if_true, afterPoll, Option.some.injEq] at fed
            subst next
            subst bytes
            exact .skip future available rfl
          · cases running : feed.running with
            | true =>
                simp only [feedFrame, empty, if_false, feedMessage, schedule, read_running, running,
                  if_true, afterPoll, Option.some.injEq] at fed
                subst next
                exact .chunk future available empty running
            | false =>
                simp only [feedFrame, empty, if_false, feedMessage, schedule, read_running, running,
                  Bool.false_eq_true, putFailed, feedDisconnect, afterPoll,
                  Option.some.injEq] at fed
                subst next
                exact .chunkRefused future available empty running

/-- The inversion of a poll that is not pending. -/
theorem polled_of_step {feed next : Feed} (stepped : feed.step .poll = some next) :
    feed.bodyOpt = true ∧ feed.feeding = true ∧ Polled feed next := by
  simp only [step, poll] at stepped
  split at stepped
  · rename_i guarded
    simp only [Bool.and_eq_true] at guarded
    refine ⟨guarded.1, guarded.2, ?_⟩
    split at stepped
    · rename_i future
      split at stepped
      · rename_i result body available
        exact polled_of_feedFrame future available stepped
      · simp [afterPoll] at stepped
    · rename_i id future
      split at stepped
      · simp only [afterPoll, Option.some.injEq] at stepped
        subst next
        exact .completed true (by simp [future])
      · split at stepped
        · exact polled_of_putFailed future stepped
        · simp [afterPoll] at stepped
    · rename_i id future
      split at stepped
      · simp only [afterPoll, Option.some.injEq] at stepped
        subst next
        exact .completed false (by simp [future])
      · simp [afterPoll] at stepped
    · rename_i id future
      split at stepped
      · simp only [afterPoll, Option.some.injEq] at stepped
        subst next
        exact .completed false (by simp [future])
      · simp [afterPoll] at stepped
  · simp [afterPoll] at stepped

/-- Everything a move of the feeding side can do. -/
inductive Step (feed : Feed) : Move → Feed → Prop where
  | frameArrives {frame : Frame} {rest : List Frame}
      (arriving : feed.body.arriving = frame :: rest) :
      Step feed .frameArrives { feed with
        body := { feed.body with arriving := rest, buffered := feed.body.buffered ++ [frame] } }
  | bodyEnds (arriving : feed.body.arriving = []) :
      Step feed .bodyEnds { feed with body := { feed.body with ended := true } }
  | poll {next : Feed} (bodyOpt : feed.bodyOpt = true) (feeding : feed.feeding = true)
      (polled : Polled feed next) : Step feed .poll next
  | drop : Step feed .drop feed.drop
  | handOver (hasBody : Bool) : Step feed (.handOver hasBody) (feed.handOver hasBody)
  | release : Step feed .release feed.release
  | disconnect (running : feed.running = true) :
      Step feed .disconnect (feed.enqueue .disconnect true)
  | disconnectRefused (stopped : feed.running = false) : Step feed .disconnect feed
  | timeout : Step feed .timeout { feed with timedOut := true }
  | turn {loop : Asyncio.Loop Message} (turned : feed.loop.turn = some loop) :
      Step feed .turn { feed with loop }
  | first {message : Message} (first : feed.first = some message) :
      Step feed .receive { feed with first := none, received := feed.received ++ [message] }
  | get {put : Asyncio.Put Message} {loop : Asyncio.Loop Message} (first : feed.first = none)
      (got : feed.loop.get = some (put, loop)) :
      Step feed .receive { feed with loop, received := feed.received ++ [put.item] }
  | stop : Step feed .stop { feed with running := false }

theorem step_cases {feed next : Feed} {move : Move} (stepped : feed.step move = some next) :
    Step feed move next := by
  cases move with
  | frameArrives =>
      simp only [step] at stepped
      split at stepped
      · rename_i frame rest arriving
        exact Option.some.inj stepped ▸ .frameArrives arriving
      · cases stepped
  | bodyEnds =>
      simp only [step, Option.ite_none_right_eq_some, Option.some.injEq] at stepped
      rcases stepped with ⟨arriving, rfl⟩
      exact .bodyEnds arriving
  | poll =>
      rcases polled_of_step stepped with ⟨bodyOpt, feeding, polled⟩
      exact .poll bodyOpt feeding polled
  | drop => exact Option.some.inj stepped ▸ .drop
  | handOver hasBody => exact Option.some.inj stepped ▸ .handOver hasBody
  | release => exact Option.some.inj stepped ▸ .release
  | timeout => exact Option.some.inj stepped ▸ .timeout
  | stop => exact Option.some.inj stepped ▸ .stop
  | turn =>
      simp only [step, Option.map_eq_some_iff] at stepped
      rcases stepped with ⟨loop, turned, rfl⟩
      exact .turn turned
  | disconnect =>
      rw [← Option.some.inj stepped]
      cases running : feed.running with
      | true =>
          simp only [feedDisconnect, schedule, running, if_true]
          exact .disconnect running
      | false =>
          simp only [feedDisconnect, schedule, running, Bool.false_eq_true, if_false]
          exact .disconnectRefused running
  | receive =>
      simp only [step, receive] at stepped
      split at stepped
      · rename_i message first
        exact Option.some.inj stepped ▸ .first first
      · rename_i first
        split at stepped
        · rename_i put loop got
          exact Option.some.inj stepped ▸ .get first got
        · cases stepped

end Feed

end RustAsgi
