import RustAsgi.Http.Backpressure
import RustAsgi.Http.Body

/-!
# What can hold a request

Every await of `handle_http` is bounded by a timer except `sender.send_data(..)`, which
waits for the connection to read. While the responder has no more chunks to hand over
than the response body has room for, the handler reaches its end by its own steps,
whatever the application and the event loop do or leave undone.
-/

namespace RustAsgi

open Machine Tokio

namespace Feed

variable {feed next : Feed}

/-- What the feed branch can still do before it needs the network, one frame at a time. -/
def work (feed : Feed) : ℕ :=
  if feed.bodyOpt then
    4 * feed.body.buffered.length +
      match feed.future with
      | .chunk _ => 4
      | .frame => 2
      | .terminal _ | .disconnect _ => 1
  else 0

theorem work_drop (feed : Feed) : feed.drop.work ≤ feed.work + 1 := by
  simp only [work, drop]
  by_cases owned : feed.bodyOpt = true
  · simp only [owned, if_true]
    split <;> omega
  · simp only [owned]
    exact Nat.zero_le _

theorem work_handOver (hasBody : Bool) (feed : Feed) :
    (feed.handOver hasBody).work ≤ feed.work + 1 :=
  feed.work_drop

theorem work_startDisconnect (feed : Feed) : (Http.startDisconnect feed).2.work = feed.work := by
  simp only [Http.startDisconnect, feedDisconnect, schedule]
  split
  · rename_i id next scheduled
    split at scheduled
    · cases scheduled
      rfl
    · cases scheduled
  · rfl

theorem buffered_frame {body after : Incoming} {result : FrameResult}
    (available : body.frame = some (result, after)) :
    after.buffered.length ≤ body.buffered.length ∧
      ∀ frame, result = .frame frame → after.buffered.length + 1 = body.buffered.length := by
  simp only [Incoming.frame] at available
  split at available
  · rename_i frame rest buffered
    cases available
    simp [buffered]
  · rename_i drained
    split at available
    · split at available <;> cases available <;> simp [drained]
    · cases available

/-- A poll of the feed branch that is not pending comes closer to the end of the work. -/
theorem work_poll (stepped : feed.step .poll = some next) : next.work < feed.work := by
  rcases polled_of_step stepped with ⟨bodyOpt, feeding, polled⟩
  cases polled with
  | skip future available =>
      have fewer := (buffered_frame available).2 _ rfl
      simp only [work, read, finish, drop, bodyOpt, future, Bool.and_self, if_true]
      omega
  | chunk future available =>
      have fewer := (buffered_frame available).2 _ rfl
      simp only [work, read, enqueue, await, bodyOpt, future, if_true]
      omega
  | ending future available =>
      have fewer := (buffered_frame available).1
      simp only [work, read, enqueue, await, bodyOpt, future, if_true]
      omega
  | chunkRefused future | endingRefused future =>
      simp [work, read, finish, bodyOpt, future]
  | completed fed pendingPut =>
      cases fed with
      | true =>
          rcases outcome_of_fed pendingPut stepped with ⟨id, future, _⟩
          simp only [work, finish, drop, bodyOpt, future, Bool.and_self, if_true]
          omega
      | false =>
          simp only [work, finish, bodyOpt, Bool.and_false, Bool.false_eq_true, if_false, if_true]
          split <;> omega
  | failed future =>
      simp only [work, enqueue, await, bodyOpt, future, if_true]
      omega

end Feed

/-- Only the handler takes these: it is polled, or one of its own timers fires. -/
def Action.ofHandler : Action → Bool
  | .poll | .startDeadline | .appDeadline | .putTimeout => true
  | _ => false

namespace Request

/-- The chunks that the responder hands over before it has read these events. -/
def chunks (request : Request) : List ResponseEvent → ℕ
  | [] => 0
  | .start _ _ :: rest => request.chunks rest
  | .body data moreBody :: rest =>
      (if request.isHead = true ∨ data = [] then 0 else 1) +
        if moreBody then request.chunks rest else 0

theorem chunks_le_length (request : Request) (events : List ResponseEvent) :
    request.chunks events ≤ events.length := by
  induction events with
  | nil => exact Nat.le_refl 0
  | cons event rest ih =>
      cases event with
      | start status headers => exact Nat.le_succ_of_le ih
      | body data moreBody =>
          simp only [chunks, List.length_cons]
          split <;> split <;> omega

theorem chunks_append (request : Request) (events later : List ResponseEvent) :
    request.chunks events ≤ request.chunks (events ++ later) := by
  induction events with
  | nil => exact Nat.zero_le _
  | cons event rest ih =>
      cases event with
      | start status headers => exact ih
      | body data moreBody =>
          simp only [chunks, List.cons_append]
          cases moreBody with
          | true => exact Nat.add_le_add_left ih _
          | false => exact Nat.le_refl _

end Request

namespace Branch

def ahead : Branch → ℕ
  | .rx => 3
  | .app => 2
  | .feed => 1
  | .deadline => 0

end Branch

namespace Stage

/-- How far a stage is from the end, with room for what a branch that wins gives back. -/
def ahead : Stage → ℕ
  | .establish => 35
  | .phaseA branch => 31 + branch.ahead
  | .rejected _ => 30
  | .sendData _ _ => 19
  | .responder branch => 11 + branch.ahead
  | .clientGone _ => 4
  | .closing => 3
  | .observing => 2
  | .done => 0

/-- The responder's `select!` has looked at its channel and not yet at the other branches. -/
def midPass : Stage → Bool
  | .responder .app | .responder .feed | .responder .deadline => true
  | _ => false

end Stage

namespace Http

variable {request : Request} {s next : Http} {action : Action}

/-- The measure that the handler's own steps lower. -/
def ahead (s : Http) : ℕ :=
  s.stage.ahead + 40 * s.chan.buffer.length + 10 * (!s.appDone).toNat + 4 * s.feed.work +
    (!s.feed.timedOut).toNat + (!s.startTimer).toNat + (!s.appTimer).toNat + s.body.queue.length

/-- The handler awaits `send_data` on a response body that is full. -/
def Full (s : Http) : Prop :=
  ∃ data moreBody, s.stage = .sendData data moreBody ∧ s.body.receiver = true ∧
    responseChannelBound ≤ s.body.queue.length

theorem ahead_afterBody (moreBody : Bool) : (afterBody moreBody).ahead ≤ 14 := by
  cases moreBody <;> simp [afterBody, Stage.ahead, Branch.ahead]

theorem ahead_pollApp {back onward : Stage} (backward : back.ahead ≤ s.stage.ahead + 1)
    (forward : onward.ahead < s.stage.ahead) : (s.pollApp back onward).ahead < s.ahead := by
  have dropped := s.feed.work_drop
  simp only [pollApp]
  split
  · simp only [ahead]
    omega
  · rename_i unseen
    have looking := Bool.eq_false_iff.mpr unseen
    split
    · simp only [ahead, observeApp, looking, Feed.drop, Bool.not_true, Bool.not_false,
        Bool.toNat_true, Bool.toNat_false] at dropped ⊢
      omega
    · simp only [ahead]
      omega

theorem pollFeed_cases (back onward : Stage) (s : Http) :
    s.pollFeed back onward = { s with stage := onward } ∨
      ∃ feed, s.feed.step .poll = some feed ∧
        (s.pollFeed back onward = { s with feed } ∨
          s.pollFeed back onward = { s with stage := back, feed }) := by
  simp only [pollFeed, Feed.step]
  cases s.feed.poll with
  | pending => exact .inl rfl
  | progress feed => exact .inr ⟨feed, rfl, .inl rfl⟩
  | ready fed feed => exact .inr ⟨feed.finish fed, rfl, .inr rfl⟩

theorem ahead_pollFeed {back onward : Stage} (backward : back.ahead ≤ s.stage.ahead + 2)
    (forward : onward.ahead < s.stage.ahead) : (s.pollFeed back onward).ahead < s.ahead := by
  rcases s.pollFeed_cases back onward with same | ⟨feed, stepped, same | same⟩
  · simp only [same, ahead]
    omega
  · have less := Feed.work_poll stepped
    have flag := Bool.toNat_le (!feed.timedOut)
    simp only [same, ahead]
    omega
  · have less := Feed.work_poll stepped
    have flag := Bool.toNat_le (!feed.timedOut)
    simp only [same, ahead]
    omega

theorem length_of_recv {value : ResponseEvent} {chan : Mpsc ResponseEvent}
    (received : s.chan.recv = .item value chan) :
    s.chan.buffer.length = chan.buffer.length + 1 := by
  rcases Mpsc.recv_item received with ⟨rest, buffered, rfl⟩
  simp [buffered]

/-- The poll looks at the timer of its `select!`, which has not fired, and starts another pass. -/
def StartsOver (s next : Http) : Prop :=
  s.stage = .phaseA .deadline ∧ s.startTimer = false ∧ next = { s with stage := .phaseA .rx } ∨
    s.stage = .responder .deadline ∧ s.appTimer = false ∧
      next = { s with stage := .responder .rx }

/-- A poll comes closer to the end unless it starts another pass. -/
theorem ahead_poll (polled : Polled request s next) :
    next.stage = .done ∨ next.ahead < s.ahead ∨ s.StartsOver next := by
  have dropped := s.feed.work_drop
  cases polled with
  | start stage received =>
      refine .inr (.inl ?_)
      have fewer := length_of_recv received
      have work := s.feed.work_handOver request.hasBody
      have flag := Bool.toNat_le (!(s.feed.handOver request.hasBody).timedOut)
      simp only [ahead, respond, stage, Stage.ahead, Branch.ahead]
      omega
  | early stage received =>
      refine .inr (.inl ?_)
      have fewer := length_of_recv received
      have work := Feed.work_startDisconnect s.feed.drop
      have flag := Bool.toNat_le (!(startDisconnect s.feed.drop).2.timedOut)
      simp only [ahead, stage, Stage.ahead, Branch.ahead]
      omega
  | neverStarted | startTimeout | rejected | observe => exact .inl rfl
  | unstarted stage | unsent stage =>
      refine .inr (.inl ?_)
      simp only [ahead, stage, Stage.ahead, Branch.ahead]
      omega
  | phaseAApp stage | responderApp stage =>
      refine .inr (.inl ?_)
      apply ahead_pollApp <;> simp [stage, Stage.ahead, Branch.ahead]
  | phaseAFeed stage | responderFeed stage =>
      refine .inr (.inl ?_)
      apply ahead_pollFeed <;> simp [stage, Stage.ahead, Branch.ahead]
  | phaseAAgain stage running => exact .inr (.inr (.inl ⟨stage, running, rfl⟩))
  | responderAgain stage running => exact .inr (.inr (.inr ⟨stage, running, rfl⟩))
  | duplicate stage received =>
      refine .inr (.inl ?_)
      have fewer := length_of_recv received
      have flag := Bool.toNat_le (!s.feed.drop.timedOut)
      simp only [ahead, stage, Stage.ahead, Branch.ahead]
      omega
  | @suppressed data moreBody chan stage received =>
      refine .inr (.inl ?_)
      have fewer := length_of_recv received
      have flag := Bool.toNat_le (!s.feed.drop.timedOut)
      have back := ahead_afterBody moreBody
      simp only [ahead]
      omega
  | @empty moreBody chan stage received =>
      refine .inr (.inl ?_)
      have fewer := length_of_recv received
      have flag := Bool.toNat_le (!s.feed.drop.timedOut)
      have back := ahead_afterBody moreBody
      simp only [ahead]
      omega
  | taken stage received =>
      refine .inr (.inl ?_)
      have fewer := length_of_recv received
      have flag := Bool.toNat_le (!s.feed.drop.timedOut)
      simp only [ahead, stage, Stage.ahead, Branch.ahead]
      omega
  | finished stage | appTimeout stage =>
      refine .inr (.inl ?_)
      have flag := Bool.toNat_le (!s.feed.drop.timedOut)
      simp only [ahead, stage, Stage.ahead, Branch.ahead]
      omega
  | @hand data moreBody stage =>
      refine .inr (.inl ?_)
      have here : s.stage.ahead = 19 := by rw [stage]; rfl
      have back := ahead_afterBody moreBody
      simp only [ahead, List.length_append, List.length_singleton]
      omega
  | gone stage =>
      refine .inr (.inl ?_)
      have work := Feed.work_startDisconnect s.feed
      have flag := Bool.toNat_le (!(startDisconnect s.feed).2.timedOut)
      simp only [ahead, stage, Stage.ahead]
      omega
  | told stage =>
      refine .inr (.inl ?_)
      simp only [ahead, stage, Stage.ahead]
      omega
  | close stage =>
      refine .inr (.inl ?_)
      simp only [ahead, close, stage, Stage.ahead]
      omega

/-- Where both timers of a poll have fired, the poll comes closer to the end. -/
theorem ahead_poll_of_fired (late : s.stage.inPhaseA = true → s.startTimer = true)
    (long : s.stage.inResponder = true → s.appTimer = true) (polled : Polled request s next) :
    next.stage = .done ∨ next.ahead < s.ahead := by
  rcases ahead_poll polled with done | lower | ⟨stage, running, _⟩ | ⟨stage, running, _⟩
  · exact .inl done
  · exact .inr lower
  · rw [late (by rw [stage]; rfl)] at running
    cases running
  · rw [long (by rw [stage]; rfl)] at running
    cases running

/-- Only a put that is still under way, or a full response body, keeps the handler waiting. -/
theorem full_of_pending (timedOut : s.feed.timedOut = true) (begun : s.stage ≠ .establish)
    (going : s.stage ≠ .done) (pending : s.poll request = none) : s.Full := by
  have told (waiting : Option ℕ) : disconnectDone s.feed waiting = true := by
    cases waiting <;> simp [disconnectDone, Feed.settled, timedOut]
  simp only [poll] at pending
  cases stage : s.stage with
  | establish => exact absurd stage begun
  | done => exact absurd stage going
  | phaseA branch =>
      simp only [stage] at pending
      cases branch with
      | rx | app | feed => cases pending
      | deadline =>
          simp only at pending
          split at pending <;> cases pending
  | responder branch =>
      simp only [stage] at pending
      cases branch with
      | rx | app | feed => cases pending
      | deadline =>
          simp only at pending
          split at pending <;> cases pending
  | rejected waiting | clientGone waiting => simp [stage, told waiting] at pending
  | closing | observing => simp [stage] at pending
  | sendData data moreBody =>
      simp only [stage, sendData] at pending
      split at pending
      · rename_i receiver
        refine ⟨data, moreBody, stage, receiver, ?_⟩
        rw [ite_eq_right_iff] at pending
        by_contra room
        cases pending (Nat.lt_of_not_le room)
      · cases pending

/-- A request that has begun and not ended takes a step towards its end, which is one of the
handler's unless the response body is full. -/
theorem exists_ahead (begun : s.stage ≠ .establish) (going : s.stage ≠ .done) :
    ∃ action next, (action.ofHandler = true ∨ action = .takeChunk ∧ s.Full) ∧
      s.step request action = some next ∧ (next.stage = .done ∨ next.ahead < s.ahead) := by
  by_cases late : s.stage.inPhaseA = true → s.startTimer = true
  · by_cases long : s.stage.inResponder = true → s.appTimer = true
    · by_cases timedOut : s.feed.timedOut = true
      · cases polled : s.poll request with
        | some next =>
            exact ⟨.poll, next, .inl rfl, polled, ahead_poll_of_fired late long (poll_cases polled)⟩
        | none =>
            have full := full_of_pending timedOut begun going polled
            rcases full with ⟨data, moreBody, stage, receiver, many⟩
            cases queued : s.body.queue with
            | nil => simp [queued, responseChannelBound] at many
            | cons chunk rest =>
                refine ⟨.takeChunk, { s with body := { s.body with queue := rest } },
                  .inr ⟨rfl, ?_⟩, ?_, .inr ?_⟩
                · exact ⟨data, moreBody, stage, receiver, many⟩
                · simp only [step, queued]
                · simp only [ahead, queued, List.length_cons]
                  omega
      · have running := Bool.eq_false_iff.mpr timedOut
        refine ⟨.putTimeout, { s with feed := { s.feed with timedOut := true } }, .inl rfl, rfl,
          .inr ?_⟩
        simp only [ahead, running, Feed.work, Bool.not_true, Bool.not_false, Bool.toNat_true,
          Bool.toNat_false]
        omega
    · rw [Classical.not_imp] at long
      have running := Bool.eq_false_iff.mpr long.2
      refine ⟨.appDeadline, { s with appTimer := true }, .inl rfl, if_pos long.1, .inr ?_⟩
      simp only [ahead, running, Bool.not_true, Bool.not_false, Bool.toNat_true, Bool.toNat_false]
      omega
  · rw [Classical.not_imp] at late
    have running := Bool.eq_false_iff.mpr late.2
    refine ⟨.startDeadline, { s with startTimer := true }, .inl rfl, if_pos late.1, .inr ?_⟩
    simp only [ahead, running, Bool.not_true, Bool.not_false, Bool.toNat_true, Bool.toNat_false]
    omega

/-- The chunks that the responder hands over before it looks at anything but the channel. -/
def chunksDue (request : Request) (s : Http) : ℕ :=
  match s.stage with
  | .responder _ => request.chunks s.chan.buffer
  | .sendData _ moreBody => 1 + if moreBody then request.chunks s.chan.buffer else 0
  | _ => 0

/-- The response body has room for the chunks that are due, or nobody reads it any more. -/
def Fits (request : Request) (s : Http) : Prop :=
  s.body.receiver = true → s.body.queue.length + s.chunksDue request ≤ responseChannelBound

instance (request : Request) (s : Http) : Decidable (s.Fits request) :=
  inferInstanceAs (Decidable (_ → _))

/-- Both channels keep to their bounds, and the response body is unused before the response. -/
structure Roomy (s : Http) : Prop where
  bound : s.chan.bound = responseChannelBound
  bounded : s.chan.Bounded
  queued : s.body.queue.length ≤ responseChannelBound
  unused : Unanswered s.stage → s.body.queue = [] ∧ s.body.receiver = false
  ordered : s.Ordered
  answered : s.response.isSome = true ∨ Unanswered s.stage ∨ s.stage = .done

theorem roomy_init (request : Request) (body : Incoming) : (init request body).Roomy where
  bound := rfl
  bounded := Mpsc.bounded_new _
  queued := Nat.zero_le _
  unused := fun _ => ⟨rfl, rfl⟩
  ordered := ordered_init request body
  answered := .inr (.inl (.inl rfl))

theorem chan_poll (polled : Polled request s next) :
    next.chan.bound = s.chan.bound ∧ (s.chan.Bounded → next.chan.Bounded) := by
  have wired := poll_wire polled
  change next.wire.chan.bound = s.wire.chan.bound ∧
    (s.wire.chan.Bounded → next.wire.chan.Bounded)
  generalize s.wire = wire at wired
  generalize next.wire = later at wired
  have read {value : ResponseEvent} {chan : Mpsc ResponseEvent}
      (received : wire.chan.recv = .item value chan) :
      chan.bound = wire.chan.bound ∧ (wire.chan.Bounded → chan.Bounded) := by
    refine ⟨?_, fun bounded => bounded.recv received⟩
    rcases Mpsc.recv_item received with ⟨rest, _, rfl⟩
    rfl
  cases wired with
  | neverStarted | startTimeout | rejected | observe => exact ⟨rfl, Mpsc.Bounded.dropReceiver⟩
  | start _ received | early _ _ received | duplicate _ received | skip _ received
  | take _ received => exact read received
  | silent | phaseA | responder | closed | appTimeout | hand | gone | told | close =>
      exact ⟨rfl, id⟩

theorem chan_step (stepped : s.step request action = some next) :
    next.chan.bound = s.chan.bound ∧ (s.chan.Bounded → next.chan.Bounded) := by
  cases step_cases stepped with
  | poll polled => exact chan_poll polled
  | push _ _ _ _ _ room => exact ⟨rfl, fun bounded => bounded.accept room⟩
  | park _ _ _ receiver => exact ⟨rfl, fun bounded => bounded.park receiver⟩
  | unpark unparked =>
      refine ⟨?_, fun bounded => bounded.unpark unparked⟩
      rcases Mpsc.unpark_cases unparked with ⟨value, _, _, _, rfl⟩
      rfl
  | dropSink => exact ⟨rfl, Mpsc.Bounded.dropSenders⟩
  | dropService => exact ⟨rfl, Mpsc.Bounded.dropReceiver⟩
  | refused =>
      have same := congrArg Wire.chan (logAccess_wire request 500 0 s)
      change (s.logAccess request 500 0).chan = s.chan at same
      simp only [fail, same]
      exact ⟨rfl, Mpsc.Bounded.dropReceiver⟩
  | established | exit | settle | feed | startDeadline | appDeadline | takeChunk | dropBody | reaped
  | reapTimeout => exact ⟨rfl, id⟩

/-- A poll lengthens the response body only where there is room, and not before the response. -/
theorem body_poll (polled : Polled request s next) :
    next.body = s.body ∨ ¬ Unanswered next.stage ∧
      (next.body.queue = s.body.queue ∨ next.body.queue.length ≤ responseChannelBound) := by
  have later (branch : Branch) : ¬ Unanswered (.responder branch) := by
    simp [Unanswered, Stage.inPhaseA]
  cases polled with
  | start => exact .inr ⟨later .rx, .inl rfl⟩
  | @hand data moreBody _ _ room =>
      refine .inr ⟨?_, .inr ?_⟩
      · cases moreBody <;> simp [afterBody, Unanswered, Stage.inPhaseA]
      · simp only [List.length_append, List.length_singleton]
        exact room
  | close =>
      refine .inr ⟨?_, .inl rfl⟩
      simp [close, Unanswered, Stage.inPhaseA]
  | phaseAApp | responderApp => exact .inl (pollApp_body _ _ s)
  | phaseAFeed | responderFeed => exact .inl (pollFeed_body _ _ s)
  | neverStarted | startTimeout => exact .inl (logAccess_body 500 0 s)
  | observe => exact .inl (observe_body s)
  | early | unstarted | phaseAAgain | rejected | duplicate | suppressed | empty | taken | finished
  | unsent | appTimeout | responderAgain | gone | told => exact .inl rfl

theorem unanswered_of_step (stepped : s.step request action = some next)
    (unanswered : Unanswered next.stage) : Unanswered s.stage := by
  have wired := step_wire stepped
  change Unanswered s.wire.stage
  have after : Unanswered next.wire.stage := unanswered
  generalize s.wire = before at wired
  generalize next.wire = later at wired after
  cases wired with
  | silent | push | park | unpark | dropSink | startDeadline | appDeadline | dropBody => exact after
  | established stage => exact .inl stage
  | phaseA _ stage | early _ stage => exact .inr (by rw [stage]; rfl)
  | skip _ _ | hand _ _ => grind [Unanswered, Stage.inPhaseA, afterBody]
  | _ => simp [Unanswered, Stage.inPhaseA, Wire.failed] at after

theorem answering_step (stepped : s.step request action = some next)
    (answered : s.response.isSome = true ∨ Unanswered s.stage ∨ s.stage = .done) :
    next.response.isSome = true ∨ Unanswered next.stage ∨ next.stage = .done := by
  rcases answered with answered | unanswered | done
  · exact .inl (response_step answered stepped)
  · by_cases away : action.ofConnection = false
    · rcases unanswered_step unanswered away stepped with answered | still
      · exact .inl answered
      · exact .inr (.inl still)
    · cases step_cases stepped with
      | takeChunk | dropBody => exact .inr (.inl unanswered)
      | dropService => exact .inr (.inr rfl)
      | feed move => cases action <;> cases move <;> exact absurd rfl away
      | _ => exact absurd rfl away
  · exact .inr (.inr (step_done done stepped))

theorem Roomy.step (roomy : s.Roomy) (stepped : s.step request action = some next) :
    next.Roomy := by
  rcases chan_step stepped with ⟨bound, bounded⟩
  have unused (unanswered : Unanswered next.stage) :=
    roomy.unused (unanswered_of_step stepped unanswered)
  have rest (queued : next.body.queue.length ≤ responseChannelBound)
      (unused : Unanswered next.stage → next.body.queue = [] ∧ next.body.receiver = false) :
      next.Roomy :=
    ⟨bound.trans roomy.bound, bounded roomy.bounded, queued, unused, roomy.ordered.step stepped,
      answering_step stepped roomy.answered⟩
  cases step_cases stepped with
  | poll polled =>
      apply rest
      · rcases body_poll polled with same | ⟨_, same | room⟩
        · exact same ▸ roomy.queued
        · exact same ▸ roomy.queued
        · exact room
      · intro unanswered
        rcases body_poll polled with same | ⟨started, _⟩
        · exact same ▸ unused unanswered
        · exact absurd unanswered started
  | takeChunk queued =>
      have few := roomy.queued
      rw [queued, List.length_cons] at few
      apply rest (Nat.le_of_succ_le few)
      intro unanswered
      have empty := (unused unanswered).1
      rw [queued] at empty
      cases empty
  | dropBody => exact rest roomy.queued fun unanswered => ⟨(unused unanswered).1, rfl⟩
  | refused =>
      have same : (s.logAccess request 500 0).fail.body = s.body := logAccess_body 500 0 s
      apply rest
      · exact same ▸ roomy.queued
      · intro unanswered
        exact same ▸ unused unanswered
  | established | push | park | unpark | exit | settle | dropSink | feed | startDeadline
  | appDeadline | dropService | reaped | reapTimeout => exact rest roomy.queued unused

theorem fits_of_nothingDue (roomy : s.Roomy) (none : s.chunksDue request = 0) : s.Fits request := by
  intro receiver
  rw [none]
  exact roomy.queued

theorem Fits.of_le (fits : s.Fits request) (body : next.body = s.body)
    (fewer : next.chunksDue request ≤ s.chunksDue request) : next.Fits request := by
  intro receiver
  rw [body] at receiver ⊢
  exact Nat.le_trans (Nat.add_le_add_left fewer _) (fits receiver)

theorem chunks_of_recv {value : ResponseEvent} {chan : Mpsc ResponseEvent}
    (received : s.chan.recv = .item value chan) :
    request.chunks s.chan.buffer = request.chunks (value :: chan.buffer) := by
  rcases Mpsc.recv_item received with ⟨rest, buffered, rfl⟩
  rw [buffered]

theorem chunksDue_responder {branch : Branch} (stage : s.stage = .responder branch) :
    s.chunksDue request = request.chunks s.chan.buffer := by
  simp only [chunksDue, stage]

theorem chunksDue_phaseA (stage : s.stage.inPhaseA = true) : s.chunksDue request = 0 := by
  simp only [chunksDue]
  split
  · rename_i branch responder
    rw [responder] at stage
    cases stage
  · rename_i data moreBody sending
    rw [sending] at stage
    cases stage
  · rfl

theorem chunksDue_afterBody {moreBody : Bool} (stage : s.stage = afterBody moreBody) :
    s.chunksDue request = if moreBody then request.chunks s.chan.buffer else 0 := by
  cases moreBody <;> simp [chunksDue, stage, afterBody]

/-- A responder that goes on to another branch owes what it owed. -/
theorem Fits.turn {branch other : Branch} (fits : s.Fits request)
    (stage : s.stage = .responder branch) (body : next.body = s.body)
    (after : next.stage = .responder other) (chan : next.chan = s.chan) : next.Fits request := by
  apply fits.of_le body
  rw [chunksDue_responder stage, chunksDue_responder after, chan]

theorem midPass_afterBody (moreBody : Bool) : (afterBody moreBody).midPass = false := by
  cases moreBody <;> rfl

/-- Reading the channel changes nothing about the chunks that are due, and the other branches are
looked at only where there are none. -/
theorem chunksDue_rx (stage : s.stage = .responder .rx) (polled : Polled request s next) :
    next.body = s.body ∧ next.chunksDue request = s.chunksDue request ∧
      (next.stage.midPass = false ∨ next.chunksDue request = 0) := by
  rw [chunksDue_responder stage]
  cases polled with
  | duplicate _ received =>
      refine ⟨rfl, ?_, .inl rfl⟩
      rw [chunks_of_recv received]
      rfl
  | @suppressed data moreBody chan _ received head =>
      refine ⟨rfl, ?_, .inl (midPass_afterBody moreBody)⟩
      rw [chunksDue_afterBody rfl, chunks_of_recv received]
      simp [Request.chunks, head]
  | @empty moreBody chan _ received other =>
      refine ⟨rfl, ?_, .inl (midPass_afterBody moreBody)⟩
      rw [chunksDue_afterBody rfl, chunks_of_recv received]
      simp [Request.chunks]
  | taken _ received other nonempty =>
      refine ⟨rfl, ?_, .inl rfl⟩
      rw [chunks_of_recv received]
      simp [Request.chunks, chunksDue, other, nonempty]
  | finished _ received =>
      refine ⟨rfl, ?_, .inl rfl⟩
      rw [(Mpsc.recv_closed.mp received).1]
      rfl
  | unsent _ received =>
      refine ⟨rfl, rfl, .inr ?_⟩
      rw [chunksDue_responder rfl, (Mpsc.recv_pending.mp received).1]
      rfl
  | responderApp here | responderFeed here | appTimeout here | responderAgain here | start here
  | early here | neverStarted here | unstarted here | phaseAApp here | phaseAFeed here
  | startTimeout here | phaseAAgain here | rejected here | hand here | gone here | told here
  | close here | observe here =>
      rw [stage] at here
      cases here

/-- A chunk that is handed over is due no longer. -/
theorem chunksDue_hand {data : Bytes} {moreBody : Bool} (stage : s.stage = .sendData data moreBody)
    (receiver : s.body.receiver = true) (polled : Polled request s next) :
    next.stage.midPass = false ∧ next.body.receiver = true ∧
      next.body.queue.length + next.chunksDue request =
        s.body.queue.length + s.chunksDue request := by
  cases polled with
  | @hand other more here _ room =>
      rw [stage] at here
      cases here
      refine ⟨midPass_afterBody moreBody, receiver, ?_⟩
      rw [chunksDue_afterBody rfl]
      simp only [chunksDue, stage, List.length_append, List.length_singleton]
      omega
  | gone _ dropped =>
      rw [receiver] at dropped
      cases dropped
  | responderApp here | responderFeed here | appTimeout here | responderAgain here | start here
  | early here | neverStarted here | unstarted here | phaseAApp here | phaseAFeed here
  | startTimeout here | phaseAAgain here | rejected here | duplicate here | suppressed here
  | empty here | taken here | finished here | unsent here | told here | close here
  | observe here =>
      rw [stage] at here
      cases here

theorem pollApp_stage (back onward : Stage) (s : Http) :
    ((s.pollApp back onward).stage = back ∨ (s.pollApp back onward).stage = onward) ∧
      (s.pollApp back onward).chan = s.chan := by
  rcases s.pollApp_wire back onward with same | same
  · exact ⟨.inl (congrArg Wire.stage same), congrArg Wire.chan same⟩
  · exact ⟨.inr (congrArg Wire.stage same), congrArg Wire.chan same⟩

theorem pollFeed_stage (back onward : Stage) (s : Http) :
    ((s.pollFeed back onward).stage = back ∨ (s.pollFeed back onward).stage = s.stage ∨
      (s.pollFeed back onward).stage = onward) ∧ (s.pollFeed back onward).chan = s.chan := by
  rcases s.pollFeed_wire back onward with same | same | same
  · exact ⟨.inl (congrArg Wire.stage same), congrArg Wire.chan same⟩
  · exact ⟨.inr (.inl (congrArg Wire.stage same)), congrArg Wire.chan same⟩
  · exact ⟨.inr (.inr (congrArg Wire.stage same)), congrArg Wire.chan same⟩

theorem Fits.poll (fits : s.Fits request) (roomy : s.Roomy) (later : next.Roomy)
    (polled : Polled request s next) : next.Fits request := by
  by_cases top : s.stage = .responder .rx
  · rcases chunksDue_rx top polled with ⟨body, due, _⟩
    exact fits.of_le body (Nat.le_of_eq due)
  cases polled with
  | @start status headers chan stage received =>
      intro _
      have unused := (roomy.unused (.inr (by rw [stage]; rfl))).1
      have fewer := length_of_recv received
      have few := roomy.bounded.buffered
      have due := request.chunks_le_length chan.buffer
      rw [roomy.bound] at few
      simp only [respond, chunksDue, unused, List.length_nil]
      omega
  | early | neverStarted | unstarted | startTimeout | phaseAAgain | rejected | finished | appTimeout
  | gone | told | close | observe => exact fits_of_nothingDue later rfl
  | phaseAApp =>
      apply fits_of_nothingDue later
      apply chunksDue_phaseA
      rcases (s.pollApp_stage (.phaseA .rx) (.phaseA .feed)).1 with same | same
      · rw [same]; rfl
      · rw [same]; rfl
  | phaseAFeed stage =>
      apply fits_of_nothingDue later
      apply chunksDue_phaseA
      rcases (s.pollFeed_stage (.phaseA .rx) (.phaseA .deadline)).1 with same | same | same
      · rw [same]; rfl
      · rw [same, stage]; rfl
      · rw [same]; rfl
  | responderApp stage =>
      rcases s.pollApp_stage (.responder .rx) (.responder .feed) with ⟨same | same, chan⟩
      · exact fits.turn stage (pollApp_body _ _ s) same chan
      · exact fits.turn stage (pollApp_body _ _ s) same chan
  | responderFeed stage =>
      rcases s.pollFeed_stage (.responder .rx) (.responder .deadline) with
        ⟨same | same | same, chan⟩
      · exact fits.turn stage (pollFeed_body _ _ s) same chan
      · exact fits.turn stage (pollFeed_body _ _ s) (same.trans stage) chan
      · exact fits.turn stage (pollFeed_body _ _ s) same chan
  | responderAgain stage => exact fits.turn stage rfl rfl rfl
  | duplicate stage | suppressed stage | empty stage | taken stage | unsent stage =>
      exact absurd stage top
  | hand stage receiver room =>
      intro _
      rw [(chunksDue_hand stage receiver (.hand stage receiver room)).2.2]
      exact fits receiver

/-- The handler's own steps keep the chunks that are due within the room there is. -/
theorem Fits.step (fits : s.Fits request) (roomy : s.Roomy) (own : action.ofHandler = true)
    (stepped : s.step request action = some next) : next.Fits request := by
  cases step_cases stepped with
  | poll polled => exact fits.poll roomy (roomy.step stepped) polled
  | startDeadline | appDeadline => exact fits
  | feed move => exact fits
  | _ => cases own

theorem chunksDue_mono (stage : next.stage = s.stage) {later : List ResponseEvent}
    (buffer : next.chan.buffer = s.chan.buffer ++ later) :
    s.chunksDue request ≤ next.chunksDue request := by
  have more := request.chunks_append s.chan.buffer later
  simp only [chunksDue, stage, buffer]
  split
  · exact more
  · split
    · exact Nat.add_le_add_left more 1
    · exact Nat.le_refl _
  · exact Nat.le_refl _

/-- More chunks are due to a client that reads than there is room for. -/
structure Overdue (request : Request) (s : Http) : Prop where
  top : s.stage.midPass = false
  receiver : s.body.receiver = true
  many : responseChannelBound < s.body.queue.length + s.chunksDue request

theorem overdue_iff (top : s.stage.midPass = false) : s.Overdue request ↔ ¬ s.Fits request := by
  constructor
  · intro overdue fits
    exact Nat.not_le_of_lt overdue.many (fits overdue.receiver)
  · intro unfit
    rcases Classical.not_imp.mp unfit with ⟨receiver, many⟩
    exact ⟨top, receiver, Nat.lt_of_not_le many⟩

theorem Overdue.stage_eq (overdue : s.Overdue request) (roomy : s.Roomy) :
    s.stage = .responder .rx ∨ ∃ data moreBody, s.stage = .sendData data moreBody := by
  have many := overdue.many
  have top := overdue.top
  have queued := roomy.queued
  simp only [chunksDue] at many
  split at many
  · rename_i branch stage
    rw [stage] at top
    cases branch with
    | rx => exact .inl stage
    | app | feed | deadline => cases top
  · rename_i data moreBody stage
    exact .inr ⟨data, moreBody, stage⟩
  · omega

theorem Overdue.of_le (overdue : s.Overdue request) (stage : next.stage = s.stage)
    (body : next.body = s.body) (more : s.chunksDue request ≤ next.chunksDue request) :
    next.Overdue request where
  top := stage ▸ overdue.top
  receiver := body ▸ overdue.receiver
  many := Nat.lt_of_lt_of_le overdue.many (body ▸ Nat.add_le_add_left more _)

theorem Overdue.poll (overdue : s.Overdue request) (roomy : s.Roomy)
    (polled : Polled request s next) : next.Overdue request := by
  have many := overdue.many
  have queued := roomy.queued
  rcases overdue.stage_eq roomy with stage | ⟨data, moreBody, stage⟩
  · rcases chunksDue_rx stage polled with ⟨body, due, top | nothing⟩
    · exact ⟨top, body ▸ overdue.receiver, by rwa [body, due]⟩
    · rw [← due, nothing] at many
      omega
  · rcases chunksDue_hand stage overdue.receiver polled with ⟨top, receiver, same⟩
    exact ⟨top, receiver, same ▸ many⟩

/-- Where more chunks are due than there is room for, only the connection can go on. -/
theorem Overdue.step (overdue : s.Overdue request) (roomy : s.Roomy)
    (away : action.ofConnection = false) (stepped : s.step request action = some next) :
    next.Overdue request := by
  cases step_cases stepped with
  | poll polled => exact overdue.poll roomy polled
  | push => exact overdue.of_le rfl rfl (chunksDue_mono rfl rfl)
  | unpark unparked =>
      rcases Mpsc.unpark_cases unparked with ⟨value, _, _, _, rfl⟩
      exact overdue.of_le rfl rfl (chunksDue_mono rfl rfl)
  | established stage | refused stage =>
      rcases overdue.stage_eq roomy with here | ⟨data, moreBody, here⟩ <;> simp [here] at stage
  | takeChunk | dropBody | dropService => cases away
  | park | exit | settle | dropSink | feed | startDeadline | appDeadline | reaped | reapTimeout =>
      exact overdue.of_le rfl rfl (Nat.le_refl _)

theorem begun_step (begun : s.stage ≠ .establish) (stepped : s.step request action = some next) :
    next.stage ≠ .establish := by
  intro back
  rcases unanswered_of_step stepped (.inl back) with before | phaseA
  · exact begun before
  · have wired := step_wire stepped
    have before : s.wire.stage.inPhaseA = true := phaseA
    have after : next.wire.stage = .establish := back
    generalize s.wire = wire at wired before
    generalize next.wire = later at wired after
    cases wired with
    | hand | skip => grind [afterBody]
    | _ => simp_all [Stage.inPhaseA, Wire.failed]

/-- The request can end through permitted actions alone, and with a response unless it has been
dropped before. -/
def Finishes (request : Request) (s : Http) (permitted : Action → Prop) : Prop :=
  ∃ actions final, (∀ action ∈ actions, permitted action) ∧
    run (step request) s actions = some final ∧ final.stage = .done ∧
      (s.stage ≠ .done → final.response.isSome = true)

theorem still_answering (answered : s.response.isSome = true ∨ Unanswered s.stage)
    (own : action.ofHandler = true ∨ action = .takeChunk)
    (stepped : s.step request action = some next) :
    next.response.isSome = true ∨ Unanswered next.stage := by
  rcases answered with answered | unanswered
  · exact .inl (response_step answered stepped)
  · rcases own with own | rfl
    · have away : action.ofConnection = false := by cases action <;> first | rfl | cases own
      exact unanswered_step unanswered away stepped
    · cases step_cases stepped with
      | takeChunk => exact .inr unanswered
      | feed move => cases move

/-- Where a kept property permits each step towards the end, such steps reach it. -/
theorem finishes_of_kept {permitted : Action → Prop} (kept : Http → Prop)
    (preserved : ∀ current act later, current.Roomy → kept current → permitted act →
      current.step request act = some later → kept later)
    (allowed : ∀ current act, kept current →
      (act.ofHandler = true ∨ act = .takeChunk ∧ current.Full) → permitted act)
    (roomy : s.Roomy) (begun : s.stage ≠ .establish) (holds : kept s) :
    s.Finishes request permitted := by
  by_cases done : s.stage = .done
  · exact ⟨[], s, by simp, rfl, done, fun going => absurd done going⟩
  have progress (current : Http) (invariant : current.Roomy ∧ current.stage ≠ .establish ∧
        kept current ∧ (current.response.isSome = true ∨ Unanswered current.stage))
      (going : current.stage ≠ .done) : ∃ act later, permitted act ∧
        current.step request act = some later ∧ (later.Roomy ∧ later.stage ≠ .establish ∧
          kept later ∧ (later.response.isSome = true ∨ Unanswered later.stage)) ∧
        (later.stage = .done ∨ later.ahead < current.ahead) := by
    rcases invariant with ⟨roomy, begun, holds, answered⟩
    rcases @exists_ahead request current begun going with ⟨act, later, own, stepped, lower⟩
    have permits := allowed current act holds own
    exact ⟨act, later, permits, stepped, ⟨roomy.step stepped, begun_step begun stepped,
      preserved current act later roomy holds permits stepped,
      still_answering answered (own.imp_right And.left) stepped⟩, lower⟩
  have answered : s.response.isSome = true ∨ Unanswered s.stage := by
    rcases roomy.answered with answered | unanswered | ended
    · exact .inl answered
    · exact .inr unanswered
    · exact absurd ended done
  rcases exists_run_until _ (fun current => current.stage = .done) ahead progress
      ⟨roomy, begun, holds, answered⟩ with
    ⟨actions, final, chosen, ran, ⟨_, _, _, answered⟩, ended⟩
  refine ⟨actions, final, chosen, ran, ended, fun _ => ?_⟩
  rcases answered with answered | unanswered
  · exact answered
  · simp [ended, Unanswered, Stage.inPhaseA] at unanswered

theorem not_full_of_fits (fits : s.Fits request) : ¬ s.Full := by
  rintro ⟨data, moreBody, stage, receiver, many⟩
  have enough := fits receiver
  simp only [chunksDue, stage] at enough
  omega

theorem finishes_of_fits (roomy : s.Roomy) (begun : s.stage ≠ .establish)
    (fits : s.Fits request) : s.Finishes request fun action => action.ofHandler = true := by
  apply finishes_of_kept (Fits request) _ _ roomy begun fits
  · intro current act later roomy fits own stepped
    exact fits.step roomy own stepped
  · rintro current act fits (own | ⟨_, full⟩)
    · exact own
    · exact absurd full (not_full_of_fits fits)

theorem Finishes.mono {permitted allowed : Action → Prop} (finishes : s.Finishes request permitted)
    (weaker : ∀ action, permitted action → allowed action) : s.Finishes request allowed := by
  rcases finishes with ⟨actions, final, chosen, rest⟩
  exact ⟨actions, final, fun action member => weaker action (chosen action member), rest⟩

theorem Overdue.not_finishes (overdue : s.Overdue request) (roomy : s.Roomy) :
    ¬ s.Finishes request fun action => action.ofConnection = false := by
  rintro ⟨actions, final, away, ran, done, _⟩
  have along : Along (Http.step request) (fun _ action => action.ofConnection = false) s actions :=
    along_of_forall fun action member _ => away action member
  have stays : final.Roomy ∧ final.Overdue request := by
    apply run_invariant (fun current => current.Roomy ∧ current.Overdue request) _ along ran
      ⟨roomy, overdue⟩
    intro current action next both away stepped
    exact ⟨both.1.step stepped, both.2.step both.1 away stepped⟩
  rcases stays.2.stage_eq stays.1 with here | ⟨data, moreBody, here⟩ <;> simp [done] at here

/-- What can hold a request: with a client that reads, nothing does. Without one, the handler's own
steps lead to the end of a request just where the chunks that are due fit into the response body;
where they do not, neither the application nor the event loop nor any timer is of help. A request
that has no response yet is answered in any case. -/
theorem finishes_iff {body : Incoming} {actions : List Action}
    (ran : run (step request) (init request body) actions = some s)
    (begun : s.stage ≠ .establish) :
    (s.Finishes request fun action => action.ofHandler = true ∨ action = .takeChunk) ∧
      (s.stage.midPass = false →
        ((s.Finishes request fun action => action.ofHandler = true) ↔ s.Fits request) ∧
        ((s.Finishes request fun action => action.ofConnection = false) ↔ s.Fits request)) ∧
      (s.stage.inPhaseA = true → s.Finishes request fun action => action.ofHandler = true) := by
  have roomy : s.Roomy := by
    apply run_invariant_of_step Roomy _ ran (roomy_init request body)
    intro current action next roomy stepped
    exact roomy.step stepped
  have weaker (action : Action) (own : action.ofHandler = true) : action.ofConnection = false := by
    cases action <;> first | rfl | cases own
  have sufficient := @finishes_of_fits request s roomy begun
  have necessary (top : s.stage.midPass = false)
      (finishes : s.Finishes request fun action => action.ofConnection = false) :
      s.Fits request := by
    by_contra unfit
    exact ((overdue_iff top).mpr unfit).not_finishes roomy finishes
  refine ⟨?_, fun top => ⟨⟨?_, sufficient⟩, ⟨necessary top, ?_⟩⟩, ?_⟩
  · apply finishes_of_kept (fun _ => True) _ _ roomy begun trivial
    · intros
      trivial
    · rintro current act _ (own | ⟨rfl, _⟩)
      · exact .inl own
      · exact .inr rfl
  · intro finishes
    exact necessary top (finishes.mono weaker)
  · intro fits
    exact (sufficient fits).mono weaker
  · intro phaseA
    apply sufficient
    exact fits_of_nothingDue roomy (chunksDue_phaseA phaseA)

/-- The application streams to a client that has stopped reading. -/
def stalledRun : List Action :=
  [.established true, .push (.start 200 []) false, .poll] ++
    (List.replicate 16 [.push (.body [1] true) false, .poll, .poll]).flatten ++
      [.push (.body [1] true) false, .poll]

/-- No timer ends such a request, and reading does. -/
theorem finishes_iff_stalled :
    ∃ s, run (step streaming) (init streaming (.new [] false)) stalledRun = some s ∧
      (¬ s.Finishes streaming fun action => action.ofConnection = false) ∧
      s.Finishes streaming fun action => action.ofHandler = true ∨ action = .takeChunk := by
  have reached : ∃ s, run (step streaming) (init streaming (.new [] false)) stalledRun = some s ∧
      s.stage ≠ .establish ∧ s.stage.midPass = false ∧ ¬ s.Fits streaming :=
    exists_of_run_any (by decide)
  rcases reached with ⟨s, ran, begun, top, unfit⟩
  rcases finishes_iff ran begun with ⟨reading, exactly, _⟩
  refine ⟨s, ran, ?_, reading⟩
  rw [(exactly top).2]
  exact unfit

end Http

end RustAsgi
