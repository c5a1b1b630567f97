import RustAsgi.Http.EndOfBody

/-!
# Bodies that break off

`feed_step` answers the failure of the body stream with the message that
announces its end. Forgetting which of the two happened therefore commutes with
every step of the request: no interleaving shows the application a difference.
-/

namespace RustAsgi

open Machine

/-- What the feeding side makes of a result: the end and the failure look alike. -/
def FrameResult.blind : FrameResult → FrameResult
  | .error => .finished
  | result => result

/-- The same stream, ending where this one breaks off. -/
def Incoming.blind (body : Incoming) : Incoming :=
  { body with failure := false, reported := false }

theorem Incoming.frame_blind (body : Incoming) :
    body.blind.frame = body.frame.map fun (result, after) => (result.blind, after.blind) := by
  rcases body with ⟨arriving, buffered, failure, ended, reported⟩
  cases buffered with
  | cons frame rest => rfl
  | nil => cases ended <;> cases failure <;> cases reported <;> rfl

namespace Feed

/-- The feeding side of the same request with a body that ends. -/
def blind (feed : Feed) : Feed :=
  { feed with body := feed.body.blind, pulled := feed.pulled.map FrameResult.blind }

theorem read_blind (feed : Feed) (body : Incoming) (result : FrameResult) :
    (feed.read body result).blind = feed.blind.read body.blind result.blind := by
  simp [read, blind]

end Feed

def FeedPoll.blind : FeedPoll → FeedPoll
  | .pending => .pending
  | .progress feed => .progress feed.blind
  | .ready fed feed => .ready fed feed.blind

namespace Feed

theorem schedule_blind (feed : Feed) (message : Message) (nowait : Bool) :
    feed.blind.schedule message nowait =
      (feed.schedule message nowait).map fun (id, next) => (id, next.blind) := by
  simp only [schedule]
  cases running : feed.running <;> simp [blind, running, enqueue]

theorem putFailed_blind (feed : Feed) : feed.blind.putFailed = feed.putFailed.blind := by
  simp only [putFailed, feedDisconnect, schedule_blind]
  cases feed.schedule .disconnect true <;> rfl

theorem feedFrame_blind (feed : Feed) (result : FrameResult) :
    feed.blind.feedFrame result.blind = (feed.feedFrame result).blind := by
  cases result with
  | error =>
      simp only [FrameResult.blind, feedFrame, feedMessage, schedule_blind]
      cases feed.schedule .terminal false <;> rfl
  | finished =>
      simp only [FrameResult.blind, feedFrame, feedMessage, schedule_blind]
      cases feed.schedule .terminal false <;> rfl
  | frame frame =>
      cases frame with
      | trailers => rfl
      | data bytes =>
          simp only [FrameResult.blind, feedFrame, feedMessage, schedule_blind]
          split
          · rfl
          · cases feed.schedule (.request bytes true) false with
            | none => exact putFailed_blind feed
            | some scheduled => rfl

theorem poll_blind (feed : Feed) : feed.blind.poll = feed.poll.blind := by
  have guarded : (feed.blind.bodyOpt && feed.blind.feeding) =
      (feed.bodyOpt && feed.feeding) := rfl
  simp only [poll, guarded]
  split
  · have future : feed.blind.future = feed.future := rfl
    rw [future]
    cases feed.future with
    | frame =>
        have body : feed.blind.body = feed.body.blind := rfl
        simp only [body, Incoming.frame_blind]
        cases feed.body.frame with
        | none => rfl
        | some read =>
            simp only [Option.map_some, ← read_blind]
            exact feedFrame_blind _ _
    | chunk id =>
        have outcome : feed.blind.loop.outcome? id = feed.loop.outcome? id := rfl
        have settled : feed.blind.settled id = feed.settled id := rfl
        simp only [outcome, settled]
        split
        · rfl
        · split
          · exact putFailed_blind feed
          · rfl
    | terminal id =>
        have settled : feed.blind.settled id = feed.settled id := rfl
        simp only [settled]
        split <;> rfl
    | disconnect id =>
        have settled : feed.blind.settled id = feed.settled id := rfl
        simp only [settled]
        split <;> rfl
  · rfl

/-- No move of the feeding side tells a failure from an end. -/
theorem step_blind (feed : Feed) (move : Move) :
    feed.blind.step move = (feed.step move).map blind := by
  cases move with
  | poll =>
      simp only [step, poll_blind]
      cases feed.poll <;> rfl
  | frameArrives =>
      simp only [step, blind, Incoming.blind]
      cases feed.body.arriving <;> rfl
  | bodyEnds =>
      by_cases drained : feed.body.arriving = [] <;>
        simp [step, blind, Incoming.blind, drained]
  | disconnect =>
      simp only [step, feedDisconnect, schedule_blind]
      cases feed.schedule .disconnect true <;> rfl
  | turn =>
      have loop : feed.blind.loop = feed.loop := rfl
      simp only [step, loop]
      cases feed.loop.turn <;> rfl
  | receive =>
      have first : feed.blind.first = feed.first := rfl
      have loop : feed.blind.loop = feed.loop := rfl
      simp only [step, Feed.receive, first, loop]
      cases feed.first with
      | some message => rfl
      | none => cases feed.loop.get <;> rfl
  | _ => rfl

end Feed

namespace Http

variable {request : Request} {s final : Http} {actions : List Action}

/-- The same request with a body that ends. -/
def blind (s : Http) : Http :=
  { s with feed := s.feed.blind }

theorem moveFeed_blind (s : Http) (move : Feed.Move) :
    s.blind.moveFeed move = (s.moveFeed move).map blind := by
  have feed : s.blind.feed = s.feed.blind := rfl
  simp only [moveFeed, feed, Feed.step_blind]
  cases s.feed.step move <;> rfl

theorem pollFeed_blind (s : Http) (back onward : Stage) :
    s.blind.pollFeed back onward = (s.pollFeed back onward).blind := by
  have feed : s.blind.feed = s.feed.blind := rfl
  simp only [pollFeed, feed, Feed.poll_blind]
  cases s.feed.poll <;> rfl

theorem pollApp_blind (s : Http) (back onward : Stage) :
    s.blind.pollApp back onward = (s.pollApp back onward).blind := by
  have appDone : s.blind.appDone = s.appDone := rfl
  have app : s.blind.app = s.app := rfl
  simp only [pollApp, appDone, app]
  split
  · rfl
  · cases s.app <;> rfl

theorem startDisconnect_blind (feed : Feed) :
    startDisconnect feed.blind =
      ((startDisconnect feed).1, (startDisconnect feed).2.blind) := by
  simp only [startDisconnect, Feed.feedDisconnect, Feed.schedule_blind]
  cases feed.schedule .disconnect true <;> rfl

theorem logAccess_blind (s : Http) (status size : ℕ) :
    s.blind.logAccess request status size = (s.logAccess request status size).blind := by
  simp only [logAccess]
  split <;> rfl

theorem phaseARx_blind (s : Http) :
    s.blind.phaseARx request = (s.phaseARx request).blind := by
  have chan : s.blind.chan = s.chan := rfl
  simp only [phaseARx, chan]
  cases s.chan.recv with
  | pending => rfl
  | closed =>
      simp only [logAccess_blind]
      rfl
  | item event after =>
      cases event with
      | start status headers => rfl
      | body data moreBody =>
          have drop : s.blind.feed.drop = s.feed.drop.blind := rfl
          simp only [drop, startDisconnect_blind]
          rfl

theorem responderRx_blind (s : Http) :
    s.blind.responderRx request = (s.responderRx request).blind := by
  have chan : s.blind.chan = s.chan := rfl
  simp only [responderRx, chan]
  cases s.chan.recv with
  | pending => rfl
  | closed => rfl
  | item event after =>
      cases event with
      | start status headers => rfl
      | body data moreBody =>
          simp only
          split
          · rfl
          · split <;> rfl

theorem sendData_blind (s : Http) (data : Bytes) (moreBody : Bool) :
    s.blind.sendData data moreBody = (s.sendData data moreBody).map blind := by
  have body : s.blind.body = s.body := rfl
  simp only [sendData, body]
  split
  · split <;> rfl
  · have feed : s.blind.feed = s.feed.blind := rfl
    simp only [feed, startDisconnect_blind]
    rfl

theorem observe_blind (s : Http) :
    s.blind.observe request = (s.observe request).blind := by
  have appDone : s.blind.appDone = s.appDone := rfl
  have app : s.blind.app = s.app := rfl
  simp only [observe, appDone, app, logAccess]
  cases s.appDone <;> cases s.app <;> simp only <;> split <;> rfl

theorem poll_blind (s : Http) : s.blind.poll request = (s.poll request).map blind := by
  have stage : s.blind.stage = s.stage := rfl
  simp only [poll, stage]
  cases s.stage with
  | phaseA branch =>
      cases branch with
      | rx => simp only [phaseARx_blind, Option.map_some]
      | app => simp only [pollApp_blind, Option.map_some]
      | feed => simp only [pollFeed_blind, Option.map_some]
      | deadline =>
          have timer : s.blind.startTimer = s.startTimer := rfl
          simp only [timer, logAccess_blind]
          split <;> rfl
  | responder branch =>
      cases branch with
      | rx => simp only [responderRx_blind, Option.map_some]
      | app => simp only [pollApp_blind, Option.map_some]
      | feed => simp only [pollFeed_blind, Option.map_some]
      | deadline =>
          have timer : s.blind.appTimer = s.appTimer := rfl
          simp only [timer]
          split <;> rfl
  | rejected waiting =>
      have done : disconnectDone s.blind.feed waiting = disconnectDone s.feed waiting := by
        cases waiting <;> rfl
      simp only [done]
      split <;> rfl
  | clientGone waiting =>
      have done : disconnectDone s.blind.feed waiting = disconnectDone s.feed waiting := by
        cases waiting <;> rfl
      simp only [done]
      split <;> rfl
  | sendData data moreBody => exact sendData_blind s data moreBody
  | observing => simp only [observe_blind, Option.map_some]
  | _ => rfl

theorem step_blind (s : Http) (action : Action) :
    s.blind.step request action = (s.step request action).map blind := by
  have stage : s.blind.stage = s.stage := rfl
  have app : s.blind.app = s.app := rfl
  have chan : s.blind.chan = s.chan := rfl
  have reaper : s.blind.reaper = s.reaper := rfl
  have body : s.blind.body = s.body := rfl
  have response : s.blind.response = s.response := rfl
  cases action with
  | poll => exact poll_blind s
  | turn => exact moveFeed_blind s .turn
  | frameArrives => exact moveFeed_blind s .frameArrives
  | bodyEnds => exact moveFeed_blind s .bodyEnds
  | putTimeout => exact moveFeed_blind s .timeout
  | stopLoop => exact moveFeed_blind s .stop
  | receive =>
      simp only [step, stage, moveFeed_blind]
      split <;> rfl
  | established succeeded =>
      simp only [step, stage, logAccess_blind]
      split
      · cases succeeded <;> rfl
      · rfl
  | push event behind =>
      have disconnected : s.blind.disconnected = s.disconnected := rfl
      simp only [step, push, stage, chan, disconnected]
      repeat' split
      all_goals rfl
  | unpark index =>
      simp only [step, chan]
      cases s.chan.unpark index <;> rfl
  | takeChunk =>
      simp only [step, body]
      cases s.body.queue <;> rfl
  | reap timeout =>
      simp only [step, reaper, app]
      cases s.reaper <;> cases s.app <;> cases timeout <;> rfl
  | settle =>
      simp only [step, app]
      cases s.app <;> rfl
  | _ =>
      simp only [step, stage, app, response]
      try split
      all_goals rfl

end Http

namespace Feed

variable {feed next : Feed}

/-- A failure that has been read is announced as the end, unless the loop has stopped. -/
def FailureAnnounced (feed : Feed) : Prop :=
  FrameResult.error ∈ feed.pulled → feed.running = true → Message.terminal ∈ feed.submitted

theorem FailureAnnounced.of_same (announced : FailureAnnounced feed)
    (pulled : next.pulled = feed.pulled) (running : next.running = true → feed.running = true)
    (submitted : feed.submitted <+: next.submitted) : FailureAnnounced next := by
  intro failed stillRunning
  rw [pulled] at failed
  exact submitted.subset (announced failed (running stillRunning))

theorem FailureAnnounced.polled (announced : FailureAnnounced feed)
    (polled : Polled feed next) : FailureAnnounced next := by
  cases polled with
  | @skip frame body future available noChunk =>
      intro failed running
      have read : FrameResult.error ∈ feed.pulled ++ [.frame frame] := failed
      rcases List.mem_append.mp read with earlier | last
      · exact announced earlier running
      · cases List.mem_singleton.mp last
  | @chunk bytes body future available nonempty running =>
      intro failed stillRunning
      have read : FrameResult.error ∈ feed.pulled ++ [.frame (.data bytes)] := failed
      rcases List.mem_append.mp read with earlier | last
      · exact List.mem_append_left _ (announced earlier running)
      · cases List.mem_singleton.mp last
  | ending future available atEnd running =>
      intro failed stillRunning
      exact List.mem_append_right _ List.mem_cons_self
  | chunkRefused future available nonempty stopped =>
      intro failed running
      exact absurd (stopped.symm.trans running) Bool.false_ne_true
  | endingRefused future available atEnd stopped =>
      intro failed running
      exact absurd (stopped.symm.trans running) Bool.false_ne_true
  | completed fed pendingPut => exact announced.of_same rfl id List.prefix_rfl
  | failed future running => exact announced.of_same rfl id (List.prefix_append _ _)

theorem failureAnnounced_step {move : Move} (announced : FailureAnnounced feed)
    (stepped : feed.step move = some next) : FailureAnnounced next := by
  cases step_cases stepped with
  | poll _ _ polled => exact announced.polled polled
  | disconnect => exact announced.of_same rfl id (List.prefix_append _ _)
  | stop => exact announced.of_same rfl (fun running => by cases running) List.prefix_rfl
  | disconnectRefused | turn | first | get | frameArrives | bodyEnds | drop | handOver | release
  | timeout => exact announced

end Feed

namespace Http

variable {request : Request} {final : Http} {actions : List Action}

/-- A body that breaks off looks to the application like one that ends at the same place:
the same messages in the same order, with the end announced once the failure is read. -/
theorem failure_presented_as_end (frames : List Frame)
    (ran : run (step request) (init request (.new frames true)) actions = some final) :
    (∃ twin, run (step request) (init request (.new frames false)) actions = some twin ∧
      twin.feed.submitted = final.feed.submitted ∧
      twin.feed.received = final.feed.received) ∧
    (FrameResult.error ∈ final.feed.pulled → final.feed.running = true →
      Message.terminal ∈ final.feed.submitted) := by
  constructor
  · have commutes (s : Http) (action : Action) :
        step request s.blind action = (step request s action).map blind := step_blind s action
    have twin := run_map blind commutes (init request (.new frames true)) actions
    rw [ran] at twin
    exact ⟨final.blind, twin, rfl, rfl⟩
  · have start : (init request (.new frames true)).feed.FailureAnnounced := by
      intro failed
      cases failed
    exact run_invariant_of_step Feed.FailureAnnounced
      (fun _ _ _ announced stepped => Feed.failureAnnounced_step announced stepped)
      (run_moves ran) start

/-- One byte arrives, then the client is gone; the application reads all there is. -/
def brokenRun : List Action :=
  [.established true, .frameArrives, .bodyEnds, .poll, .poll, .poll, .turn, .turn, .turn, .poll] ++
  [.poll, .poll, .poll, .turn, .turn, .turn, .poll, .receive, .receive]

theorem failure_presented_as_end_one :
    ∃ final, run (step upload) (init upload (.new [.data [1]] true)) brokenRun = some final ∧
      (∃ twin, run (step upload) (init upload (.new [.data [1]] false)) brokenRun = some twin ∧
        twin.feed.submitted = final.feed.submitted ∧
        twin.feed.received = final.feed.received) ∧
      (FrameResult.error ∈ final.feed.pulled → final.feed.running = true →
        Message.terminal ∈ final.feed.submitted) := by
  have ran : ∃ final, run (step upload) (init upload (.new [.data [1]] true)) brokenRun =
      some final ∧ FrameResult.error ∈ final.feed.pulled :=
    exists_of_run_any (by decide)
  rcases ran with ⟨final, ran, _⟩
  exact ⟨final, ran, failure_presented_as_end _ ran⟩

/-- The application is told that a broken upload is complete. -/
theorem truncated_upload_complete :
    ∃ final, run (step upload) (init upload (.new [.data [1]] true)) brokenRun = some final ∧
      final.feed.received = [.request [1] true, .request [] false] :=
  exists_of_run_any (by decide)

end Http

end RustAsgi
