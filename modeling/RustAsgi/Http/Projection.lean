import RustAsgi.Http.Steps

/-!
# The feeding side of a request

Every step of `handle_http` moves the feeding side along a run of `Feed.step`.
Invariants of feeding are therefore proved about `Feed` alone and hold in both
select loops and across the hand-over between them.
-/

namespace RustAsgi.Http

open Machine Tokio

section Moves

variable (request : Request) (s : Http)

def phaseARxMoves : List Feed.Move :=
  match s.chan.recv with
  | .item (.start _ _) _ => [.handOver request.hasBody]
  | .item (.body _ _) _ => [.drop, .disconnect]
  | .closed => [.release]
  | .pending => []

def responderRxMoves : List Feed.Move :=
  match s.chan.recv with
  | .pending => []
  | _ => [.drop]

def pollAppMoves : List Feed.Move :=
  match s.appDone, s.app with
  | false, .settled _ => [.drop]
  | _, _ => []

def pollFeedMoves : List Feed.Move :=
  match s.feed.poll with
  | .pending => []
  | _ => [.poll]

/-- The moves of the feeding side in one step of the request. -/
def moves : Action → List Feed.Move
  | .established succeeded => if succeeded then [] else [.release]
  | .poll =>
      match s.stage with
      | .phaseA .rx => s.phaseARxMoves request
      | .responder .rx => s.responderRxMoves
      | .phaseA .app | .responder .app => s.pollAppMoves
      | .phaseA .feed | .responder .feed => s.pollFeedMoves
      | .phaseA .deadline => if s.startTimer then [.release] else []
      | .responder .deadline => if s.appTimer then [.drop] else []
      | .rejected _ => [.release]
      | .sendData _ _ => if s.body.receiver then [] else [.disconnect]
      | .observing => s.pollAppMoves ++ [.release]
      | _ => []
  | .receive => [.receive]
  | .turn => [.turn]
  | .frameArrives => [.frameArrives]
  | .bodyEnds => [.bodyEnds]
  | .putTimeout => [.timeout]
  | .stopLoop => [.stop]
  | .dropService => [.release]
  | _ => []

end Moves

@[simp]
theorem logAccess_feed (request : Request) (status size : ℕ) (s : Http) :
    (s.logAccess request status size).feed = s.feed := by
  simp only [logAccess]
  split <;> rfl

theorem startDisconnect_feed (feed : Feed) :
    (startDisconnect feed).2 = (feed.feedDisconnect.map Prod.snd).getD feed := by
  simp only [startDisconnect]
  cases feed.feedDisconnect <;> rfl

theorem pollFeed_moves {back onward : Stage} (s : Http) :
    run Feed.step s.feed s.pollFeedMoves = some (s.pollFeed back onward).feed := by
  simp only [pollFeed, pollFeedMoves]
  cases polled : s.feed.poll <;>
    simp [run_cons, Feed.step, Feed.afterPoll, polled]

theorem pollApp_moves {back onward : Stage} (s : Http) :
    run Feed.step s.feed s.pollAppMoves = some (s.pollApp back onward).feed := by
  simp only [pollApp, pollAppMoves]
  cases done : s.appDone with
  | true => simp
  | false => cases app : s.app <;> simp [run_cons, Feed.step, observeApp]

theorem observe_moves (request : Request) (s : Http) :
    run Feed.step s.feed (s.pollAppMoves ++ [.release]) = some (s.observe request).feed := by
  simp only [observe, pollAppMoves]
  cases done : s.appDone with
  | true => simp [run_cons, Feed.step]
  | false => cases app : s.app <;> simp [run_cons, Feed.step, observeApp, spawnDrainReaper]

theorem poll_moves {request : Request} {s next : Http} (polled : Polled request s next) :
    run Feed.step s.feed (s.moves request .poll) = some next.feed := by
  cases polled with
  | start stage received =>
      simp [moves, phaseARxMoves, stage, received, run_cons, Feed.step, respond]
  | early stage received =>
      simp [moves, phaseARxMoves, stage, received, run_cons, Feed.step, startDisconnect_feed]
  | neverStarted stage received =>
      simp [moves, phaseARxMoves, stage, received, run_cons, Feed.step, fail, spawnDrainReaper]
  | unstarted stage received => simp [moves, phaseARxMoves, stage, received]
  | startTimeout stage fired =>
      simp [moves, stage, fired, run_cons, Feed.step, fail, spawnDrainReaper]
  | phaseAAgain stage running => simp [moves, stage, running]
  | rejected stage => simp [moves, stage, run_cons, Feed.step, fail, spawnDrainReaper]
  | duplicate stage received | suppressed stage received | empty stage received
  | taken stage received | finished stage received =>
      simp [moves, responderRxMoves, stage, received, run_cons, Feed.step]
  | unsent stage received => simp [moves, responderRxMoves, stage, received]
  | phaseAApp stage | responderApp stage => simpa only [moves, stage] using pollApp_moves s
  | phaseAFeed stage | responderFeed stage => simpa only [moves, stage] using pollFeed_moves s
  | appTimeout stage fired => simp [moves, stage, fired, run_cons, Feed.step]
  | responderAgain stage running => simp [moves, stage, running]
  | hand stage receiver => simp [moves, stage, receiver]
  | gone stage receiver =>
      simp [moves, stage, receiver, run_cons, Feed.step, startDisconnect_feed]
  | told stage => simp [moves, stage]
  | close stage => simp [moves, stage, close]
  | observe stage => simpa only [moves, stage] using observe_moves request s

theorem moves_of_move {request : Request} {s : Http} {action : Action} {move : Feed.Move}
    (own : action.move? = some move) : s.moves request action = [move] := by
  cases action <;> simp only [Action.move?, reduceCtorEq, Option.some.injEq] at own <;>
    subst own <;> rfl

/-- Each step of the request is a run of the feeding side. -/
theorem step_moves {request : Request} {s next : Http} {action : Action}
    (stepped : s.step request action = some next) :
    run Feed.step s.feed (s.moves request action) = some next.feed := by
  cases step_cases stepped with
  | poll polled => exact poll_moves polled
  | feed own moved =>
      rw [moves_of_move own]
      simp [run_cons, moved]
  | refused => simp [moves, run_cons, Feed.step, fail]
  | dropService => simp [moves, run_cons, Feed.step]
  | established | push | park | unpark | exit | settle | dropSink | startDeadline | appDeadline
  | takeChunk | dropBody | reaped | reapTimeout => simp [moves]

theorem turn_mem_moves {request : Request} {s : Http} {action : Action}
    (member : Feed.Move.turn ∈ s.moves request action) :
    action = .turn := by
  cases action with
  | turn => rfl
  | poll =>
      simp only [moves, phaseARxMoves, responderRxMoves, pollAppMoves, pollFeedMoves] at member
      grind
  | _ =>
      simp only [moves] at member
      grind

theorem poll_mem_moves {request : Request} {s : Http} {action : Action}
    (member : Feed.Move.poll ∈ s.moves request action) :
    action = .poll ∧ (s.stage = .phaseA .feed ∨ s.stage = .responder .feed) := by
  cases action with
  | poll =>
      refine ⟨rfl, ?_⟩
      simp only [moves, phaseARxMoves, responderRxMoves, pollAppMoves] at member
      grind
  | _ =>
      simp only [moves] at member
      grind

/-- A permission that only turns of the event loop need. -/
theorem along_moves_of_turn {request : Request} {s : Http} {action : Action}
    {permitted : Feed → Prop} (allowed : action = .turn → permitted s.feed) :
    Along Feed.step (fun feed move => move = .turn → permitted feed) s.feed
      (s.moves request action) := by
  by_cases turn : action = .turn
  · subst action
    exact along_singleton fun _ => allowed rfl
  · apply along_of_forall
    rintro move member feed rfl
    exact absurd (turn_mem_moves member) turn

theorem moves_of_poll_mem {request : Request} {s : Http} {action : Action}
    (member : Feed.Move.poll ∈ s.moves request action) :
    s.moves request action = s.pollFeedMoves := by
  rcases poll_mem_moves member with ⟨rfl, stage | stage⟩ <;> simp only [moves, stage]

theorem run_moves {request : Request} {s final : Http} {actions : List Action}
    (ran : run (step request) s actions = some final) :
    run Feed.step s.feed (trace (step request) (moves request) s actions) = some final.feed :=
  run_trace Http.feed (fun _ _ _ stepped => step_moves stepped) ran

end RustAsgi.Http
