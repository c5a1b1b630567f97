import RustAsgi.Http.FeedOrder

/-!
# The end of a request body

`feed_step` announces the end of the body with a message of its own, and it has
one arm for a body that ended and a body that broke off. This file settles how
often the end is announced and what the application can tell about a failure.
-/

namespace RustAsgi

open Machine

/-- The end is announced at most once, and nothing but a disconnect follows it. -/
def EndsOnce (submitted : List Message) : Prop :=
  submitted.countP Message.isTerminal ≤ 1 ∧
    submitted.Pairwise fun earlier later =>
      earlier.isTerminal = true → later.isRequest = false

instance (submitted : List Message) : Decidable (EndsOnce submitted) :=
  inferInstanceAs (Decidable (_ ∧ _))

namespace EndsOnce

variable {submitted : List Message} {message : Message}

theorem nil : EndsOnce [] := by
  simp [EndsOnce]

theorem concat_of_not_request (once : EndsOnce submitted) (other : message.isRequest = false) :
    EndsOnce (submitted ++ [message]) := by
  have noTerminal : message.isTerminal = false := by
    cases message with
    | request body moreBody => cases other
    | disconnect => rfl
  refine ⟨?_, ?_⟩
  · simpa [List.countP_append, noTerminal] using once.1
  · rw [List.pairwise_append]
    refine ⟨once.2, List.pairwise_singleton _ _, ?_⟩
    intro earlier _ later member _
    rw [List.mem_singleton.mp member]
    exact other

theorem concat_of_unannounced (once : EndsOnce submitted)
    (unannounced : ∀ earlier ∈ submitted, earlier.isTerminal = false) :
    EndsOnce (submitted ++ [message]) := by
  refine ⟨?_, ?_⟩
  · have none : submitted.countP Message.isTerminal = 0 := by
      rw [List.countP_eq_zero]
      intro earlier member
      simp [unannounced earlier member]
    rw [List.countP_append, none, Nat.zero_add]
    exact List.countP_le_length
  · rw [List.pairwise_append]
    refine ⟨once.2, List.pairwise_singleton _ _, ?_⟩
    intro earlier member later _ terminal
    rw [unannounced earlier member] at terminal
    cases terminal

end EndsOnce

namespace Feed

variable {feed next : Feed}

def startsAnew (feed : Feed) : Bool :=
  feed.bodyOpt && feed.feeding && decide (feed.future = .frame) && feed.running

/-- A `feed_step` that is polled for the first time finds the end not yet announced. -/
def NotRestarted (feed : Feed) (move : Move) : Prop :=
  move = .poll → feed.startsAnew = true →
    ∀ message ∈ feed.submitted, message.isTerminal = false

/-- The step lemma for the announcement of the end. -/
theorem endsOnce_step {move : Move} (once : EndsOnce feed.submitted)
    (notRestarted : NotRestarted feed move) (stepped : feed.step move = some next) :
    EndsOnce next.submitted := by
  cases step_cases stepped with
  | poll bodyOpt feeding polled =>
      have unannounced (future : feed.future = .frame) (running : feed.running = true) :=
        notRestarted rfl (by simp [startsAnew, bodyOpt, feeding, future, running])
      cases polled with
      | chunk future _ _ running => exact once.concat_of_unannounced (unannounced future running)
      | «ending» future _ _ running =>
          exact once.concat_of_unannounced (unannounced future running)
      | failed => exact once.concat_of_not_request rfl
      | skip | chunkRefused | endingRefused | completed => exact once
  | disconnect => exact once.concat_of_not_request rfl
  | disconnectRefused | turn | first | get | frameArrives | bodyEnds | drop | handOver | release
  | timeout | stop => exact once

end Feed

namespace Http

variable {request : Request} {s final : Http} {actions : List Action}

/-- The feed branch is not polled with a new `feed_step` once the end has been announced:
the future that announced it has won, or is still the one that is polled. -/
def NotRestarted (s : Http) (action : Action) : Prop :=
  action = .poll → s.stage = .phaseA .feed ∨ s.stage = .responder .feed →
    s.feed.startsAnew = true → ∀ message ∈ s.feed.submitted, message.isTerminal = false

instance (s : Http) (action : Action) : Decidable (s.NotRestarted action) :=
  inferInstanceAs (Decidable (_ → _))

theorem NotRestarted.moves {action : Action} (allowed : s.NotRestarted action) :
    Along Feed.step Feed.NotRestarted s.feed (s.moves request action) := by
  by_cases polls : Feed.Move.poll ∈ s.moves request action
  · rcases poll_mem_moves polls with ⟨polled, stage⟩
    rw [moves_of_poll_mem polls, pollFeedMoves]
    split
    · trivial
    · exact along_singleton fun _ => allowed polled stage
  · apply along_of_forall
    rintro move member feed rfl
    exact absurd member polls

/-- The end of the body is announced once as long as no new `feed_step` is polled after it. -/
theorem endsOnce_of_notRestarted (body : Incoming)
    (notRestarted : Along (step request) NotRestarted (init request body) actions)
    (ran : run (step request) (init request body) actions = some final) :
    EndsOnce final.feed.submitted := by
  have alongMoves := along_trace Http.feed (fun _ _ _ stepped => step_moves stepped)
    (fun _ _ allowed => NotRestarted.moves allowed) notRestarted ran
  exact run_invariant (fun feed : Feed => EndsOnce feed.submitted)
    (fun _ _ _ once allowed stepped => Feed.endsOnce_step once allowed stepped)
    alongMoves (run_moves ran) .nil

theorem endsOnce_of_notRestarted_empty :
    ∃ final, run (step upload) (init upload (.new [] false))
        [.established true, .bodyEnds, .poll, .poll, .poll, .turn, .turn, .turn, .poll, .poll,
          .poll, .poll, .poll] = some final ∧
      EndsOnce final.feed.submitted := by
  have ran : ∃ final, run (step upload) (init upload (.new [] false))
      [.established true, .bodyEnds, .poll, .poll, .poll, .turn, .turn, .turn, .poll, .poll,
        .poll, .poll, .poll] = some final ∧ final.feed.submitted = [.terminal] :=
    exists_of_run_any (by decide)
  rcases ran with ⟨final, ran, _⟩
  exact ⟨final, ran, endsOnce_of_notRestarted _ (by decide) ran⟩

/-- The start event wins the select while the put of the terminal is still awaited. -/
theorem end_announced_twice :
    ∃ final, run (step upload) (init upload (.new [] false))
        [.established true, .bodyEnds, .poll, .poll, .poll, .poll, .poll,
          .push (.start 200 []) false, .poll, .poll, .poll, .poll] = some final ∧
      ¬ EndsOnce final.feed.submitted :=
  exists_of_run_any (by decide)

end Http

end RustAsgi
