import RustAsgi.Http.Wire

/-!
# The response body

A response that is complete, its body handed over to the end and read to the end,
stays so whatever the responder still does.
-/

namespace RustAsgi

namespace Http

variable {request : Request} {s next : Http} {action : Action}

/-- What a step of the request, other than the connection's, can do to the response body. -/
inductive BodyStep (s next : Http) : Prop where
  | same (body : next.body = s.body)
  | start (stage : s.stage = .phaseA .rx)
  | hand {data : Bytes} {moreBody : Bool} (stage : s.stage = .sendData data moreBody)
      (receiver : s.body.receiver = true)
  | close (stage : s.stage = .closing)
      (body : next.body = { s.body with ending := some .endOfStream })

theorem pollFeed_body (back onward : Stage) (s : Http) :
    (s.pollFeed back onward).body = s.body := by
  simp only [pollFeed]
  split <;> rfl

theorem pollApp_body (back onward : Stage) (s : Http) :
    (s.pollApp back onward).body = s.body := by
  simp only [pollApp]
  split
  · rfl
  · split <;> rfl

theorem logAccess_body (status size : ℕ) (s : Http) :
    (s.logAccess request status size).body = s.body := by
  simp only [logAccess]
  split <;> rfl

theorem observe_body (s : Http) : (s.observe request).body = s.body := by
  simp only [observe, logAccess_body]
  split
  · rfl
  · split <;> rfl

theorem poll_body (polled : Polled request s next) : BodyStep s next := by
  cases polled with
  | start stage | early stage | neverStarted stage | unstarted stage => exact .start stage
  | phaseAApp | responderApp => exact .same (pollApp_body _ _ s)
  | phaseAFeed | responderFeed => exact .same (pollFeed_body _ _ s)
  | startTimeout => exact .same (logAccess_body 500 0 s)
  | hand stage receiver => exact .hand stage receiver
  | close stage => exact .close stage rfl
  | observe => exact .same (observe_body s)
  | phaseAAgain | rejected | duplicate | suppressed | empty | taken | finished | unsent | appTimeout
  | responderAgain | gone | told => exact .same rfl

theorem step_body (own : action.ofConnection = false)
    (stepped : s.step request action = some next) : BodyStep s next := by
  cases step_cases stepped with
  | poll polled => exact poll_body polled
  | takeChunk | dropBody | dropService => cases own
  | refused => exact .same (logAccess_body 500 0 s)
  | established | push | park | unpark | exit | settle | dropSink | feed | startDeadline
  | appDeadline | reaped | reapTimeout => exact .same rfl

/-- The response has not been started. -/
def Unanswered (stage : Stage) : Prop :=
  stage = .establish ∨ stage.inPhaseA = true

/-- The stages after the response has been started, and after its body has ended. -/
structure Ordered (s : Http) : Prop where
  started : s.response.isSome = true → ¬ Unanswered s.stage
  ended : s.body.ending.isSome = true → s.stage = .observing ∨ s.stage = .done

theorem Ordered.step (ordered : s.Ordered) (stepped : s.step request action = some next) :
    next.Ordered := by
  have wired := step_wire stepped
  have started : s.wire.response.isSome = true → ¬ Unanswered s.wire.stage := ordered.started
  have ended : s.wire.ending.isSome = true → s.wire.stage = .observing ∨ s.wire.stage = .done :=
    ordered.ended
  suffices (next.wire.response.isSome = true → ¬ Unanswered next.wire.stage) ∧
      (next.wire.ending.isSome = true →
        next.wire.stage = .observing ∨ next.wire.stage = .done) from ⟨this.1, this.2⟩
  generalize s.wire = before at wired started ended
  generalize next.wire = after at wired
  cases wired with
  | skip | hand => grind [Unanswered, Stage.inPhaseA, afterBody]
  | _ => simp_all [Unanswered, Stage.inPhaseA, Wire.failed]

theorem ordered_init (request : Request) (body : Incoming) : (init request body).Ordered where
  started := by simp [init]
  ended := by simp [init]

/-- Until it is answered a request stays in Phase A, unless its connection drops it. -/
theorem unanswered_step (unanswered : Unanswered s.stage) (away : action.ofConnection = false)
    (stepped : s.step request action = some next) :
    next.response.isSome = true ∨ Unanswered next.stage := by
  have wired := step_wire stepped
  have before : Unanswered s.wire.stage := unanswered
  suffices next.wire.response.isSome = true ∨ Unanswered next.wire.stage from this
  generalize s.wire = wire at wired before
  generalize next.wire = later at wired
  cases wired with
  | dropService => cases away
  | silent | push | park | unpark | dropSink | startDeadline | appDeadline | dropBody =>
      exact .inr before
  | established | phaseA | early => exact .inr (by simp [Unanswered, Stage.inPhaseA])
  | refused | start | neverStarted | startTimeout | rejected => exact .inl rfl
  | responder _ stage | duplicate stage | skip stage | take stage | closed stage | appTimeout stage
  | hand stage | gone _ stage | told stage | close stage | observe stage =>
      rw [stage] at before
      simp [Unanswered, Stage.inPhaseA] at before

/-- The response has been returned, and its body is a full one or is at its end. -/
def Complete (s : Http) : Prop :=
  s.response.isSome = true ∧
    (s.body.receiver = false ∨ (s.body.queue = [] ∧ s.body.ending.isSome = true))

theorem response_step (some_ : s.response.isSome = true)
    (stepped : s.step request action = some next) : next.response.isSome = true := by
  have wired := step_wire stepped
  change next.wire.response.isSome = true
  have before : s.wire.response.isSome = true := some_
  generalize s.wire = before at *
  generalize next.wire = after at *
  cases wired <;> simp_all [Wire.failed]

/-- The connection can only take what is left, or let go of the body. -/
theorem Complete.ofConnection (complete : s.Complete) (own : action.ofConnection = true)
    (stepped : s.step request action = some next) :
    next.body.receiver = false ∨ (next.body.queue = [] ∧ next.body.ending.isSome = true) := by
  cases action with
  | takeChunk =>
      simp only [step] at stepped
      split at stepped
      · rename_i buffered
        rw [Option.some.injEq] at stepped
        subst stepped
        rcases complete.2 with gone | ⟨empty, _⟩
        · exact .inl gone
        · rw [empty] at buffered
          cases buffered
      · cases stepped
  | dropBody =>
      simp only [step, Option.ite_none_right_eq_some, Option.some.injEq] at stepped
      rcases stepped with ⟨_, rfl⟩
      exact .inl rfl
  | dropService =>
      simp only [step, Option.ite_none_right_eq_some, Option.some.injEq] at stepped
      rcases stepped with ⟨_, rfl⟩
      exact complete.2
  | _ => cases own

theorem Complete.step (complete : s.Complete) (ordered : s.Ordered)
    (stepped : s.step request action = some next) : next.Complete := by
  refine ⟨response_step complete.1 stepped, ?_⟩
  by_cases own : action.ofConnection = true
  · exact complete.ofConnection own stepped
  · cases step_body (Bool.eq_false_iff.mpr own) stepped with
    | same body =>
        rw [body]
        exact complete.2
    | start stage =>
        apply absurd _ (ordered.started complete.1)
        exact .inr (by simp [stage, Stage.inPhaseA])
    | hand stage receiver =>
        rcases complete.2 with gone | ⟨_, ended⟩
        · rw [receiver] at gone
          cases gone
        · have late := ordered.ended ended
          simp [stage] at late
    | close stage body =>
        rw [body]
        rcases complete.2 with gone | ⟨empty, _⟩
        · exact .inl gone
        · exact .inr ⟨empty, rfl⟩

end Http

end RustAsgi
