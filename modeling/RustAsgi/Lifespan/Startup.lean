import RustAsgi.Machine
import RustAsgi.Lifespan.Queue

/-!
# The lifespan start-up handshake

`LifespanManager::startup` submits the application, puts `lifespan.startup` into
its queue, and then races one `queue.get` against the application's own end and a
timer. The put, the get and the application run on the event loop, and each of
them becomes visible to the racing task on its own. Whatever fails on the way there
makes the lifespan unsupported.
-/

namespace RustAsgi

open Machine Asyncio

inductive LifespanMode where
  | off
  | auto
  | on
  deriving DecidableEq, Repr

/-- `LifespanMode::parse`. -/
def LifespanMode.parse (s : String) : LifespanMode :=
  if s.toLower = "off" then .off else if s.toLower = "on" then .on else .auto

inductive LifespanError where
  | unsupported (message : String)
  | failed (message : String)
  deriving DecidableEq, Repr

/-- `impl Display for LifespanError`. -/
def LifespanError.display : LifespanError → String
  | .unsupported message => "lifespan unsupported: " ++ message
  | .failed message => "lifespan startup failed: " ++ message

/-- What the bridge reads of a message that the application sends. -/
structure Reply where
  /-- The value under `type`, if it is a string. -/
  kind : Option String
  /-- The object under `state`. -/
  state : Option ℕ
  /-- The value under `message`, if it is a string. -/
  message : Option String
  deriving DecidableEq, Repr

/-- The manager that a successful start-up returns, as far as requests need it. -/
structure LifespanManager where
  state : Option ℕ
  deriving DecidableEq, Repr

abbrev StartupResult := Except LifespanError LifespanManager

/-- The steps of `startup` that can fail before the application runs. -/
inductive SetupError where
  | createChannel
  | submitInit
  | initFailed
  | badChannel
  | buildScope
  | callApp
  | submitApp
  deriving DecidableEq, Repr

def SetupError.text : SetupError → String
  | .createChannel => "could not create lifespan channel"
  | .submitInit => "could not submit lifespan init"
  | .initFailed => "lifespan init failed"
  | .badChannel => "bad lifespan channel"
  | .buildScope => "could not build lifespan scope"
  | .callApp => "could not call lifespan app"
  | .submitApp => "could not submit lifespan app"

/-- The `match` on the type of the reply. -/
def classify (reply : Reply) : StartupResult :=
  let kind := reply.kind.getD ""
  if kind = "lifespan.startup.complete" then .ok { state := reply.state }
  else if kind = "lifespan.startup.failed" then
    .error (.failed (reply.message.getD "unknown"))
  else .error (.unsupported ("unexpected lifespan reply " ++ kind.quote))

/-- The `match` on the outcome of the race: what the get has yielded, which is nothing when it has
failed, or `none` when it has lost. -/
def conclude : Option (Option Reply) → StartupResult
  | some (some reply) => classify reply
  | some none => .error (.unsupported "lifespan reply failed")
  | none => .error (.unsupported "app exited without a lifespan reply (or timed out)")

inductive RaceBranch where
  | get
  | app
  | deadline
  deriving DecidableEq, Repr

inductive StartupStage where
  | setup
  /-- The application has been submitted, and nothing has been put yet. -/
  | delivering
  | putting
  | racing (branch : RaceBranch)
  | finished (result : StartupResult)

structure Startup where
  stage : StartupStage
  /-- The application has been submitted. -/
  started : Bool
  app : AppRun
  /-- The coroutine `to_app.put`. -/
  put : Crossing Outcome
  /-- The coroutine `from_app.get`, which yields nothing when it raises. -/
  get : Crossing (Option Reply)
  /-- What the application has sent and no get has taken. -/
  fromApp : List Reply
  /-- Every message the application has sent, in order. -/
  sent : List Reply
  putTimer : Bool
  handshakeTimer : Bool
  /-- `loop.is_running()`, which `into_future` checks. -/
  running : Bool

namespace Startup

def init : Startup :=
  { stage := .setup, started := false, app := .running, put := .unscheduled, get := .unscheduled,
    fromApp := [], sent := [], putTimer := false, handshakeTimer := false, running := true }

inductive Action where
  /-- Queues, scope and application, up to the submission of the application. -/
  | setup (error : Option SetupError)
  /-- `queue_put` up to its submission. -/
  | put (broken : Option (PutPart × String))
  | poll
  | putRuns
  | putRaises
  | putVisible
  /-- The call of the get fails, or its submission. -/
  | getRefused
  | getRuns
  | getRaises
  | getVisible
  | send (reply : Reply)
  | exit (outcome : Outcome)
  | settle
  | putTimeout
  | handshakeTimeout
  | stopLoop
  deriving DecidableEq, Repr

def finish (s : Startup) (result : StartupResult) : Startup :=
  { s with stage := .finished result }

def poll (s : Startup) : Option Startup :=
  match s.stage with
  | .setup | .delivering => none
  | .putting =>
      match pollPut s.put s.putTimer with
      | none => none
      | some (.ok ()) => some { s with stage := .racing .get }
      | some (.error error) => some (s.finish (.error (.unsupported error.text)))
  | .racing .get =>
      match pollGet s.running s.get with
      | .submits => some { s with get := .scheduled }
      | .ready reply => some (s.finish (conclude (some reply)))
      | .pending => some { s with stage := .racing .app }
  | .racing .app =>
      match s.app with
      | .settled _ => some (s.finish (conclude none))
      | _ => some { s with stage := .racing .deadline }
  | .racing .deadline =>
      if s.handshakeTimer then some (s.finish (conclude none))
      else some { s with stage := .racing .get }
  | .finished _ => none

def step (s : Startup) : Action → Option Startup
  | .setup error =>
      match s.stage, error with
      | .setup, none => some { s with stage := .delivering, started := true }
      | .setup, some error => some (s.finish (.error (.unsupported error.text)))
      | _, _ => none
  | .put broken =>
      match s.stage, submitPut s.running broken with
      | .delivering, .ok put => some { s with stage := .putting, put }
      | .delivering, .error error => some (s.finish (.error (.unsupported error.text)))
      | _, _ => none
  | .poll => s.poll
  | .putRuns => if s.put = .scheduled then some { s with put := .done .returned } else none
  | .putRaises => if s.put = .scheduled then some { s with put := .done .raised } else none
  | .putVisible =>
      match s.put with
      | .done outcome => some { s with put := .visible outcome }
      | _ => none
  | .getRefused =>
      match s.stage, s.get with
      | .racing .get, .unscheduled => some { s with get := .visible none }
      | _, _ => none
  | .getRuns =>
      match s.get, s.fromApp with
      | .scheduled, reply :: rest => some { s with get := .done (some reply), fromApp := rest }
      | _, _ => none
  | .getRaises => if s.get = .scheduled then some { s with get := .done none } else none
  | .getVisible =>
      match s.get with
      | .done reply => some { s with get := .visible reply }
      | _ => none
  | .send reply =>
      if s.started ∧ s.app = .running then
        some { s with fromApp := s.fromApp ++ [reply], sent := s.sent ++ [reply] }
      else none
  | .exit outcome =>
      if s.started ∧ s.app = .running then some { s with app := .exited outcome } else none
  | .settle =>
      match s.app with
      | .exited outcome => some { s with app := .settled outcome }
      | _ => none
  | .putTimeout => some { s with putTimer := true }
  | .handshakeTimeout => some { s with handshakeTimer := true }
  | .stopLoop => some { s with running := false }

end Startup

/-- The start-up part of `serve_process_on`: the state for the scopes, or a fatal error. -/
def lifespanState (mode : LifespanMode) (result : StartupResult) : Except String (Option ℕ) :=
  match mode, result with
  | .off, _ => .ok none
  | _, .ok manager => .ok manager.state
  | .auto, .error (.unsupported _) => .ok none
  | _, .error error => .error ("lifespan startup failed: " ++ error.display)

namespace Startup

variable {s next final : Startup} {action : Action} {actions : List Action}

/-- The application answers before it ends, and the 30s timer does not fire. -/
def answers (s : Startup) : Action → Bool
  | .exit _ => !s.sent.isEmpty
  | .handshakeTimeout => false
  | _ => true

def Answers (s : Startup) (action : Action) : Prop :=
  s.answers action = true

instance (s : Startup) (action : Action) : Decidable (s.Answers action) :=
  inferInstanceAs (Decidable (_ = _))

/-- A step gives up on the reply: the put or the get is not accepted, raises or takes too long, or
the application is seen to end before the get is. -/
def losesReply (s : Startup) : Action → Bool
  | .put broken => broken.isSome || !s.running
  | .poll =>
      match s.stage, s.put, s.get, s.app with
      | .putting, .visible outcome, _, _ => outcome = .raised
      | .putting, _, _, _ => s.putTimer
      | .racing .get, _, .unscheduled, _ => !s.running
      | .racing .get, _, .visible reply, _ => reply.isNone
      | .racing .app, _, _, .settled _ => true
      | _, _, _, _ => false
  | _ => false

def KeepsReply (s : Startup) (action : Action) : Prop :=
  s.losesReply action = false

instance (s : Startup) (action : Action) : Decidable (s.KeepsReply action) :=
  inferInstanceAs (Decidable (_ = _))

def taken (s : Startup) : List Reply :=
  match s.get with
  | .done (some reply) | .visible (some reply) => [reply]
  | _ => []

/-- What a poll can do. -/
inductive Polled (s : Startup) : Startup → Prop where
  | delivered (stage : s.stage = .putting) (put : s.put = .visible .returned) :
      Polled s { s with stage := .racing .get }
  | undelivered (stage : s.stage = .putting) (lost : s.put = .visible .raised ∨
      (∀ outcome, s.put ≠ .visible outcome) ∧ s.putTimer = true) (error : PutError) :
      Polled s (s.finish (.error (.unsupported error.text)))
  | submits (stage : s.stage = .racing .get) (get : s.get = .unscheduled)
      (running : s.running = true) : Polled s { s with get := .scheduled }
  | replied {reply : Reply} (stage : s.stage = .racing .get) (get : s.get = .visible (some reply)) :
      Polled s (s.finish (classify reply))
  | failed (stage : s.stage = .racing .get)
      (lost : s.get = .unscheduled ∧ s.running = false ∨ s.get = .visible none) :
      Polled s (s.finish (conclude (some none)))
  | ended {outcome : Outcome} (stage : s.stage = .racing .app) (app : s.app = .settled outcome) :
      Polled s (s.finish (conclude none))
  | timedOut (stage : s.stage = .racing .deadline) (fired : s.handshakeTimer = true) :
      Polled s (s.finish (conclude none))
  | goesOn {branch : RaceBranch} (stage : s.stage = .racing branch)
      (keeps : s.losesReply .poll = false) (after : RaceBranch) :
      Polled s { s with stage := .racing after }

theorem losesReply_undelivered (stage : s.stage = .putting) (lost : s.put = .visible .raised ∨
    (∀ outcome, s.put ≠ .visible outcome) ∧ s.putTimer = true) : s.losesReply .poll = true := by
  rcases lost with raised | ⟨waiting, fired⟩
  · simp [losesReply, stage, raised]
  · cases put : s.put with
    | visible outcome => exact absurd put (waiting outcome)
    | unscheduled | scheduled | done => simp only [losesReply, stage, put, fired]

theorem poll_cases (polled : s.poll = some next) : s.Polled next := by
  simp only [Startup.poll] at polled
  split at polled
  · cases polled
  · cases polled
  · rename_i stage
    split at polled
    · cases polled
    · rename_i put
      cases polled
      exact .delivered stage (pollPut_ok put)
    · rename_i error put
      cases polled
      exact .undelivered stage (pollPut_error put) error
  · rename_i stage
    split at polled
    · rename_i get
      cases polled
      rcases pollGet_submits get with ⟨unscheduled, running⟩
      exact .submits stage unscheduled running
    · rename_i reply get
      cases polled
      cases reply with
      | none => exact .failed stage (pollGet_failed get)
      | some reply => exact .replied stage (pollGet_ready get)
    · rename_i get
      cases polled
      refine .goesOn stage ?_ _
      rcases pollGet_pending get with scheduled | ⟨reply, ran⟩
      · simp only [losesReply, stage, scheduled]
      · simp only [losesReply, stage, ran]
  · rename_i stage
    split at polled <;> cases polled
    · rename_i outcome app
      exact .ended stage app
    · rename_i unsettled
      refine .goesOn stage ?_ _
      cases app : s.app with
      | settled outcome => exact absurd app (unsettled outcome)
      | running | exited => simp only [losesReply, stage, app]
  · rename_i stage
    split at polled <;> cases polled
    · rename_i fired
      exact .timedOut stage fired
    · exact .goesOn stage (by simp only [losesReply, stage]) _
  · cases polled

/-- Messages keep their order, and a result comes from the get or from a failed set-up. -/
structure Ordered (s : Startup) : Prop where
  order : s.sent = s.taken ++ s.fromApp
  timer : s.handshakeTimer = false
  setup : s.stage = .setup → s.started = false
  unsent : s.started = false → s.sent = []
  result : ∀ result, s.stage = .finished result →
    s.started = false ∨ ∃ reply, s.get = .visible (some reply) ∧ result = classify reply

theorem ordered_init : Ordered init := by
  constructor <;> simp [init, taken]

/-- The call goes on, or returns what is known of its result. -/
theorem Ordered.goto {stage : StartupStage} (ordered : Ordered s) (called : stage ≠ .setup)
    (result : ∀ result, stage = .finished result →
      s.started = false ∨ ∃ reply, s.get = .visible (some reply) ∧ result = classify reply) :
    Ordered { s with stage } where
  order := ordered.order
  timer := ordered.timer
  setup := fun setup => absurd setup called
  unsent := ordered.unsent
  result := result

/-- A poll that keeps the reply moves on, submits the get, or returns what the get has taken. -/
theorem Ordered.poll (ordered : Ordered s) (keeps : s.losesReply .poll = false)
    (polled : s.poll = some next) : Ordered next := by
  cases poll_cases polled with
  | delivered stage | goesOn stage => exact ordered.goto (by simp) (by simp)
  | submits stage get =>
      refine ⟨?_, ordered.timer, ordered.setup, ordered.unsent, by simp [stage]⟩
      simpa [taken, get] using ordered.order
  | @replied reply stage get =>
      apply ordered.goto (by simp)
      intro result finished
      exact .inr ⟨reply, get, (StartupStage.finished.inj finished).symm⟩
  | undelivered stage lost =>
      rw [losesReply_undelivered stage lost] at keeps
      cases keeps
  | failed stage lost =>
      rcases lost with ⟨get, stopped⟩ | get
      · simp [losesReply, stage, get, stopped] at keeps
      · simp [losesReply, stage, get] at keeps
  | ended stage app => simp [losesReply, stage, app] at keeps
  | timedOut stage fired =>
      rw [ordered.timer] at fired
      cases fired

/-- A step beside the call and the get. -/
theorem Ordered.same (ordered : Ordered s) (stage : next.stage = s.stage)
    (started : next.started = s.started) (get : next.get = s.get)
    (fromApp : next.fromApp = s.fromApp) (sent : next.sent = s.sent)
    (timer : next.handshakeTimer = s.handshakeTimer) : Ordered next := by
  have taken : next.taken = s.taken := by simp only [Startup.taken, get]
  refine ⟨?_, timer.trans ordered.timer, ?_, ?_, ?_⟩
  · rw [sent, taken, fromApp]
    exact ordered.order
  · rw [stage, started]
    exact ordered.setup
  · rw [started, sent]
    exact ordered.unsent
  · rw [stage, started, get]
    exact ordered.result

/-- A step of the get, which nobody has seen the end of. -/
theorem Ordered.gets {get : Crossing (Option Reply)} {fromApp : List Reply} (ordered : Ordered s)
    (unseen : ∀ reply, s.get ≠ .visible reply)
    (order : s.sent = ({ s with get, fromApp } : Startup).taken ++ fromApp) :
    Ordered { s with get, fromApp } where
  order := order
  timer := ordered.timer
  setup := ordered.setup
  unsent := ordered.unsent
  result := by
    intro result finished
    rcases ordered.result result finished with unstarted | ⟨reply, visible, _⟩
    · exact .inl unstarted
    · exact absurd visible (unseen _)

theorem Ordered.step (ordered : Ordered s) (answers : s.Answers action)
    (keeps : s.KeepsReply action) (stepped : s.step action = some next) : Ordered next := by
  cases action with
  | poll => exact ordered.poll keeps stepped
  | handshakeTimeout => cases answers
  | setup error =>
      rcases ordered with ⟨order, timer, setup, unsent, result⟩
      simp only [Startup.step] at stepped
      split at stepped
      · rename_i stage
        cases stepped
        exact ⟨order, timer, by simp, fun _ => unsent (setup stage), by simp⟩
      · rename_i error stage
        cases stepped
        exact ⟨order, timer, by simp [finish], unsent, fun _ _ => .inl (setup stage)⟩
      · cases stepped
  | put broken =>
      simp only [KeepsReply, losesReply, Bool.or_eq_false_iff, Bool.not_eq_false'] at keeps
      simp only [Startup.step] at stepped
      split at stepped
      · rename_i put stage submitted
        cases stepped
        exact ⟨ordered.order, ordered.timer, by simp, ordered.unsent, by simp⟩
      · rename_i error stage submitted
        rw [keeps.2, Option.isNone_iff_eq_none.mp (Option.isSome_eq_false_iff.mp keeps.1),
          submitPut_running] at submitted
        cases submitted
      · cases stepped
  | putRuns | putRaises | exit outcome =>
      simp only [Startup.step, Option.ite_none_right_eq_some, Option.some.injEq] at stepped
      rcases stepped with ⟨_, rfl⟩
      exact ordered.same rfl rfl rfl rfl rfl rfl
  | putVisible | settle =>
      simp only [Startup.step] at stepped
      split at stepped <;> cases stepped
      exact ordered.same rfl rfl rfl rfl rfl rfl
  | putTimeout | stopLoop =>
      cases stepped
      exact ordered.same rfl rfl rfl rfl rfl rfl
  | send reply =>
      simp only [Startup.step, Option.ite_none_right_eq_some, Option.some.injEq] at stepped
      rcases stepped with ⟨⟨started, _⟩, rfl⟩
      refine ⟨?_, ordered.timer, ordered.setup, ?_, ordered.result⟩
      · rw [ordered.order, List.append_assoc]
        rfl
      · intro unstarted
        rw [started] at unstarted
        cases unstarted
  | getRuns =>
      simp only [Startup.step] at stepped
      split at stepped <;> cases stepped
      rename_i reply rest get fromApp
      refine ordered.gets (by simp [get]) ?_
      simpa [taken, get, fromApp] using ordered.order
  | getRefused =>
      simp only [Startup.step] at stepped
      split at stepped <;> cases stepped
      rename_i get
      refine ordered.gets (by simp [get]) ?_
      simpa [taken, get] using ordered.order
  | getRaises =>
      simp only [Startup.step, Option.ite_none_right_eq_some, Option.some.injEq] at stepped
      rcases stepped with ⟨get, rfl⟩
      refine ordered.gets (by simp [get]) ?_
      simpa [taken, get] using ordered.order
  | getVisible =>
      simp only [Startup.step] at stepped
      split at stepped <;> cases stepped
      rename_i reply get
      refine ordered.gets (by simp [get]) ?_
      cases reply <;> simpa [taken, get] using ordered.order

/-- A known reply is never taken for missing support. -/
theorem classify_known {reply : Reply}
    (known : reply.kind = some "lifespan.startup.complete" ∨
      reply.kind = some "lifespan.startup.failed") (message : String) :
    classify reply ≠ .error (.unsupported message) := by
  rcases known with complete | failed
  · simp [classify, complete]
  · simp [classify, failed]

def GaveUp (s : Startup) : Prop :=
  ∃ message, s.stage = .finished (.error (.unsupported message))

theorem gaveUp_of_loses (loses : ¬ s.KeepsReply action) (stepped : s.step action = some next) :
    next.GaveUp := by
  rw [KeepsReply, Bool.not_eq_false] at loses
  cases action with
  | put broken =>
      simp only [Startup.step] at stepped
      split at stepped
      · rename_i put stage submitted
        rcases submitPut_ok submitted with ⟨running, whole, _⟩
        simp [losesReply, running, whole] at loses
      · rename_i error stage submitted
        cases stepped
        exact ⟨error.text, rfl⟩
      · cases stepped
  | poll =>
      cases poll_cases stepped with
      | delivered stage put => simp [losesReply, stage, put] at loses
      | undelivered _ _ error => exact ⟨error.text, rfl⟩
      | failed | ended | timedOut => exact ⟨_, rfl⟩
      | submits stage get running => simp [losesReply, stage, get, running] at loses
      | replied stage get => simp [losesReply, stage, get] at loses
      | goesOn stage keeps =>
          rw [keeps] at loses
          cases loses
  | _ => cases loses

theorem GaveUp.step (gaveUp : s.GaveUp) (stepped : s.step action = some next) : next.GaveUp := by
  rcases gaveUp with ⟨message, stage⟩
  refine ⟨message, ?_⟩
  cases action with
  | poll => simp [Startup.step, Startup.poll, stage] at stepped
  | setup error | put broken => simp [Startup.step, stage] at stepped
  | _ =>
      simp only [Startup.step] at stepped
      grind

/-- The result is what the first reply says if and only if the race is never given up, and then
a failure is fatal in every mode that starts the lifespan. -/
theorem startup_matches_iff (answers : Along step Answers init actions)
    (ran : run step init actions = some final) {result : StartupResult}
    (finished : final.stage = .finished result) {reply : Reply} {rest : List Reply}
    (first : final.sent = reply :: rest)
    (known : reply.kind = some "lifespan.startup.complete" ∨
      reply.kind = some "lifespan.startup.failed") :
    (result = classify reply ↔ Along step KeepsReply init actions) ∧
    (Along step KeepsReply init actions → reply.kind = some "lifespan.startup.failed" →
      ∀ mode, mode ≠ .off → ∃ error, lifespanState mode result = .error error) := by
  have forward (keeps : Along step KeepsReply init actions) : result = classify reply := by
    have ordered : Ordered final :=
      run_invariant Ordered
        (fun _ _ _ ordered allowed stepped => ordered.step allowed.1 allowed.2 stepped)
        (answers.and keeps) ran ordered_init
    rcases ordered.result result finished with unscheduled | ⟨taken, visible, classified⟩
    · rw [ordered.unsent unscheduled] at first
      cases first
    · have order := ordered.order
      simp only [Startup.taken, visible, first, List.singleton_append, List.cons.injEq] at order
      rw [classified, order.1]
  refine ⟨⟨?_, forward⟩, ?_⟩
  · intro matched
    by_contra loses
    have gaveUp : final.GaveUp :=
      run_of_not_along (fun _ => True) GaveUp (fun _ _ _ _ _ => trivial)
        (fun _ _ _ _ gaveUp stepped => gaveUp.step stepped)
        (fun _ _ _ _ loses stepped => gaveUp_of_loses loses stepped) trivial loses ran
    rcases gaveUp with ⟨message, stage⟩
    rw [finished, StartupStage.finished.injEq, matched] at stage
    exact classify_known known message stage
  · intro keeps failed mode notOff
    rw [forward keeps]
    cases mode <;> simp [lifespanState, classify, failed] at notOff ⊢

def failure : Reply :=
  { kind := some "lifespan.startup.failed", state := none, message := some "no database" }

def failedRun : List Action :=
  [.setup none, .put none, .putRuns, .putVisible, .poll, .poll, .send failure, .getRuns,
    .getVisible, .exit .raised, .settle, .poll]

/-- The application raises with its reply taken: the worker gives up in mode `auto` as well. -/
theorem startup_matches_iff_failed :
    ∃ final, run step init failedRun = some final ∧
      final.stage = .finished (classify failure) ∧ Along step KeepsReply init failedRun ∧
      ∀ mode, mode ≠ .off → ∃ error, lifespanState mode (classify failure) = .error error := by
  have ran : ∃ final, run step init failedRun = some final ∧
      final.stage = .finished (.error (.failed "no database")) ∧ final.sent = [failure] :=
    ⟨_, rfl, rfl, rfl⟩
  rcases ran with ⟨final, ran, finished, first⟩
  have settles := startup_matches_iff (by decide) ran finished first (.inr rfl)
  have keeps : Along step KeepsReply init failedRun := by decide
  have same := settles.1.mpr keeps
  rw [same] at finished settles
  exact ⟨final, ran, finished, keeps, settles.2 keeps rfl⟩

/-- The same application a moment earlier: its end is visible before the get has run, and in
mode `auto` the worker goes on to serve. -/
theorem failure_taken_for_unsupported :
    ∃ final, run step init
        [.setup none, .put none, .putRuns, .send failure, .exit .raised, .settle, .putVisible,
          .poll, .poll, .poll, .poll] = some final ∧
      ∃ result, final.stage = .finished result ∧ result ≠ classify failure ∧
        lifespanState .auto result = .ok none := by
  refine ⟨_, rfl, _, rfl, ?_, rfl⟩
  exact (classify_known (.inr rfl) _).symm

end Startup

end RustAsgi
