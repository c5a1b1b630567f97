import RustAsgi.Lifespan.Startup

/-!
# The lifespan shutdown handshake

`LifespanManager::shutdown` puts `lifespan.shutdown` into the queue of the
application and waits for one message, from the queue that the start-up has read
before. What the application sends has no mark of the phase that it belongs to, and
the wait ends with whatever is the oldest message.
-/

namespace RustAsgi

open Machine Asyncio

def Reply.isShutdownReply (reply : Reply) : Bool :=
  reply.kind == some "lifespan.shutdown.complete" || reply.kind == some "lifespan.shutdown.failed"

/-- How a call of `shutdown` ends. -/
inductive ShutdownEnd where
  | replied (reply : Reply)
  /-- The put or the get has not been accepted or has raised, or the put has taken too long. -/
  | failed
  | timedOut
  deriving DecidableEq, Repr

inductive ShutdownBranch where
  | get
  | deadline
  deriving DecidableEq, Repr

inductive ShutdownStage where
  /-- `shutdown` has not been called. -/
  | idle
  | putting
  | racing (branch : ShutdownBranch)
  | returned (ending : ShutdownEnd)
  deriving DecidableEq, Repr

/-- The lifespan of a worker, from its start-up on. -/
structure Lifespan where
  /-- The start-up, the application and what it has sent over its whole life. -/
  startup : Startup
  stage : ShutdownStage
  /-- The coroutine `to_app.put` of the shutdown. -/
  put : Crossing Outcome
  /-- The coroutine `from_app.get` of the shutdown, which yields nothing when it raises. -/
  get : Crossing (Option Reply)
  putTimer : Bool
  timer : Bool
  /-- How much the application had sent when the shutdown message was delivered. -/
  deliveredAt : Option ℕ

namespace Lifespan

def init : Lifespan :=
  { startup := .init, stage := .idle, put := .unscheduled, get := .unscheduled, putTimer := false,
    timer := false, deliveredAt := none }

inductive Action where
  /-- A step of the start-up, or of the application and its loop at any time. -/
  | startup (action : Startup.Action)
  /-- The call of `shutdown`, up to the submission of the put. -/
  | shutdown (broken : Option (PutPart × String))
  | poll
  | putRuns
  | putRaises
  | putVisible
  | getRuns
  /-- The call of the get fails, or its submission. -/
  | getRefused
  | getRaises
  | getVisible
  | putTimeout
  | timeout
  deriving DecidableEq, Repr

def finish (s : Lifespan) (ending : ShutdownEnd) : Lifespan :=
  { s with stage := .returned ending }

def poll (s : Lifespan) : Option Lifespan :=
  match s.stage with
  | .putting =>
      match pollPut s.put s.putTimer with
      | none => none
      | some (.ok ()) => some { s with stage := .racing .get }
      | some (.error _) => some (s.finish .failed)
  | .racing .get =>
      match pollGet s.startup.running s.get with
      | .submits => some { s with get := .scheduled }
      -- The type of the reply decides what is logged, and nothing else.
      | .ready (some reply) => some (s.finish (.replied reply))
      | .ready none => some (s.finish .failed)
      | .pending => some { s with stage := .racing .deadline }
  | .racing .deadline =>
      if s.timer then some (s.finish .timedOut) else some { s with stage := .racing .get }
  | .idle | .returned _ => none

def step (s : Lifespan) : Action → Option Lifespan
  | .startup action => (s.startup.step action).map fun startup => { s with startup }
  | .shutdown broken =>
      match s.stage, s.startup.stage, submitPut s.startup.running broken with
      | .idle, .finished (.ok _), .ok put => some { s with stage := .putting, put }
      | .idle, .finished (.ok _), .error _ => some (s.finish .failed)
      | _, _, _ => none
  | .poll => s.poll
  | .putRuns =>
      if s.put = .scheduled then
        some { s with put := .done .returned, deliveredAt := some s.startup.sent.length }
      else none
  | .putRaises => if s.put = .scheduled then some { s with put := .done .raised } else none
  | .putVisible =>
      match s.put with
      | .done outcome => some { s with put := .visible outcome }
      | _ => none
  | .getRuns =>
      match s.get, s.startup.fromApp with
      | .scheduled, reply :: rest =>
          some { s with get := .done (some reply), startup := { s.startup with fromApp := rest } }
      | _, _ => none
  | .getRefused =>
      match s.stage, s.get with
      | .racing .get, .unscheduled => some { s with get := .visible none }
      | _, _ => none
  | .getRaises => if s.get = .scheduled then some { s with get := .done none } else none
  | .getVisible =>
      match s.get with
      | .done reply => some { s with get := .visible reply }
      | _ => none
  | .putTimeout => if s.stage = .putting then some { s with putTimer := true } else none
  | .timeout =>
      match s.stage with
      | .racing _ => some { s with timer := true }
      | _ => none

/-- The application has replied to the shutdown since that was delivered. -/
def Answered (s : Lifespan) : Prop :=
  ∃ before, s.deliveredAt = some before ∧
    ∃ reply ∈ s.startup.sent.drop before, reply.isShutdownReply = true

/-- The call ends before its timeout only on a reply of the application, or when the bridge
fails. -/
def WaitsForReply (s : Lifespan) : Prop :=
  ∀ ending, s.stage = .returned ending → ending = .failed ∨ s.timer = true ∨ s.Answered

def waiting (s : Lifespan) : Bool :=
  match s.stage with
  | .racing _ => true
  | _ => false

/-- The oldest message that is left was sent after the delivery, and replies to the shutdown. -/
def repliesFirst (s : Lifespan) : Bool :=
  match s.deliveredAt, s.startup.fromApp with
  | some before, reply :: rest =>
      reply.isShutdownReply && decide (before + rest.length < s.startup.sent.length)
  | _, _ => false

/-- The get takes a reply to the shutdown, as long as somebody waits for it. -/
def TakesReply (s : Lifespan) (action : Action) : Prop :=
  action = .getRuns → s.waiting = true → s.repliesFirst = true

instance (s : Lifespan) (action : Action) : Decidable (s.TakesReply action) :=
  inferInstanceAs (Decidable (_ → _))

variable {s next final : Lifespan} {action : Action} {actions : List Action}

/-- What is left of the messages is the last of them, and who waits has taken a reply or nothing. -/
structure Heeding (s : Lifespan) : Prop where
  left : s.startup.fromApp <:+ s.startup.sent
  idle : s.stage = .idle → s.put = .unscheduled
  undelivered : s.put = .unscheduled ∨ s.put = .scheduled → s.deliveredAt = none
  early : s.stage = .idle ∨ s.stage = .putting → s.get = .unscheduled
  taken : ∀ branch reply, s.stage = .racing branch →
    s.get = .done (some reply) ∨ s.get = .visible (some reply) → s.Answered
  returned : s.WaitsForReply

theorem heeding_init : Heeding init where
  left := List.suffix_rfl
  idle := fun _ => rfl
  undelivered := fun _ => rfl
  early := fun _ => rfl
  taken := fun _ _ racing => by cases racing
  returned := fun _ returned => by cases returned

/-- The queue gets a new message, is left alone, or loses its oldest one to the get of the
start-up. -/
theorem mail_of_startup {startup : Startup} {move : Startup.Action}
    (stepped : s.startup.step move = some startup) :
    (∃ reply, move = .send reply ∧ startup.sent = s.startup.sent ++ [reply] ∧
      startup.fromApp = s.startup.fromApp ++ [reply] ∧ startup.taken = s.startup.taken) ∨
    startup.sent = s.startup.sent ∧
      (startup.fromApp = s.startup.fromApp ∧ startup.taken = s.startup.taken ∨
        s.startup.taken = [] ∧ startup.taken ++ startup.fromApp = s.startup.fromApp) := by
  cases move with
  | poll =>
      cases Startup.poll_cases stepped with
      | submits stage get =>
          refine .inr ⟨rfl, .inl ⟨rfl, ?_⟩⟩
          simp only [Startup.taken, get]
      | _ => exact .inr ⟨rfl, .inl ⟨rfl, rfl⟩⟩
  | _ =>
      simp only [Startup.step] at stepped
      grind [Startup.finish, Startup.taken]

theorem sent_of_startup {startup : Startup} {move : Startup.Action}
    (stepped : s.startup.step move = some startup) : s.startup.sent <+: startup.sent := by
  rcases mail_of_startup stepped with ⟨reply, _, sent, _⟩ | ⟨sent, _⟩
  · rw [sent]
    exact List.prefix_append _ _
  · rw [sent]

/-- What has been sent stays sent. -/
theorem Answered.mono (answered : s.Answered) (deliveredAt : next.deliveredAt = s.deliveredAt)
    (sent : s.startup.sent <+: next.startup.sent) : next.Answered := by
  rcases answered with ⟨before, delivered, reply, member, replies⟩
  refine ⟨before, deliveredAt.trans delivered, reply, ?_, replies⟩
  rcases sent with ⟨more, sent⟩
  rw [← sent, List.drop_append]
  exact List.mem_append_left _ member

theorem answered_of_repliesFirst (left : s.startup.fromApp <:+ s.startup.sent)
    (replies : s.repliesFirst = true) : s.Answered := by
  simp only [repliesFirst] at replies
  split at replies
  · rename_i before reply rest delivered queue
    simp only [Bool.and_eq_true, decide_eq_true_eq] at replies
    rcases replies with ⟨replies, later⟩
    rw [queue] at left
    rcases left with ⟨front, sent⟩
    refine ⟨before, delivered, reply, ?_, replies⟩
    have longer : before ≤ front.length := by
      have lengths := congrArg List.length sent
      simp only [List.length_append, List.length_cons] at lengths
      omega
    rw [← sent, List.drop_append_of_le_length longer]
    exact List.mem_append_right _ List.mem_cons_self
  · cases replies

theorem Heeding.startup {startup : Startup} {move : Startup.Action} (heeding : s.Heeding)
    (stepped : s.startup.step move = some startup) :
    ({ s with startup } : Lifespan).Heeding := by
  have sent := sent_of_startup stepped
  have kept (answered : s.Answered) : ({ s with startup } : Lifespan).Answered :=
    answered.mono rfl sent
  refine ⟨?_, heeding.idle, heeding.undelivered, heeding.early, ?_, ?_⟩
  · rcases mail_of_startup stepped with ⟨reply, _, sent, queue, _⟩ | ⟨sent, ⟨queue, _⟩ | ⟨_, queue⟩⟩
    · simp only [sent, queue]
      rcases heeding.left with ⟨front, whole⟩
      exact ⟨front, by rw [← List.append_assoc, whole]⟩
    · simp only [sent, queue]
      exact heeding.left
    · have shorter : startup.fromApp <:+ s.startup.fromApp := ⟨startup.taken, queue⟩
      simp only [sent]
      exact shorter.trans heeding.left
  · intro branch reply racing yielded
    exact kept (heeding.taken branch reply racing yielded)
  · intro ending returned
    rcases heeding.returned ending returned with failed | late | answered
    · exact .inl failed
    · exact .inr (.inl late)
    · exact .inr (.inr (kept answered))

theorem Heeding.finish {ending : ShutdownEnd} (heeding : s.Heeding)
    (allowed : ending = .failed ∨ s.timer = true ∨ s.Answered) : (s.finish ending).Heeding where
  left := heeding.left
  idle := fun stage => by cases stage
  undelivered := heeding.undelivered
  early := by
    rintro (stage | stage) <;> cases stage
  taken := fun _ _ racing => by cases racing
  returned := by
    intro ending returned
    cases returned
    exact allowed

/-- The race goes on with what the get has taken. -/
theorem Heeding.race {branch after : ShutdownBranch} (heeding : s.Heeding)
    (stage : s.stage = .racing branch) :
    ({ s with stage := .racing after } : Lifespan).Heeding where
  left := heeding.left
  idle := fun stage => by cases stage
  undelivered := heeding.undelivered
  early := by
    rintro (stage | stage) <;> cases stage
  taken := fun _ reply _ yielded => heeding.taken branch reply stage yielded
  returned := fun _ returned => by cases returned

/-- What a poll can do. -/
inductive Polled (s : Lifespan) : Lifespan → Prop where
  | races (stage : s.stage = .putting) (put : s.put = .visible .returned) :
      Polled s { s with stage := .racing .get }
  | submits (stage : s.stage = .racing .get) (get : s.get = .unscheduled) :
      Polled s { s with get := .scheduled }
  | goesOn {branch : ShutdownBranch} (stage : s.stage = .racing branch) (after : ShutdownBranch) :
      Polled s { s with stage := .racing after }
  | ends {ending : ShutdownEnd} (called : s.stage ≠ .idle)
      (allowed : ending = .failed ∨ s.timer = true ∨
        ∃ branch reply, s.stage = .racing branch ∧ s.get = .visible (some reply)) :
      Polled s (s.finish ending)

theorem poll_cases (polled : s.poll = some next) : s.Polled next := by
  have called : s.stage ≠ .idle := by
    intro idle
    rw [Lifespan.poll, idle] at polled
    cases polled
  simp only [Lifespan.poll] at polled
  split at polled
  next stage =>
    split at polled
    · cases polled
    · rename_i put
      cases polled
      exact .races stage (pollPut_ok put)
    · cases polled
      exact .ends called (.inl rfl)
  next stage =>
    split at polled
    · rename_i get
      cases polled
      exact .submits stage (pollGet_submits get).1
    · rename_i reply get
      cases polled
      exact .ends called (.inr (.inr ⟨_, reply, stage, pollGet_ready get⟩))
    · cases polled
      exact .ends called (.inl rfl)
    · cases polled
      exact .goesOn stage _
  next stage =>
    split at polled <;> cases polled
    · rename_i fired
      exact .ends called (.inr (.inl fired))
    · exact .goesOn stage _
  next => cases polled
  next => cases polled

theorem Heeding.poll (heeding : s.Heeding) (polled : s.poll = some next) : next.Heeding := by
  cases poll_cases polled with
  | races stage =>
      have unscheduled := heeding.early (.inr stage)
      refine ⟨heeding.left, (fun stage => by cases stage), heeding.undelivered, ?_, ?_,
        (fun _ returned => by cases returned)⟩
      · rintro (stage | stage) <;> cases stage
      · rintro _ reply _ (yielded | yielded) <;>
        · rw [show _ = Crossing.unscheduled from unscheduled] at yielded
          cases yielded
  | submits stage =>
      refine ⟨heeding.left, heeding.idle, heeding.undelivered, ?_, ?_, heeding.returned⟩
      · rintro early
        rw [show _ = ShutdownStage.racing .get from stage] at early
        rcases early with early | early <;> cases early
      · rintro _ reply _ (yielded | yielded) <;> cases yielded
  | goesOn stage => exact heeding.race stage
  | ends _ allowed =>
      apply heeding.finish
      rcases allowed with failed | fired | ⟨branch, reply, stage, visible⟩
      · exact .inl failed
      · exact .inr (.inl fired)
      · exact .inr (.inr (heeding.taken branch reply stage (.inr visible)))

theorem Heeding.called (heeding : s.Heeding) (put : s.put ≠ .unscheduled) : s.stage ≠ .idle := by
  intro idle
  exact put (heeding.idle idle)

theorem Heeding.awaited (heeding : s.Heeding) (get : s.get ≠ .unscheduled) :
    ¬ (s.stage = .idle ∨ s.stage = .putting) := by
  intro early
  exact get (heeding.early early)

theorem Heeding.step (heeding : s.Heeding) (takes : s.TakesReply action)
    (stepped : s.step action = some next) : next.Heeding := by
  cases action with
  | startup move =>
      rcases Option.map_eq_some_iff.mp stepped with ⟨startup, moved, rfl⟩
      exact heeding.startup moved
  | poll => exact heeding.poll stepped
  | shutdown broken =>
      simp only [Lifespan.step] at stepped
      split at stepped
      · rename_i stage complete submitted
        cases stepped
        have unscheduled := heeding.early (.inl stage)
        have undelivered := heeding.undelivered (.inl (heeding.idle stage))
        exact ⟨heeding.left, (fun stage => by cases stage), fun _ => undelivered,
          fun _ => unscheduled, (fun _ _ racing => by cases racing),
          (fun _ returned => by cases returned)⟩
      · cases stepped
        exact heeding.finish (.inl rfl)
      · cases stepped
  | putRuns =>
      simp only [Lifespan.step, Option.ite_none_right_eq_some, Option.some.injEq] at stepped
      rcases stepped with ⟨scheduled, rfl⟩
      have unanswered : ¬ s.Answered := by
        rintro ⟨before, delivered, _⟩
        rw [heeding.undelivered (.inr scheduled)] at delivered
        cases delivered
      have called := heeding.called (by simp [scheduled])
      refine ⟨heeding.left, fun idle => absurd idle called, ?_, heeding.early, ?_, ?_⟩
      · rintro (put | put) <;> cases put
      · intro branch reply racing yielded
        exact absurd (heeding.taken branch reply racing yielded) unanswered
      · intro ending returned
        rcases heeding.returned ending returned with failed | late | answered
        · exact .inl failed
        · exact .inr (.inl late)
        · exact absurd answered unanswered
  | putRaises =>
      simp only [Lifespan.step, Option.ite_none_right_eq_some, Option.some.injEq] at stepped
      rcases stepped with ⟨scheduled, rfl⟩
      have called := heeding.called (by simp [scheduled])
      refine ⟨heeding.left, fun idle => absurd idle called, ?_, heeding.early, heeding.taken,
        heeding.returned⟩
      rintro (put | put) <;> cases put
  | putVisible =>
      simp only [Lifespan.step] at stepped
      split at stepped
      · rename_i outcome ran
        cases stepped
        have called := heeding.called (by simp [ran])
        refine ⟨heeding.left, fun idle => absurd idle called, ?_, heeding.early, heeding.taken,
          heeding.returned⟩
        rintro (put | put) <;> cases put
      · cases stepped
  | getRuns =>
      simp only [Lifespan.step] at stepped
      split at stepped
      · rename_i reply rest scheduled queue
        cases stepped
        have kept (answered : s.Answered) :
            ({ s with get := .done (some reply), startup := { s.startup with fromApp := rest } } :
              Lifespan).Answered := answered
        have awaited := heeding.awaited (by simp [scheduled])
        refine ⟨?_, heeding.idle, heeding.undelivered, fun early => absurd early awaited, ?_, ?_⟩
        · have left := heeding.left
          rw [queue] at left
          exact (List.suffix_cons reply rest).trans left
        · intro branch _ racing _
          have waits : s.waiting = true := by
            rw [waiting, show s.stage = .racing branch from racing]
          exact kept (answered_of_repliesFirst heeding.left (takes rfl waits))
        · intro ending returned
          exact (heeding.returned ending returned).imp_right (Or.imp_right kept)
      · cases stepped
  | getRefused =>
      simp only [Lifespan.step] at stepped
      split at stepped <;> cases stepped
      rename_i racing _
      refine ⟨heeding.left, heeding.idle, heeding.undelivered, ?_, ?_, heeding.returned⟩
      · rintro (early | early) <;> rw [racing] at early <;> cases early
      · rintro _ _ _ (yielded | yielded) <;> cases yielded
  | getRaises =>
      simp only [Lifespan.step, Option.ite_none_right_eq_some, Option.some.injEq] at stepped
      rcases stepped with ⟨scheduled, rfl⟩
      have awaited := heeding.awaited (by simp [scheduled])
      refine ⟨heeding.left, heeding.idle, heeding.undelivered, fun early => absurd early awaited,
        ?_, heeding.returned⟩
      rintro _ _ _ (yielded | yielded) <;> cases yielded
  | getVisible =>
      simp only [Lifespan.step] at stepped
      split at stepped
      · rename_i reply ran
        cases stepped
        have awaited := heeding.awaited (by simp [ran])
        refine ⟨heeding.left, heeding.idle, heeding.undelivered, fun early => absurd early awaited,
          ?_, heeding.returned⟩
        rintro branch taken racing (yielded | yielded)
        · cases yielded
        · cases yielded
          exact heeding.taken branch taken racing (.inl ran)
      · cases stepped
  | putTimeout =>
      simp only [Lifespan.step, Option.ite_none_right_eq_some, Option.some.injEq] at stepped
      rcases stepped with ⟨_, rfl⟩
      exact ⟨heeding.left, heeding.idle, heeding.undelivered, heeding.early, heeding.taken,
        heeding.returned⟩
  | timeout =>
      simp only [Lifespan.step] at stepped
      split at stepped
      · cases stepped
        exact ⟨heeding.left, heeding.idle, heeding.undelivered, heeding.early, heeding.taken,
          fun _ _ => .inr (.inl rfl)⟩
      · cases stepped

/-- Every call of `shutdown` whose get takes a reply to it waits for the reply. -/
theorem waitsForReply_of_takes (takes : Along step TakesReply init actions)
    (ran : run step init actions = some final) : final.WaitsForReply := by
  have heeding : final.Heeding :=
    run_invariant Heeding (fun _ _ _ heeding takes stepped => heeding.step takes stepped) takes ran
      heeding_init
  exact heeding.returned

section Runs

def reply (kind : String) : Reply :=
  { kind := some kind, state := none, message := none }

/-- A start-up that the application completes with these messages. -/
def started (sent : List Reply) : List Action :=
  ([.setup none, .put none, .putRuns, .putVisible, .poll, .poll] ++ sent.map .send ++
    [.getRuns, .getVisible, .poll] : List Startup.Action).map .startup

/-- The call of `shutdown`, up to its get. -/
def called : List Action :=
  [.shutdown none, .putRuns, .putVisible, .poll, .poll]

def completedRun : List Action :=
  started [reply "lifespan.startup.complete"] ++ called ++
    [.startup (.send (reply "lifespan.shutdown.complete")), .getRuns, .getVisible, .poll]

theorem waitsForReply_of_takes_completed :
    ∃ final, run step init completedRun = some final ∧
      final.stage = .returned (.replied (reply "lifespan.shutdown.complete")) ∧
      final.WaitsForReply := by
  have ran : ∃ final, run step init completedRun = some final ∧
      final.stage = .returned (.replied (reply "lifespan.shutdown.complete")) := ⟨_, rfl, rfl⟩
  rcases ran with ⟨final, ran, returned⟩
  exact ⟨final, ran, returned, waitsForReply_of_takes (by decide) ran⟩

/-- A second message of the start-up ends the wait for the shutdown. -/
theorem shutdown_answered_by_startup :
    ∃ final, run step init (started [reply "lifespan.startup.complete", reply "log"] ++ called ++
        [.getRuns, .getVisible, .poll]) = some final ∧
      final.stage = .returned (.replied (reply "log")) ∧ ¬ final.WaitsForReply := by
  refine ⟨_, rfl, rfl, ?_⟩
  intro waits
  rcases waits _ rfl with failed | late | ⟨before, delivered, answer, member, _⟩
  · cases failed
  · cases late
  · cases delivered
    cases member

end Runs

section Polite

/-- One message before the shutdown is delivered, and the first one afterwards replies to it. -/
def polite (s : Lifespan) : Action → Bool
  | .startup (.send reply) =>
      match s.deliveredAt with
      | none => s.startup.sent.isEmpty
      | some before => s.startup.sent.length != before || reply.isShutdownReply
  | _ => true

def Polite (s : Lifespan) (action : Action) : Prop :=
  s.polite action = true

/-- What the get of the shutdown has taken. -/
def taken (s : Lifespan) : List Reply :=
  match s.get with
  | .done (some reply) | .visible (some reply) => [reply]
  | _ => []

/-- Where the messages of a polite application are. -/
structure Orderly (s : Lifespan) : Prop where
  mail : s.startup.sent = s.startup.taken ++ s.taken ++ s.startup.fromApp
  complete : ∀ manager, s.startup.stage = .finished (.ok manager) → s.startup.taken ≠ []
  begun : s.stage ≠ .idle → s.startup.taken ≠ []
  idle : s.stage = .idle → s.put = .unscheduled ∧ s.get = .unscheduled
  few : s.deliveredAt = none → s.startup.sent.length ≤ 1
  second : ∀ before, s.deliveredAt = some before → before = 1 ∧
    ∀ reply, s.startup.sent[1]? = some reply → reply.isShutdownReply = true
  undelivered : s.put = .unscheduled ∨ s.put = .scheduled → s.deliveredAt = none
  delivered : s.put = .done .returned ∨ s.put = .visible .returned → s.deliveredAt ≠ none
  waits : s.waiting = true → s.deliveredAt ≠ none

theorem complete_of_startup {startup : Startup} {move : Startup.Action}
    (complete : ∀ manager, s.startup.stage = .finished (.ok manager) → s.startup.taken ≠ [])
    (stepped : s.startup.step move = some startup) :
    ∀ manager, startup.stage = .finished (.ok manager) → startup.taken ≠ [] := by
  cases move with
  | poll =>
      intro manager finished
      cases Startup.poll_cases stepped with
      | replied stage get => simp [Startup.finish, Startup.taken, get]
      | undelivered | failed | ended | timedOut => cases finished
      | delivered | goesOn => cases finished
      | submits stage get => simp [stage] at finished
  | _ =>
      simp only [Startup.step] at stepped
      grind [Startup.finish, Startup.taken]

/-- A polite application has sent nothing when it sends before the delivery. -/
theorem Polite.first {reply : Reply} (polite : s.Polite (.startup (.send reply)))
    (undelivered : s.deliveredAt = none) : s.startup.sent = [] := by
  simpa [Polite, Lifespan.polite, undelivered] using polite

theorem Polite.replies {reply : Reply} {before : ℕ} (polite : s.Polite (.startup (.send reply)))
    (delivered : s.deliveredAt = some before) (next : s.startup.sent.length = before) :
    reply.isShutdownReply = true := by
  simpa [Polite, Lifespan.polite, delivered, next] using polite

theorem Orderly.startup {startup : Startup} {move : Startup.Action} (orderly : s.Orderly)
    (polite : s.Polite (.startup move))
    (stepped : s.startup.step move = some startup) :
    ({ s with startup } : Lifespan).Orderly := by
  have complete := complete_of_startup orderly.complete stepped
  rcases orderly with ⟨mail, _, begun, idle, few, second, undelivered, delivered, waits⟩
  rcases mail_of_startup stepped with ⟨reply, rfl, sent, queue, started⟩ |
    ⟨sent, ⟨queue, started⟩ | ⟨nothing, started⟩⟩
  · refine ⟨?_, complete, ?_, idle, ?_, ?_, undelivered, delivered, waits⟩
    · change startup.sent = startup.taken ++ s.taken ++ startup.fromApp
      rw [sent, queue, started, mail, List.append_assoc]
    · simpa only [started] using begun
    · intro undelivered
      rw [sent, polite.first undelivered]
      exact le_refl 1
    · intro before delivered
      rcases second before delivered with ⟨rfl, replies⟩
      refine ⟨rfl, ?_⟩
      intro other found
      rw [sent, List.getElem?_append] at found
      split at found
      · exact replies other found
      · simp only [List.getElem?_singleton, Option.ite_none_right_eq_some,
          Option.some.injEq] at found
        rcases found with ⟨last, rfl⟩
        apply polite.replies delivered
        omega
  · refine ⟨?_, complete, ?_, idle, ?_, ?_, undelivered, delivered, waits⟩
    · change startup.sent = startup.taken ++ s.taken ++ startup.fromApp
      rw [sent, queue, started, mail]
    · simpa only [started] using begun
    · simpa only [sent] using few
    · simpa only [sent] using second
  · -- The start-up has its reply before anything else is called.
    have unbegun : s.stage = .idle := by
      by_contra active
      exact begun active nothing
    have untaken : s.taken = [] := by simp only [Lifespan.taken, (idle unbegun).2]
    refine ⟨?_, complete, ?_, idle, ?_, ?_, undelivered, delivered, waits⟩
    · change startup.sent = startup.taken ++ s.taken ++ startup.fromApp
      rw [sent, mail, nothing, untaken, List.nil_append, List.nil_append, List.append_nil, started]
    · intro active
      exact absurd unbegun active
    · simpa only [sent] using few
    · simpa only [sent] using second

/-- When the shutdown message is delivered, the application has sent the reply to the start-up. -/
theorem Orderly.one_sent (orderly : s.Orderly) (scheduled : s.put = .scheduled) :
    s.startup.sent.length = 1 := by
  have few := orderly.few (orderly.undelivered (.inr scheduled))
  have begun : s.stage ≠ .idle := by
    intro idle
    have unscheduled := (orderly.idle idle).1
    rw [scheduled] at unscheduled
    cases unscheduled
  have nonempty := List.length_pos_iff.mpr (orderly.begun begun)
  have lengths := congrArg List.length orderly.mail
  simp only [List.length_append] at lengths
  omega

/-- The call goes on, to the race only when the message has been delivered. -/
theorem Orderly.goto {stage : ShutdownStage} (orderly : s.Orderly)
    (begun : s.startup.taken ≠ []) (called : stage ≠ .idle)
    (waits : ∀ branch, stage = .racing branch → s.deliveredAt ≠ none) :
    ({ s with stage } : Lifespan).Orderly where
  mail := orderly.mail
  complete := orderly.complete
  begun := fun _ => begun
  idle := fun idle => absurd idle called
  few := orderly.few
  second := orderly.second
  undelivered := orderly.undelivered
  delivered := orderly.delivered
  waits := by
    intro waiting
    cases stage with
    | racing branch => exact waits branch rfl
    | idle | putting | returned => cases waiting

theorem Orderly.putTo {put : Crossing Outcome} (orderly : s.Orderly) (called : s.stage ≠ .idle)
    (pending : put ≠ .unscheduled ∧ put ≠ .scheduled)
    (delivered : put = .done .returned ∨ put = .visible .returned → s.deliveredAt ≠ none) :
    ({ s with put } : Lifespan).Orderly where
  mail := orderly.mail
  complete := orderly.complete
  begun := orderly.begun
  idle := fun idle => absurd idle called
  few := orderly.few
  second := orderly.second
  undelivered := by
    rintro (unscheduled | scheduled)
    · exact absurd unscheduled pending.1
    · exact absurd scheduled pending.2
  delivered := delivered
  waits := orderly.waits

theorem Orderly.getTo {get : Crossing (Option Reply)} (orderly : s.Orderly)
    (called : s.stage ≠ .idle) (taken : ({ s with get } : Lifespan).taken = s.taken) :
    ({ s with get } : Lifespan).Orderly where
  mail := by
    rw [taken]
    exact orderly.mail
  complete := orderly.complete
  begun := orderly.begun
  idle := fun idle => absurd idle called
  few := orderly.few
  second := orderly.second
  undelivered := orderly.undelivered
  delivered := orderly.delivered
  waits := orderly.waits

theorem Orderly.called_of_put (orderly : s.Orderly) (put : s.put ≠ .unscheduled) :
    s.stage ≠ .idle := by
  intro idle
  exact put (orderly.idle idle).1

theorem Orderly.called_of_get (orderly : s.Orderly) (get : s.get ≠ .unscheduled) :
    s.stage ≠ .idle := by
  intro idle
  exact get (orderly.idle idle).2

theorem Orderly.poll (orderly : s.Orderly) (polled : s.poll = some next) : next.Orderly := by
  cases poll_cases polled with
  | races stage put =>
      apply orderly.goto (orderly.begun (by simp [stage])) (by simp)
      intro branch _
      exact orderly.delivered (.inr put)
  | submits stage get =>
      apply orderly.getTo (by simp [stage])
      simp only [Lifespan.taken, get]
  | goesOn stage =>
      apply orderly.goto (orderly.begun (by simp [stage])) (by simp)
      intro branch _
      exact orderly.waits (by simp [waiting, stage])
  | ends called =>
      apply orderly.goto (orderly.begun called) (by simp)
      intro branch racing
      cases racing

theorem Orderly.step (orderly : s.Orderly) (polite : s.Polite action)
    (stepped : s.step action = some next) : next.Orderly := by
  cases action with
  | startup move =>
      rcases Option.map_eq_some_iff.mp stepped with ⟨startup, moved, rfl⟩
      exact orderly.startup polite moved
  | shutdown broken =>
      simp only [Lifespan.step] at stepped
      split at stepped
      · rename_i manager put stage complete submitted
        cases stepped
        have begun := orderly.complete manager complete
        have unscheduled := (orderly.idle stage).1
        rcases submitPut_ok submitted with ⟨_, _, rfl⟩
        refine ⟨orderly.mail, orderly.complete, fun _ => begun, (fun idle => by cases idle),
          orderly.few, orderly.second, fun _ => orderly.undelivered (.inl unscheduled), ?_,
          (fun waiting => by cases waiting)⟩
        rintro (returned | returned) <;> cases returned
      · rename_i manager error stage complete submitted
        cases stepped
        apply orderly.goto (orderly.complete manager complete) (by simp)
        intro branch racing
        cases racing
      · cases stepped
  | poll => exact orderly.poll stepped
  | putRuns =>
      simp only [Lifespan.step, Option.ite_none_right_eq_some, Option.some.injEq] at stepped
      rcases stepped with ⟨scheduled, rfl⟩
      have called := orderly.called_of_put (by simp [scheduled])
      have one := orderly.one_sent scheduled
      refine ⟨orderly.mail, orderly.complete, orderly.begun, fun idle => absurd idle called,
        (fun undelivered => by cases undelivered), ?_, ?_,
        (fun _ undelivered => by cases undelivered), (fun _ undelivered => by cases undelivered)⟩
      · intro before delivered
        cases delivered
        refine ⟨one, ?_⟩
        intro reply found
        have bound : 1 < s.startup.sent.length := (List.getElem?_eq_some_iff.mp found).1
        omega
      · rintro (pending | pending) <;> cases pending
  | putRaises =>
      simp only [Lifespan.step, Option.ite_none_right_eq_some, Option.some.injEq] at stepped
      rcases stepped with ⟨scheduled, rfl⟩
      apply orderly.putTo (orderly.called_of_put (by simp [scheduled])) (by simp)
      rintro (raised | raised) <;> cases raised
  | putVisible =>
      simp only [Lifespan.step] at stepped
      split at stepped
      · rename_i outcome ran
        cases stepped
        apply orderly.putTo (orderly.called_of_put (by simp [ran])) (by simp)
        rintro (returned | returned) <;> cases returned
        exact orderly.delivered (.inl ran)
      · cases stepped
  | getRuns =>
      simp only [Lifespan.step] at stepped
      split at stepped
      · rename_i reply rest scheduled queue
        cases stepped
        have called := orderly.called_of_get (by simp [scheduled])
        have mail : s.startup.sent = s.startup.taken ++ [reply] ++ rest := by
          have untaken : s.taken = [] := by simp only [Lifespan.taken, scheduled]
          rw [orderly.mail, untaken, queue, List.append_nil, List.append_assoc]
          rfl
        exact ⟨mail, orderly.complete, orderly.begun, fun idle => absurd idle called, orderly.few,
          orderly.second, orderly.undelivered, orderly.delivered, orderly.waits⟩
      · cases stepped
  | getRefused =>
      simp only [Lifespan.step] at stepped
      split at stepped <;> cases stepped
      rename_i racing unscheduled
      apply orderly.getTo (by simp [racing])
      simp only [Lifespan.taken, unscheduled]
  | getRaises =>
      simp only [Lifespan.step, Option.ite_none_right_eq_some, Option.some.injEq] at stepped
      rcases stepped with ⟨scheduled, rfl⟩
      apply orderly.getTo (orderly.called_of_get (by simp [scheduled]))
      simp only [Lifespan.taken, scheduled]
  | getVisible =>
      simp only [Lifespan.step] at stepped
      split at stepped
      · rename_i reply ran
        cases stepped
        apply orderly.getTo (orderly.called_of_get (by simp [ran]))
        simp only [Lifespan.taken, ran]
        cases reply <;> rfl
      · cases stepped
  | putTimeout =>
      simp only [Lifespan.step, Option.ite_none_right_eq_some, Option.some.injEq] at stepped
      rcases stepped with ⟨_, rfl⟩
      exact { orderly with }
  | timeout =>
      simp only [Lifespan.step] at stepped
      split at stepped <;> cases stepped
      exact { orderly with }

theorem Orderly.takes (orderly : s.Orderly) (stepped : s.step action = some next) :
    s.TakesReply action := by
  rintro rfl waits
  simp only [Lifespan.step] at stepped
  split at stepped
  · rename_i reply rest scheduled queue
    have nothing : s.taken = [] := by simp only [taken, scheduled]
    have mail := orderly.mail
    rw [nothing, List.append_nil, queue] at mail
    have begun : s.stage ≠ .idle := by
      intro idle
      rw [waiting, idle] at waits
      cases waits
    rcases first : s.startup.taken with _ | ⟨started, others⟩
    · exact absurd first (orderly.begun begun)
    · have alone : others = [] := by
        simp only [Startup.taken] at first
        split at first <;> cases first <;> rfl
      rcases Option.ne_none_iff_exists'.mp (orderly.waits waits) with ⟨before, delivered⟩
      rw [first, alone] at mail
      rcases orderly.second before delivered with ⟨rfl, second⟩
      have replies := second reply (by rw [mail]; rfl)
      simp only [repliesFirst, delivered, queue, replies, mail, Bool.true_and, decide_eq_true_eq,
        List.length_append, List.length_cons, List.length_nil]
      omega
  · cases stepped

theorem orderly_init : Orderly init := by
  constructor <;> simp [init, Startup.init, Startup.taken, taken, waiting]

/-- An application that sends one message before the shutdown is delivered, and a reply to it
first thing afterwards, is waited for. -/
theorem waitsForReply_of_polite (polite : Along step Polite init actions)
    (ran : run step init actions = some final) : final.WaitsForReply := by
  have both : final.Heeding ∧ final.Orderly := by
    apply run_invariant (fun current : Lifespan => current.Heeding ∧ current.Orderly) _ polite ran
      ⟨heeding_init, orderly_init⟩
    rintro current action next ⟨heeding, orderly⟩ polite stepped
    exact ⟨heeding.step (orderly.takes stepped) stepped, orderly.step polite stepped⟩
  exact both.1.returned

end Polite

end Lifespan

end RustAsgi
