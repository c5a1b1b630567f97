import RustAsgi.Machine
import RustAsgi.Process.Teardown

/-!
# The thread of the event loop

`start_asyncio_loop` spawns the thread that drives the loop. `run` and `run_worker` wait
until it has entered `run_forever`, and `_bench_bridge` does not. In the end
`stop_asyncio_loop` asks the loop to stop, and its thread is joined with the GIL released.
-/

namespace RustAsgi.Process

open Machine

inductive EntryPoint where
  | run
  | runWorker
  | benchBridge
  deriving DecidableEq, Repr

/-- The thread, by what it has got to. The loop is running from `run_forever` on. -/
inductive LoopThread where
  | starting
  | running
  | ended
  deriving DecidableEq, Repr

inductive LoopStage where
  /-- Up to the spawn. -/
  | creating
  /-- `wait_loop_running`. -/
  | waiting
  /-- From here to `stop_asyncio_loop`: the listeners and `serve_process_on`, or the benchmark. -/
  | working
  /-- `stop_asyncio_loop`, before it calls `is_running()`. -/
  | asking
  | fetching
  /-- Before one of the tries that are left. -/
  | scheduling (tries : ℕ)
  | joining
  | returned
  | failed (error : String)
  deriving DecidableEq, Repr

structure Loop where
  entry : EntryPoint
  stage : LoopStage
  thread : Option LoopThread
  /-- `loop.stop` is in the queue of the loop. -/
  stopQueued : Bool
  deriving DecidableEq, Repr

inductive LoopAction where
  | start (result : Except String Unit)
  /-- `wait_loop_running` looks, the deadline being past or not. -/
  | look (raised late : Bool)
  | work (result : Except String Unit)
  | ask (raised : Bool)
  /-- `getattr(loop, "stop")`. -/
  | fetch (found : Bool)
  | schedule (attempt : Attempt)
  | join
  /-- The thread registers the loop and enters `run_forever`, or an exception ends it. -/
  | enter (succeeds : Bool)
  /-- The loop runs what is in its queue. -/
  | pass
  /-- The application stops the loop, or raises `SystemExit` in it. -/
  | halt
  deriving DecidableEq, Repr

namespace LoopAction

/-- The steps of a call that may return an error. -/
def setsUp : LoopAction → Bool
  | .start _ | .look _ _ | .work _ => true
  | _ => false

/-- What the thread does without fault, and the join that waits for it. -/
def proceeds : LoopAction → Bool
  | .enter succeeds => succeeds
  | .pass | .join => true
  | _ => false

/-- The thread ends for a reason of its own. -/
def faulty : LoopAction → Bool
  | .enter succeeds => !succeeds
  | .halt => true
  | _ => false

end LoopAction

namespace LoopStage

/-- The call may still return an error. -/
def settingUp : LoopStage → Bool
  | .creating | .waiting | .working => true
  | _ => false

/-- The loop has not been asked to stop. -/
def beforeStop : LoopStage → Bool
  | .creating | .waiting | .working | .asking | .fetching | .failed _ => true
  | _ => false

/-- The call has got past the spawn and the wait. -/
def started : LoopStage → Bool
  | .creating | .waiting | .failed _ => false
  | _ => true

theorem beforeStop_of_settingUp {stage : LoopStage} (early : stage.settingUp = true) :
    stage.beforeStop = true := by
  cases stage <;> first | rfl | cases early

end LoopStage

namespace Loop

def init (entry : EntryPoint) : Loop :=
  { entry, stage := .creating, thread := none, stopQueued := false }

/-- `is_running()`; a failure counts as `false`. -/
def isRunning (s : Loop) (raised : Bool) : Bool :=
  !raised && s.thread == some .running

def step (s : Loop) : LoopAction → Option Loop
  | .start result =>
      if s.stage = .creating then
        match result with
        | .error error => some { s with stage := .failed error }
        | .ok () =>
            let stage := if s.entry = .benchBridge then .working else .waiting
            some { s with stage, thread := some .starting }
      else none
  | .look raised late =>
      if s.stage = .waiting then
        if s.isRunning raised then some { s with stage := .working }
        else if late then
          some { s with stage := .failed "asyncio loop thread did not start within 10s" }
        else some s
      else none
  | .work result =>
      if s.stage = .working then
        match result with
        | .error error => some { s with stage := .failed error }
        | .ok () => some { s with stage := .asking }
      else none
  | .ask raised =>
      if s.stage = .asking then
        some { s with stage := if s.isRunning raised then .fetching else .joining }
      else none
  | .fetch found =>
      if s.stage = .fetching then
        some { s with stage := if found then .scheduling 3 else .joining }
      else none
  | .schedule attempt =>
      match s.stage with
      | .scheduling (tries + 1) =>
          let again := attempt.isInterrupted && tries != 0
          some { s with
            stage := if again then .scheduling tries else .joining,
            stopQueued := s.stopQueued || attempt.asks }
      | _ => none
  | .join =>
      if s.stage = .joining ∧ s.thread = some .ended then some { s with stage := .returned }
      else none
  | .enter succeeds =>
      if s.thread = some .starting then
        some { s with thread := some (if succeeds then .running else .ended) }
      else none
  | .pass =>
      if s.thread = some .running ∧ s.stopQueued = true then some { s with thread := some .ended }
      else none
  | .halt =>
      if s.thread = some .running then some { s with thread := some .ended } else none

/-- The call at its join returns without a fault of the thread. -/
def CanReturn (s : Loop) : Prop :=
  ∃ later final, (∀ action ∈ later, action.proceeds = true) ∧
    Machine.run step s later = some final ∧ final.stage = .returned

/-- A call that does not lose the stop: the loop is seen running, and one of three tries queues
the request, those before it being interrupted. -/
def Calm (s : Loop) : LoopAction → Prop
  | .ask raised => s.isRunning raised = true
  | .fetch found => found = true
  | .schedule attempt =>
      s.stopQueued = true ∨ attempt.asks = true ∨
        attempt.isInterrupted = true ∧ s.stage ≠ .scheduling 1
  | _ => True

instance (s : Loop) : (action : LoopAction) → Decidable (s.Calm action)
  | .ask _ | .fetch _ => inferInstanceAs (Decidable (_ = _))
  | .schedule _ => inferInstanceAs (Decidable (_ ∨ _))
  | .start _ | .look _ _ | .work _ | .join | .enter _ | .pass | .halt => .isTrue trivial

/-- The steps, one for each way they go. -/
inductive Move (s next : Loop) : LoopAction → Prop where
  | spawns (stage : s.stage = .creating)
      (same : next = { s with
        stage := if s.entry = .benchBridge then .working else .waiting,
        thread := some .starting }) : Move s next (.start (.ok ()))
  | fails {action : LoopAction} {error : String} (early : s.stage.settingUp = true)
      (own : action.setsUp = true) (same : next = { s with stage := .failed error }) :
      Move s next action
  | sees {raised late : Bool} (stage : s.stage = .waiting) (running : s.isRunning raised = true)
      (same : next = { s with stage := .working }) : Move s next (.look raised late)
  | sleeps {raised : Bool} (stage : s.stage = .waiting) (same : next = s) :
      Move s next (.look raised false)
  | works (stage : s.stage = .working) (same : next = { s with stage := .asking }) :
      Move s next (.work (.ok ()))
  | asks {raised : Bool} (stage : s.stage = .asking)
      (same : next = { s with stage := if s.isRunning raised then .fetching else .joining }) :
      Move s next (.ask raised)
  | fetches {found : Bool} (stage : s.stage = .fetching)
      (same : next = { s with stage := if found then .scheduling 3 else .joining }) :
      Move s next (.fetch found)
  | schedules {attempt : Attempt} {tries : ℕ} (stage : s.stage = .scheduling (tries + 1))
      (same : next = { s with
        stage := if attempt.isInterrupted && tries != 0 then .scheduling tries else .joining,
        stopQueued := s.stopQueued || attempt.asks }) : Move s next (.schedule attempt)
  | joins (stage : s.stage = .joining) (ended : s.thread = some .ended)
      (same : next = { s with stage := .returned }) : Move s next .join
  | enters {succeeds : Bool} (starting : s.thread = some .starting)
      (same : next = { s with thread := some (if succeeds then .running else .ended) }) :
      Move s next (.enter succeeds)
  | passes (running : s.thread = some .running) (queued : s.stopQueued = true)
      (same : next = { s with thread := some .ended }) : Move s next .pass
  | halts (running : s.thread = some .running) (same : next = { s with thread := some .ended }) :
      Move s next .halt

variable {s next : Loop} {action : LoopAction} {actions : List LoopAction}

theorem step_cases (stepped : step s action = some next) : Move s next action := by
  cases action with
  | start result =>
      simp only [step, Option.ite_none_right_eq_some] at stepped
      rcases stepped with ⟨stage, stepped⟩
      have early : s.stage.settingUp = true := by rw [stage]; rfl
      cases result with
      | error error => exact .fails early rfl (Option.some.inj stepped).symm
      | ok done => exact .spawns stage (Option.some.inj stepped).symm
  | look raised late =>
      simp only [step, Option.ite_none_right_eq_some] at stepped
      rcases stepped with ⟨stage, stepped⟩
      have early : s.stage.settingUp = true := by rw [stage]; rfl
      by_cases running : s.isRunning raised = true
      · rw [if_pos running] at stepped
        exact .sees stage running (Option.some.inj stepped).symm
      · rw [if_neg running] at stepped
        cases late with
        | true => exact .fails early rfl (Option.some.inj stepped).symm
        | false => exact .sleeps stage (Option.some.inj stepped).symm
  | work result =>
      simp only [step, Option.ite_none_right_eq_some] at stepped
      rcases stepped with ⟨stage, stepped⟩
      have early : s.stage.settingUp = true := by rw [stage]; rfl
      cases result with
      | error error => exact .fails early rfl (Option.some.inj stepped).symm
      | ok done => exact .works stage (Option.some.inj stepped).symm
  | schedule attempt =>
      simp only [step] at stepped
      split at stepped
      next tries stage => exact .schedules stage (Option.some.inj stepped).symm
      next => cases stepped
  | join | pass =>
      simp only [step, Option.ite_none_right_eq_some, Option.some.injEq] at stepped
      rcases stepped with ⟨⟨first, second⟩, rfl⟩
      first | exact .joins first second rfl | exact .passes first second rfl
  | ask | fetch | enter | halt =>
      simp only [step, Option.ite_none_right_eq_some, Option.some.injEq] at stepped
      rcases stepped with ⟨stage, rfl⟩
      first
        | exact .asks stage rfl
        | exact .fetches stage rfl
        | exact .enters stage rfl
        | exact .halts stage rfl

/-- What holds of a call in every state. -/
structure Sound (s : Loop) : Prop where
  /-- A thread has been spawned, unless the call has ended before. -/
  spawned : s.stage.started = true ∨ s.stage = .waiting → s.thread ≠ none
  unspawned : s.stage = .creating → s.thread = none
  unasked : s.stage.beforeStop = true → s.stopQueued = false
  joined : s.stage = .returned → s.thread = some .ended
  /-- The wait has seen the loop run. -/
  awaited : s.entry ≠ .benchBridge → s.stage.started = true → s.thread ≠ some .starting

theorem sound_init (entry : EntryPoint) : (init entry).Sound where
  spawned := by rintro (started | waiting) <;> contradiction
  unspawned := fun _ => rfl
  unasked := fun _ => rfl
  joined := nofun
  awaited := fun _ => nofun

/-- A step of the caller that goes on with the same thread. -/
theorem Sound.onward {stage : LoopStage} {stopQueued : Bool} (sound : s.Sound)
    (goes : s.stage.started = true) (starts : stage.started = true)
    (asked : stage.beforeStop = true → stopQueued = false)
    (joined : stage = .returned → s.thread = some .ended) :
    Sound { s with stage, stopQueued } where
  spawned := fun _ => sound.spawned (.inl goes)
  unspawned := by
    rintro rfl
    cases starts
  unasked := asked
  joined := joined
  awaited := fun other _ => sound.awaited other goes

/-- A step of the thread. -/
theorem Sound.thread {thread : LoopThread} (sound : s.Sound) (alive : s.thread ≠ none)
    (going : s.thread ≠ some .ended) (entered : thread ≠ .starting) :
    Sound { s with thread := some thread } where
  spawned := nofun
  unspawned := fun stage => absurd (sound.unspawned stage) alive
  unasked := sound.unasked
  joined := fun stage => absurd (sound.joined stage) going
  awaited := fun _ _ same => entered (Option.some.inj same)

theorem Sound.step (sound : s.Sound) (stepped : Loop.step s action = some next) :
    next.Sound := by
  cases step_cases stepped with
  | spawns stage same =>
      subst same
      have fresh := sound.unasked (by rw [stage]; rfl)
      refine ⟨nofun, ?_, fun _ => fresh, ?_, ?_⟩
      · intro creating
        split at creating <;> cases creating
      · intro returned
        split at returned <;> cases returned
      · intro other started
        rw [if_neg other] at started
        cases started
  | fails early own same =>
      subst same
      exact ⟨by rintro (started | waiting) <;> contradiction, nofun,
        fun _ => sound.unasked (LoopStage.beforeStop_of_settingUp early), nofun, fun _ => nofun⟩
  | sees stage running same =>
      subst same
      have ran : s.thread = some .running := by
        simp only [isRunning, Bool.and_eq_true, beq_iff_eq] at running
        exact running.2
      have fresh := sound.unasked (by rw [stage]; rfl)
      exact ⟨fun _ => by rw [ran]; exact nofun, nofun, fun _ => fresh, nofun,
        fun _ _ => by rw [ran]; exact nofun⟩
  | sleeps stage same =>
      subst same
      exact sound
  | works stage same =>
      subst same
      have fresh := sound.unasked (by rw [stage]; rfl)
      exact sound.onward (by rw [stage]; rfl) rfl (fun _ => fresh) nofun
  | asks stage same =>
      subst same
      have fresh := sound.unasked (by rw [stage]; rfl)
      refine sound.onward (by rw [stage]; rfl) ?_ (fun _ => fresh) ?_
      · split <;> rfl
      · intro returned
        split at returned <;> cases returned
  | fetches stage same =>
      subst same
      have fresh := sound.unasked (by rw [stage]; rfl)
      refine sound.onward (by rw [stage]; rfl) ?_ (fun _ => fresh) ?_
      · split <;> rfl
      · intro returned
        split at returned <;> cases returned
  | schedules stage same =>
      subst same
      refine sound.onward (by rw [stage]; rfl) ?_ ?_ ?_
      · split <;> rfl
      · intro early
        split at early <;> cases early
      · intro returned
        split at returned <;> cases returned
  | joins stage ended same =>
      subst same
      exact sound.onward (by rw [stage]; rfl) rfl nofun fun _ => ended
  | enters starting same =>
      subst same
      refine sound.thread (by rw [starting]; exact nofun) (by rw [starting]; exact nofun) ?_
      split <;> exact nofun
  | passes running _ same | halts running same =>
      subst same
      exact sound.thread (by rw [running]; exact nofun) (by rw [running]; exact nofun) nofun

theorem sound_of_run {entry : EntryPoint} (reached : run step (init entry) actions = some s) :
    s.Sound :=
  run_invariant_of_step Sound (fun _ _ _ sound stepped => sound.step stepped) reached
    (sound_init entry)

/-- At the join, the loop has not been asked to stop and its thread goes on. -/
structure Stuck (s : Loop) : Prop where
  stage : s.stage = .joining
  unasked : s.stopQueued = false
  going : s.thread ≠ some .ended

theorem Stuck.step (stuck : s.Stuck) (own : action.proceeds = true)
    (stepped : Loop.step s action = some next) : next.Stuck := by
  rcases stuck with ⟨stage, unasked, going⟩
  cases step_cases stepped with
  | fails early =>
      rw [stage] at early
      cases early
  | joins _ ended => exact absurd ended going
  | passes _ queued =>
      rw [unasked] at queued
      cases queued
  | enters starting same =>
      rw [LoopAction.proceeds] at own
      subst same
      exact ⟨stage, unasked, by simp [own]⟩
  | spawns | sees | sleeps | works | asks | fetches | schedules | halts => cases own

/-- The thread proceeds to its end once the loop has been asked to stop. -/
theorem canReturn_iff_asked (sound : s.Sound) (stage : s.stage = .joining) :
    s.CanReturn ↔ s.thread = some .ended ∨ s.stopQueued = true := by
  constructor
  · rintro ⟨later, final, own, ran, returned⟩
    by_contra neither
    rw [not_or, Bool.not_eq_true] at neither
    have along : Along Loop.step (fun _ action => action.proceeds = true) s later :=
      along_of_forall fun action member _ => own action member
    have still : final.Stuck := run_invariant Stuck
      (fun _ _ _ stuck permitted stepped => stuck.step permitted stepped) along ran
      ⟨stage, neither.2, neither.1⟩
    have joining := still.stage
    rw [returned] at joining
    cases joining
  · have spawned := sound.spawned (.inl (by rw [stage]; rfl))
    intro asked
    cases thread : s.thread with
    | none => exact absurd thread spawned
    | some thread' =>
        cases thread' with
        | ended =>
            refine ⟨[.join], { s with stage := .returned }, by simp [LoopAction.proceeds], ?_, rfl⟩
            simp [Machine.run, Loop.step, stage, thread]
        | running =>
            have queued : s.stopQueued = true := asked.resolve_left (by simp [thread])
            refine ⟨[.pass, .join], { s with stage := .returned, thread := some .ended },
              by simp [LoopAction.proceeds], ?_, rfl⟩
            simp [Machine.run, Loop.step, stage, thread, queued]
        | starting =>
            have queued : s.stopQueued = true := asked.resolve_left (by simp [thread])
            refine ⟨[.enter true, .pass, .join],
              { s with stage := .returned, thread := some .ended },
              by simp [LoopAction.proceeds], ?_, rfl⟩
            simp [Machine.run, Loop.step, stage, thread, queued]

/-- A calm call reaches the join with the stop in the queue. -/
theorem asked_step (asked : s.stage = .joining → s.stopQueued = true) (calm : s.Calm action)
    (stepped : step s action = some next) : next.stage = .joining → next.stopQueued = true := by
  cases step_cases stepped with
  | spawns _ same =>
      subst same
      intro joining
      split at joining <;> cases joining
  | fails _ _ same | sees _ _ same | works _ same | joins _ _ same =>
      subst same
      exact nofun
  | sleeps _ same | enters _ same | passes _ _ same | halts _ same =>
      subst same
      exact asked
  | asks _ same =>
      subst same
      rw [Calm] at calm
      rw [calm]
      exact nofun
  | fetches _ same =>
      subst same
      rw [Calm] at calm
      rw [calm]
      exact nofun
  | @schedules attempt tries stage same =>
      subst same
      rw [Calm, stage] at calm
      intro joining
      rcases calm with queued | asks | ⟨interrupted, more⟩
      · simp [queued]
      · simp [asks]
      · have others : tries ≠ 0 := by
          rintro rfl
          exact more rfl
        rw [if_pos (by simp [interrupted, others])] at joining
        cases joining

/-- The request to stop has been lost. -/
def Lost (s : Loop) : Prop :=
  (s.stage = .joining ∨ s.stage = .returned) ∧ s.stopQueued = false

theorem Lost.step (lost : s.Lost) (stepped : Loop.step s action = some next) : next.Lost := by
  rcases lost with ⟨late, unasked⟩
  cases step_cases stepped with
  | spawns stage | sees stage | works stage | asks stage | fetches stage | schedules stage
  | sleeps stage =>
      rw [stage] at late
      rcases late with late | late <;> cases late
  | fails early =>
      rcases late with late | late <;> rw [late] at early <;> cases early
  | joins _ _ same =>
      subst same
      exact ⟨.inr rfl, unasked⟩
  | enters _ same | passes _ _ same | halts _ same =>
      subst same
      exact ⟨late, unasked⟩

theorem lost_step (sound : s.Sound) (rash : ¬s.Calm action)
    (stepped : step s action = some next) : next.Lost := by
  cases step_cases stepped with
  | asks stage same =>
      subst same
      rw [Calm] at rash
      exact ⟨.inl (if_neg rash), sound.unasked (by rw [stage]; rfl)⟩
  | fetches stage same =>
      subst same
      rw [Calm] at rash
      exact ⟨.inl (if_neg rash), sound.unasked (by rw [stage]; rfl)⟩
  | @schedules attempt tries stage same =>
      subst same
      rw [Calm, not_or, not_or, Bool.not_eq_true, Bool.not_eq_true, stage] at rash
      rcases rash with ⟨unasked, failed, last⟩
      have goesOn : (attempt.isInterrupted && tries != 0) = false := by
        rw [Bool.eq_false_iff]
        intro again
        rw [Bool.and_eq_true, bne_iff_ne] at again
        exact last ⟨again.1, fun same => again.2 (Nat.succ.inj (LoopStage.scheduling.inj same))⟩
      refine ⟨.inl ?_, ?_⟩
      · simp [goesOn]
      · simp [unasked, failed]
  | fails _ own =>
      cases action <;> first | exact absurd trivial rash | cases own
  | spawns | sees | sleeps | works | joins | enters | passes | halts => exact absurd trivial rash

/-- The calls that reach their join with the stop in the queue, or with nothing to stop. -/
theorem canReturn_iff_calm {entry : EntryPoint}
    (reached : run step (init entry) actions = some s) (stage : s.stage = .joining) :
    s.CanReturn ↔ s.thread = some .ended ∨ Along step Calm (init entry) actions := by
  have sound := sound_of_run reached
  rw [canReturn_iff_asked sound stage]
  refine or_congr_right' fun going => ⟨fun queued => ?_, fun calm => ?_⟩
  · by_contra rash
    have lost : s.Lost := run_of_not_along Sound Lost
      (fun _ _ _ sound stepped => sound.step stepped)
      (fun _ _ _ _ lost stepped => lost.step stepped)
      (fun _ _ _ sound rash stepped => lost_step sound rash stepped) (sound_init entry) rash reached
    rw [lost.2] at queued
    cases queued
  · refine run_invariant (fun current => current.stage = .joining → current.stopQueued = true) ?_
      calm reached nofun stage
    intro current action next asked calm stepped
    exact asked_step asked calm stepped

theorem entry_step (stepped : step s action = some next) : next.entry = s.entry := by
  cases step_cases stepped with
  | spawns _ same | fails _ _ same | sees _ _ same | sleeps _ same | works _ same | asks _ same
  | fetches _ same | schedules _ same | joins _ _ same | enters _ same | passes _ _ same
  | halts _ same => rw [same]

theorem failed_step {error : String} (failed : s.stage = .failed error)
    (stepped : step s action = some next) : next.stage = .failed error := by
  cases step_cases stepped with
  | spawns stage | sees stage | works stage | asks stage | fetches stage | schedules stage
  | joins stage =>
      rw [failed] at stage
      cases stage
  | sleeps _ same | enters _ same | passes _ _ same | halts _ same =>
      subst same
      exact failed
  | fails early =>
      rw [failed] at early
      cases early

/-- A call that has returned an error leaves its thread to itself: what ends it is its own. -/
theorem left_step {error : String} (sound : s.Sound) (failed : s.stage = .failed error)
    (stepped : step s action = some next) :
    next.thread = some .ended ↔ s.thread = some .ended ∨ action.faulty = true := by
  cases step_cases stepped with
  | spawns stage | sees stage | works stage | asks stage | fetches stage | schedules stage
  | joins stage =>
      rw [failed] at stage
      cases stage
  | fails early =>
      rw [failed] at early
      cases early
  | sleeps _ same =>
      subst same
      simp [LoopAction.faulty]
  | @enters succeeds starting same =>
      subst same
      cases succeeds <;> simp [LoopAction.faulty, starting]
  | passes _ queued =>
      rw [sound.unasked (by rw [failed]; rfl)] at queued
      cases queued
  | halts _ same =>
      subst same
      simp [LoopAction.faulty]

theorem left_run {error : String} {later : List LoopAction} {final : Loop} (sound : s.Sound)
    (failed : s.stage = .failed error) (onward : run step s later = some final) :
    final.thread = some .ended ↔
      s.thread = some .ended ∨ ∃ action ∈ later, action.faulty = true := by
  induction later generalizing s with
  | nil =>
      obtain rfl := Option.some.inj onward
      simp
  | cons action rest ih =>
      rcases run_cons_eq_some.mp onward with ⟨next, stepped, onward⟩
      rw [ih (sound.step stepped) (failed_step failed stepped) onward,
        left_step sound failed stepped, List.exists_mem_cons_iff, or_assoc]

/-- Only a look that finds the loop running ends the wait. -/
theorem started_step (waits : s.entry ≠ .benchBridge) (before : ¬s.stage.started = true)
    (stepped : step s action = some next) (after : next.stage.started = true) :
    s.stage = .waiting ∧ s.thread = some .running ∧ next = { s with stage := .working } ∧
      ∃ late, action = .look false late := by
  cases step_cases stepped with
  | spawns _ same =>
      subst same
      rw [if_neg waits] at after
      cases after
  | fails _ _ same =>
      subst same
      cases after
  | @sees raised late stage running same =>
      simp only [isRunning, Bool.and_eq_true, Bool.not_eq_true', beq_iff_eq] at running
      rcases running with ⟨rfl, running⟩
      exact ⟨stage, running, same, late, rfl⟩
  | works stage | asks stage | fetches stage | schedules stage | joins stage =>
      exact absurd (by rw [stage]; rfl) before
  | sleeps _ same | enters _ same | passes _ _ same | halts _ same =>
      subst same
      exact absurd after before

theorem entry_of_run {entry : EntryPoint} (reached : run step (init entry) actions = some s) :
    s.entry = entry := by
  refine run_invariant_of_step (fun current => current.entry = entry) ?_ reached rfl
  intro current action next before stepped
  rw [entry_step stepped, before]

/-- A call that waits for the loop has seen it run. -/
theorem seen_of_run {entry : EntryPoint} (waits : entry ≠ .benchBridge)
    (reached : run step (init entry) actions = some s) (started : s.stage.started = true) :
    ∃ front late back seen, actions = front ++ .look false late :: back ∧
      run step (init entry) front = some seen ∧ seen.stage = .waiting ∧
      seen.thread = some .running ∧
      step seen (.look false late) = some { seen with stage := .working } := by
  rcases exists_change (fun current => current.stage.started = true) Bool.false_ne_true reached
    started with ⟨front, action, back, seen, next, split, ran, stepped, before, after⟩
  have waits : seen.entry ≠ .benchBridge := by rwa [entry_of_run ran]
  rcases started_step waits before stepped after with ⟨stage, running, rfl, late, rfl⟩
  exact ⟨front, late, back, seen, split, ran, stage, running, stepped⟩

/-- The life of the loop's thread, whatever the two threads do in between. A call that returns has
ended it. One that is at its join returns exactly when the stop has not been lost, or the thread
has ended by itself. One that waits for the loop goes on from a look that finds it running. And a
call that returns an error never asks the loop to stop: the thread ends exactly by a fault of its
own. -/
theorem loop_joined_iff {entry : EntryPoint}
    (reached : run step (init entry) actions = some s) :
    (s.stage = .returned → s.thread = some .ended) ∧
      (s.stage = .joining →
        (s.CanReturn ↔ s.thread = some .ended ∨ Along step Calm (init entry) actions)) ∧
      (entry ≠ .benchBridge → s.stage.started = true →
        s.thread ≠ some .starting ∧
          ∃ front late back seen, actions = front ++ .look false late :: back ∧
            run step (init entry) front = some seen ∧ seen.stage = .waiting ∧
            seen.thread = some .running ∧
            step seen (.look false late) = some { seen with stage := .working }) ∧
      ∀ error, s.stage = .failed error → ∀ later final, run step s later = some final →
        final.stage = .failed error ∧ final.stopQueued = false ∧
          (final.thread = some .ended ↔
            s.thread = some .ended ∨ ∃ action ∈ later, action.faulty = true) := by
  have sound := sound_of_run reached
  have same := entry_of_run reached
  refine ⟨sound.joined, fun stage => canReturn_iff_calm reached stage, ?_, ?_⟩
  · intro waits started
    exact ⟨sound.awaited (by rwa [same]) started, seen_of_run waits reached started⟩
  · intro error failed later final onward
    have still : final.Sound ∧ final.stage = .failed error :=
      run_invariant_of_step (fun current => current.Sound ∧ current.stage = .failed error)
        (fun _ _ _ holds stepped => ⟨holds.1.step stepped, failed_step holds.2 stepped⟩)
        onward ⟨sound, failed⟩
    exact ⟨still.2, still.1.unasked (by rw [still.2]; rfl), left_run sound failed onward⟩

/-- A benchmark whose thread is slow to start asks a loop to stop that does not run yet. -/
def slowBench : List LoopAction :=
  [.start (.ok ()), .work (.ok ()), .ask false, .enter true]

/-- The same for a worker, with an interrupt while it schedules the stop. -/
def slowWorker : List LoopAction :=
  [.start (.ok ()), .look false false, .enter true, .look false false, .work (.ok ()), .ask false,
    .fetch true, .schedule (.interrupted false), .schedule .done]

/-- A worker that finds its TLS options wrong once the loop runs. -/
def refusedWorker : List LoopAction :=
  [.start (.ok ()), .enter true, .look false false, .work (.error "--tls-sni")]

/-- The worker is joined, the benchmark hangs, and the loop of the worker that is refused runs on
until it is stopped from within. -/
theorem loop_joined_iff_slow :
    (∃ s, run step (init .runWorker) slowWorker = some s ∧ s.stage = .joining ∧ s.CanReturn) ∧
      (∃ s, run step (init .benchBridge) slowBench = some s ∧ s.stage = .joining ∧
        s.thread = some .running ∧ ¬s.CanReturn) ∧
      ∃ s, run step (init .runWorker) refusedWorker = some s ∧
        s.stage = .failed "--tls-sni" ∧ s.thread = some .running ∧
        (∀ later final, run step s later = some final →
          (∀ action ∈ later, action.faulty = false) → final.thread ≠ some .ended) ∧
        ∃ final, run step s [.halt] = some final ∧ final.thread = some .ended := by
  refine ⟨?_, ?_, ?_⟩
  · have ran : ∃ s, run step (init .runWorker) slowWorker = some s ∧ s.stage = .joining :=
      exists_of_run_any (by decide)
    rcases ran with ⟨s, ran, stage⟩
    rcases loop_joined_iff ran with ⟨_, joins, _, _⟩
    exact ⟨s, ran, stage, (joins stage).mpr (.inr (by decide))⟩
  · have ran : ∃ s, run step (init .benchBridge) slowBench = some s ∧ s.stage = .joining ∧
        s.thread = some .running := exists_of_run_any (by decide)
    rcases ran with ⟨s, ran, stage, running⟩
    rcases loop_joined_iff ran with ⟨_, joins, _, _⟩
    refine ⟨s, ran, stage, running, fun returns => ?_⟩
    rcases (joins stage).mp returns with ended | calm
    · rw [running] at ended
      cases ended
    · exact absurd calm (by decide)
  · have ran : ∃ s, run step (init .runWorker) refusedWorker = some s ∧
        s.stage = .failed "--tls-sni" ∧ s.thread = some .running ∧
        (run step s [.halt]).isSome = true := exists_of_run_any (by decide)
    rcases ran with ⟨s, ran, stage, running, halts⟩
    rcases loop_joined_iff ran with ⟨_, _, _, fails⟩
    refine ⟨s, ran, stage, running, fun later final onward well ended => ?_, ?_⟩
    · rcases (fails _ stage later final onward).2.2.mp ended with already | ⟨action, member, faulty⟩
      · rw [running] at already
        cases already
      · rw [well action member] at faulty
        cases faulty
    · rcases Option.isSome_iff_exists.mp halts with ⟨final, halted⟩
      exact ⟨final, halted, (fails _ stage _ final halted).2.2.mpr (.inr ⟨.halt, by simp, rfl⟩)⟩

section Teardown

/-- The tries that the function makes, as steps. -/
def tries (attempt : ℕ → Attempt) : ℕ → List LoopAction
  | 0 => []
  | left + 1 =>
      .schedule (attempt 0) ::
        if (attempt 0).isInterrupted then tries (fun n => attempt (n + 1)) left else []

theorem run_tries {attempt : ℕ → Attempt} {left : ℕ} (stage : s.stage = .scheduling (left + 1)) :
    run step s (tries attempt (left + 1)) = some { s with
      stage := .joining, stopQueued := s.stopQueued || scheduleStop attempt (left + 1) } := by
  induction left generalizing s attempt with
  | zero => cases first : attempt 0 <;> simp [tries, step, stage, first, scheduleStop, run,
      Attempt.isInterrupted, Attempt.asks]
  | succ left ih =>
      rw [tries, run_cons]
      cases first : attempt 0 with
      | done => simp [step, stage, scheduleStop, first, Attempt.isInterrupted, Attempt.asks]
      | failed queued =>
          simp [step, stage, scheduleStop, first, Attempt.isInterrupted, Attempt.asks]
      | interrupted queued =>
          simp only [step, stage, Attempt.isInterrupted, Option.bind_some, if_true]
          rw [ih (by simp)]
          simp [scheduleStop, first, Attempt.asks, Bool.or_assoc]

/-- Without another thread in between, the steps come to what `stop_asyncio_loop` computes. -/
theorem run_stopAsyncioLoop {handle : LoopHandle} {raised : Bool} (stage : s.stage = .asking)
    (fresh : s.stopQueued = false) (sees : s.isRunning raised = handle.running) :
    ∃ steps, run step s (.ask raised :: steps) =
      some { s with stage := .joining, stopQueued := handle.stopAsyncioLoop } := by
  cases running : handle.running with
  | false =>
      refine ⟨[], ?_⟩
      simp [run, step, stage, sees, running, LoopHandle.stopAsyncioLoop, fresh]
  | true =>
      cases found : handle.stop with
      | false =>
          refine ⟨[.fetch false], ?_⟩
          simp [run, step, stage, sees, running, found, LoopHandle.stopAsyncioLoop, fresh]
      | true =>
          refine ⟨.fetch true :: tries handle.attempt 3, ?_⟩
          simp only [run_cons, step, stage, sees, running, if_true, Option.bind_some]
          rw [run_tries rfl]
          simp [LoopHandle.stopAsyncioLoop, running, found, fresh]

end Teardown

end Loop

end RustAsgi.Process
