import RustAsgi.Http.Application

/-!
# Who polls the application's future

Four places poll the future of an application: the two loops of the handler, the
last look of the responder, and the drain reaper. All but the reaper look first
whether it has already completed.
-/

namespace RustAsgi

open Asyncio Machine Tokio

/-- How the application's future is looked after: whether the handler has seen it completed, whether
its outcome has been reported, and who else holds it. -/
structure Custody where
  appDone : Bool
  appLogged : Bool
  reaper : Reaper
  repolled : Bool
  deriving DecidableEq, Repr

namespace Custody

def observe (custody : Custody) : Custody :=
  { custody with appDone := true, appLogged := true }

/-- The future goes to a drain reaper. -/
def hand (custody : Custody) : Custody :=
  { custody with reaper := .waiting }

end Custody

namespace Http

variable {request : Request} {body : Incoming} {s next final : Http} {action : Action}
  {actions : List Action}

def custody (s : Http) : Custody :=
  { appDone := s.appDone, appLogged := s.appLogged, reaper := s.reaper, repolled := s.repolled }

/-- The handler's loops poll the future only until they have seen it completed. -/
def afterLook (s : Http) : Custody :=
  if s.appDone then s.custody
  else
    match s.app with
    | .settled _ => s.custody.observe
    | _ => s.custody

@[simp]
theorem afterLook_reaper (s : Http) : s.afterLook.reaper = s.reaper := by
  simp only [afterLook]
  split
  · rfl
  · cases s.app <;> rfl

@[simp]
theorem afterLook_repolled (s : Http) : s.afterLook.repolled = s.repolled := by
  simp only [afterLook]
  split
  · rfl
  · cases s.app <;> rfl

def afterPoll (s : Http) : Custody :=
  match s.stage with
  | .phaseA .rx =>
      match s.chan.recv with
      | .closed => s.custody.hand
      | _ => s.custody
  | .phaseA .app | .responder .app => s.afterLook
  | .phaseA .deadline => if s.startTimer then s.custody.hand else s.custody
  | .rejected _ => s.custody.hand
  | .observing =>
      if s.appDone then s.custody
      else
        match s.app with
        | .settled _ => s.custody.observe
        | _ => s.custody.hand
  | _ => s.custody

/-- Only the reaper polls without looking first. -/
theorem afterPoll_repolled (s : Http) : s.afterPoll.repolled = s.repolled := by
  simp only [afterPoll]
  split
  · cases s.chan.recv <;> rfl
  · exact s.afterLook_repolled
  · exact s.afterLook_repolled
  · split <;> rfl
  · rfl
  · split
    · rfl
    · cases s.app <;> rfl
  · rfl

def custodyAfter (s : Http) : Action → Custody
  | .poll => s.afterPoll
  | .reap _ =>
      match s.app with
      | .settled _ =>
          { s.custody with
            reaper := .finished, appLogged := true, repolled := s.repolled || s.appDone }
      | _ => { s.custody with reaper := .finished, appLogged := true }
  | _ => s.custody

theorem custody_logAccess (status size : ℕ) (s : Http) :
    (s.logAccess request status size).custody = s.custody := by
  simp only [logAccess]
  split <;> rfl

theorem custody_pollApp (back onward : Stage) : (s.pollApp back onward).custody = s.afterLook := by
  simp only [pollApp, afterLook]
  split
  · rfl
  · cases s.app <;> rfl

theorem reaper_pollApp (back onward : Stage) : (s.pollApp back onward).reaper = s.reaper := by
  have same := congrArg Custody.reaper (@custody_pollApp s back onward)
  exact same.trans s.afterLook_reaper

theorem custody_pollFeed (back onward : Stage) : (s.pollFeed back onward).custody = s.custody := by
  simp only [pollFeed]
  split <;> rfl

theorem custody_failed (status size : ℕ) (s : Http) :
    (s.logAccess request status size).spawnDrainReaper.fail.custody = s.custody.hand := by
  simp only [logAccess]
  split <;> rfl

theorem custody_observe (stage : s.stage = .observing) :
    (s.observe request).custody = s.afterPoll := by
  simp only [observe, afterPoll, stage]
  split
  · exact custody_logAccess s.status s.bytesSent s
  · cases s.app with
    | settled outcome => exact custody_logAccess s.status s.bytesSent s.observeApp
    | running | exited => exact custody_logAccess s.status s.bytesSent s.spawnDrainReaper

theorem custody_poll (polled : Polled request s next) : next.custody = s.afterPoll := by
  cases polled with
  | start stage received | early stage received | unstarted stage received =>
      simp only [afterPoll, stage, received]
      rfl
  | neverStarted stage received =>
      simp only [afterPoll, stage, received]
      exact custody_failed 500 0 s
  | startTimeout stage fired =>
      simp only [afterPoll, stage, fired, if_true]
      exact custody_failed 500 0 s
  | phaseAAgain stage running =>
      simp only [afterPoll, stage, running, Bool.false_eq_true, if_false]
      rfl
  | phaseAApp stage | responderApp stage =>
      simp only [afterPoll, stage]
      exact custody_pollApp _ _
  | phaseAFeed stage | responderFeed stage =>
      simp only [afterPoll, stage]
      exact custody_pollFeed _ _
  | rejected stage | duplicate stage | suppressed stage | empty stage | taken stage
  | finished stage | unsent stage | appTimeout stage | responderAgain stage | hand stage
  | gone stage | told stage | close stage =>
      simp only [afterPoll, stage]
      rfl
  | observe stage => exact custody_observe stage

/-- `custodyAfter` says it of every step. -/
theorem custody_step (stepped : s.step request action = some next) :
    next.custody = s.custodyAfter action := by
  cases step_cases stepped with
  | poll polled => exact custody_poll polled
  | refused => exact custody_logAccess 500 0 s
  | reaped _ settled =>
      simp only [custodyAfter, settled]
      rfl
  | reapTimeout _ unsettled =>
      cases app : s.app with
      | settled outcome => exact absurd app (unsettled outcome)
      | running | exited =>
          simp only [custodyAfter, app]
          rfl
  | @feed action move _ own =>
      cases action <;> first | rfl | cases own
  | established | push | park | unpark | exit | settle | dropSink | startDeadline | appDeadline
  | takeChunk | dropBody | dropService => rfl

/-- Phase A fails and gives the application's future to a drain reaper. -/
def abandons (s : Http) : Action → Bool
  | .poll =>
      match s.stage with
      | .phaseA .rx =>
          match s.chan.recv with
          | .closed => true
          | _ => false
      | .phaseA .deadline => s.startTimer
      | .rejected _ => true
      | _ => false
  | _ => false

/-- A future that Phase A gives away has not completed under its eyes. -/
def GivesFresh (s : Http) (action : Action) : Prop :=
  s.abandons action = true → s.appDone = false

instance (s : Http) (action : Action) : Decidable (s.GivesFresh action) :=
  inferInstanceAs (Decidable (_ → _))

/-- No completed future has been polled again, and none is going to be by the reaper. -/
def PolledOnce (request : Request) (s : Http) : Prop :=
  s.repolled = false ∧
    ∀ timeout next, s.step request (.reap timeout) = some next → next.repolled = false

/-- The outcome that a step reports; `none` is the timeout of the reaper. A poll that panics
reports nothing. -/
def reports (s : Http) : Action → List (Option Outcome)
  | .poll =>
      match s.stage, s.app with
      | .phaseA .app, .settled outcome | .responder .app, .settled outcome
      | .observing, .settled outcome =>
          if s.appDone || s.appLogged then [] else [some outcome]
      | _, _ => []
  | .reap _ =>
      match s.app with
      | .settled outcome => if s.appDone || s.appLogged then [] else [some outcome]
      | _ => if s.appLogged then [] else [none]
  | _ => []

/-- A step at which Phase A gives the future away. -/
theorem abandons_step (abandons : s.abandons action = true)
    (stepped : s.step request action = some next) :
    next.stage = .done ∧ next.appDone = s.appDone ∧ next.reaper = .waiting ∧
      next.repolled = s.repolled := by
  have books (failed : next.stage = .done) (custody : next.custody = s.custody.hand) :
      next.stage = .done ∧ next.appDone = s.appDone ∧ next.reaper = .waiting ∧
        next.repolled = s.repolled :=
    ⟨failed, congrArg Custody.appDone custody, congrArg Custody.reaper custody,
      congrArg Custody.repolled custody⟩
  cases step_cases stepped with
  | poll polled =>
      cases polled with
      | neverStarted | startTimeout => exact books rfl (custody_failed 500 0 s)
      | rejected => exact books rfl rfl
      | start stage received | early stage received | unstarted stage received =>
          simp [Http.abandons, stage, received] at abandons
      | phaseAAgain stage running => simp [Http.abandons, stage, running] at abandons
      | phaseAApp stage | phaseAFeed stage | duplicate stage | suppressed stage | empty stage
      | taken stage | finished stage | unsent stage | responderApp stage | responderFeed stage
      | appTimeout stage | responderAgain stage | hand stage | gone stage | told stage | close stage
      | observe stage => simp [Http.abandons, stage] at abandons
  | @feed action _ _ own => cases action <;> first | cases abandons | cases own
  | _ => cases abandons

/-- Besides Phase A, only the last look of the responder gives the future away, and only one that
has not completed. -/
theorem reaper_step (stepped : s.step request action = some next)
    (abandons : s.abandons action = false) :
    next.reaper = s.reaper ∨ next.reaper = .finished ∨
      next.stage = .done ∧ next.appDone = false := by
  cases step_cases stepped with
  | poll polled =>
      cases polled with
      | neverStarted stage received => simp [Http.abandons, stage, received] at abandons
      | startTimeout stage fired => simp [Http.abandons, stage, fired] at abandons
      | rejected stage => simp [Http.abandons, stage] at abandons
      | phaseAApp | responderApp => exact .inl (reaper_pollApp _ _)
      | phaseAFeed | responderFeed => exact .inl (congrArg Custody.reaper (custody_pollFeed _ _))
      | observe stage =>
          have wrote : (s.observe request).custody = s.afterPoll := custody_observe stage
          have books : (s.observe request).custody.reaper = s.reaper ∨
              (s.observe request).custody.appDone = false := by
            rw [wrote]
            simp only [afterPoll, stage]
            cases done : s.appDone with
            | true => exact .inl rfl
            | false =>
                cases app : s.app with
                | settled outcome => exact .inl rfl
                | running | exited => exact .inr done
          rcases books with same | unseen
          · exact .inl same
          · exact .inr (.inr ⟨rfl, unseen⟩)
      | start | early | unstarted | phaseAAgain | duplicate | suppressed | empty | taken
      | finished | unsent | appTimeout | responderAgain | hand | gone | told | close =>
          exact .inl rfl
  | refused => exact .inl (congrArg Custody.reaper (custody_logAccess 500 0 s))
  | reaped | reapTimeout => exact .inr (.inl rfl)
  | established | push | park | unpark | exit | settle | dropSink | feed | startDeadline
  | appDeadline | takeChunk | dropBody | dropService => exact .inl rfl

/-- A finished handler leaves the future to the reaper. -/
theorem done_keeps (done : s.stage = .done) (stepped : s.step request action = some next) :
    next.appDone = s.appDone ∧
      (next.reaper = s.reaper ∨ ∃ timeout, action = .reap timeout) := by
  have wrote := custody_step stepped
  have books : next.custody.appDone = s.appDone ∧
      (next.custody.reaper = s.reaper ∨ ∃ timeout, action = .reap timeout) := by
    rw [wrote]
    cases action with
    | poll => simp [step, poll, done] at stepped
    | established => simp [step, done] at stepped
    | reap timeout =>
        refine ⟨?_, .inr ⟨timeout, rfl⟩⟩
        simp only [custodyAfter]
        cases s.app <;> rfl
    | _ => exact ⟨rfl, .inl rfl⟩
  exact books

theorem repolled_step (stepped : s.step request action = some next) :
    next.repolled = s.repolled ∨ ∃ timeout, action = .reap timeout := by
  have wrote := custody_step stepped
  have books : next.custody.repolled = s.repolled ∨ ∃ timeout, action = .reap timeout := by
    rw [wrote]
    cases action with
    | reap timeout => exact .inr ⟨timeout, rfl⟩
    | poll => exact .inl s.afterPoll_repolled
    | _ => exact .inl rfl
  exact books

/-- The reaper polls a completed future again where the handler has seen its end. -/
theorem reap_step {timeout : Bool} (watched : s.Watched)
    (stepped : s.step request (.reap timeout) = some next) :
    s.reaper = .waiting ∧ next.reaper = .finished ∧ next.repolled = (s.repolled || s.appDone) := by
  have wrote := custody_step stepped
  have waiting : s.reaper = .waiting := by
    simp only [step] at stepped
    split at stepped
    · rename_i waiting
      exact waiting
    · cases stepped
  have books : next.custody.reaper = .finished ∧
      next.custody.repolled = (s.repolled || s.appDone) := by
    rw [wrote]
    simp only [custodyAfter]
    cases app : s.app with
    | settled outcome => exact ⟨rfl, rfl⟩
    | running | exited =>
        refine ⟨rfl, ?_⟩
        cases done : s.appDone with
        | false => simp [custody]
        | true =>
            rcases watched done with ⟨_, settled⟩
            rw [app] at settled
            cases settled
  exact ⟨waiting, books⟩

/-- The reaper has a future that nobody has seen completed. -/
structure Sound (s : Http) : Prop where
  watched : s.Watched
  repolled : s.repolled = false
  fresh : s.reaper = .waiting → s.stage = .done ∧ s.appDone = false

theorem Sound.step (sound : s.Sound) (gives : s.GivesFresh action)
    (stepped : s.step request action = some next) : next.Sound where
  watched := sound.watched.step stepped
  repolled := by
    rcases repolled_step stepped with same | ⟨timeout, rfl⟩
    · rw [same, sound.repolled]
    · rcases reap_step sound.watched stepped with ⟨waiting, _, repolled⟩
      rw [repolled, sound.repolled, (sound.fresh waiting).2]
      rfl
  fresh := by
    intro waiting
    cases abandons : s.abandons action with
    | true =>
        rcases abandons_step abandons stepped with ⟨done, appDone, _⟩
        exact ⟨done, appDone.trans (gives abandons)⟩
    | false =>
        rcases reaper_step stepped abandons with same | finished | fresh
        · rcases sound.fresh (same ▸ waiting) with ⟨done, appDone⟩
          exact ⟨step_done done stepped, (done_keeps done stepped).1.trans appDone⟩
        · rw [waiting] at finished
          cases finished
        · exact fresh

theorem Sound.polledOnce (sound : s.Sound) : s.PolledOnce request := by
  refine ⟨sound.repolled, ?_⟩
  intro timeout next reaped
  rcases reap_step sound.watched reaped with ⟨waiting, _, repolled⟩
  rw [repolled, sound.repolled, (sound.fresh waiting).2]
  rfl

theorem sound_init (request : Request) (body : Incoming) : (init request body).Sound where
  watched := watched_init request body
  repolled := rfl
  fresh := fun waiting => by cases waiting

/-- The reaper has a future whose end the handler has seen, or has polled it. -/
def Tainted (s : Http) : Prop :=
  s.repolled = true ∨ s.stage = .done ∧ s.appDone = true ∧ s.reaper = .waiting

theorem Tainted.step (tainted : s.Tainted) (watched : s.Watched)
    (stepped : s.step request action = some next) : next.Tainted := by
  rcases tainted with repolled | ⟨done, appDone, waiting⟩
  · refine .inl ?_
    rcases repolled_step stepped with same | ⟨timeout, rfl⟩
    · rw [same, repolled]
    · rw [(reap_step watched stepped).2.2, repolled]
      rfl
  · rcases done_keeps done stepped with ⟨kept, same | ⟨timeout, rfl⟩⟩
    · exact .inr ⟨step_done done stepped, kept.trans appDone, same.trans waiting⟩
    · refine .inl ?_
      rw [(reap_step watched stepped).2.2, appDone, Bool.or_true]

theorem tainted_of_step (gives : ¬ s.GivesFresh action)
    (stepped : s.step request action = some next) : next.Tainted := by
  rw [GivesFresh, Classical.not_imp] at gives
  rcases abandons_step gives.1 stepped with ⟨done, appDone, waiting, _⟩
  exact .inr ⟨done, appDone.trans (Bool.of_not_eq_false gives.2), waiting⟩

theorem Tainted.not_polledOnce (tainted : s.Tainted) (watched : s.Watched) :
    ¬ s.PolledOnce request := by
  rintro ⟨never, not_⟩
  rcases tainted with repolled | ⟨_, appDone, waiting⟩
  · rw [never] at repolled
    cases repolled
  · rcases watched appDone with ⟨outcome, settled⟩
    have again := not_ false { s with
      reaper := .finished, appLogged := true, repolled := s.repolled || s.appDone }
      (by simp [Http.step, waiting, settled])
    simp [appDone] at again

/-- A step reports only what nobody has reported, and takes note of it. -/
theorem reports_step (stepped : s.step request action = some next) :
    (s.reports action = [] ∨ (s.reports action).length = 1 ∧ s.appLogged = false ∧
      next.appLogged = true) ∧ (s.appLogged = true → next.appLogged = true) := by
  have wrote := custody_step stepped
  have books : (s.reports action = [] ∨ (s.reports action).length = 1 ∧ s.appLogged = false ∧
      next.custody.appLogged = true) ∧ (s.appLogged = true → next.custody.appLogged = true) := by
    rw [wrote]
    cases action with
    | established succeeded =>
        refine ⟨.inl rfl, ?_⟩
        cases succeeded <;> simp [custodyAfter, custody]
    | reap timeout =>
        simp only [reports, custodyAfter]
        cases s.app <;> cases s.appDone <;> cases s.appLogged <;> simp
    | poll =>
        simp only [custodyAfter, afterPoll, reports]
        cases stage : s.stage with
        | phaseA branch =>
            cases branch with
            | rx =>
                refine ⟨.inl rfl, ?_⟩
                cases s.chan.recv with
                | item event chan => cases event <;> exact id
                | closed => simp [Custody.hand, custody]
                | pending => exact id
            | app =>
                simp only [afterLook]
                cases s.app <;> cases done : s.appDone <;> cases logged : s.appLogged <;>
                  simp [custody, Custody.observe, logged]
            | feed => exact ⟨.inl rfl, id⟩
            | deadline =>
                refine ⟨.inl rfl, ?_⟩
                by_cases fired : s.startTimer = true
                · simp [fired, Custody.hand, custody]
                · simp [fired, custody]
        | responder branch =>
            cases branch with
            | rx =>
                refine ⟨.inl rfl, ?_⟩
                cases s.chan.recv with
                | item event chan => cases event <;> exact id
                | closed | pending => exact id
            | app =>
                simp only [afterLook]
                cases s.app <;> cases done : s.appDone <;> cases logged : s.appLogged <;>
                  simp [custody, Custody.observe, logged]
            | feed | deadline => exact ⟨.inl rfl, id⟩
        | observing =>
            cases s.app <;> cases done : s.appDone <;> cases logged : s.appLogged <;>
              simp [custody, Custody.observe, Custody.hand, done, logged]
        | _ => exact ⟨.inl rfl, id⟩
    | _ => exact ⟨.inl rfl, id⟩
  exact books

theorem reports_run (ran : run (step request) (init request body) actions = some final) :
    (trace (step request) reports (init request body) actions).length ≤ 1 := by
  have counted : (final.appLogged = false →
        [] ++ trace (step request) reports (init request body) actions = []) ∧
      ([] ++ trace (step request) reports (init request body) actions).length ≤ 1 := by
    refine trace_invariant (fun s seen => (s.appLogged = false → seen = []) ∧ seen.length ≤ 1) ?_
      ran ⟨fun _ => rfl, Nat.zero_le 1⟩
    rintro current action next seen ⟨nothing, few⟩ stepped
    rcases reports_step stepped with ⟨silent | ⟨one, unlogged, logged⟩, stays⟩
    · rw [silent, List.append_nil]
      refine ⟨?_, few⟩
      intro unlogged
      apply nothing
      apply Bool.eq_false_iff.mpr
      intro logged
      rw [stays logged] at unlogged
      cases unlogged
    · refine ⟨fun later => ?_, ?_⟩
      · rw [logged] at later
        cases later
      · rw [nothing unlogged, List.nil_append, one]
  simpa using counted.2

/-- No future is polled after its completion where Phase A only ever gives away one that it has not
seen completed; and its outcome is reported at most once in any case. -/
theorem polledOnce_iff (body : Incoming)
    (ran : run (step request) (init request body) actions = some final) :
    (final.PolledOnce request ↔ Along (step request) GivesFresh (init request body) actions) ∧
      (trace (step request) reports (init request body) actions).length ≤ 1 := by
  refine ⟨?_, reports_run ran⟩
  constructor
  · intro once
    by_contra forbidden
    have watched : final.Watched := by
      apply run_invariant_of_step Watched _ ran (watched_init request body)
      intro current action next watched stepped
      exact watched.step stepped
    have tainted : final.Tainted := by
      apply run_of_not_along Watched Tainted _ _ _ (watched_init request body) forbidden ran
      · intro current action next watched stepped
        exact watched.step stepped
      · intro current action next watched tainted stepped
        exact tainted.step watched stepped
      · intro current action next _ gives stepped
        exact tainted_of_step gives stepped
    exact tainted.not_polledOnce watched once
  · intro along
    apply Sound.polledOnce
    apply run_invariant Sound _ along ran (sound_init request body)
    intro current action next sound allowed stepped
    exact sound.step allowed stepped

def loggedGet : Request :=
  { hasBody := false, isHead := false, accessLog := true,
    crate := { validHeader := fun _ => true, builds := fun _ => true } }

/-- The application returns without a response, and its sink is gone before anybody looks. -/
def silentRun : List Action :=
  [.established true, .exit .returned, .dropSink, .poll, .settle, .reap false]

theorem polledOnce_iff_silent :
    ∃ final, run (step loggedGet) (init loggedGet (.new [] false)) silentRun = some final ∧
      final.reaper = .finished ∧ final.PolledOnce loggedGet := by
  have ran : ∃ final, run (step loggedGet) (init loggedGet (.new [] false)) silentRun = some final ∧
      final.reaper = .finished :=
    exists_of_run_any (by decide)
  rcases ran with ⟨final, ran, finished⟩
  exact ⟨final, ran, finished, (polledOnce_iff (.new [] false) ran).1.mpr (by decide)⟩

/-- Phase A sees it return before its sink is gone. -/
theorem future_polled_again :
    ∃ final, run (step loggedGet) (init loggedGet (.new [] false))
        [.established true, .exit .returned, .settle, .poll, .poll, .dropSink, .poll,
          .reap false] = some final ∧ ¬ final.PolledOnce loggedGet := by
  have ran : ∃ final, run (step loggedGet) (init loggedGet (.new [] false))
      [.established true, .exit .returned, .settle, .poll, .poll, .dropSink, .poll,
        .reap false] = some final ∧ final.repolled = true :=
    exists_of_run_any (by decide)
  rcases ran with ⟨final, ran, repolled⟩
  refine ⟨final, ran, ?_⟩
  rintro ⟨never, _⟩
  rw [repolled] at never
  cases never

end Http

end RustAsgi
