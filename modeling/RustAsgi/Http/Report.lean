import RustAsgi.Http.Polling

/-!
# What becomes of an application's outcome

Phase A or the responder sees the application end, or the responder finds it ended in
its last look, or a drain reaper waits for it. Each of these places reports an outcome
that nobody has reported before, and has a counter of its own, which counts in a profiled run
only. Where hyper drops the service future during Phase A, nobody is left.
-/

namespace RustAsgi

open Asyncio Machine Tokio

/-- The counters `C_APPDONE_*`. -/
inductive AppDone where
  | phaseA
  | pump
  | nowOrNever
  | reaper
  | deadline
  deriving DecidableEq, Repr

namespace AppDone

/-- `metrics::enabled`, by what `RUSTWASGI_PROFILE` holds. -/
def enabled (profile : Option String) : Bool :=
  profile == some "1"

/-- `metrics::inc`. -/
def inc (profile : Option String) (counter : AppDone) : List AppDone :=
  if enabled profile then [counter] else []

theorem flatMap_inc (profile : Option String) (counters : List AppDone) :
    counters.flatMap (inc profile) = if enabled profile then counters else [] := by
  induction counters with
  | nil => simp
  | cons counter rest ih =>
      rw [List.flatMap_cons, ih, inc]
      split <;> rfl

/-- It stands for an application that has been looked after to its end. -/
def notices : AppDone → Bool
  | .phaseA | .pump | .nowOrNever | .reaper => true
  | .deadline => false

end AppDone

namespace Http

variable {request : Request} {body : Incoming} {s next final : Http} {action : Action}
  {actions : List Action}

/-- The counter that a step hands to `metrics::inc`. -/
def calls (s : Http) : Action → List AppDone
  | .poll =>
      match s.stage, s.app with
      | .phaseA .app, .settled _ => if s.appDone then [] else [.phaseA]
      | .responder .app, .settled _ => if s.appDone then [] else [.pump]
      | .observing, .settled _ => if s.appDone then [] else [.nowOrNever]
      | .responder .deadline, _ => if s.appTimer then [.deadline] else []
      | _, _ => []
  | .reap _ =>
      match s.app with
      -- a completed future that is polled again panics before the counter
      | .settled _ => if s.appDone then [] else [.reaper]
      | _ => [.reaper]
  | _ => []

def called (s : Http) (action : Action) : List AppDone :=
  (s.calls action).filter AppDone.notices

/-- The counters that a step increments. -/
def counts (profile : Option String) (s : Http) (action : Action) : List AppDone :=
  (s.calls action).flatMap (AppDone.inc profile)

def noticed (profile : Option String) (s : Http) (action : Action) : List AppDone :=
  (s.counts profile action).filter AppDone.notices

/-- Where the handler goes without leaving a reaper behind, it has seen the application's end. -/
def Attended (s : Http) : Action → Prop
  | .dropService | .established false => s.appDone = true
  | _ => True

instance (s : Http) : (action : Action) → Decidable (s.Attended action)
  | .dropService | .established false => inferInstanceAs (Decidable (_ = _))
  | .established true | .poll | .push _ _ | .unpark _ | .exit _ | .settle | .dropSink | .receive
  | .turn | .frameArrives | .bodyEnds | .putTimeout | .startDeadline | .appDeadline | .stopLoop
  | .takeChunk | .dropBody | .reap _ => .isTrue trivial

/-- What a step does for the outcome of the application. -/
inductive Look (s : Http) (action : Action) (next : Http) : Prop where
  | keeps (custody : next.custody = s.custody) (silent : s.reports action = [])
      (uncounted : s.called action = []) (stage : next.stage = .done ↔ s.stage = .done)
      (attended : s.Attended action)
  | leaves (custody : next.custody = s.custody) (silent : s.reports action = [])
      (uncounted : s.called action = []) (going : s.stage ≠ .done) (ended : next.stage = .done)
      (attended : s.Attended action ↔ s.appDone = true)
  | sees {outcome : Outcome} (settled : s.app = .settled outcome) (fresh : s.appDone = false)
      (going : s.stage ≠ .done) (custody : next.custody = s.custody.observe)
      (reported : s.reports action = if s.appLogged then [] else [some outcome])
      (counted : (s.called action).length = 1) (attended : s.Attended action)
  | hands (going : s.stage ≠ .done) (ended : next.stage = .done)
      (custody : next.custody = s.custody.hand) (silent : s.reports action = [])
      (uncounted : s.called action = []) (attended : s.Attended action)
  | reaps {report : Option Outcome} (waiting : s.reaper = .waiting)
      (stage : next.stage = s.stage) (appDone : next.appDone = s.appDone)
      (logged : next.appLogged = true) (finished : next.reaper = .finished)
      (reported : s.reports action = if s.appDone || s.appLogged then [] else [report])
      (truth : ∀ outcome ∈ report, s.app = .settled outcome)
      (counted : (s.called action).length = (!s.appDone).toNat) (attended : s.Attended action)

theorem look_pollApp {back onward : Stage} (going : s.stage ≠ .done) (stays : back ≠ .done)
    (goesOn : onward ≠ .done)
    (reported : ∀ outcome, s.app = .settled outcome →
      s.reports .poll = if s.appDone || s.appLogged then [] else [some outcome])
    (silent : (∀ outcome, s.app ≠ .settled outcome) → s.reports .poll = [])
    (counted : ∀ outcome, s.app = .settled outcome →
      (s.called .poll).length = (!s.appDone).toNat)
    (uncounted : (∀ outcome, s.app ≠ .settled outcome) → s.called .poll = []) :
    Look s .poll (s.pollApp back onward) := by
  have custody : (s.pollApp back onward).custody = s.afterLook := custody_pollApp back onward
  have stage : (s.pollApp back onward).stage ≠ .done := by
    simp only [pollApp]
    split
    · exact goesOn
    · split
      · exact stays
      · exact goesOn
  have same : (s.pollApp back onward).stage = .done ↔ s.stage = .done :=
    iff_of_false stage going
  cases app : s.app with
  | running | exited =>
      have unsettled (outcome : Outcome) : s.app ≠ .settled outcome := by simp [app]
      refine .keeps ?_ (silent unsettled) (uncounted unsettled) same trivial
      rw [custody]
      simp [afterLook, app]
  | settled outcome =>
      cases done : s.appDone with
      | true =>
          refine .keeps ?_ ?_ ?_ same trivial
          · rw [custody]
            simp [afterLook, done]
          · rw [reported outcome app, done]
            rfl
          · rw [← List.length_eq_zero_iff, counted outcome app, done]
            rfl
      | false =>
          refine .sees app done going ?_ ?_ ?_ trivial
          · rw [custody]
            simp [afterLook, app, done]
          · rw [reported outcome app, done]
            rfl
          · rw [counted outcome app, done]
            rfl

theorem stage_pollFeed {back onward : Stage} (stays : back ≠ .done) (goesOn : onward ≠ .done)
    (going : s.stage ≠ .done) : (s.pollFeed back onward).stage ≠ .done := by
  simp only [pollFeed]
  split
  · exact goesOn
  · exact going
  · exact stays

theorem look_observe (stage : s.stage = .observing) : Look s .poll (s.observe request) := by
  have custody : (s.observe request).custody = s.afterPoll := custody_observe stage
  have going : s.stage ≠ .done := by simp [stage]
  have ended : (s.observe request).stage = .done := rfl
  cases done : s.appDone with
  | true =>
      refine .leaves ?_ ?_ ?_ going ended ?_
      · rw [custody]
        simp [afterPoll, stage, done]
      · simp only [reports, stage]
        cases s.app <;> simp [done]
      · simp only [called, calls, stage]
        cases s.app <;> simp [done]
      · simp [Attended, done]
  | false =>
      cases app : s.app with
      | settled outcome =>
          refine .sees app done going ?_ ?_ ?_ trivial
          · rw [custody]
            simp [afterPoll, stage, done, app]
          · simp [reports, stage, app, done]
          · simp [called, calls, stage, app, done, List.filter_cons, AppDone.notices]
      | running | exited =>
          refine .hands going ended ?_ ?_ ?_ trivial
          · rw [custody]
            simp [afterPoll, stage, done, app]
          · simp [reports, stage, app]
          · simp [called, calls, stage, app]

theorem look_poll (polled : Polled request s next) : Look s .poll next := by
  cases polled with
  | neverStarted stage | startTimeout stage =>
      exact .hands (by simp [stage]) rfl (custody_failed 500 0 s) (by simp [reports, stage])
        (by simp [called, calls, stage]) trivial
  | rejected stage =>
      exact .hands (by simp [stage]) rfl rfl (by simp [reports, stage])
        (by simp [called, calls, stage]) trivial
  | phaseAApp stage | responderApp stage =>
      apply look_pollApp
      · simp [stage]
      · simp
      · simp
      · intro outcome app
        simp [reports, stage, app]
      · intro unsettled
        cases app : s.app with
        | settled outcome => exact absurd app (unsettled outcome)
        | running | exited => simp [reports, stage, app]
      · intro outcome app
        cases done : s.appDone <;>
          simp [called, calls, stage, app, done, List.filter_cons, AppDone.notices]
      · intro unsettled
        cases app : s.app with
        | settled outcome => exact absurd app (unsettled outcome)
        | running | exited => simp [called, calls, stage, app]
  | phaseAFeed stage | responderFeed stage =>
      refine .keeps (custody_pollFeed _ _) (by simp [reports, stage])
        (by simp [called, calls, stage]) (iff_of_false ?_ (by simp [stage])) trivial
      exact stage_pollFeed (by simp) (by simp) (by simp [stage])
  | appTimeout stage fired =>
      exact .keeps rfl (by simp [reports, stage])
        (by simp [called, calls, stage, fired, AppDone.notices])
        (iff_of_false (by simp) (by simp [stage])) trivial
  | responderAgain stage running =>
      exact .keeps rfl (by simp [reports, stage]) (by simp [called, calls, stage, running])
        (iff_of_false (by simp) (by simp [stage])) trivial
  | @suppressed data moreBody chan stage | @empty moreBody chan stage
  | @hand data moreBody stage =>
      refine .keeps rfl (by simp [reports, stage]) (by simp [called, calls, stage])
        (iff_of_false ?_ (by simp [stage])) trivial
      cases moreBody <;> simp [afterBody]
  | start stage | early stage | unstarted stage | phaseAAgain stage | duplicate stage
  | taken stage | finished stage | unsent stage | gone stage | told stage | close stage =>
      exact .keeps rfl (by simp [reports, stage]) (by simp [called, calls, stage])
        (iff_of_false (by simp [respond, Http.close]) (by simp [stage])) trivial
  | observe stage => exact look_observe stage

theorem look_step (watched : s.Watched) (stepped : s.step request action = some next) :
    Look s action next := by
  cases step_cases stepped with
  | poll polled => exact look_poll polled
  | established stage =>
      exact .keeps rfl rfl rfl (iff_of_false (by simp) (by simp [stage])) trivial
  | refused stage =>
      exact .leaves (custody_logAccess 500 0 s) rfl rfl (by simp [stage]) rfl Iff.rfl
  | dropService stage =>
      refine .leaves rfl rfl rfl ?_ rfl Iff.rfl
      rintro done
      simp [done, Stage.inPhaseA] at stage
  | @reaped timeout outcome waiting settled =>
      refine @Look.reaps _ _ _ (some outcome) waiting rfl rfl rfl rfl ?_ ?_ ?_ trivial
      · simp only [reports, settled]
      · rintro _ ⟨⟩
        exact settled
      · cases done : s.appDone <;>
          simp [called, calls, settled, done, List.filter_cons, AppDone.notices]
  | reapTimeout waiting unsettled =>
      have fresh : s.appDone = false := by
        rw [Bool.eq_false_iff]
        intro done
        rcases watched done with ⟨outcome, settled⟩
        exact unsettled outcome settled
      refine @Look.reaps _ _ _ none waiting rfl rfl rfl rfl ?_ (by simp) ?_ trivial
      · cases app : s.app with
        | settled outcome => exact absurd app (unsettled outcome)
        | running | exited => simp [reports, app, fresh]
      · cases app : s.app with
        | settled outcome => exact absurd app (unsettled outcome)
        | running | exited => simp [called, calls, app, fresh, List.filter_cons, AppDone.notices]
  | @feed action move feed own =>
      cases action <;> first | exact .keeps rfl rfl rfl Iff.rfl trivial | cases own
  | push | park | unpark | exit | settle | dropSink | startDeadline | appDeadline | takeChunk
  | dropBody => exact .keeps rfl rfl rfl Iff.rfl trivial

theorem custody_fields {books : Custody} (same : next.custody = books) :
    next.appDone = books.appDone ∧ next.appLogged = books.appLogged ∧
      next.reaper = books.reaper := by
  subst same
  exact ⟨rfl, rfl, rfl⟩

/-- The marks that the outcome leaves: it is reported with the look that sees it, and a reaper that
waits has one that is reported only if it has been seen. -/
structure Kept (s : Http) : Prop where
  watched : s.Watched
  done : s.appDone = true → s.appLogged = true
  going : s.stage ≠ .done → s.appLogged = s.appDone ∧ s.reaper = .absent
  waiting : s.reaper = .waiting → s.appLogged = s.appDone
  finished : s.reaper = .finished → s.appLogged = true

theorem kept_init (request : Request) (body : Incoming) : (init request body).Kept where
  watched := watched_init request body
  done := nofun
  going := fun _ => ⟨rfl, rfl⟩
  waiting := nofun
  finished := nofun

theorem Kept.step (kept : s.Kept) (stepped : s.step request action = some next) : next.Kept := by
  have watched := kept.watched.step stepped
  cases look_step kept.watched stepped with
  | keeps custody _ _ stage =>
      rcases custody_fields custody with ⟨appDone, appLogged, reaper⟩
      refine ⟨watched, ?_, ?_, ?_, ?_⟩
      · rw [appDone, appLogged]
        exact kept.done
      · rw [ne_eq, stage, appDone, appLogged, reaper]
        exact kept.going
      · rw [reaper, appDone, appLogged]
        exact kept.waiting
      · rw [reaper, appLogged]
        exact kept.finished
  | leaves custody _ _ going ended =>
      rcases custody_fields custody with ⟨appDone, appLogged, reaper⟩
      refine ⟨watched, ?_, fun still => absurd ended still, ?_, ?_⟩
      · rw [appDone, appLogged]
        exact kept.done
      · rw [reaper, appDone, appLogged]
        exact kept.waiting
      · rw [reaper, appLogged]
        exact kept.finished
  | sees _ _ going custody =>
      rcases custody_fields custody with ⟨appDone, appLogged, reaper⟩
      have absent : next.reaper = .absent := reaper.trans (kept.going going).2
      refine ⟨watched, fun _ => appLogged, fun _ => ⟨?_, absent⟩, ?_, fun _ => appLogged⟩
      · exact appLogged.trans appDone.symm
      · exact fun _ => appLogged.trans appDone.symm
  | hands going ended custody =>
      rcases custody_fields custody with ⟨appDone, appLogged, reaper⟩
      refine ⟨watched, ?_, fun still => absurd ended still, ?_, ?_⟩
      · rw [appDone, appLogged]
        exact kept.done
      · rw [appDone, appLogged]
        exact fun _ => (kept.going going).1
      · rw [reaper]
        exact nofun
  | reaps waiting stage appDone logged finished =>
      have ended : s.stage = .done := by
        by_contra going
        rw [(kept.going going).2] at waiting
        cases waiting
      refine ⟨watched, fun _ => logged, fun still => absurd (stage.trans ended) still, ?_, fun _ =>
        logged⟩
      rw [finished]
      exact nofun

/-- Every look that reports increments a counter, and the mark is set with the report. -/
theorem counted_step (kept : s.Kept) (stepped : s.step request action = some next) :
    (s.called action).length = (s.reports action).length ∧
      next.appLogged.toNat = s.appLogged.toNat + (s.reports action).length := by
  cases look_step kept.watched stepped with
  | keeps custody silent uncounted | leaves custody silent uncounted =>
      have logged : next.appLogged = s.appLogged := congrArg Custody.appLogged custody
      simp [silent, uncounted, logged]
  | hands _ _ custody silent uncounted =>
      have logged : next.appLogged = s.appLogged := congrArg Custody.appLogged custody
      simp [silent, uncounted, logged]
  | sees _ fresh going custody reported counted =>
      have logged : next.appLogged = true := congrArg Custody.appLogged custody
      have before := (kept.going going).1
      rw [fresh] at before
      simp [reported, counted, logged, before]
  | reaps waiting _ _ logged _ reported _ counted =>
      have before := kept.waiting waiting
      cases done : s.appDone <;> simp_all

theorem settled_step {outcome : Outcome} (settled : s.app = .settled outcome)
    (stepped : s.step request action = some next) : next.app = .settled outcome := by
  cases appStep_of_step stepped with
  | silent app | observe _ app | handOver _ app | reaped _ app => exact app.trans settled
  | exit running =>
      rw [settled] at running
      cases running
  | settle exited =>
      rw [settled] at exited
      cases exited

/-- What the reports of a run say. `clean` is whether somebody has stayed with the application. -/
structure Reported (s : Http) (seen : List (Option Outcome)) (clean : Prop) : Prop where
  kept : s.Kept
  once : seen.length = s.appLogged.toNat
  going : s.stage ≠ .done → clean
  ended : s.stage = .done → (clean ↔ s.appLogged = true ∨ s.reaper = .waiting)
  outcome : ∀ outcome, some outcome ∈ seen → s.app = .settled outcome

theorem reports_truth {outcome : Outcome} (watched : s.Watched)
    (stepped : s.step request action = some next) (among : some outcome ∈ s.reports action) :
    s.app = .settled outcome := by
  cases look_step watched stepped with
  | keeps _ silent | leaves _ silent | hands _ _ _ silent =>
      rw [silent] at among
      cases among
  | sees settled _ _ _ reported =>
      rw [reported] at among
      split at among
      · cases among
      · cases List.mem_singleton.mp among
        exact settled
  | reaps _ _ _ _ _ reported truth =>
      rw [reported] at among
      split at among
      · cases among
      · cases List.mem_singleton.mp among
        exact truth outcome rfl

theorem Reported.step {seen : List (Option Outcome)} {clean : Prop}
    (reported : s.Reported seen clean) (stepped : s.step request action = some next) :
    next.Reported (seen ++ s.reports action) (clean ∧ s.Attended action) := by
  have kept := reported.kept.step stepped
  have once : (seen ++ s.reports action).length = next.appLogged.toNat := by
    rw [List.length_append, reported.once, (counted_step reported.kept stepped).2]
  have outcome (outcome : Outcome) (among : some outcome ∈ seen ++ s.reports action) :
      next.app = .settled outcome := by
    apply settled_step _ stepped
    rcases List.mem_append.mp among with before | now
    · exact reported.outcome outcome before
    · exact reports_truth reported.kept.watched stepped now
  cases look_step reported.kept.watched stepped with
  | keeps custody _ _ stage attended =>
      rcases custody_fields custody with ⟨_, appLogged, reaper⟩
      refine ⟨kept, once, ?_, ?_, outcome⟩
      · rw [ne_eq, stage]
        exact fun going => ⟨reported.going going, attended⟩
      · rw [stage, appLogged, reaper, and_iff_left attended]
        exact reported.ended
  | leaves custody _ _ going ended attended =>
      rcases custody_fields custody with ⟨_, appLogged, reaper⟩
      refine ⟨kept, once, fun still => absurd ended still, fun _ => ?_, outcome⟩
      rcases reported.kept.going going with ⟨logged, absent⟩
      have stillLogged : next.appLogged = s.appDone := appLogged.trans logged
      have stillAbsent : next.reaper = .absent := reaper.trans absent
      rw [stillLogged, stillAbsent, attended]
      simp [reported.going going]
  | sees _ _ going custody _ _ attended =>
      have logged : next.appLogged = true := congrArg Custody.appLogged custody
      refine ⟨kept, once, fun _ => ⟨reported.going going, attended⟩, fun _ => ?_, outcome⟩
      exact iff_of_true ⟨reported.going going, attended⟩ (.inl logged)
  | hands going ended custody _ _ attended =>
      have waiting : next.reaper = .waiting := congrArg Custody.reaper custody
      refine ⟨kept, once, fun still => absurd ended still, fun _ => ?_, outcome⟩
      exact iff_of_true ⟨reported.going going, attended⟩ (.inr waiting)
  | reaps waiting stage _ logged _ _ _ _ attended =>
      have ended : s.stage = .done := by
        by_contra going
        rw [(reported.kept.going going).2] at waiting
        cases waiting
      have clean := (reported.ended ended).mpr (.inr waiting)
      refine ⟨kept, once, fun still => absurd (stage.trans ended) still, fun _ => ?_, outcome⟩
      exact iff_of_true ⟨clean, attended⟩ (.inl logged)

/-- A run that is not profiled increments nothing. -/
theorem noticed_eq (profile : Option String) (s : Http) (action : Action) :
    s.noticed profile action = if AppDone.enabled profile then s.called action else [] := by
  rw [noticed, counts, AppDone.flatMap_inc]
  split <;> rfl

theorem noticed_run (profile : Option String)
    (ran : run (step request) (init request body) actions = some final) :
    (trace (step request) (noticed profile) (init request body) actions).length =
      if AppDone.enabled profile then final.appLogged.toNat else 0 := by
  have start : (init request body).Kept ∧
      ([] : List AppDone).length =
        if AppDone.enabled profile then (init request body).appLogged.toNat else 0 :=
    ⟨kept_init request body, (ite_self 0).symm⟩
  have counted : final.Kept ∧
      ([] ++ trace (step request) (noticed profile) (init request body) actions).length =
        if AppDone.enabled profile then final.appLogged.toNat else 0 := by
    refine trace_invariant (fun s seen => s.Kept ∧
      seen.length = if AppDone.enabled profile then s.appLogged.toNat else 0) ?_ ran start
    rintro current action next seen ⟨kept, once⟩ stepped
    rcases counted_step kept stepped with ⟨same, logged⟩
    refine ⟨kept.step stepped, ?_⟩
    rw [List.length_append, once, noticed_eq, logged]
    split
    · rw [same]
    · rfl
  simpa using counted.2

/-- A request that is over, with its reaper if it has one, has reported what became of its
application exactly once; unless hyper has dropped the service future, or the set-up has failed,
before the handler had seen the end. The counters count what is reported where the run is profiled,
and nothing where it is not. An outcome that is reported is the application's own. -/
theorem reported_iff (profile : Option String) (body : Incoming)
    (ran : run (step request) (init request body) actions = some final)
    (ended : final.stage = .done) (reaped : final.reaper ≠ .waiting) :
    let reports := trace (step request) reports (init request body) actions
    let noticed := trace (step request) (noticed profile) (init request body) actions
    (reports.length = 1 ↔ Along (step request) Attended (init request body) actions) ∧
      noticed.length = (if AppDone.enabled profile then reports.length else 0) ∧
      ∀ outcome, some outcome ∈ reports → final.app = .settled outcome := by
  intro reports noticed
  have start : (init request body).Reported [] True := by
    refine ⟨kept_init request body, rfl, fun _ => trivial, nofun, nofun⟩
  have reported := trace_along_invariant Reported
    (fun _ _ _ _ _ reported stepped => reported.step stepped) ran start
  rw [List.nil_append, true_and] at reported
  have once : reports.length = final.appLogged.toNat := reported.once
  have counted : noticed.length = if AppDone.enabled profile then reports.length else 0 := by
    rw [once]
    exact noticed_run profile ran
  refine ⟨?_, counted, reported.outcome⟩
  rw [reported.ended ended, or_iff_left reaped, once]
  cases final.appLogged <;> decide

/-- The application answers and goes on; it raises when only the reaper has its future. -/
def lateRun : List Action :=
  [.established true, .push (.start 200 []) false, .poll, .push (.body [1] false) false, .poll,
    .poll, .poll, .poll, .exit .raised, .settle, .reap false]

/-- It is reported, and counted if the run is profiled. -/
theorem reported_iff_late :
    ∃ final, run (step loggedGet) (init loggedGet (.new [] false)) lateRun = some final ∧
      final.app = .settled .raised ∧
      (trace (step loggedGet) reports (init loggedGet (.new [] false)) lateRun).length = 1 ∧
      (trace (step loggedGet) (noticed (some "1")) (init loggedGet (.new [] false))
        lateRun).length = 1 ∧
      (trace (step loggedGet) (noticed none) (init loggedGet (.new [] false))
        lateRun).length = 0 := by
  have ran : ∃ final, run (step loggedGet) (init loggedGet (.new [] false)) lateRun =
      some final ∧ final.stage = .done ∧ final.reaper = .finished ∧
      final.app = .settled .raised :=
    exists_of_run_any (by decide)
  rcases ran with ⟨final, ran, ended, finished, raised⟩
  have reaped : final.reaper ≠ .waiting := by simp [finished]
  have profiled := reported_iff (some "1") (.new [] false) ran ended reaped
  have unprofiled := reported_iff none (.new [] false) ran ended reaped
  have once := profiled.1.mpr (by decide)
  exact ⟨final, ran, raised, once, profiled.2.1.trans once, unprofiled.2.1⟩

end Http

end RustAsgi
