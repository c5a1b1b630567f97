import RustAsgi.Server.Accept
import RustAsgi.Server.Seat

/-!
# When `serve` can return

Once the flag is set the worker needs nobody else in order to end: the accept tasks
look at the flag, the drain is bounded by its timer, and what is then left of the
connections is aborted. Two things can hold it up for ever: a notification that came
before it was waited for, and a client in its TLS handshake.
-/

namespace RustAsgi

open Machine Tokio

/-- The connection's task goes on without its client. -/
def ConnectionAction.unaided : ConnectionAction → Bool
  | .guard | .handled | .count | .compare | .advance => true
  | _ => false

namespace Server

variable {config : ServeConfig} {s next final : Server} {action : Action} {actions : List Action}
  {index id : ℕ}

/-- `abort_all` has been called. -/
def isClosing (s : Server) : Bool :=
  match s.serve with
  | .closing _ => true
  | _ => false

/-- No client and no application takes part in the step; a connection ends by `abort_all`. -/
def ByItself (s : Server) : Action → Prop
  | .serve | .gracefulTimeout | .watcher .advance | .heartbeat .advance | .handler _ .answer => True
  | .acceptor _ act => act.unaided = true
  | .connection _ .close => s.isClosing = true
  | .connection _ act => act.unaided = true
  | _ => False

/-- No client connects or answers in its handshake. -/
def Unvisited : Action → Prop
  | .acceptor _ act => act.unaided = true
  | _ => True

/-- `serve` gets to its return. -/
def CanReturn (config : ServeConfig) (s : Server) : Prop :=
  ∃ (actions : List Action) (returned : Server), Along (step config) ByItself s actions ∧
    run (step config) s actions = some returned ∧ returned.serve = .done

/-- `serve` is to be woken, and has not been. -/
def ServeExpects (s : Server) : Prop :=
  s.serve = .start ∨ s.ServeParked

/-- Whoever is to be woken is going to be. -/
def Informed (s : Server) : Prop :=
  s.Notifying ∨ (¬ s.ServeExpects ∧
    ∀ index acceptor, s.acceptors[index]? = some acceptor → ¬ s.Expects index acceptor)

/-- The flag is set, and there is somebody who will not hear of it. -/
structure Lost (s : Server) : Prop where
  set : s.shutdown.flag = true
  calm : ¬ s.Notifying
  expects : s.ServeExpects ∨ ∃ index acceptor, s.acceptors[index]? = some acceptor ∧
    s.Expects index acceptor

theorem lost_of_not_informed (set : s.shutdown.flag = true) (uninformed : ¬ s.Informed) :
    s.Lost := by
  rw [Informed, not_or] at uninformed
  refine ⟨set, uninformed.1, ?_⟩
  by_cases expects : s.ServeExpects
  · exact .inl expects
  · refine .inr ?_
    by_contra unexpected
    apply uninformed.2
    refine ⟨expects, ?_⟩
    intro index acceptor found waits
    exact unexpected ⟨index, acceptor, found, waits⟩

/-- Nothing but a client's connection wakes who has missed the notification. -/
theorem serveExpects_step (set : s.shutdown.flag = true) (calm : ¬ s.Notifying)
    (expects : s.ServeExpects) (stepped : s.step config action = some next) :
    ¬ next.Notifying ∧ next.ServeExpects := by
  cases step_tasks stepped with
  | serve stepped =>
      refine ⟨?_, ?_⟩
      · cases stepped <;> exact calm
      · rcases expects with start | ⟨waiting, waits⟩
        · cases stepped with
          | await => exact .inr ⟨rfl, Notify.waits_notified⟩
          | wake stage | sample stage | drain stage | skip stage | empty stage | timeout stage
          | sleep stage | again stage | abort stage | finish stage =>
              rw [start] at stage
              cases stage
        · cases stepped with
          | wake _ woken => exact absurd waits woken
          | await stage | sample stage | drain stage | skip stage | empty stage | timeout stage
          | sleep stage | again stage | abort stage | finish stage =>
              rw [waiting] at stage
              cases stage
  | gracefulTimeout | handler => exact ⟨calm, expects⟩
  | acceptor _ stepped =>
      cases stepped with
      | leave | enter | wake | handshake => exact ⟨calm, expects⟩
      | park =>
          refine ⟨calm, expects.imp_right ?_⟩
          rintro ⟨waiting, waits⟩
          exact ⟨waiting, Notify.waits_notified_of_waits waits⟩
      | accept =>
          refine ⟨calm, expects.imp_right ?_⟩
          rintro ⟨waiting, waits⟩
          exact ⟨waiting, Notify.waits_drop.mpr ⟨waits, by simp⟩⟩
      | spawn => exact ⟨fun notifying => calm (notifying_append notifying), expects⟩
  | caller step =>
      rcases step with ⟨calling, serve, _, others, before, after⟩
      generalize now : next.shutdown = shutdown at calling
      cases calling with
      | rest same =>
          rw [after, same, ← before, ServeExpects, ServeParked, serve, now]
          exact ⟨calm, expects⟩
      | advance call =>
          have other : call ≠ .notify := by
            rintro rfl
            exact calm (before.mpr (.inl rfl))
          refine ⟨?_, ?_⟩
          · intro notifying
            rcases after.mp notifying with mine | theirs
            · exact Shutdown.advance_of_set set mine
            · exact calm (before.mpr (.inr theirs))
          · rw [ServeExpects, ServeParked, serve, now, Shutdown.advance_notify other]
            exact expects

theorem stranded_step (stranded : s.Stranded index) (unvisited : Unvisited action)
    (stepped : s.step config action = some next) : next.Stranded index := by
  cases action with
  | acceptor other act =>
      simp only [Server.step, Option.bind_eq_some_iff] at stepped
      rcases stepped with ⟨each, here, moved⟩
      exact stranded.stepAcceptor here unvisited moved
  | serve =>
      rcases stranded with ⟨set, quiet, acceptor, found, expects⟩
      cases step_cases stepped with
      | serve stepped =>
          cases stepped with
          | await =>
              refine ⟨set, quiet, acceptor, found, expects.of_waits ?_⟩
              exact Notify.waits_notified_of_waits
          | wake | sample | drain | skip | empty | timeout | sleep | again | abort | finish =>
              exact ⟨set, quiet, acceptor, found, expects⟩
  | gracefulTimeout =>
      cases step_cases stepped with
      | gracefulTimeout => exact stranded
  | handler =>
      cases step_cases stepped with
      | handler => exact stranded
  | watcher =>
      cases step_cases stepped with
      | watcher calling => exact stranded.call (callStep_watcher calling)
  | heartbeat =>
      cases step_cases stepped with
      | heartbeat calling => exact stranded.call (callStep_heartbeat calling)
  | connection =>
      cases step_cases stepped with
      | connection found moved =>
          rcases callStep_connection found moved with ⟨later?, call⟩
          exact stranded.call call

theorem Lost.step (lost : s.Lost) (unvisited : Unvisited action)
    (stepped : s.step config action = some next) : next.Lost := by
  have set := flag_step lost.set stepped
  rcases lost.expects with expects | ⟨index, acceptor, found, expects⟩
  · rcases serveExpects_step lost.set lost.calm expects stepped with ⟨calm, still⟩
    exact ⟨set, calm, .inl still⟩
  · have stranded : s.Stranded index := ⟨lost.set, lost.calm, acceptor, found, expects⟩
    rcases stranded_step stranded unvisited stepped with ⟨_, calm, later, here, waits⟩
    exact ⟨set, calm, .inr ⟨index, later, here, waits⟩⟩

end Server

/-! How far a task is from its end. -/

def Trigger.rank : Trigger → ℕ
  | .storeQuick => 3
  | .swap => 2
  | .notify => 1

def ServeStage.rank : ServeStage → ℕ
  | .start => 8
  | .waiting => 7
  | .awake => 6
  | .joining _ => 5
  | .sleeping => 4
  | .draining => 3
  | .drained _ => 2
  | .closing _ => 1
  | .done => 0

/-- A task that is spawning leaves a connection behind. -/
def Acceptor.rank (acceptor : Acceptor) : ℕ :=
  match acceptor.stage with
  | .spawning => 3
  | .select => 2
  | .check | .selecting => 1
  | .handshake | .ended => 0

def Connection.rank : Connection → ℕ
  | .admitted _ => 9
  | .handling _ => 7
  | .returned _ => 6
  | .counted _ _ => 5
  | .recycling _ call => 1 + call.rank
  | .writing _ | .idle | .refusing => 1
  | .ended => 0

def Exchange.rank (exchange : Exchange) : ℕ :=
  match exchange.handler with
  | .answering | .switching => 1
  | _ => 0

namespace Server

def noticeRank (call? : Option Trigger) : ℕ :=
  if call? = some .notify then 1 else 0

/-- What is left to do before `serve` returns. -/
def remaining (s : Server) : ℕ :=
  s.serve.rank + (!s.expired).toNat + noticeRank s.watcher.call? +
    noticeRank s.heartbeat.call? + (s.acceptors.map Acceptor.rank).sum +
    (s.connections.map Connection.rank).sum + (s.exchanges.map Exchange.rank).sum

/-- The flag is set, and nothing stands in the way of the return. -/
structure Returning (s : Server) : Prop where
  set : s.shutdown.flag = true
  unshaken : s.Unshaken
  informed : s.Informed
  seated : s.Seated

/-- The worker gets nearer to the return of `serve` by a step of its own. -/
def Advances (config : ServeConfig) (s : Server) : Prop :=
  ∃ (action : Action) (next : Server), s.ByItself action ∧ s.step config action = some next ∧
    next.Returning ∧ next.remaining < s.remaining

variable {config : ServeConfig} {s next final : Server} {action : Action} {actions : List Action}
  {index id : ℕ}

theorem Returning.advances (returning : s.Returning) (own : s.ByItself action)
    (stepped : s.step config action = some next) (unshaken : next.Unshaken)
    (informed : next.Informed) (lower : next.remaining < s.remaining) : s.Advances config :=
  ⟨action, next, own, stepped, ⟨flag_step returning.set stepped, unshaken, informed,
    returning.seated.step stepped⟩, lower⟩

/-- `serve` polls its `wait()` before it is notified. -/
theorem Returning.await (returning : s.Returning) (start : s.serve = .start) :
    s.Advances config := by
  have notifying : s.Notifying := by
    rcases returning.informed with notifying | ⟨unexpected, _⟩
    · exact notifying
    · exact absurd (.inl start) unexpected
  have own : s.ByItself .serve := trivial
  have stepped : s.step config .serve = some { s with
      serve := .waiting
      shutdown := { s.shutdown with notify := s.shutdown.notify.notified .serve } } := by
    simp only [step, stepServe, start]
  apply returning.advances own stepped
  · exact returning.unshaken
  · exact .inl notifying
  · simp only [remaining, start, ServeStage.rank]
    omega

theorem setAcceptor_rank {acceptor : Acceptor} {stage : AcceptorStage}
    (found : s.acceptors[index]? = some acceptor) :
    ((s.setAcceptor index acceptor stage).acceptors.map Acceptor.rank).sum + acceptor.rank =
      (s.acceptors.map Acceptor.rank).sum + ({ acceptor with stage } : Acceptor).rank :=
  sum_map_set_add Acceptor.rank found _

theorem setConnection_rank {connection : Connection} (later : Connection)
    (found : s.connections[index]? = some connection) :
    ((s.connections.set index later).map Connection.rank).sum + connection.rank =
      (s.connections.map Connection.rank).sum + later.rank :=
  sum_map_set_add Connection.rank found later

/-- An accept task parks before it is notified. -/
theorem Returning.park {acceptor : Acceptor} (returning : s.Returning) (notifying : s.Notifying)
    (found : s.acceptors[index]? = some acceptor) (selects : acceptor.stage = .select) :
    s.Advances config := by
  have ranks : ((s.setAcceptor index acceptor .selecting).acceptors.map Acceptor.rank).sum +
      acceptor.rank = (s.acceptors.map Acceptor.rank).sum + 1 := setAcceptor_rank found
  have before : acceptor.rank = 2 := by simp [Acceptor.rank, selects]
  have stepped : s.step config (.acceptor index .park) =
      some { s.setAcceptor index acceptor .selecting with
        shutdown := { s.shutdown with
          notify := s.shutdown.notify.notified (.acceptor index) } } := by
    simp only [step, found, Option.bind_some, stepAcceptor, selects, if_true]
  have own : s.ByItself (.acceptor index .park) := rfl
  have shaken : (s.setAcceptor index acceptor .selecting).Unshaken :=
    returning.unshaken.setAcceptor (by decide)
  apply returning.advances own stepped shaken (.inl notifying)
  simp only [remaining, Server.setAcceptor] at ranks ⊢
  omega

/-- The call of `trigger` that has set the flag notifies, in whichever task it is. -/
theorem notifying_step (notifying : s.Notifying) :
    ∃ (action : Action) (next : Server), s.ByItself action ∧ s.step config action = some next ∧
      next.shutdown = (s.shutdown.advance .notify).1 ∧ next.serve = s.serve ∧
      next.acceptors = s.acceptors ∧ next.remaining < s.remaining := by
  rcases notifying with watcher | heartbeat | ⟨connection, member, call⟩
  · cases stage : s.watcher.stage with
    | triggering signal call =>
        simp only [Watcher.call?, stage, Option.some.injEq] at watcher
        subst watcher
        refine ⟨.watcher .advance, { s with
          shutdown := (s.shutdown.advance .notify).1
          watcher := s.watcher.triggeredBy signal (decide (s.serve = .done)) }, trivial, ?_, rfl,
          rfl, rfl, ?_⟩
        · simp only [step, Watcher.step, stage, Option.map_some, Shutdown.advance]
        · have before : s.watcher.call? = some .notify := by simp only [Watcher.call?, stage]
          simp only [remaining, Watcher.triggeredBy_call?, noticeRank, before, reduceCtorEq,
            if_true, if_false]
          omega
    | listening | ended => simp [Watcher.call?, stage] at watcher
  · cases stage : s.heartbeat.stage with
    | triggering call =>
        simp only [Heartbeat.call?, stage, Option.some.injEq] at heartbeat
        subst heartbeat
        refine ⟨.heartbeat .advance, { s with
          shutdown := (s.shutdown.advance .notify).1
          heartbeat := { s.heartbeat with stage := .ended } }, trivial, ?_, rfl, rfl, rfl, ?_⟩
        · simp only [step, Heartbeat.step, stage, Option.map_some, Shutdown.advance]
        · simp only [remaining, noticeRank, Heartbeat.call?, stage, reduceCtorEq, if_true, if_false]
          omega
    | _ => simp [Heartbeat.call?, stage] at heartbeat
  · rcases List.mem_iff_getElem?.mp member with ⟨index, found⟩
    cases connection with
    | recycling id trigger =>
        simp only [Connection.call?, Option.some.injEq] at call
        subst call
        refine ⟨.connection index .advance, { s.setConnection index (.writing id) with
          shutdown := (s.shutdown.advance .notify).1 }, rfl, ?_, rfl, rfl, rfl, ?_⟩
        · simp only [step, found, Option.bind_some, stepConnection, Shutdown.advance]
        · have ranks := setConnection_rank (.writing id) found
          simp only [Connection.rank, Trigger.rank] at ranks
          simp only [remaining, Server.setConnection]
          omega
    | _ => cases call

/-- Whoever is waiting when everybody listens is woken. -/
theorem Returning.notify (returning : s.Returning) (notifying : s.Notifying)
    (listening : s.Listening) : s.Advances config := by
  have notified : ∃ (action : Action) (next : Server), s.ByItself action ∧
      s.step config action = some next ∧ next.shutdown = (s.shutdown.advance .notify).1 ∧
      next.serve = s.serve ∧ next.acceptors = s.acceptors ∧ next.remaining < s.remaining :=
    notifying_step notifying
  rcases notified with ⟨action, next, own, stepped, shutdown, serve, acceptors, lower⟩
  have quiet : next.shutdown.notify.Quiet := by
    rw [shutdown]
    exact (Notify.quiet_notifyWaiters : s.shutdown.notify.notifyWaiters.Quiet)
  refine returning.advances own stepped ?_ (.inr ⟨?_, ?_⟩) lower
  · rw [Unshaken, acceptors]
    exact returning.unshaken
  · rintro (start | ⟨_, waits⟩)
    · exact listening.1 (serve ▸ start)
    · exact quiet.not_waits waits
  · rintro index acceptor found (selects | ⟨_, waits⟩)
    · rw [acceptors] at found
      exact listening.2 acceptor (List.mem_of_getElem? found) selects
    · exact quiet.not_waits waits

/-- Everybody knows that the flag is set. -/
structure Known (s : Server) : Prop where
  serve : ¬ s.ServeExpects
  acceptors : ∀ index acceptor, s.acceptors[index]? = some acceptor → ¬ s.Expects index acceptor

theorem Known.setAcceptor {acceptor : Acceptor} {stage : AcceptorStage} (known : s.Known)
    (found : s.acceptors[index]? = some acceptor) (later : stage = .ended ∨ stage = .check) :
    (s.setAcceptor index acceptor stage).Known where
  serve := known.serve
  acceptors := by
    intro position each here expects
    have bound : index < s.acceptors.length := (List.getElem?_eq_some_iff.mp found).1
    by_cases same : index = position
    · subst same
      simp only [Server.setAcceptor, List.getElem?_set_self bound, Option.some.injEq] at here
      subst here
      rcases later with rfl | rfl <;> rcases expects with selects | ⟨selecting, _⟩
      · cases selects
      · cases selecting
      · cases selects
      · cases selecting
    · simp only [Server.setAcceptor, List.getElem?_set_ne same] at here
      exact known.acceptors position each here expects

/-- An accept task that has not ended goes on by itself. -/
theorem Returning.accept {acceptor : Acceptor} (returning : s.Returning) (known : s.Known)
    (found : s.acceptors[index]? = some acceptor) (alive : acceptor.stage ≠ .ended) :
    s.Advances config := by
  have unexpected := known.acceptors index acceptor found
  cases stage : acceptor.stage with
  | check =>
      have ranks : ((s.setAcceptor index acceptor .ended).acceptors.map Acceptor.rank).sum +
          acceptor.rank = (s.acceptors.map Acceptor.rank).sum + 0 := setAcceptor_rank found
      have before : acceptor.rank = 1 := by simp [Acceptor.rank, stage]
      have stepped : s.step config (.acceptor index .check) =
          some (s.setAcceptor index acceptor .ended) := by
        simp [step, found, stepAcceptor, stage, returning.set]
      have own : s.ByItself (.acceptor index .check) := rfl
      have informed := known.setAcceptor found (.inl rfl)
      apply returning.advances own stepped (returning.unshaken.setAcceptor (by decide))
      · exact .inr ⟨informed.serve, informed.acceptors⟩
      · simp only [remaining, Server.setAcceptor] at ranks ⊢
        omega
  | select => exact absurd (.inl stage) unexpected
  | selecting =>
      have ranks : ((s.setAcceptor index acceptor .ended).acceptors.map Acceptor.rank).sum +
          acceptor.rank = (s.acceptors.map Acceptor.rank).sum + 0 := setAcceptor_rank found
      have before : acceptor.rank = 1 := by simp [Acceptor.rank, stage]
      have woken : ¬ s.shutdown.notify.Waits (.acceptor index) := fun waits =>
        unexpected (.inr ⟨stage, waits⟩)
      have stepped : s.step config (.acceptor index .wake) =
          some (s.setAcceptor index acceptor .ended) := by
        simp [step, found, stepAcceptor, stage, woken]
      have own : s.ByItself (.acceptor index .wake) := rfl
      have informed := known.setAcceptor found (.inl rfl)
      apply returning.advances own stepped (returning.unshaken.setAcceptor (by decide))
      · exact .inr ⟨informed.serve, informed.acceptors⟩
      · simp only [remaining, Server.setAcceptor] at ranks ⊢
        omega
  | handshake => exact absurd stage (returning.unshaken acceptor (List.mem_of_getElem? found))
  | spawning =>
      have ranks : ((s.setAcceptor index acceptor .check).acceptors.map Acceptor.rank).sum +
          acceptor.rank = (s.acceptors.map Acceptor.rank).sum + 1 := setAcceptor_rank found
      have before : acceptor.rank = 3 := by simp [Acceptor.rank, stage]
      have stepped : s.step config (.acceptor index .spawn) =
          some { s.setAcceptor index acceptor .check with
            connections := s.connections ++ [.idle] } := by
        simp [step, found, stepAcceptor, stage]
      have own : s.ByItself (.acceptor index .spawn) := rfl
      have informed := known.setAcceptor found (.inr rfl)
      have shaken : (s.setAcceptor index acceptor .check).Unshaken :=
        returning.unshaken.setAcceptor (by decide)
      apply returning.advances own stepped shaken (.inr ⟨informed.serve, informed.acceptors⟩)
      simp only [remaining, Server.setAcceptor, List.map_append, List.sum_append, List.map_cons,
        List.map_nil, List.sum_singleton, Connection.rank] at ranks ⊢
      omega
  | ended => exact absurd stage alive

/-- A step of a call of `trigger` that does not notify. -/
theorem Informed.call {advances : Bool} {call? later? : Option Trigger} (informed : s.Informed)
    (step : CallStep s next advances call? later?) (silent : call? ≠ some .notify) :
    next.Informed := by
  rcases step with ⟨calling, serve, acceptors, others, before, after⟩
  have notify : next.shutdown.notify = s.shutdown.notify := by
    generalize next.shutdown = shutdown at calling
    cases calling with
    | rest => rfl
    | advance call =>
        apply Shutdown.advance_notify
        rintro rfl
        exact silent rfl
  rcases informed with notifying | ⟨unexpected, unawaited⟩
  · exact .inl (after.mpr (.inr ((before.mp notifying).resolve_left silent)))
  · refine .inr ⟨?_, ?_⟩
    · rw [ServeExpects, ServeParked, serve, notify]
      exact unexpected
    · intro index acceptor found
      rw [acceptors] at found
      rw [Expects, notify]
      exact unawaited index acceptor found

theorem Returning.step_connection {connection : Connection} {act : ConnectionAction}
    (returning : s.Returning) (found : s.connections[index]? = some connection)
    (silent : connection.call? ≠ some .notify) (own : s.ByItself (.connection index act))
    (stepped : s.step config (.connection index act) = some next)
    (lower : next.remaining < s.remaining) : s.Advances config := by
  cases step_cases stepped with
  | connection here moved =>
      rw [found, Option.some.injEq] at here
      subst here
      rcases callStep_connection found moved with ⟨later?, call⟩
      apply returning.advances own stepped _ (returning.informed.call call silent) lower
      rw [Unshaken, call.acceptors]
      exact returning.unshaken

/-- The handler answers in the task of its connection. -/
theorem Returning.answer {exchange : Exchange} {handler : Handler} (returning : s.Returning)
    (held : s.exchanges[id]? = some exchange)
    (moved : exchange.handler.step .answer = some handler)
    (lower : ({ exchange with handler } : Exchange).rank < exchange.rank) :
    s.Advances config := by
  have own : s.ByItself (.handler id .answer) := trivial
  have stepped : s.step config (.handler id .answer) = some (s.setHandler id exchange handler) := by
    simp only [step, held, Option.bind_some, allows, if_true, stepHandler, moved, Option.map_some]
  apply returning.advances own stepped returning.unshaken returning.informed
  have ranks := sum_map_set_add Exchange.rank held { exchange with handler }
  simp only [remaining, Server.setHandler]
  omega

theorem setHandler_rank {request : Request} {state : Http} {exchange : Exchange} (after : Http)
    (held : s.exchanges[id]? = some exchange) (http : exchange.handler = .http request state) :
    ((s.exchanges.set id { exchange with handler := .http request after }).map
      Exchange.rank).sum = (s.exchanges.map Exchange.rank).sum := by
  have ranks := sum_map_set_add Exchange.rank held
    { exchange with handler := .http request after }
  have before : exchange.rank = 0 := by simp only [Exchange.rank, http]
  have later : ({ exchange with handler := .http request after } : Exchange).rank = 0 := rfl
  omega

/-- A request that is not answered is dropped with its connection, or answers by itself. -/
theorem Returning.handling {exchange : Exchange} (returning : s.Returning)
    (closing : s.isClosing = true) (found : s.connections[index]? = some (.handling id))
    (held : s.exchanges[id]? = some exchange)
    (answered : exchange.handler.responded = true ∨ exchange.handler.inline = true) :
    s.Advances config := by
  by_cases responded : exchange.handler.responded = true
  · have ranks := setConnection_rank (.returned id) found
    simp only [Connection.rank] at ranks
    have stepped : s.step config (.connection index .handled) =
        some (s.setConnection index (.returned id)) := by
      simp only [step, found, Option.bind_some, stepConnection, held, responded, if_true]
    have own : s.ByItself (.connection index .handled) := rfl
    apply returning.step_connection found (Option.some_ne_none _).symm own stepped
    simp only [remaining, Server.setConnection]
    omega
  · have inline := answered.resolve_left responded
    cases handler : exchange.handler with
    | answering | switching =>
        apply returning.answer held
        · rw [handler]
          rfl
        · simp [Exchange.rank, handler]
    | http request state =>
        have unanswered : state.stage = .establish ∨ state.stage.inPhaseA = true := by
          by_contra answered
          rw [handler, Handler.inline_http.mpr answered] at inline
          cases inline
        have ranks := setConnection_rank .ended found
        have still := setHandler_rank { state with
          stage := .done, feed := state.feed.release, chan := state.chan.dropReceiver } held handler
        simp only [Connection.rank] at ranks
        have stepped : s.step config (.connection index .close) =
            some ((s.setHandler id exchange (.http request { state with
              stage := .done, feed := state.feed.release,
              chan := state.chan.dropReceiver })).setConnection index .ended) := by
          simp only [step, found, Option.bind_some, stepConnection, held, abandon, stepHandler,
            handler, Handler.step, Http.step, unanswered, if_true, Option.map_some]
        have own : s.ByItself (.connection index .close) := closing
        apply returning.step_connection found (Option.some_ne_none _).symm own stepped
        simp only [remaining, Server.setConnection, Server.setHandler, still]
        omega
    | answered | upgrading | driving | upgradeFailed =>
        rw [handler] at responded
        exact absurd rfl responded

/-- Aborted, a connection lets go of the response that it is taking. -/
theorem Returning.writing {exchange : Exchange} (returning : s.Returning)
    (closing : s.isClosing = true) (found : s.connections[index]? = some (.writing id))
    (held : s.exchanges[id]? = some exchange) (responded : exchange.handler.responded = true) :
    s.Advances config := by
  have ranks := setConnection_rank .ended found
  simp only [Connection.rank] at ranks
  have own : s.ByItself (.connection index .close) := closing
  rcases Handler.other_of_not_http exchange.handler with other | ⟨request, state, handler⟩
  · have stepped : s.step config (.connection index .close) =
        some (s.setConnection index .ended) := by
      cases handler : exchange.handler with
      | http request state => exact absurd handler (other request state)
      | _ => simp only [step, found, Option.bind_some, stepConnection, held, handler]
    apply returning.step_connection found (Option.some_ne_none _).symm own stepped
    simp only [remaining, Server.setConnection]
    omega
  · have some_ : state.response.isSome = true := by
      rw [handler] at responded
      exact responded
    have still := setHandler_rank { state with
      body := { state.body with receiver := false } } held handler
    have stepped : s.step config (.connection index .close) =
        some ((s.setHandler id exchange (.http request { state with
          body := { state.body with receiver := false } })).setConnection index .ended) := by
      simp only [step, found, Option.bind_some, stepConnection, held, abandon, stepHandler,
        handler, Handler.step, Http.step, some_, if_true, Option.map_some]
    apply returning.step_connection found (Option.some_ne_none _).symm own stepped
    simp only [remaining, Server.setConnection, Server.setHandler, still]
    omega

/-- A step of a connection that touches nothing but the connection itself. -/
theorem Returning.move {connection later : Connection} {act : ConnectionAction}
    (returning : s.Returning) (found : s.connections[index]? = some connection)
    (silent : connection.call? ≠ some .notify) (own : s.ByItself (.connection index act))
    (stepped : s.step config (.connection index act) = some (s.setConnection index later))
    (lower : later.rank < connection.rank) : s.Advances config := by
  have ranks := setConnection_rank later found
  apply returning.step_connection found silent own stepped
  simp only [remaining, Server.setConnection]
  omega

/-- What is left of a connection ends, or goes on to where it does. -/
theorem Returning.close {connection : Connection} (returning : s.Returning)
    (closing : s.isClosing = true) (calm : ¬ s.Notifying)
    (found : s.connections[index]? = some connection) (alive : connection.isEnded = false) :
    s.Advances config := by
  have close : s.ByItself (.connection index .close) := closing
  cases connection with
  | idle | refusing =>
      have lower : Connection.ended.rank < 1 := by decide
      apply returning.move found (Option.some_ne_none _).symm close _ lower
      simp only [step, found, Option.bind_some, stepConnection]
  | admitted call =>
      have own : s.ByItself (.connection index .guard) := rfl
      have stepped : s.step config (.connection index .guard) =
          some (s.enterFlight index call) := by
        simp only [step, found, Option.bind_some, stepConnection]
      apply returning.step_connection found (Option.some_ne_none _).symm own stepped
      have ranks := setConnection_rank (.handling s.exchanges.length) found
      have fresh : ({ connection := index, handler := .start call, taken := false } :
          Exchange).rank ≤ 1 := by
        cases call <;> simp [Exchange.rank, Handler.start]
      simp only [Connection.rank] at ranks
      simp only [remaining, Server.enterFlight, Server.setConnection, List.map_append,
        List.sum_append, List.map_cons, List.map_nil, List.sum_singleton]
      omega
  | handling id =>
      rcases returning.seated index _ id found rfl with ⟨exchange, held, _, answered⟩
      exact returning.handling closing found held (answered.imp_right And.right)
  | returned id =>
      have own : s.ByItself (.connection index .count) := rfl
      have stepped : s.step config (.connection index .count) =
          some { s.setConnection index (.counted id (s.completed + 1)) with
            completed := s.completed + 1 } := by
        simp only [step, found, Option.bind_some, stepConnection]
      apply returning.step_connection found (Option.some_ne_none _).symm own stepped
      have ranks := setConnection_rank (.counted id (s.completed + 1)) found
      simp only [Connection.rank] at ranks
      simp only [remaining, Server.setConnection]
      omega
  | counted id done =>
      have own : s.ByItself (.connection index .compare) := rfl
      have stepped : s.step config (.connection index .compare) = some (s.setConnection index
          (if 0 < config.maxRequests ∧ config.maxRequests ≤ done then
            .recycling id (Shutdown.trigger .graceful)
          else .writing id)) := by
        simp only [step, found, Option.bind_some, stepConnection]
      apply returning.move found (Option.some_ne_none _).symm own stepped
      split <;> simp [Connection.rank, Shutdown.trigger, Trigger.rank]
  | recycling id call =>
      have own : s.ByItself (.connection index .advance) := rfl
      have silent : call ≠ .notify := by
        rintro rfl
        exact calm (.inr (.inr ⟨_, List.mem_of_getElem? found, rfl⟩))
      have waiting : (Connection.recycling id call).call? ≠ some .notify := by
        simpa [Connection.call?] using silent
      cases call with
      | storeQuick =>
          have stepped : s.step config (.connection index .advance) =
              some { s.setConnection index (.recycling id .swap) with
                shutdown := (s.shutdown.advance .storeQuick).1 } := by
            simp only [step, found, Option.bind_some, stepConnection, Shutdown.advance]
          apply returning.step_connection found waiting own stepped
          have ranks := setConnection_rank (.recycling id .swap) found
          simp only [Connection.rank, Trigger.rank] at ranks
          simp only [remaining, Server.setConnection]
          omega
      | swap =>
          have stepped : s.step config (.connection index .advance) =
              some { s.setConnection index (.writing id) with
                shutdown := (s.shutdown.advance .swap).1 } := by
            simp only [step, found, Option.bind_some, stepConnection, Shutdown.advance,
              returning.set, if_true]
          apply returning.step_connection found waiting own stepped
          have ranks := setConnection_rank (.writing id) found
          simp only [Connection.rank, Trigger.rank] at ranks
          simp only [remaining, Server.setConnection]
          omega
      | notify => exact absurd rfl silent
  | writing id =>
      rcases returning.seated index _ id found rfl with ⟨exchange, held, _, responded | ⟨same, _⟩⟩
      · exact returning.writing closing found held responded
      · cases same
  | ended => cases alive

/-- `serve` goes on when its accept tasks have ended and everybody knows of the shutdown. -/
theorem Returning.serve (returning : s.Returning) (calm : ¬ s.Notifying) (known : s.Known)
    (ended : ∀ acceptor ∈ s.acceptors, acceptor.stage = .ended) (running : s.serve ≠ .done) :
    s.Advances config := by
  have own : s.ByItself .serve := trivial
  -- A step of `serve` that touches nothing but its own position.
  have go (later : ServeStage) (stepped : s.stepServe = some { s with serve := later })
      (unexpected : later ≠ .start ∧ later ≠ .waiting) (lower : later.rank < s.serve.rank) :
      s.Advances config := by
    have informed : ({ s with serve := later } : Server).Informed := by
      refine .inr ⟨?_, known.acceptors⟩
      rintro (start | ⟨waiting, _⟩)
      · exact unexpected.1 start
      · exact unexpected.2 waiting
    apply returning.advances own stepped returning.unshaken informed
    simp only [remaining]
    omega
  have all : (s.acceptors.all fun acceptor => acceptor.stage = .ended) = true := by
    simpa using ended
  cases stage : s.serve with
  | start => exact absurd (.inl stage) known.serve
  | waiting =>
      have woken : ¬ s.shutdown.notify.Waits .serve := fun waits =>
        known.serve (.inr ⟨stage, waits⟩)
      apply go .awake _ (by decide) (by simp [stage, ServeStage.rank])
      simp only [stepServe, stage, woken, if_false]
  | awake =>
      apply go (.joining s.shutdown.kind) _ (by simp) (by simp [stage, ServeStage.rank])
      simp only [stepServe, stage]
  | joining kind =>
      apply go (if kind = .graceful then .draining else .drained .quick) _
        (by split <;> simp) (by split <;> simp [stage, ServeStage.rank])
      simp only [stepServe, stage, all, if_true]
  | sleeping =>
      apply go .draining _ (by decide) (by simp [stage, ServeStage.rank])
      simp only [stepServe, stage]
  | draining =>
      by_cases nothing : s.inFlight = 0
      · apply go (.drained .empty) _ (by decide) (by simp [stage, ServeStage.rank])
        simp only [stepServe, stage, nothing, if_true]
      · cases expired : s.expired with
        | true =>
            apply go (.drained .timeout) _ (by decide) (by simp [stage, ServeStage.rank])
            simp only [stepServe, stage, nothing, expired, if_true, if_false]
        | false =>
            have timer : s.ByItself .gracefulTimeout := trivial
            have stepped : s.step config .gracefulTimeout = some { s with expired := true } := by
              simp only [step, stage, true_or, if_true]
            apply returning.advances timer stepped returning.unshaken returning.informed
            simp only [remaining, expired, Bool.not_false, Bool.not_true, Bool.toNat_true,
              Bool.toNat_false]
            omega
  | drained reason =>
      apply go (.closing reason) _ (by simp) (by simp [stage, ServeStage.rank])
      simp only [stepServe, stage]
  | closing reason =>
      by_cases left : (s.connections.all fun connection => connection.isEnded) = true
      · apply go .done _ (by decide) (by simp [stage, ServeStage.rank])
        simp only [stepServe, stage, left, if_true]
      · rw [List.all_eq_true] at left
        push Not at left
        rcases left with ⟨connection, member, alive⟩
        rcases List.mem_iff_getElem?.mp member with ⟨index, found⟩
        exact returning.close (by simp only [isClosing, stage]) calm found
          (Bool.eq_false_iff.mpr alive)
  | done => exact absurd stage running

theorem Returning.progress (returning : s.Returning) (running : s.serve ≠ .done) :
    s.Advances config := by
  by_cases start : s.serve = .start
  · exact returning.await start
  · by_cases notifying : s.Notifying
    · by_cases selects : ∃ acceptor ∈ s.acceptors, acceptor.stage = .select
      · rcases selects with ⟨acceptor, member, selects⟩
        rcases List.mem_iff_getElem?.mp member with ⟨index, found⟩
        exact returning.park notifying found selects
      · push Not at selects
        exact returning.notify notifying ⟨start, selects⟩
    · have known : s.Known := by
        rcases returning.informed.resolve_left notifying with ⟨serve, acceptors⟩
        exact ⟨serve, acceptors⟩
      by_cases ended : ∀ acceptor ∈ s.acceptors, acceptor.stage = .ended
      · exact returning.serve notifying known ended running
      · push Not at ended
        rcases ended with ⟨acceptor, member, alive⟩
        rcases List.mem_iff_getElem?.mp member with ⟨index, found⟩
        exact returning.accept known found alive

theorem Returning.canReturn (returning : s.Returning) : s.CanReturn config := by
  have reached : ∃ (actions : List Action) (returned : Server),
      Along (step config) ByItself s actions ∧ run (step config) s actions = some returned ∧
      returned.Returning ∧ (if returned.serve = .done then 0 else returned.remaining) = 0 := by
    apply exists_along_of_decreasing Returning _ _ returning
    intro current returning left
    have running : current.serve ≠ .done := by
      intro done
      exact left (if_pos done)
    rcases returning.progress running with ⟨action, next, own, stepped, still, lower⟩
    refine ⟨action, next, own, stepped, still, ?_⟩
    rw [if_neg running]
    split
    · omega
    · exact lower
  rcases reached with ⟨actions, returned, own, ran, _, zero⟩
  refine ⟨actions, returned, own, ran, ?_⟩
  by_contra running
  rw [if_neg running] at zero
  have positive : 0 < returned.serve.rank := by
    cases stage : returned.serve <;> simp_all [ServeStage.rank]
  simp only [remaining] at zero
  omega

theorem ByItself.unvisited (own : s.ByItself action) : Unvisited action := by
  cases action with
  | acceptor index act => exact own
  | _ => trivial

theorem Heard.informed (heard : s.Heard) (set : s.shutdown.flag = true) : s.Informed := by
  rcases heard set with notifying | ⟨quiet, listening⟩
  · exact .inl notifying
  · refine .inr ⟨?_, ?_⟩
    · rintro (start | ⟨_, waits⟩)
      · exact listening.1 start
      · exact quiet.not_waits waits
    · rintro index acceptor found (selects | ⟨_, waits⟩)
      · exact listening.2 acceptor (List.mem_of_getElem? found) selects
      · exact quiet.not_waits waits

/-- What stands in the way of the return stays there until a client comes. -/
theorem returning_of_returned {later : List Action} {returned : Server}
    (ran : run (step config) (init config) actions = some s) (set : s.shutdown.flag = true)
    (unvisited : Along (step config) (fun _ action => Unvisited action) s later)
    (onward : run (step config) s later = some returned) (done : returned.serve = .done) :
    s.Unshaken ∧ s.Informed := by
  have whole : run (step config) (init config) (actions ++ later) = some returned := by
    rw [run_append, ran, Option.bind_some, onward]
  have tracked : returned.Tracked := run_invariant_of_step Tracked
    (fun _ _ _ tracked stepped => tracked.step stepped) whole (tracked_init config)
  have ended : ∀ acceptor ∈ returned.acceptors, acceptor.stage = .ended :=
    tracked.joined (by simp [hasJoined, done])
  refine ⟨?_, ?_⟩
  · intro acceptor member handshake
    rcases List.mem_iff_getElem?.mp member with ⟨index, found⟩
    have still : returned.acceptors[index]? = some acceptor := by
      apply run_invariant (fun current => current.acceptors[index]? = some acceptor) _ unvisited
        onward found
      intro current action next here allowed stepped
      rcases acceptor_step here stepped with still | ⟨act, rfl, moved⟩
      · exact still
      · rw [stepAcceptor_handshake handshake allowed] at moved
        cases moved
    rw [ended acceptor (List.mem_of_getElem? still)] at handshake
    cases handshake
  · by_contra uninformed
    have lost : returned.Lost := by
      apply run_invariant Lost _ unvisited onward (lost_of_not_informed set uninformed)
      intro current action next lost allowed stepped
      exact lost.step allowed stepped
    rcases lost.expects with (start | ⟨waiting, _⟩) | ⟨index, acceptor, found, expects⟩
    · rw [done] at start
      cases start
    · rw [done] at waiting
      cases waiting
    · have left := ended acceptor (List.mem_of_getElem? found)
      rcases expects with selects | ⟨selecting, _⟩
      · rw [left] at selects
        cases selects
      · rw [left] at selecting
        cases selecting

/-- Once the flag is set, `serve` can return by itself exactly when no accept task awaits a
handshake and whoever waits for the notification gets it; otherwise it does not return before a
client connects or answers. Where nobody is notified too early, only the handshakes are left. -/
theorem canReturn_iff (ran : run (step config) (init config) actions = some s)
    (set : s.shutdown.flag = true) :
    (s.CanReturn config ↔ s.Unshaken ∧ s.Informed) ∧
      (∀ later returned, Along (step config) (fun _ action => Unvisited action) s later →
        run (step config) s later = some returned → returned.serve = .done →
        s.Unshaken ∧ s.Informed) ∧
      (Along (step config) Timely (init config) actions → s.Informed) := by
  have seated : s.Seated := run_invariant_of_step Seated
    (fun _ _ _ seated stepped => seated.step stepped) ran (seated_init config)
  refine ⟨⟨?_, ?_⟩, ?_, ?_⟩
  · rintro ⟨later, returned, own, onward, done⟩
    have unvisited : Along (step config) (fun _ action => Unvisited action) s later :=
      Along.of_invariant (fun _ => True) (fun _ _ _ _ _ _ => trivial)
        (fun _ _ _ own => own.unvisited) own trivial
    exact returning_of_returned ran set unvisited onward done
  · rintro ⟨unshaken, informed⟩
    exact Returning.canReturn ⟨set, unshaken, informed, seated⟩
  · intro later returned unvisited onward done
    exact returning_of_returned ran set unvisited onward done
  · intro timely
    have heard : s.Heard := by
      apply run_invariant Heard _ timely ran (heard_init config)
      intro current action next heard allowed stepped
      exact heard.step allowed stepped
    exact heard.informed set

/-- A request that nobody answers is in flight, and the worker is told to terminate. -/
theorem canReturn_iff_busy :
    ∃ s, run (step oneListener) (init oneListener) busyRun = some s ∧
      s.inFlight = 1 ∧ s.CanReturn oneListener := by
  have ran : ∃ s, run (step oneListener) (init oneListener) busyRun = some s ∧
      s.inFlight = 1 ∧ s.shutdown.flag = true ∧ s.Unshaken :=
    exists_of_run_any (by decide)
  rcases ran with ⟨s, ran, flying, set, unshaken⟩
  rcases canReturn_iff ran set with ⟨returns, _, informed⟩
  exact ⟨s, ran, flying, returns.mpr ⟨unshaken, informed (by decide)⟩⟩

end Server

end RustAsgi
