import RustAsgi.Server.Steps

/-!
# When a shutdown is heard

A call of `trigger` sets the flag and then wakes whoever waits. A task that has
yet to create its `Notified` future hears nothing of it, unless it looks at the
flag first.
-/

namespace RustAsgi

open Machine Tokio

namespace Server

variable {config : ServeConfig} {s next final : Server} {action : Action} {actions : List Action}
  {index id : ℕ}

/-- Some call of `trigger` has set the flag and has yet to notify. -/
def Notifying (s : Server) : Prop :=
  s.watcher.call? = some .notify ∨ s.heartbeat.call? = some .notify ∨
    ∃ connection ∈ s.connections, connection.call? = some .notify

instance (s : Server) : Decidable s.Notifying :=
  inferInstanceAs (Decidable (_ ∨ _ ∨ _))

/-- A new connection calls nobody. -/
theorem notifying_append {acceptors : List Acceptor} :
    { s with acceptors, connections := s.connections ++ [.idle] : Server }.Notifying →
      s.Notifying := by
  rintro (watcher | heartbeat | ⟨connection, member, call⟩)
  · exact .inl watcher
  · exact .inr (.inl heartbeat)
  · rcases List.mem_append.mp member with before | new
    · exact .inr (.inr ⟨connection, before, call⟩)
    · rw [List.mem_singleton.mp new] at call
      cases call

/-- A step of a task that calls `trigger`, whichever it is: `call?` is its call before the step,
`later?` after it. -/
structure CallStep (s next : Server) (advances : Bool) (call? later? : Option Trigger) : Prop where
  calling : Calling s.shutdown advances call? next.shutdown later?
  serve : next.serve = s.serve
  acceptors : next.acceptors = s.acceptors
  /-- The calls of the other tasks stay as they are. -/
  notifying : ∃ others : Prop, (s.Notifying ↔ call? = some .notify ∨ others) ∧
    (next.Notifying ↔ later? = some .notify ∨ others)

theorem callStep_watcher {advances : Bool} {shutdown : Shutdown} {watcher : Watcher}
    (calling : Calling s.shutdown advances s.watcher.call? shutdown watcher.call?) :
    CallStep s { s with shutdown, watcher } advances s.watcher.call? watcher.call? where
  calling := calling
  serve := rfl
  acceptors := rfl
  notifying := ⟨_, Iff.rfl, Iff.rfl⟩

theorem callStep_heartbeat {advances : Bool} {shutdown : Shutdown} {heartbeat : Heartbeat}
    (calling : Calling s.shutdown advances s.heartbeat.call? shutdown heartbeat.call?) :
    CallStep s { s with shutdown, heartbeat } advances s.heartbeat.call? heartbeat.call? where
  calling := calling
  serve := rfl
  acceptors := rfl
  notifying := ⟨_, or_left_comm, or_left_comm⟩

/-- A call by the connection at `index`, or by somebody else. -/
theorem notifying_iff {connection : Connection} (found : s.connections[index]? = some connection) :
    s.Notifying ↔ connection.call? = some .notify ∨
      (s.watcher.call? = some .notify ∨ s.heartbeat.call? = some .notify ∨
        ∃ position other, position ≠ index ∧ s.connections[position]? = some other ∧
          other.call? = some .notify) := by
  constructor
  · rintro (watcher | heartbeat | ⟨other, member, notify⟩)
    · exact .inr (.inl watcher)
    · exact .inr (.inr (.inl heartbeat))
    · rcases List.mem_iff_getElem?.mp member with ⟨position, here⟩
      by_cases same : position = index
      · rw [same, found, Option.some.injEq] at here
        exact .inl (here ▸ notify)
      · exact .inr (.inr (.inr ⟨position, other, same, here, notify⟩))
  · rintro (notify | watcher | heartbeat | ⟨_, other, _, here, notify⟩)
    · exact .inr (.inr ⟨connection, List.mem_of_getElem? found, notify⟩)
    · exact .inl watcher
    · exact .inr (.inl heartbeat)
    · exact .inr (.inr ⟨other, List.mem_of_getElem? here, notify⟩)

theorem callStep_connection {connection : Connection} {act : ConnectionAction}
    (found : s.connections[index]? = some connection)
    (stepped : ConnectionStep config s index connection act next) :
    ∃ later?, CallStep s next act.advances connection.call? later? := by
  rcases stepped.calling found with ⟨later, calling, connections, serve, acceptors, watcher,
    heartbeat⟩
  have bound : index < s.connections.length := (List.getElem?_eq_some_iff.mp found).1
  have moved : next.connections[index]? = some later := by
    rw [connections, List.getElem?_set_self bound]
  refine ⟨later.call?, calling, serve, acceptors, _, notifying_iff found, ?_⟩
  rw [notifying_iff moved, watcher, heartbeat, connections]
  have elsewhere (position : ℕ) (other : position ≠ index) :
      (s.connections.set index later)[position]? = s.connections[position]? :=
    List.getElem?_set_ne other.symm
  grind

/-- The call of `trigger` that a step advances. -/
def called (s : Server) : Action → Option Trigger
  | .watcher .advance => s.watcher.call?
  | .heartbeat .advance => s.heartbeat.call?
  | .connection index .advance => s.connections[index]?.bind Connection.call?
  | _ => none

/-- The steps of the worker, those of all tasks that can call `trigger` taken together. -/
inductive TaskStep (s : Server) (action : Action) : Server → Prop where
  | serve {next : Server} (stepped : ServeStep s next) : TaskStep s action next
  | gracefulTimeout : TaskStep s action { s with expired := true }
  | acceptor {index : ℕ} {acceptor : Acceptor} {next : Server}
      (found : s.acceptors[index]? = some acceptor) (stepped : AcceptorStep s index acceptor next) :
      TaskStep s action next
  | caller {advances : Bool} {call? later? : Option Trigger} {next : Server}
      (step : CallStep s next advances call? later?)
      (own : advances = true → s.called action = call?) : TaskStep s action next
  | handler {id : ℕ} {exchange : Exchange} {handler : Handler} :
      TaskStep s action (s.setHandler id exchange handler)

theorem step_tasks (stepped : s.step config action = some next) : TaskStep s action next := by
  cases step_cases stepped with
  | serve stepped => exact .serve stepped
  | gracefulTimeout => exact .gracefulTimeout
  | acceptor found stepped => exact .acceptor found stepped
  | watcher calling =>
      refine .caller (callStep_watcher calling) ?_
      intro advances
      rw [decide_eq_true_eq] at advances
      subst advances
      rfl
  | heartbeat calling =>
      refine .caller (callStep_heartbeat calling) ?_
      intro advances
      rw [decide_eq_true_eq] at advances
      subst advances
      rfl
  | @connection _ connection act _ found stepped =>
      rcases callStep_connection found stepped with ⟨later?, step⟩
      refine .caller step ?_
      intro advances
      cases act <;> cases advances
      simp only [called, found, Option.bind_some]
  | handler => exact .handler

def ServeParked (s : Server) : Prop :=
  s.serve = .waiting ∧ s.shutdown.notify.Waits .serve

instance (s : Server) : Decidable s.ServeParked :=
  inferInstanceAs (Decidable (_ ∧ _))

def AcceptorParked (s : Server) (index : ℕ) : Prop :=
  ∃ acceptor, s.acceptors[index]? = some acceptor ∧ acceptor.stage = .selecting ∧
    s.shutdown.notify.Waits (.acceptor index)

/-- A shutdown whose trigger is over leaves nobody waiting for it. -/
def NothingLost (s : Server) : Prop :=
  s.shutdown.flag = true → ¬ s.Notifying →
    ¬ s.ServeParked ∧ ∀ index, ¬ s.AcceptorParked index

/-- The step is a call of `notify_waiters`. -/
def notifies (s : Server) : Action → Bool
  | .watcher .advance => decide (s.watcher.call? = some .notify)
  | .heartbeat .advance => decide (s.heartbeat.call? = some .notify)
  | .connection index .advance =>
      decide (s.connections[index]?.bind Connection.call? = some .notify)
  | _ => false

theorem notifies_of_called (called : s.called action = some .notify) :
    s.notifies action = true := by
  simp only [Server.called] at called
  split at called
  · simp [notifies, called]
  · simp [notifies, called]
  · simp [notifies, called]
  · cases called

/-- `serve` has polled its `wait()`, and no accept task is between its check of the flag and its
`wait()`. -/
def Listening (s : Server) : Prop :=
  s.serve ≠ .start ∧ ∀ acceptor ∈ s.acceptors, acceptor.stage ≠ .select

instance (s : Server) : Decidable s.Listening :=
  inferInstanceAs (Decidable (_ ∧ _))

/-- `notify_waiters` is called only while everybody listens. -/
def Timely (s : Server) (action : Action) : Prop :=
  s.notifies action = true → s.Listening

instance (s : Server) (action : Action) : Decidable (s.Timely action) :=
  inferInstanceAs (Decidable (_ → _))

/-- Nobody waits any more, and nobody will. -/
def Attentive (s : Server) : Prop :=
  s.shutdown.notify.Quiet ∧ s.Listening

/-- Once the flag is set, either everybody knows or the notification is still to come. -/
def Heard (s : Server) : Prop :=
  s.shutdown.flag = true → s.Notifying ∨ s.Attentive

theorem Heard.nothingLost (heard : s.Heard) : s.NothingLost := by
  intro set quiet
  have attentive := (heard set).resolve_left quiet
  refine ⟨?_, ?_⟩
  · rintro ⟨_, waits⟩
    exact attentive.1.not_waits waits
  · rintro index ⟨_, _, _, waits⟩
    exact attentive.1.not_waits waits

/-- A step that does not belong to a call of `trigger`. -/
theorem Heard.of_same (heard : s.Heard) (flag : next.shutdown.flag = s.shutdown.flag)
    (notifying : s.Notifying → next.Notifying)
    (attentive : s.shutdown.flag = true → s.Attentive → next.Attentive) : next.Heard := by
  intro set
  rw [flag] at set
  rcases heard set with coming | all
  · exact .inl (notifying coming)
  · exact .inr (attentive set all)

/-- A step of a call of `trigger`, by whichever task. -/
theorem Heard.call {advances : Bool} {call? later? : Option Trigger} (heard : s.Heard)
    (step : CallStep s next advances call? later?)
    (timely : advances = true → call? = some .notify → s.Listening) : next.Heard := by
  rcases step with ⟨calling, serve, acceptors, others, before, after⟩
  have listening : s.Listening → next.Listening := by
    intro before
    rw [Listening, serve, acceptors]
    exact before
  generalize now : next.shutdown = shutdown at calling
  cases calling with
  | rest same =>
      refine heard.of_same (by rw [now]) ?_ ?_
      · rw [before, after, same]
        exact id
      · intro _ attentive
        exact ⟨now ▸ attentive.1, listening attentive.2⟩
  | advance call =>
      intro set
      rw [now] at set
      by_cases notify : call = .notify
      · subst notify
        refine .inr ⟨?_, listening (timely rfl rfl)⟩
        rw [now]
        exact (Notify.quiet_notifyWaiters : s.shutdown.notify.notifyWaiters.Quiet)
      · cases unset : s.shutdown.flag with
        | false => exact .inl (after.mpr (.inl (Shutdown.advance_of_unset unset set)))
        | true =>
            rcases heard unset with coming | all
            · have other := (before.mp coming).resolve_left (by simpa using notify)
              exact .inl (after.mpr (.inr other))
            · refine .inr ⟨?_, listening all.2⟩
              rw [now, Shutdown.advance_notify notify]
              exact all.1

theorem Heard.stepServe (heard : s.Heard) (stepped : ServeStep s next) : next.Heard := by
  cases stepped with
  | await start =>
      refine heard.of_same rfl id ?_
      intro _ attentive
      exact absurd start attentive.2.1
  | wake | sample | drain | skip | empty | timeout | sleep | again | abort | finish =>
      refine heard.of_same rfl id ?_
      intro _ attentive
      exact ⟨attentive.1, by simp, attentive.2.2⟩

/-- An accept task that does not go back to its `select!` keeps everybody listening. -/
theorem Listening.setAcceptor {acceptor : Acceptor} {stage : AcceptorStage}
    (listening : s.Listening) (other : stage ≠ .select) :
    (s.setAcceptor index acceptor stage).Listening := by
  refine ⟨listening.1, ?_⟩
  intro each member
  rcases List.mem_or_eq_of_mem_set member with before | rfl
  · exact listening.2 each before
  · exact other

theorem Heard.stepAcceptor {acceptor : Acceptor} (heard : s.Heard)
    (found : s.acceptors[index]? = some acceptor) (stepped : AcceptorStep s index acceptor next) :
    next.Heard := by
  cases stepped with
  | leave | wake =>
      refine heard.of_same rfl id ?_
      intro _ attentive
      exact ⟨attentive.1, attentive.2.setAcceptor (by simp)⟩
  | enter _ unset =>
      refine heard.of_same rfl id ?_
      intro set _
      rw [unset] at set
      cases set
  | park selects =>
      refine heard.of_same rfl id ?_
      intro _ attentive
      exact absurd selects (attentive.2.2 acceptor (List.mem_of_getElem? found))
  | accept _ after =>
      refine heard.of_same rfl id ?_
      intro _ attentive
      refine ⟨attentive.1.drop, ?_⟩
      have listening : (s.dropWait index).Listening := attentive.2
      apply listening.setAcceptor
      rcases after with rfl | ⟨rfl, _⟩ | ⟨rfl, _⟩ <;> simp
  | handshake _ after =>
      refine heard.of_same rfl id ?_
      intro _ attentive
      refine ⟨attentive.1, attentive.2.setAcceptor ?_⟩
      rcases after with rfl | rfl <;> simp
  | spawn =>
      refine heard.of_same rfl ?_ ?_
      · rintro (watcher | heartbeat | ⟨connection, member, call⟩)
        · exact .inl watcher
        · exact .inr (.inl heartbeat)
        · exact .inr (.inr ⟨connection, List.mem_append_left _ member, call⟩)
      · intro _ attentive
        have listening : (s.setAcceptor index acceptor .check).Listening :=
          attentive.2.setAcceptor (by simp)
        exact ⟨attentive.1, listening⟩

theorem Heard.step (heard : s.Heard) (timely : s.Timely action)
    (stepped : s.step config action = some next) : next.Heard := by
  cases step_tasks stepped with
  | serve stepped => exact heard.stepServe stepped
  | gracefulTimeout | handler => exact heard
  | acceptor found stepped => exact heard.stepAcceptor found stepped
  | caller step own =>
      apply heard.call step
      intro advances notify
      exact timely (notifies_of_called ((own advances).trans notify))

theorem heard_init (config : ServeConfig) : (init config).Heard := by
  intro set
  cases set

/-- Where `notify_waiters` is called only while everybody listens, no shutdown is lost. -/
theorem nothingLost_of_timely (timely : Along (step config) Timely (init config) actions)
    (ran : run (step config) (init config) actions = some final) : final.NothingLost := by
  apply Heard.nothingLost
  apply run_invariant Heard _ timely ran (heard_init config)
  intro current action next heard allowed stepped
  exact heard.step allowed stepped

def oneListener : ServeConfig :=
  { listeners := [.plain], maxRequests := 0 }

/-- The first heartbeat finds the worker unwell, once everybody waits. -/
def unwellRun : List Action :=
  [.serve, .acceptor 0 .check, .acceptor 0 .park, .heartbeat .tick, .heartbeat .check,
    .heartbeat (.parent false), .heartbeat (.hooks false), .heartbeat .advance,
    .heartbeat .advance]

theorem nothingLost_of_timely_unwell :
    ∃ final, run (step oneListener) (init oneListener) unwellRun = some final ∧
      final.shutdown.flag = true ∧ ¬ final.Notifying ∧ final.NothingLost := by
  have ran : ∃ final, run (step oneListener) (init oneListener) unwellRun = some final ∧
      final.shutdown.flag = true ∧ ¬ final.Notifying :=
    exists_of_run_any (by decide)
  rcases ran with ⟨final, ran, set, quiet⟩
  exact ⟨final, ran, set, quiet, nothingLost_of_timely (by decide) ran⟩

/-- The same heartbeat, before `serve` has come to its `wait()`. -/
theorem shutdown_lost :
    ∃ final, run (step oneListener) (init oneListener)
        [.heartbeat .tick, .heartbeat .check, .heartbeat (.parent false),
          .heartbeat (.hooks false), .heartbeat .advance, .heartbeat .advance, .serve] =
          some final ∧
      ¬ final.NothingLost := by
  have ran : ∃ final, run (step oneListener) (init oneListener)
      [.heartbeat .tick, .heartbeat .check, .heartbeat (.parent false),
        .heartbeat (.hooks false), .heartbeat .advance, .heartbeat .advance, .serve] =
        some final ∧
      final.shutdown.flag = true ∧ ¬ final.Notifying ∧ final.ServeParked :=
    exists_of_run_any (by decide)
  rcases ran with ⟨final, ran, set, quiet, parked⟩
  refine ⟨final, ran, ?_⟩
  intro nothingLost
  exact (nothingLost set quiet).1 parked

end Server

end RustAsgi
