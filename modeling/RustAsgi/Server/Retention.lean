import RustAsgi.Server.Outlive
import RustAsgi.Tokio.JoinSet

/-!
# The connections that `serve` holds

The accept tasks spawn the connection tasks on one `JoinSet`. Nothing but the end of
`serve` joins them, so a connection that is gone keeps its entry until then.
-/

namespace RustAsgi

open Machine Tokio

namespace Server

variable {config : ServeConfig} {s next : Server} {action : Action} {actions : List Action}
  {seen : List JoinSet.Call}

/-- What the step does to the set of the connection tasks. -/
def joinSetCalls (config : ServeConfig) (s : Server) (action : Action) : List JoinSet.Call :=
  match action with
  | .acceptor _ .spawn => [.spawn]
  | .connection index _ =>
      match s.step config action with
      | none => []
      | some next =>
          if (next.connections[index]?.any Connection.isEnded) = true then [.finish index] else []
  | .serve =>
      match s.serve with
      | .closing _ => (List.range' 0 s.connections.length).map .join
      | _ => []
  | _ => []

/-- The entry of a connection task. -/
def joinTask (returned : Bool) (connection : Connection) : JoinTask :=
  if returned then .joined else if connection.isEnded then .finished else .running

/-- The set as it follows from what the connection tasks are doing. -/
def joinSet (s : Server) : JoinSet :=
  { tasks := s.connections.map (joinTask (decide (s.serve = .done))) }

/-- `serve` is past `abort_all`. -/
def hasAborted (s : Server) : Bool :=
  match s.serve with
  | .closing _ | .done => true
  | _ => false

/-- Nothing moves any more once `serve` has returned. -/
structure Stopped (s : Server) : Prop where
  joined : s.Joined
  ended : s.serve = .done → ∀ connection ∈ s.connections, connection.isEnded = true

theorem connections_of_stepAcceptor {index : ℕ} {acceptor : Acceptor} {act : AcceptorAction}
    (stepped : s.stepAcceptor index acceptor act = some next) :
    next.serve = s.serve ∧
      next.connections = if act = .spawn then s.connections ++ [.idle] else s.connections := by
  cases act with
  | check | park | wake | accept | handshake =>
      simp only [stepAcceptor, Option.ite_none_right_eq_some, Option.some.injEq] at stepped
      rcases stepped with ⟨_, rfl⟩
      exact ⟨rfl, rfl⟩
  | spawn =>
      simp only [stepAcceptor, Option.ite_none_right_eq_some, Option.some.injEq] at stepped
      rcases stepped with ⟨_, rfl⟩
      exact ⟨rfl, rfl⟩

theorem not_ended_of_stepConnection {index : ℕ} {connection : Connection}
    {act : ConnectionAction}
    (stepped : s.stepConnection config index connection act = some next) :
    connection.isEnded = false := by
  cases connection with
  | ended => cases stepped
  | _ => rfl

theorem Stopped.open_of_acceptor {index : ℕ} {acceptor : Acceptor} {act : AcceptorAction}
    (stopped : s.Stopped) (found : s.acceptors[index]? = some acceptor)
    (stepped : s.stepAcceptor index acceptor act = some next) : s.serve ≠ .done := by
  intro returned
  have joined : s.hasJoined = true := by simp [hasJoined, returned]
  have ended := stopped.joined joined _ (List.mem_of_getElem? found)
  exact (stepAcceptor_cases stepped).not_ended ended

theorem Stopped.open_of_connection {index : ℕ} {connection : Connection} {act : ConnectionAction}
    (stopped : s.Stopped) (found : s.connections[index]? = some connection)
    (stepped : s.stepConnection config index connection act = some next) : s.serve ≠ .done := by
  intro returned
  have ended := stopped.ended returned _ (List.mem_of_getElem? found)
  rw [not_ended_of_stepConnection stepped] at ended
  cases ended

theorem joinSet_congr (serve : next.serve = s.serve)
    (connections : next.connections = s.connections) : next.joinSet = s.joinSet := by
  simp only [joinSet, serve, connections]

/-- `join_next` returns the tasks one after the other, once all of them have ended. -/
theorem joinSet_close (serving : s.serve ≠ .done)
    (ended : ∀ connection ∈ s.connections, connection.isEnded = true) :
    run JoinSet.step s.joinSet ((List.range' 0 s.connections.length).map .join) =
      some { s with serve := .done }.joinSet := by
  have finished : s.joinSet = ⟨List.replicate 0 .joined ++
      List.replicate s.connections.length .finished⟩ := by
    simp only [joinSet, serving, List.replicate_zero, List.nil_append]
    congr 1
    apply List.eq_replicate_iff.mpr
    refine ⟨List.length_map _, ?_⟩
    intro task member
    rcases List.mem_map.mp member with ⟨connection, inside, rfl⟩
    simp [joinTask, ended connection inside]
  have joined : joinTask true = Function.const Connection JoinTask.joined := rfl
  rw [finished, JoinSet.run_joinAll]
  simp [joinSet, joined]

/-- The task of a connection finishes in the step that ends it. -/
theorem joinSet_stepConnection {index : ℕ} {connection : Connection} {act : ConnectionAction}
    (stopped : s.Stopped) (found : s.connections[index]? = some connection)
    (stepped : s.stepConnection config index connection act = some next) :
    run JoinSet.step s.joinSet
        (if (next.connections[index]?.any Connection.isEnded) = true then [.finish index] else []) =
      some next.joinSet := by
  have running := not_ended_of_stepConnection stepped
  have bound : index < s.connections.length := (List.getElem?_eq_some_iff.mp found).1
  have open_ := stopped.open_of_connection found stepped
  rcases (stepConnection_cases stepped).calling found with ⟨later, _, connections, serve, _⟩
  have tasks : next.joinSet = ⟨s.joinSet.tasks.set index (joinTask false later)⟩ := by
    simp [joinSet, connections, serve, open_, List.map_set]
  have entry : s.joinSet.tasks[index]? = some .running := by
    simp [joinSet, found, open_, joinTask, running]
  simp only [connections, List.getElem?_set_self bound, Option.any_some]
  rw [tasks]
  split
  next ends => simp [run_cons, JoinSet.step, entry, joinTask, ends]
  next stays =>
    have same : joinTask false later = .running := by simp [joinTask, stays]
    rcases List.getElem?_eq_some_iff.mp entry with ⟨inside, found⟩
    rw [same, ← found, List.set_getElem_self]
    rfl

/-- Until `serve` returns, each step does to the set what its task does to it. -/
theorem joinSet_step (stopped : s.Stopped) (stepped : s.step config action = some next) :
    run JoinSet.step s.joinSet (s.joinSetCalls config action) = some next.joinSet := by
  cases action with
  | gracefulTimeout | watcher | heartbeat | handler =>
      have same : next.serve = s.serve ∧ next.connections = s.connections := by
        cases step_cases stepped
        exact ⟨rfl, rfl⟩
      rw [joinSet_congr same.1 same.2]
      rfl
  | serve =>
      cases step_cases stepped with
      | serve stepped =>
          cases stepped with
          | finish stage ended =>
              simp only [joinSetCalls, stage]
              exact joinSet_close (by simp [stage]) ended
          | await stage | wake stage | sample stage | drain stage | skip stage | empty stage
          | timeout stage | sleep stage | again stage | abort stage =>
              simp [joinSetCalls, joinSet, stage]
  | acceptor index act =>
      simp only [step, Option.bind_eq_some_iff] at stepped
      rcases stepped with ⟨acceptor, found, stepped⟩
      rcases connections_of_stepAcceptor stepped with ⟨serve, connections⟩
      by_cases spawn : act = .spawn
      · subst spawn
        have open_ := stopped.open_of_acceptor found stepped
        simp [joinSetCalls, run_cons, JoinSet.step, joinSet, connections, serve, open_, joinTask,
          Connection.isEnded]
      · rw [if_neg spawn] at connections
        rw [joinSet_congr serve connections]
        cases act with
        | spawn => exact absurd rfl spawn
        | check | park | wake | accept | handshake => rfl
  | connection index act =>
      simp only [joinSetCalls, stepped]
      simp only [step, Option.bind_eq_some_iff] at stepped
      rcases stepped with ⟨connection, found, stepped⟩
      exact joinSet_stepConnection stopped found stepped

theorem Stopped.step (stopped : s.Stopped) (stepped : s.step config action = some next) :
    next.Stopped where
  joined := stopped.joined.step stepped
  ended := by
    intro returned
    cases action with
    | gracefulTimeout | watcher | heartbeat | handler =>
        cases step_cases stepped
        exact stopped.ended returned
    | serve =>
        cases step_cases stepped with
        | serve stepped =>
            cases stepped with
            | finish stage ended => exact ended
            | _ => cases returned
    | acceptor index act =>
        simp only [Server.step, Option.bind_eq_some_iff] at stepped
        rcases stepped with ⟨acceptor, found, stepped⟩
        have open_ := stopped.open_of_acceptor found stepped
        exact absurd ((connections_of_stepAcceptor stepped).1 ▸ returned) open_
    | connection index act =>
        simp only [Server.step, Option.bind_eq_some_iff] at stepped
        rcases stepped with ⟨connection, found, stepped⟩
        have open_ := stopped.open_of_connection found stepped
        rcases (stepConnection_cases stepped).calling found with ⟨_, _, _, serve, _⟩
        exact absurd (serve ▸ returned) open_

theorem stopped_init (config : ServeConfig) : (init config).Stopped where
  joined := nofun
  ended := nofun

/-- The calls of the run on the set of the connection tasks bring it to what these tasks are
doing. -/
theorem run_joinSet (ran : run (step config) (init config) actions = some s) :
    run JoinSet.step .new (trace (step config) (joinSetCalls config) (init config) actions) =
      some s.joinSet := by
  have preserved : ∀ current action next seen,
      (current.Stopped ∧ run JoinSet.step .new seen = some current.joinSet) →
      step config current action = some next →
      next.Stopped ∧ run JoinSet.step .new (seen ++ current.joinSetCalls config action) =
        some next.joinSet := by
    rintro current action next seen ⟨stopped, before⟩ stepped
    refine ⟨stopped.step stepped, ?_⟩
    rw [run_append, before]
    exact joinSet_step stopped stepped
  have start : (init config).Stopped ∧ run JoinSet.step .new [] = some (init config).joinSet :=
    ⟨stopped_init config, rfl⟩
  have reached := trace_invariant
    (fun current seen => current.Stopped ∧ run JoinSet.step .new seen = some current.joinSet)
    preserved ran start
  simpa using reached.2

theorem held_joinSet (serving : s.serve ≠ .done) : s.joinSet.held = s.connections.length := by
  rw [JoinSet.held_of_not_joined, joinSet, List.length_map]
  intro task member
  rcases List.mem_map.mp member with ⟨connection, _, rfl⟩
  simp only [joinTask, serving, decide_false, Bool.false_eq_true, if_false]
  split <;> nofun

theorem live_joinSet (serving : s.serve ≠ .done) :
    s.joinSet.live = s.connections.countP fun connection => !connection.isEnded := by
  rw [JoinSet.live, joinSet, List.countP_map]
  apply List.countP_congr
  intro connection _
  cases ended : connection.isEnded <;> simp [joinTask, serving, ended]

/-- Up to `abort_all`, the set holds an entry for every connection task that has been spawned: for
the live ones, and for those that have finished. Nothing is left when `serve` returns. -/
theorem finished_connections_retained (config : ServeConfig) (actions : List Action) (s : Server)
    (ran : run (step config) (init config) actions = some s) :
    ∃ set, run JoinSet.step .new
        (trace (step config) (joinSetCalls config) (init config) actions) = some set ∧
      (s.hasAborted = false →
        set.held = (trace (step config) (joinSetCalls config) (init config) actions).countP
          JoinSet.Call.isSpawn ∧
        set.live = s.connections.countP (fun connection => !connection.isEnded) ∧
        set.held = set.live + s.connections.countP Connection.isEnded) ∧
      (s.serve = .done → set.held = 0) := by
  have replayed := run_joinSet ran
  refine ⟨s.joinSet, replayed, ?_, ?_⟩
  · intro before
    have serving : s.serve ≠ .done := by
      intro returned
      simp [hasAborted, returned] at before
    have length := JoinSet.length_of_run replayed
    refine ⟨?_, live_joinSet serving, ?_⟩
    · rw [held_joinSet serving]
      simpa [joinSet, JoinSet.new] using length
    · have parts : s.connections.length = _ := List.length_eq_countP_add_countP Connection.isEnded
      rw [held_joinSet serving, live_joinSet serving, Nat.add_comm]
      simpa using parts
  · intro returned
    apply JoinSet.held_of_joined
    intro task member
    rcases List.mem_map.mp member with ⟨_, _, rfl⟩
    simp [joinTask, returned]

/-- A client connects and goes. -/
def visit : List Action :=
  [.acceptor 0 .check, .acceptor 0 (.accept true), .acceptor 0 .spawn, .connection 0 .close]

theorem finished_connections_retained_visit :
    ∃ s set, run (step oneListener) (init oneListener) visit = some s ∧
      run JoinSet.step .new
        (trace (step oneListener) (joinSetCalls oneListener) (init oneListener) visit) = some set ∧
      set.held = set.live + s.connections.countP Connection.isEnded := by
  have ran : ∃ s, run (step oneListener) (init oneListener) visit = some s ∧
      s.hasAborted = false := ⟨_, rfl, rfl⟩
  rcases ran with ⟨s, ran, serving⟩
  rcases finished_connections_retained oneListener visit s ran with ⟨set, replayed, before, _⟩
  exact ⟨s, set, ran, replayed, (before serving).2.2⟩

/-- Nothing is shutting down, no connection is live, and the set holds one. -/
theorem finished_connection_held :
    ∃ s set, run (step oneListener) (init oneListener) visit = some s ∧
      run JoinSet.step .new
        (trace (step oneListener) (joinSetCalls oneListener) (init oneListener) visit) = some set ∧
      s.shutdown.flag = false ∧ s.serve = .start ∧ set.live = 0 ∧ set.held = 1 ∧
      ¬ set.held ≤ set.live :=
  ⟨_, _, rfl, rfl, rfl, rfl, rfl, rfl, by decide⟩

end Server

end RustAsgi
