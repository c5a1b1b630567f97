import RustAsgi.Server.Wakeup

/-!
# What the drain waits for

`in_flight` counts the guards of the admitted requests. The drain ends when it
reads zero, and then every connection task is aborted.
-/

namespace RustAsgi

open Machine Tokio

namespace Server

variable {config : ServeConfig} {s next final : Server} {action : Action} {actions : List Action}
  {index id : ℕ}

/-- The requests whose guard is alive. -/
def guards (s : Server) : ℕ :=
  s.exchanges.countP fun exchange => !exchange.handler.finished

/-- `in_flight` is the number of guards. -/
def Counted (s : Server) : Prop :=
  s.inFlight = s.guards

theorem Counted.setHandler {exchange : Exchange} {handler : Handler} (counted : s.Counted)
    (found : s.exchanges[id]? = some exchange)
    (stays : exchange.handler.finished = true → handler.finished = true) :
    (s.setHandler id exchange handler).Counted := by
  have changed := countP_set_add (fun exchange : Exchange => !exchange.handler.finished) found
    { exchange with handler }
  simp only [Counted, guards] at counted ⊢
  simp only [Server.setHandler]
  rw [counted]
  cases before : exchange.handler.finished with
  | true =>
      simp only [before, stays before] at changed
      simpa using changed.symm
  | false =>
      cases after : handler.finished with
      | true =>
          simp only [before, after] at changed
          simp at changed ⊢
          omega
      | false =>
          simp only [before, after] at changed
          simpa using changed.symm

theorem Counted.enterFlight {call : Call} (counted : s.Counted) :
    (s.enterFlight index call).Counted := by
  have more : (s.enterFlight index call).guards = s.guards + 1 := by
    simp only [guards, Server.enterFlight]
    rw [List.countP_append, List.countP_singleton]
    simp [Handler.finished_start]
  simp only [Counted] at counted ⊢
  rw [more, ← counted]
  rfl

theorem Counted.finish {exchange : Exchange} (counted : s.Counted)
    (found : s.exchanges[id]? = some exchange) : (s.finish index id exchange).Counted := by
  have same : (s.finish index id exchange).guards = s.guards :=
    countP_set_of_eq found rfl
  simp only [Counted] at counted ⊢
  rw [same, ← counted]
  rfl

theorem Counted.stepConnection {connection : Connection} {act : ConnectionAction}
    (counted : s.Counted) (stepped : ConnectionStep config s index connection act next) :
    next.Counted := by
  cases stepped with
  | refuse | enter | refused | answer | count | recycle | proceed | trigger | triggered | leave
  | dropResponse => exact counted
  | guard => exact counted.enterFlight
  | take found moved =>
      exact counted.setHandler found fun finished => Handler.finished_step finished moved
  | finish found => exact counted.finish found
  | dropService found moved =>
      exact counted.setHandler found fun finished => Handler.finished_step finished moved
  | dropBody found moved =>
      exact counted.setHandler found fun finished => Handler.finished_step finished moved

theorem Counted.step (counted : s.Counted) (stepped : s.step config action = some next) :
    next.Counted := by
  cases step_cases stepped with
  | serve stepped => cases stepped <;> exact counted
  | gracefulTimeout => exact counted
  | acceptor _ stepped => cases stepped <;> exact counted
  | watcher => exact counted
  | heartbeat => exact counted
  | connection _ stepped => exact counted.stepConnection stepped
  | handler found _ moved =>
      exact counted.setHandler found fun finished => Handler.finished_step finished moved

theorem counted_init (config : ServeConfig) : (init config).Counted :=
  rfl

/-- Before the flag is set nobody notifies, and `serve` does not get past its `wait()`. -/
def Silent (s : Server) : Prop :=
  s.shutdown.flag = false → ¬ s.Notifying ∧ (s.serve = .start ∨ s.ServeParked)

theorem Silent.of_same (silent : s.Silent) (flag : next.shutdown.flag = s.shutdown.flag)
    (notifying : next.Notifying → s.Notifying)
    (waits : s.serve = .start ∨ s.ServeParked → next.serve = .start ∨ next.ServeParked) :
    next.Silent := by
  intro unset
  rw [flag] at unset
  have before := silent unset
  exact ⟨fun later => before.1 (notifying later), waits before.2⟩

/-- A step of a call of `trigger`, by whichever task. -/
theorem Silent.call {advances : Bool} {call? later? : Option Trigger} (silent : s.Silent)
    (step : CallStep s next advances call? later?) : next.Silent := by
  rcases step with ⟨calling, serve, _, others, before, after⟩
  generalize now : next.shutdown = shutdown at calling
  cases calling with
  | rest same =>
      refine silent.of_same (by rw [now]) ?_ ?_
      · rw [before, after, same]
        exact id
      · rw [ServeParked, ServeParked, serve, now]
        exact id
  | advance call =>
      intro unset
      rw [now] at unset
      have still : s.shutdown.flag = false := by
        apply Bool.eq_false_iff.mpr
        intro set
        rw [Shutdown.advance_flag set] at unset
        cases unset
      rcases silent still with ⟨quiet, waits⟩
      have other : call ≠ .notify := by
        rintro rfl
        exact quiet (before.mpr (.inl rfl))
      refine ⟨?_, ?_⟩
      · intro notifying
        rcases after.mp notifying with mine | theirs
        · rw [Shutdown.flag_of_advance_notify mine] at unset
          cases unset
        · exact quiet (before.mpr (.inr theirs))
      · rw [ServeParked, serve, now, Shutdown.advance_notify other]
        exact waits

theorem Silent.stepServe (silent : s.Silent) (stepped : ServeStep s next) : next.Silent := by
  cases stepped with
  | await start =>
      refine silent.of_same rfl id ?_
      intro _
      exact .inr ⟨rfl, Notify.waits_notified⟩
  | wake waiting woken =>
      refine silent.of_same rfl id ?_
      rintro (start | ⟨_, waits⟩)
      · rw [waiting] at start
        cases start
      · exact absurd waits woken
  | sample stage | drain stage | skip stage | empty stage | timeout stage | sleep stage
  | again stage | abort stage | finish stage =>
      refine silent.of_same rfl id ?_
      rintro (start | ⟨waiting, _⟩)
      · rw [stage] at start
        cases start
      · rw [stage] at waiting
        cases waiting

theorem Silent.stepAcceptor {acceptor : Acceptor} (silent : s.Silent)
    (stepped : AcceptorStep s index acceptor next) : next.Silent := by
  cases stepped with
  | leave | enter | wake | handshake => exact silent.of_same rfl id id
  | park =>
      refine silent.of_same rfl id ?_
      rintro (start | ⟨waiting, waits⟩)
      · exact .inl start
      · exact .inr ⟨waiting, Notify.waits_notified_of_waits waits⟩
  | accept =>
      refine silent.of_same rfl id ?_
      rintro (start | ⟨waiting, waits⟩)
      · exact .inl start
      · exact .inr ⟨waiting, Notify.waits_drop.mpr ⟨waits, by simp⟩⟩
  | spawn =>
      exact silent.of_same rfl notifying_append id

theorem Silent.step (silent : s.Silent) (stepped : s.step config action = some next) :
    next.Silent := by
  cases step_tasks stepped with
  | serve stepped => exact silent.stepServe stepped
  | gracefulTimeout | handler => exact silent
  | acceptor _ stepped => exact silent.stepAcceptor stepped
  | caller step _ => exact silent.call step

theorem silent_init (config : ServeConfig) : (init config).Silent := by
  intro _
  refine ⟨?_, .inl rfl⟩
  rintro (watcher | heartbeat | ⟨_, member, _⟩)
  · cases watcher
  · cases heartbeat
  · cases member

/-- An admitted request whose response has not been taken is with its connection, unless the
connection is gone. -/
def Placed (s : Server) : Prop :=
  ∀ (id : ℕ) (exchange : Exchange), s.exchanges[id]? = some exchange → exchange.taken = true ∨
    ∃ connection : Connection, s.connections[exchange.connection]? = some connection ∧
      (connection = .ended ∨ connection.serving? = some id)

theorem Placed.setConnection {connection later : Connection} (placed : s.Placed)
    (found : s.connections[index]? = some connection)
    (kept : later = .ended ∨ connection.isEnded = false ∧
      ∀ id, connection.serving? = some id → later.serving? = some id) :
    (s.setConnection index later).Placed := by
  have bound : index < s.connections.length := (List.getElem?_eq_some_iff.mp found).1
  intro id exchange here
  rcases placed id exchange here with taken | ⟨current, at_, place⟩
  · exact .inl taken
  · refine .inr ?_
    simp only [Server.setConnection]
    by_cases same : index = exchange.connection
    · subst same
      rw [found, Option.some.injEq] at at_
      subst at_
      refine ⟨later, List.getElem?_set_self bound, ?_⟩
      rcases kept with ended | ⟨alive, serves⟩
      · exact .inl ended
      · rcases place with rfl | serving
        · cases alive
        · exact .inr (serves id serving)
    · exact ⟨current, by rw [List.getElem?_set_ne same, at_], place⟩

theorem Placed.setHandler {exchange : Exchange} {handler : Handler} (placed : s.Placed)
    (found : s.exchanges[id]? = some exchange) : (s.setHandler id exchange handler).Placed := by
  have bound : id < s.exchanges.length := (List.getElem?_eq_some_iff.mp found).1
  intro other each here
  simp only [Server.setHandler] at here
  by_cases same : id = other
  · subst same
    rw [List.getElem?_set_self bound, Option.some.injEq] at here
    subst here
    exact placed id exchange found
  · rw [List.getElem?_set_ne same] at here
    exact placed other each here

/-- A connection that serves another request has nothing left to take of this one. -/
theorem Placed.taken {connection : Connection} {exchange : Exchange} (placed : s.Placed)
    (found : s.connections[exchange.connection]? = some connection)
    (here : s.exchanges[id]? = some exchange) (alive : connection.isEnded = false)
    (elsewhere : connection.serving? ≠ some id) : exchange.taken = true := by
  rcases placed id exchange here with taken | ⟨current, at_, ended | serving⟩
  · exact taken
  · rw [found, Option.some.injEq] at at_
    subst at_ ended
    cases alive
  · rw [found, Option.some.injEq] at at_
    exact absurd (at_ ▸ serving) elsewhere

theorem Placed.enterFlight {call : Call} (placed : s.Placed)
    (found : s.connections[index]? = some (.admitted call)) :
    (s.enterFlight index call).Placed := by
  have bound : index < s.connections.length := (List.getElem?_eq_some_iff.mp found).1
  have moved : (s.setConnection index (.handling s.exchanges.length)).Placed := by
    apply placed.setConnection found
    exact .inr ⟨rfl, fun id serving => by cases serving⟩
  intro id exchange here
  simp only [Server.enterFlight] at here
  rcases Nat.lt_or_ge id s.exchanges.length with old | new
  · rw [List.getElem?_append_left old] at here
    exact moved id exchange here
  · rw [List.getElem?_append_right new] at here
    rcases List.getElem?_eq_some_iff.mp here with ⟨first, rfl⟩
    have last : id = s.exchanges.length := by
      simp only [List.length_singleton] at first
      omega
    subst last
    refine .inr ⟨.handling s.exchanges.length, ?_, .inr rfl⟩
    simp only [Nat.sub_self, List.getElem_cons_zero, Server.enterFlight, Server.setConnection]
    exact List.getElem?_set_self bound

theorem Placed.finish {exchange : Exchange} (placed : s.Placed)
    (found : s.connections[index]? = some (.writing id))
    (held : s.exchanges[id]? = some exchange) : (s.finish index id exchange).Placed := by
  have bound : id < s.exchanges.length := (List.getElem?_eq_some_iff.mp held).1
  intro other each here
  simp only [Server.finish] at here
  by_cases same : id = other
  · subst same
    rw [List.getElem?_set_self bound, Option.some.injEq] at here
    subst here
    exact .inl rfl
  · rw [List.getElem?_set_ne same] at here
    by_cases mine : index = each.connection
    · subst mine
      refine .inl (placed.taken found here rfl ?_)
      simpa [Connection.serving?] using same
    · rcases placed other each here with taken | ⟨current, at_, place⟩
      · exact .inl taken
      · refine .inr ⟨current, ?_, place⟩
        simp only [Server.finish, Server.setConnection]
        rw [List.getElem?_set_ne mine, at_]

theorem Placed.stepConnection {connection : Connection} {act : ConnectionAction}
    (placed : s.Placed) (found : s.connections[index]? = some connection)
    (stepped : ConnectionStep config s index connection act next) : next.Placed := by
  cases stepped with
  | refuse | enter | refused =>
      apply placed.setConnection found
      exact .inr ⟨rfl, fun id serving => by cases serving⟩
  | guard => exact placed.enterFlight found
  | answer | recycle | proceed =>
      apply placed.setConnection found
      exact .inr ⟨rfl, fun id serving => serving⟩
  | @count id =>
      have moved : (s.setConnection index (.counted id (s.completed + 1))).Placed := by
        apply placed.setConnection found
        exact .inr ⟨rfl, fun id serving => serving⟩
      exact moved
  | @trigger id call later =>
      have moved : (s.setConnection index (.recycling id later)).Placed := by
        apply placed.setConnection found
        exact .inr ⟨rfl, fun id serving => serving⟩
      exact moved
  | @triggered id =>
      have moved : (s.setConnection index (.writing id)).Placed := by
        apply placed.setConnection found
        exact .inr ⟨rfl, fun id serving => serving⟩
      exact moved
  | take held => exact placed.setHandler held
  | finish held => exact placed.finish found held
  | leave | dropResponse => exact placed.setConnection found (.inl rfl)
  | dropService held | dropBody held =>
      exact (placed.setHandler held).setConnection found (.inl rfl)

theorem Placed.step (placed : s.Placed) (stepped : s.step config action = some next) :
    next.Placed := by
  cases step_cases stepped with
  | serve stepped => cases stepped <;> exact placed
  | gracefulTimeout => exact placed
  | acceptor _ stepped =>
      cases stepped with
      | leave | enter | park | wake | accept | handshake => exact placed
      | spawn =>
          intro id exchange here
          rcases placed id exchange here with taken | ⟨connection, at_, place⟩
          · exact .inl taken
          · refine .inr ⟨connection, ?_, place⟩
            have bound := (List.getElem?_eq_some_iff.mp at_).1
            exact (List.getElem?_append_left bound).trans at_
  | watcher => exact placed
  | heartbeat => exact placed
  | connection found stepped => exact placed.stepConnection found stepped
  | handler found => exact placed.setHandler found

theorem placed_init (config : ServeConfig) : (init config).Placed := by
  intro id exchange here
  simp [init] at here

/-- The response of a request that has been taken is at its end. -/
def Whole (s : Server) : Prop :=
  ∀ exchange ∈ s.exchanges, exchange.handler.Ordered ∧
    (exchange.taken = true → exchange.handler.drained = true)

theorem Whole.step (whole : s.Whole) (stepped : s.step config action = some next) :
    next.Whole := by
  refine exchanges_step ?_ ?_ ?_ whole stepped
  · intro _ call
    exact ⟨Handler.ordered_start call, fun taken => by cases taken⟩
  · intro exchange _ handler ⟨ordered, complete⟩ moved
    refine ⟨ordered.step moved, ?_⟩
    intro taken
    exact Handler.drained_step ordered (complete taken) moved
  · intro exchange ⟨ordered, _⟩ drained
    exact ⟨ordered, fun _ => drained⟩

theorem whole_init (config : ServeConfig) : (init config).Whole := by
  intro exchange member
  cases member

/-- The connection's request has passed the check of the flag and is not counted: its guard has not
been created, or is gone while the response is still being taken. -/
def uncounted (s : Server) (connection : Connection) : Bool :=
  match connection.serving? with
  | some id => s.exchanges[id]?.all fun exchange => exchange.handler.finished
  | none => connection.isAdmitted

def readsZero (s : Server) : Action → Bool
  | .serve => decide (s.serve = .draining ∧ s.inFlight = 0)
  | _ => false

/-- When the drain reads zero, no connection has a request that is not counted. -/
def Covered (s : Server) (action : Action) : Prop :=
  s.readsZero action = true → ∀ connection ∈ s.connections, s.uncounted connection = false

instance (s : Server) (action : Action) : Decidable (s.Covered action) :=
  inferInstanceAs (Decidable (_ → _))

/-- What `abort_all` finds after a drain that has read zero: every admitted request has its whole
response taken, unless its connection was gone before. -/
def NothingCut (s : Server) : Prop :=
  s.serve = .drained .empty →
    (∀ connection ∈ s.connections, connection.isAdmitted = false) ∧
    ∀ exchange ∈ s.exchanges, (exchange.taken = true ∧ exchange.handler.drained = true) ∨
      s.connections[exchange.connection]?.any Connection.isEnded = true

instance (s : Server) : Decidable s.NothingCut :=
  inferInstanceAs (Decidable (_ → _ ∧ _))

/-- Once the drain has read zero, no connection has a request, and none gets one. -/
def Vacated (s : Server) : Prop :=
  s.serve = .drained .empty →
    s.shutdown.flag = true ∧ ∀ connection ∈ s.connections, connection.isFree = true

/-- Nothing is in flight and nothing is uncounted: all connections are free. -/
theorem free_of_covered (counted : s.Counted) (nothing : s.inFlight = 0)
    (covered : ∀ connection ∈ s.connections, s.uncounted connection = false) :
    ∀ connection ∈ s.connections, connection.isFree = true := by
  have gone : ∀ exchange ∈ s.exchanges, exchange.handler.finished = true := by
    intro exchange member
    have none_ : s.guards = 0 := counted ▸ nothing
    have released := List.countP_eq_zero.mp none_ exchange member
    simpa using released
  intro connection member
  have shown := covered connection member
  cases serving : connection.serving? with
  | some id =>
      simp only [uncounted, serving] at shown
      cases found : s.exchanges[id]? with
      | none => simp [found] at shown
      | some exchange =>
          simp [found, gone exchange (List.mem_of_getElem? found)] at shown
  | none =>
      simp only [uncounted, serving] at shown
      exact Connection.isFree_iff.mpr ⟨serving, shown⟩

theorem Vacated.setConnection {later : Connection} (vacated : s.Vacated)
    (free : s.serve = .drained .empty → later.isFree = true) :
    (s.setConnection index later).Vacated := by
  intro drained
  refine ⟨(vacated drained).1, ?_⟩
  intro connection member
  rcases List.mem_or_eq_of_mem_set member with before | rfl
  · exact (vacated drained).2 connection before
  · exact free drained

theorem Vacated.stepConnection {connection : Connection} {act : ConnectionAction}
    (vacated : s.Vacated) (found : s.connections[index]? = some connection)
    (stepped : ConnectionStep config s index connection act next) : next.Vacated := by
  -- A connection that has a request contradicts the end of the drain.
  have free : s.serve = .drained .empty → connection.isFree = true := fun drained =>
    (vacated drained).2 connection (List.mem_of_getElem? found)
  cases stepped with
  | refuse | refused | leave | dropResponse => exact vacated.setConnection fun _ => rfl
  | enter unset =>
      apply vacated.setConnection
      intro drained
      rw [(vacated drained).1] at unset
      cases unset
  | dropService | dropBody =>
      intro drained
      cases free drained
  | guard | answer | count | recycle | proceed | trigger | triggered | take | finish =>
      intro drained
      cases free drained

theorem vacated_of_stepServe (counted : s.Counted) (silent : s.Silent)
    (covered : s.Covered .serve) (stepped : ServeStep s next) : next.Vacated := by
  cases stepped with
  | empty stage nothing =>
      intro _
      refine ⟨?_, ?_⟩
      · apply Bool.of_not_eq_false
        intro unset
        rcases (silent unset).2 with start | ⟨waiting, _⟩
        · rw [stage] at start
          cases start
        · rw [stage] at waiting
          cases waiting
      · exact free_of_covered counted nothing (covered (by simp [readsZero, stage, nothing]))
  | await | wake | sample | drain | skip | timeout | sleep | again | abort | finish =>
      intro drained
      cases drained

theorem Vacated.step (vacated : s.Vacated) (counted : s.Counted) (silent : s.Silent)
    (covered : s.Covered action) (stepped : s.step config action = some next) :
    next.Vacated := by
  cases step_cases stepped with
  | serve stepped => exact vacated_of_stepServe counted silent covered stepped
  | gracefulTimeout => exact vacated
  | acceptor _ stepped =>
      cases stepped with
      | leave | enter | park | wake | accept | handshake => exact vacated
      | spawn =>
          intro drained
          refine ⟨(vacated drained).1, ?_⟩
          intro connection member
          rcases List.mem_append.mp member with before | new
          · exact (vacated drained).2 connection before
          · rw [List.mem_singleton.mp new]
            rfl
  | watcher calling =>
      intro drained
      exact ⟨calling.flag (vacated drained).1, (vacated drained).2⟩
  | heartbeat calling =>
      intro drained
      exact ⟨calling.flag (vacated drained).1, (vacated drained).2⟩
  | connection found stepped => exact vacated.stepConnection found stepped
  | handler => exact vacated

theorem vacated_init (config : ServeConfig) : (init config).Vacated := by
  intro drained
  cases drained

theorem Vacated.nothingCut (vacated : s.Vacated) (placed : s.Placed) (whole : s.Whole) :
    s.NothingCut := by
  intro drained
  have free := (vacated drained).2
  refine ⟨?_, ?_⟩
  · intro connection member
    exact (Connection.isFree_iff.mp (free connection member)).2
  · intro exchange member
    rcases List.mem_iff_getElem?.mp member with ⟨id, here⟩
    rcases placed id exchange here with taken | ⟨connection, found, rfl | serving⟩
    · exact .inl ⟨taken, (whole exchange member).2 taken⟩
    · exact .inr (by simp [found, Connection.isEnded])
    · have now := Connection.isFree_iff.mp (free connection (List.mem_of_getElem? found))
      rw [now.1] at serving
      cases serving

structure Drains (s : Server) : Prop where
  counted : s.Counted
  silent : s.Silent
  placed : s.Placed
  whole : s.Whole
  vacated : s.Vacated

theorem Drains.step (drains : s.Drains) (covered : s.Covered action)
    (stepped : s.step config action = some next) : next.Drains where
  counted := drains.counted.step stepped
  silent := drains.silent.step stepped
  placed := drains.placed.step stepped
  whole := drains.whole.step stepped
  vacated := drains.vacated.step drains.counted drains.silent covered stepped

theorem drains_init (config : ServeConfig) : (init config).Drains where
  counted := counted_init config
  silent := silent_init config
  placed := placed_init config
  whole := whole_init config
  vacated := vacated_init config

/-- A drain that reads zero while no request is between its check and its guard, or done with its
guard before its response is taken, cuts nothing off. -/
theorem nothingCut_of_covered (covered : Along (step config) Covered (init config) actions)
    (ran : run (step config) (init config) actions = some final) : final.NothingCut := by
  have drains : final.Drains := by
    apply run_invariant Drains _ covered ran (drains_init config)
    intro current action next drains allowed stepped
    exact drains.step allowed stepped
  exact drains.vacated.nothingCut drains.placed drains.whole

def plainGet : Request :=
  { hasBody := false, isHead := false, accessLog := false,
    crate := { validHeader := fun _ => true, builds := fun _ => true } }

/-- A connection sends one request, and the application answers it with a chunk. -/
def answerRun : List Action :=
  [.serve, .acceptor 0 .check, .acceptor 0 (.accept true), .acceptor 0 .spawn,
    .connection 0 (.request (.http plainGet (.new [] false))), .connection 0 .guard,
    .handler 0 (.http (.established true)), .handler 0 (.http (.push (.start 200 []) false)),
    .handler 0 (.http .poll), .connection 0 .handled, .connection 0 .count,
    .connection 0 .compare, .handler 0 (.http (.push (.body [1] false) false)),
    .handler 0 (.http .poll), .handler 0 (.http .poll), .handler 0 (.http .poll),
    .handler 0 (.http .poll)]

def terminateRun : List Action :=
  [.watcher (.signal .terminate), .watcher (.receive .terminate), .watcher .advance,
    .watcher .advance, .acceptor 0 .check, .serve, .serve, .serve, .serve]

/-- A request is in flight when the worker is told to terminate. -/
def busyRun : List Action :=
  [.serve, .acceptor 0 .check, .acceptor 0 (.accept true), .acceptor 0 .spawn,
    .connection 0 (.request .immediate), .connection 0 .guard,
    .watcher (.signal .terminate), .watcher (.receive .terminate), .watcher .advance,
    .watcher .advance]

/-- The connection takes the chunk before the drain looks. -/
theorem nothingCut_of_covered_taken :
    ∃ final, run (step oneListener) (init oneListener)
        (answerRun ++ [.connection 0 .take, .connection 0 .finish] ++ terminateRun) =
          some final ∧
      final.serve = .drained .empty ∧ final.exchanges.length = 1 ∧ final.NothingCut := by
  have ran : ∃ final, run (step oneListener) (init oneListener)
      (answerRun ++ [.connection 0 .take, .connection 0 .finish] ++ terminateRun) = some final ∧
      final.serve = .drained .empty ∧ final.exchanges.length = 1 :=
    exists_of_run_any (by decide +kernel)
  rcases ran with ⟨final, ran, drained, served⟩
  exact ⟨final, ran, drained, served, nothingCut_of_covered (by decide +kernel) ran⟩

/-- The same response, still in the channel when the guard is dropped and the drain looks. -/
theorem response_cut :
    ∃ final, run (step oneListener) (init oneListener) (answerRun ++ terminateRun) = some final ∧
      final.serve = .drained .empty ∧ ¬ final.NothingCut :=
  exists_of_run_any (by decide +kernel)

end Server

end RustAsgi
