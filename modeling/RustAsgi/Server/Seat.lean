import RustAsgi.Server.Outlive

/-!
# Which request a connection serves

A connection that is not between two requests serves one of its own. Until the
request is answered its handler runs in the connection's task, so that the task can
wait for the answer or drop the request, but never waits for one that is gone.
-/

namespace RustAsgi

open Machine Tokio

namespace Handler

variable {handler next : Handler} {action : HandlerAction}

theorem responded_step (responded : handler.responded = true)
    (stepped : handler.step action = some next) : next.responded = true := by
  rcases other_of_not_http handler with other | ⟨request, state, rfl⟩
  · cases handler with
    | answering | switching => cases responded
    | answered | upgradeFailed => cases action <;> cases stepped
    | upgrading =>
        cases action with
        | upgraded succeeded => cases succeeded <;> cases stepped <;> rfl
        | answer | http | ws => cases stepped
    | http request state => exact absurd rfl (other request state)
    | driving state =>
        cases action with
        | ws act =>
            simp only [step, Option.map_eq_some_iff] at stepped
            rcases stepped with ⟨after, _, rfl⟩
            rfl
        | answer | http | upgraded => cases stepped
  · rcases step_http stepped with ⟨act, after, moved, rfl⟩
    exact Http.response_step responded moved

/-- A handler in the task of its connection leaves it with an answer. -/
theorem inline_of_step (inline : handler.inline = true)
    (away : ∀ act, action = .http act → act.ofConnection = false)
    (stepped : handler.step action = some next) :
    next.responded = true ∨ next.inline = true := by
  cases handler with
  | answered | upgrading | upgradeFailed | driving => cases inline
  | answering | switching =>
      cases action <;> cases stepped
      exact .inl rfl
  | http request state =>
      cases action with
      | http act =>
          simp only [step, Option.map_eq_some_iff] at stepped
          rcases stepped with ⟨after, moved, rfl⟩
          have unanswered : Http.Unanswered state.stage := by
            by_contra answered
            rw [inline_http.mpr answered] at inline
            cases inline
          rcases Http.unanswered_step unanswered (away act rfl) moved with responded | still
          · exact .inl responded
          · refine .inr (Bool.of_not_eq_false ?_)
            intro left
            exact inline_http.mp left still
      | answer | upgraded | ws => cases stepped

theorem inline_start (call : Call) : (start call).inline = true := by
  cases call <;> rfl

end Handler

namespace Server

variable {config : ServeConfig} {s next : Server} {index id : ℕ} {action : Action}

/-- A connection serves a request of its own, which is answered or is being answered in its task. -/
def Seated (s : Server) : Prop :=
  ∀ (index : ℕ) (connection : Connection) (id : ℕ), s.connections[index]? = some connection →
    connection.serving? = some id → ∃ exchange : Exchange, s.exchanges[id]? = some exchange ∧
      exchange.connection = index ∧ (exchange.handler.responded = true ∨
        connection = .handling id ∧ exchange.handler.inline = true)

theorem Seated.setConnection {later : Connection} (seated : s.Seated)
    (bound : index < s.connections.length)
    (serves : ∀ id, later.serving? = some id → ∃ exchange, s.exchanges[id]? = some exchange ∧
      exchange.connection = index ∧ (exchange.handler.responded = true ∨
        later = .handling id ∧ exchange.handler.inline = true)) :
    (s.setConnection index later).Seated := by
  intro position connection id here serving
  by_cases same : index = position
  · subst same
    simp only [Server.setConnection, List.getElem?_set_self bound, Option.some.injEq] at here
    subst here
    exact serves id serving
  · simp only [Server.setConnection, List.getElem?_set_ne same] at here
    exact seated position connection id here serving

theorem Seated.release {connection later : Connection} (seated : s.Seated)
    (found : s.connections[index]? = some connection) (free : later.serving? = none) :
    (s.setConnection index later).Seated := by
  apply seated.setConnection (List.getElem?_eq_some_iff.mp found).1
  intro id serving
  rw [free] at serving
  cases serving

/-- The connection goes on with a request that has been answered. -/
theorem Seated.passOn {connection later : Connection} (seated : s.Seated)
    (found : s.connections[index]? = some connection) (serves : connection.serving? = some id)
    (elsewhere : ∀ id, connection ≠ .handling id) (stays : later.serving? = some id) :
    (s.setConnection index later).Seated := by
  apply seated.setConnection (List.getElem?_eq_some_iff.mp found).1
  intro other serving
  rw [stays, Option.some.injEq] at serving
  subst serving
  rcases seated index connection id found serves with ⟨exchange, here, own, responded | ⟨same, _⟩⟩
  · exact ⟨exchange, here, own, .inl responded⟩
  · exact absurd same (elsewhere id)

theorem Seated.setHandler {exchange : Exchange} {handler : Handler} (seated : s.Seated)
    (found : s.exchanges[id]? = some exchange)
    (responded : exchange.handler.responded = true → handler.responded = true)
    (inline : exchange.handler.inline = true →
      handler.responded = true ∨ handler.inline = true) :
    (s.setHandler id exchange handler).Seated := by
  have bound : id < s.exchanges.length := (List.getElem?_eq_some_iff.mp found).1
  intro position connection other here serving
  rcases seated position connection other here serving with ⟨each, at_, own, answered⟩
  by_cases same : id = other
  · subst same
    rw [found, Option.some.injEq] at at_
    subst at_
    refine ⟨{ exchange with handler }, List.getElem?_set_self bound, own, ?_⟩
    rcases answered with answered | ⟨handling, inside⟩
    · exact .inl (responded answered)
    · exact (inline inside).imp_right fun still => ⟨handling, still⟩
  · exact ⟨each, (List.getElem?_set_ne same).trans at_, own, answered⟩

/-- The connection lets go of its request, whatever becomes of the handler. -/
theorem Seated.abandon {connection : Connection} {exchange : Exchange} {handler : Handler}
    (seated : s.Seated) (found : s.connections[index]? = some connection)
    (serves : connection.serving? = some id) (held : s.exchanges[id]? = some exchange) :
    ((s.setHandler id exchange handler).setConnection index .ended).Seated := by
  rcases seated index connection id found serves with ⟨each, at_, own, _⟩
  rw [held, Option.some.injEq] at at_
  subst at_
  intro position other number here serving
  by_cases same : index = position
  · subst same
    have bound : index < s.connections.length := (List.getElem?_eq_some_iff.mp found).1
    simp only [Server.setConnection, Server.setHandler, List.getElem?_set_self bound,
      Option.some.injEq] at here
    subst here
    cases serving
  · simp only [Server.setConnection, Server.setHandler, List.getElem?_set_ne same] at here
    rcases seated position other number here serving with ⟨each, at_, mine, answered⟩
    have apart : id ≠ number := by
      rintro rfl
      rw [held, Option.some.injEq] at at_
      subst at_
      exact same (own.symm.trans mine)
    exact ⟨each, (List.getElem?_set_ne apart).trans at_, mine, answered⟩

theorem Seated.enterFlight {call : Call} (seated : s.Seated)
    (found : s.connections[index]? = some (.admitted call)) :
    (s.enterFlight index call).Seated := by
  have bound : index < s.connections.length := (List.getElem?_eq_some_iff.mp found).1
  intro position connection id here serving
  simp only [Server.enterFlight, Server.setConnection] at here ⊢
  by_cases same : index = position
  · subst same
    rw [List.getElem?_set_self bound, Option.some.injEq] at here
    subst here
    simp only [Connection.serving?, Option.some.injEq] at serving
    subst serving
    refine ⟨{ connection := index, handler := .start call, taken := false }, ?_, rfl,
      .inr ⟨rfl, Handler.inline_start call⟩⟩
    rw [List.getElem?_append_right (Nat.le_refl _), Nat.sub_self]
    rfl
  · rw [List.getElem?_set_ne same] at here
    rcases seated position connection id here serving with ⟨each, at_, own, answered⟩
    have old := (List.getElem?_eq_some_iff.mp at_).1
    exact ⟨each, (List.getElem?_append_left old).trans at_, own, answered⟩

theorem Seated.stepConnection {connection : Connection} {act : ConnectionAction}
    (seated : s.Seated) (found : s.connections[index]? = some connection)
    (stepped : ConnectionStep config s index connection act next) : next.Seated := by
  cases stepped with
  | refuse | enter | refused | leave | dropResponse => exact seated.release found rfl
  | guard => exact seated.enterFlight found
  | @answer id exchange held responded =>
      apply seated.setConnection (List.getElem?_eq_some_iff.mp found).1
      intro other serving
      cases serving
      rcases seated index _ id found rfl with ⟨each, at_, own, _⟩
      rw [held, Option.some.injEq] at at_
      subst at_
      exact ⟨exchange, held, own, .inl responded⟩
  | recycle | proceed => exact seated.passOn found rfl (fun _ => nofun) rfl
  | @count id =>
      have moved : (s.setConnection index (.counted id (s.completed + 1))).Seated :=
        seated.passOn found rfl (fun _ => nofun) rfl
      exact moved
  | @trigger id call later =>
      have moved : (s.setConnection index (.recycling id later)).Seated :=
        seated.passOn found rfl (fun _ => nofun) rfl
      exact moved
  | @triggered id =>
      have moved : (s.setConnection index (.writing id)).Seated :=
        seated.passOn found rfl (fun _ => nofun) rfl
      exact moved
  | @take id exchange handler held moved =>
      apply seated.setHandler held
      · intro responded
        exact Handler.responded_step responded moved
      · intro inline
        rcases seated index _ id found rfl with ⟨each, at_, _, responded | ⟨same, _⟩⟩
        · rw [held, Option.some.injEq] at at_
          subst at_
          exact .inl (Handler.responded_step responded moved)
        · cases same
  | @finish id exchange held =>
      have released : (s.setConnection index
          (if exchange.handler.isWebsocket then .ended else .idle)).Seated := by
        apply seated.release found
        split <;> rfl
      have bound : id < s.exchanges.length := (List.getElem?_eq_some_iff.mp held).1
      intro position other number here serving
      rcases released position other number here serving with ⟨each, at_, own, answered⟩
      by_cases same : id = number
      · subst same
        simp only [Server.setConnection, held, Option.some.injEq] at at_
        subst at_
        exact ⟨{ exchange with taken := true }, List.getElem?_set_self bound, own, answered⟩
      · exact ⟨each, (List.getElem?_set_ne same).trans at_, own, answered⟩
  | dropService held | dropBody held => exact seated.abandon found rfl held

theorem Seated.step (seated : s.Seated) (stepped : s.step config action = some next) :
    next.Seated := by
  cases step_cases stepped with
  | serve stepped => cases stepped <;> exact seated
  | gracefulTimeout | watcher | heartbeat => exact seated
  | acceptor _ stepped =>
      cases stepped with
      | leave | enter | park | wake | accept | handshake => exact seated
      | spawn =>
          intro position connection id here serving
          rcases Nat.lt_or_ge position s.connections.length with old | new
          · exact seated position connection id ((List.getElem?_append_left old).symm.trans here)
              serving
          · rw [List.getElem?_append_right new] at here
            rw [List.mem_singleton.mp (List.mem_of_getElem? here)] at serving
            cases serving
  | connection found stepped => exact seated.stepConnection found stepped
  | handler found allowed moved =>
      apply seated.setHandler found
      · intro responded
        exact Handler.responded_step responded moved
      · intro inline
        apply Handler.inline_of_step inline _ moved
        rintro act rfl
        simpa [allows] using allowed

theorem seated_init (config : ServeConfig) : (init config).Seated := by
  intro position connection id here
  simp [init] at here

end Server

end RustAsgi
