import RustAsgi.Server.Steps

/-!
# `max_requests`

A request is admitted, counted and compared with the quota in separate steps, and
the flag is set in one more. What can be counted above the quota are the requests
that have passed the check of the flag before the call for the `N`-th request
gets to `swap`; each is on an open connection of its own.
-/

namespace RustAsgi

open Machine Tokio

namespace Connection

/-- The connection has an admitted request that is not counted. -/
def isPending : Connection → Bool
  | .admitted _ | .handling _ | .returned _ => true
  | _ => false

/-- The connection has counted a request that reaches `quota`, and has yet to set the flag. -/
def recycles (quota : ℕ) : Connection → Bool
  | .counted _ done => decide (quota ≤ done)
  | .recycling _ call => decide (call ≠ .notify)
  | _ => false

/-- What the connection knows of the completed requests. -/
def KnowsOf (quota completed : ℕ) : Connection → Prop
  | .counted _ done => done ≤ completed
  | .recycling _ _ => quota ≤ completed
  | _ => True

variable {connection : Connection} {quota completed more : ℕ}

theorem ended_of_pending (pending : connection.isPending = true) :
    connection.isEnded = false ∧ connection.recycles quota = false := by
  cases connection <;> first | exact ⟨rfl, rfl⟩ | cases pending

theorem ended_of_recycles (recycles : connection.recycles quota = true) :
    connection.isEnded = false := by
  cases connection <;> first | rfl | cases recycles

theorem recycles_of_free (free : connection.isFree = true) : connection.recycles quota = false := by
  cases connection <;> first | rfl | cases free

theorem KnowsOf.mono (knows : connection.KnowsOf quota completed) (grown : completed ≤ more) :
    connection.KnowsOf quota more := by
  cases connection with
  | counted id done => exact le_trans (show done ≤ completed from knows) grown
  | recycling id call => exact le_trans (show quota ≤ completed from knows) grown
  | _ => trivial

end Connection

namespace Server

variable {config : ServeConfig} {s next middle final : Server} {action : Action}
  {actions back : List Action} {index id quota bound : ℕ}

def opened (s : Server) : ℕ :=
  s.connections.countP fun connection => !connection.isEnded

def pending (s : Server) : ℕ :=
  s.connections.countP Connection.isPending

def recyclers (quota : ℕ) (s : Server) : ℕ :=
  s.connections.countP (Connection.recycles quota)

/-- At most `bound` connections are open. -/
def Opens (bound : ℕ) (s : Server) (_ : Action) : Prop :=
  s.opened ≤ bound

instance (s : Server) (action : Action) : Decidable (s.Opens bound action) :=
  inferInstanceAs (Decidable (_ ≤ _))

/-- A connection is about to be counted, about to set the flag, or neither. -/
theorem pending_add_recyclers_le : s.pending + s.recyclers quota ≤ s.opened := by
  simp only [pending, recyclers, opened]
  induction s.connections with
  | nil => simp
  | cons connection rest ih =>
      simp only [List.countP_cons]
      have apart : (if connection.isPending = true then 1 else 0) +
          (if connection.recycles quota = true then 1 else 0) ≤
          if (!connection.isEnded) = true then 1 else 0 := by
        cases pending : connection.isPending with
        | true =>
            have ⟨alive, counted⟩ : connection.isEnded = false ∧
                connection.recycles quota = false := Connection.ended_of_pending pending
            simp [alive, counted]
        | false =>
            cases recycles : connection.recycles quota with
            | true => simp [Connection.ended_of_recycles recycles]
            | false => simp
      omega

/-- Up to the flag, a completed request past the quota has its connection about to set it; from
there on, only the pending requests are still counted. -/
structure Limited (quota bound : ℕ) (s : Server) : Prop where
  unset : s.shutdown.flag = false → s.completed + 1 ≤ quota + s.recyclers quota
  set : s.shutdown.flag = true → s.completed + s.pending + 1 ≤ quota + bound

/-- A step of the connection at `index` that counts nothing and sets no flag. -/
theorem Limited.of_moved {connection later : Connection} (limited : s.Limited quota bound)
    (found : s.connections[index]? = some connection)
    (connections : next.connections = s.connections.set index later)
    (flag : next.shutdown.flag = s.shutdown.flag) (completed : next.completed = s.completed)
    (pending : s.shutdown.flag = true → later.isPending = true → connection.isPending = true)
    (recycles : connection.recycles quota = true → later.recycles quota = true) :
    next.Limited quota bound where
  unset := by
    intro unset
    have before := limited.unset (flag ▸ unset)
    have moved := countP_set_add (Connection.recycles quota) found later
    rw [recyclers, connections, completed]
    rw [recyclers] at before
    split at moved <;> split at moved <;> first | omega | simp_all
  set := by
    intro set
    have before := limited.set (flag ▸ set)
    have moved := countP_set_add Connection.isPending found later
    rw [Server.pending, connections, completed]
    rw [Server.pending] at before
    split at moved <;> split at moved <;> first | omega | simp_all

theorem Limited.count (limited : s.Limited quota bound)
    (found : s.connections[index]? = some (.returned id)) :
    { s.setConnection index (.counted id (s.completed + 1)) with
      completed := s.completed + 1 : Server }.Limited quota bound where
  unset := by
    intro unset
    have before := limited.unset unset
    have moved := countP_set_add (Connection.recycles quota) found (.counted id (s.completed + 1))
    simp only [recyclers, setConnection, Connection.recycles, decide_eq_true_eq,
      Bool.false_eq_true, if_false] at before moved ⊢
    split at moved <;> omega
  set := by
    intro set
    have before := limited.set set
    have moved := countP_set_add Connection.isPending found (.counted id (s.completed + 1))
    simp only [pending, setConnection, Connection.isPending, Bool.false_eq_true, if_false,
      if_true] at before moved ⊢
    omega

/-- A step of a call of `trigger`. When it sets the flag, every open connection is in at most one of
the two counts. -/
theorem Limited.calls (limited : s.Limited quota bound) (opens : s.opened ≤ bound)
    (flag : s.shutdown.flag = true → next.shutdown.flag = true)
    (completed : next.completed = s.completed) (pending : next.pending = s.pending)
    (recyclers : next.shutdown.flag = false → next.recyclers quota = s.recyclers quota) :
    next.Limited quota bound where
  unset := by
    intro unset
    have still : s.shutdown.flag = false := by
      apply Bool.eq_false_iff.mpr
      intro set
      rw [flag set] at unset
      cases unset
    rw [completed, recyclers unset]
    exact limited.unset still
  set := by
    intro _
    rw [completed, pending]
    cases before : s.shutdown.flag with
    | true => exact limited.set before
    | false =>
        have reached := limited.unset before
        have apart : s.pending + s.recyclers quota ≤ s.opened := pending_add_recyclers_le
        omega

theorem Limited.stepConnection {connection : Connection} {act : ConnectionAction}
    (limited : s.Limited config.maxRequests bound) (quota : 0 < config.maxRequests)
    (opens : s.opened ≤ bound) (found : s.connections[index]? = some connection)
    (stepped : ConnectionStep config s index connection act next) :
    next.Limited config.maxRequests bound := by
  cases stepped with
  | guard | answer =>
      exact limited.of_moved found rfl rfl rfl (fun _ _ => rfl) fun recycles => by cases recycles
  | refuse | refused | dropService | dropBody | dropResponse =>
      refine limited.of_moved found rfl rfl rfl ?_ fun recycles => by cases recycles
      intro _ pending
      cases pending
  | leave free =>
      refine limited.of_moved found rfl rfl rfl (fun _ pending => by cases pending) ?_
      intro recycles
      rw [Connection.recycles_of_free free] at recycles
      cases recycles
  | enter unset =>
      refine limited.of_moved found rfl rfl rfl ?_ fun recycles => by cases recycles
      intro set
      rw [unset] at set
      cases set
  | count => exact limited.count found
  | recycle => exact limited.of_moved found rfl rfl rfl (fun _ => id) fun _ => rfl
  | proceed below =>
      refine limited.of_moved found rfl rfl rfl (fun _ => id) ?_
      intro recycles
      exact absurd ⟨quota, of_decide_eq_true recycles⟩ below
  | @trigger id call later advanced =>
      refine limited.calls opens Shutdown.advance_flag rfl (countP_set_of_eq found rfl) ?_
      intro unset
      apply countP_set_of_eq found
      have other : call ≠ .notify := by
        rintro rfl
        cases advanced
      have more : later ≠ .notify := by
        rintro rfl
        exact absurd (Shutdown.flag_of_advance_notify advanced) (Bool.eq_false_iff.mp unset)
      simp [Connection.recycles, other, more]
  | @triggered id call advanced =>
      refine limited.calls opens Shutdown.advance_flag rfl (countP_set_of_eq found rfl) ?_
      intro unset
      apply countP_set_of_eq found
      have notifies : call = .notify := by
        cases call with
        | storeQuick => cases advanced
        | swap =>
            have set := Shutdown.flag_of_advance_swap advanced
            exact absurd (Shutdown.advance_flag set) (Bool.eq_false_iff.mp unset)
        | notify => rfl
      simp [Connection.recycles, notifies]
  | take => exact ⟨limited.unset, limited.set⟩
  | @finish id exchange =>
      refine limited.of_moved found rfl rfl rfl ?_ fun recycles => by cases recycles
      intro _ pending
      split at pending <;> cases pending

theorem Limited.step (limited : s.Limited config.maxRequests bound)
    (quota : 0 < config.maxRequests) (opens : s.Opens bound action)
    (stepped : s.step config action = some next) : next.Limited config.maxRequests bound := by
  cases step_cases stepped with
  | serve stepped => cases stepped <;> exact ⟨limited.unset, limited.set⟩
  | gracefulTimeout => exact ⟨limited.unset, limited.set⟩
  | acceptor _ stepped =>
      cases stepped with
      | leave | enter | park | wake | accept | handshake => exact ⟨limited.unset, limited.set⟩
      | spawn =>
          refine limited.calls opens id rfl ?_ fun _ => ?_
          · simp [pending, Connection.isPending]
          · simp [recyclers, Connection.recycles]
  | watcher calling => exact limited.calls opens calling.flag rfl rfl fun _ => rfl
  | heartbeat calling => exact limited.calls opens calling.flag rfl rfl fun _ => rfl
  | connection found stepped => exact limited.stepConnection quota opens found stepped
  | handler => exact ⟨limited.unset, limited.set⟩

theorem limited_init (quota : 0 < config.maxRequests) :
    (init config).Limited config.maxRequests bound where
  unset := fun _ => le_trans (Nat.succ_le_of_lt quota) (Nat.le_add_right _ _)
  set := fun set => by cases set

/-- What every connection knows of the completed requests is true. -/
def Knowing (quota : ℕ) (s : Server) : Prop :=
  ∀ connection ∈ s.connections, connection.KnowsOf quota s.completed

theorem Knowing.of_moved {later : Connection} (knowing : s.Knowing quota)
    (connections : next.connections = s.connections.set index later)
    (grown : s.completed ≤ next.completed) (knows : later.KnowsOf quota next.completed) :
    next.Knowing quota := by
  intro connection member
  rw [connections] at member
  rcases List.mem_or_eq_of_mem_set member with before | rfl
  · exact (knowing connection before).mono grown
  · exact knows

theorem Knowing.stepConnection {connection : Connection} {act : ConnectionAction}
    (knowing : s.Knowing config.maxRequests) (found : s.connections[index]? = some connection)
    (stepped : ConnectionStep config s index connection act next) :
    next.Knowing config.maxRequests := by
  have knows := knowing connection (List.mem_of_getElem? found)
  cases stepped with
  | refuse | enter | refused | guard | answer | proceed | triggered | leave | dropService
  | dropBody | dropResponse => exact knowing.of_moved rfl le_rfl trivial
  | count => exact knowing.of_moved rfl (Nat.le_succ _) le_rfl
  | recycle reached => exact knowing.of_moved rfl le_rfl (le_trans reached.2 knows)
  | trigger => exact knowing.of_moved rfl le_rfl knows
  | take => exact knowing
  | @finish id exchange =>
      refine knowing.of_moved rfl (le_refl s.completed) ?_
      split <;> trivial

theorem Knowing.step (knowing : s.Knowing config.maxRequests)
    (stepped : s.step config action = some next) : next.Knowing config.maxRequests := by
  cases step_cases stepped with
  | serve stepped => cases stepped <;> exact knowing
  | gracefulTimeout | watcher | heartbeat | handler => exact knowing
  | acceptor _ stepped =>
      cases stepped with
      | leave | enter | park | wake | accept | handshake => exact knowing
      | spawn =>
          intro connection member
          rcases List.mem_append.mp member with before | new
          · exact knowing connection before
          · rw [List.mem_singleton.mp new]
            trivial
  | connection found stepped => exact knowing.stepConnection found stepped

/-- Where a connection's step sets the flag, it has counted a request that reaches the quota. -/
theorem Knowing.completed_of_set {connection : Connection} {act : ConnectionAction}
    (knowing : s.Knowing config.maxRequests) (found : s.connections[index]? = some connection)
    (stepped : ConnectionStep config s index connection act next)
    (unset : s.shutdown.flag = false) (set : next.shutdown.flag = true) :
    config.maxRequests ≤ s.completed := by
  have knows := knowing connection (List.mem_of_getElem? found)
  cases stepped with
  | trigger | triggered => exact knows
  | _ =>
      have still : s.shutdown.flag = true := set
      rw [unset] at still
      cases still

/-- The connection at `index` has counted the request `id` as the last one of the quota. Unless the
flag is set, it is still between that and its `swap`. -/
def Recycles (quota index id : ℕ) (s : Server) : Prop :=
  s.shutdown.flag = true ∨ s.connections[index]? = some (.counted id quota) ∨
    s.connections[index]? = some (.recycling id .swap)

theorem Recycles.step (recycles : s.Recycles config.maxRequests index id)
    (quota : 0 < config.maxRequests) (stepped : s.step config action = some next) :
    next.Recycles config.maxRequests index id := by
  rcases recycles with set | counted | recycling
  · exact .inl (flag_step set stepped)
  · rcases connection_step counted stepped with still | ⟨act, _, moved⟩
    · exact .inr (.inl still)
    · have bound := (List.getElem?_eq_some_iff.mp counted).1
      cases moved with
      | recycle => exact .inr (.inr (List.getElem?_set_self bound))
      | proceed below => exact absurd ⟨quota, le_rfl⟩ below
      | leave free => cases free
  · rcases connection_step recycling stepped with still | ⟨act, _, moved⟩
    · exact .inr (.inr still)
    · cases moved with
      | trigger => exact .inl Shutdown.advance_swap_flag
      | triggered => exact .inl Shutdown.advance_swap_flag
      | leave free => cases free

/-- The connection has found the flag set, or would find it set. -/
def Turned (index : ℕ) (s : Server) : Prop :=
  s.shutdown.flag = true ∧
    ∃ connection, s.connections[index]? = some connection ∧ connection.isFree = true

theorem Turned.step (turned : s.Turned index) (stepped : s.step config action = some next) :
    next.Turned index := by
  rcases turned with ⟨set, connection, found, free⟩
  refine ⟨flag_step set stepped, ?_⟩
  have bound := (List.getElem?_eq_some_iff.mp found).1
  rcases connection_step found stepped with still | ⟨act, _, moved⟩
  · exact ⟨connection, still, free⟩
  · cases moved with
    | refuse | refused | leave => exact ⟨_, List.getElem?_set_self bound, rfl⟩
    | enter unset =>
        rw [set] at unset
        cases unset
    | _ => cases free

theorem turned_of_request {call : Call} (set : s.shutdown.flag = true)
    (stepped : s.step config (.connection index (.request call)) = some next) :
    next.Turned index := by
  refine ⟨flag_step set stepped, ?_⟩
  cases step_cases stepped with
  | connection found moved =>
      have bound := (List.getElem?_eq_some_iff.mp found).1
      cases moved with
      | refuse => exact ⟨_, List.getElem?_set_self bound, rfl⟩
      | enter unset =>
          rw [set] at unset
          cases unset

/-- What a quota comes to in the state `s` that a run has reached by `actions`. -/
structure QuotaKept (config : ServeConfig) (actions : List Action) (s : Server) : Prop where
  /-- At most `bound` connections have been open at a time. -/
  limited : ∀ bound, Along (step config) (Opens bound) (init config) actions → s.opened ≤ bound →
    s.completed ≤ config.maxRequests + bound - 1
  /-- The quota sets the flag. -/
  earned : ∀ index act next, s.step config (.connection index act) = some next →
    s.shutdown.flag = false → next.shutdown.flag = true → config.maxRequests ≤ s.completed
  /-- The last request of the quota is counted, and the run goes on. -/
  recycled : ∀ index id next later last, s.connections[index]? = some (.returned id) →
    s.completed + 1 = config.maxRequests → s.step config (.connection index .count) = some next →
    run (step config) next later = some last → last.Recycles config.maxRequests index id
  /-- A request comes when the flag is set, and the run goes on. -/
  refused : ∀ index call next later last, s.shutdown.flag = true →
    s.step config (.connection index (.request call)) = some next →
    run (step config) next later = some last → last.Turned index

theorem quotaKept_of_run (quota : 0 < config.maxRequests)
    (ran : run (step config) (init config) actions = some final) :
    final.QuotaKept config actions where
  limited := by
    intro bound opens opened
    have limited : final.Limited config.maxRequests bound := by
      apply run_invariant (Limited config.maxRequests bound) _ opens ran (limited_init quota)
      intro current action next limited allowed stepped
      exact limited.step quota allowed stepped
    have apart : final.pending + final.recyclers config.maxRequests ≤ final.opened :=
      pending_add_recyclers_le
    cases flag : final.shutdown.flag with
    | false =>
        have reached := limited.unset flag
        omega
    | true =>
        have reached := limited.set flag
        omega
  earned := by
    intro index act next stepped unset set
    have knowing : final.Knowing config.maxRequests := by
      apply run_invariant_of_step (Knowing config.maxRequests) _ ran
      · intro connection member
        cases member
      · intro current action next knowing stepped
        exact knowing.step stepped
    cases step_cases stepped with
    | connection found moved => exact knowing.completed_of_set found moved unset set
  recycled := by
    intro index id next later last returned reached counted onward
    apply run_invariant_of_step (Recycles config.maxRequests index id) _ onward
    · cases step_cases counted with
      | connection found moved =>
          have bound := (List.getElem?_eq_some_iff.mp found).1
          cases moved with
          | count =>
              rw [returned, Option.some.injEq, Connection.returned.injEq] at found
              refine .inr (.inl ?_)
              rw [← reached, found]
              exact List.getElem?_set_self bound
    · intro current action next recycles stepped
      exact recycles.step quota stepped
  refused := by
    intro index call next later last set requested onward
    apply run_invariant_of_step (Turned index) _ onward (turned_of_request set requested)
    intro current action next turned stepped
    exact turned.step stepped

/-- The only request of the quota is answered, and its connection recycles the worker. -/
def recycleRun : List Action :=
  [.acceptor 0 .check, .acceptor 0 (.accept true), .acceptor 0 .spawn,
    .connection 0 (.request .immediate), .connection 0 .guard, .handler 0 .answer,
    .connection 0 .handled, .connection 0 .count, .connection 0 .compare, .connection 0 .advance]

theorem quotaKept_of_run_recycled :
    ∃ final, run (step { listeners := [.plain], maxRequests := 1 })
        (init { listeners := [.plain], maxRequests := 1 }) recycleRun = some final ∧
      final.completed = 1 ∧ final.shutdown.flag = true ∧
      final.QuotaKept { listeners := [.plain], maxRequests := 1 } recycleRun := by
  have ran : ∃ final, run (step { listeners := [.plain], maxRequests := 1 })
      (init { listeners := [.plain], maxRequests := 1 }) recycleRun = some final ∧
      final.completed = 1 ∧ final.shutdown.flag = true :=
    exists_of_run_any (by decide +kernel)
  rcases ran with ⟨final, ran, completed, set⟩
  exact ⟨final, ran, completed, set, quotaKept_of_run Nat.one_pos ran⟩

end Server

end RustAsgi
