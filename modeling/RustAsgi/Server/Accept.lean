import RustAsgi.Server.Wakeup

/-!
# Who can hold an accept task

An accept task of a TLS listener awaits the handshake of the client it has just
accepted. As long as that client says nothing, the task accepts nobody else, does
not look at the flag, and `serve` does not get past joining it.
-/

namespace RustAsgi

open Machine Tokio

/-- The step waits for no client. -/
def AcceptorAction.unaided : AcceptorAction → Bool
  | .check | .park | .wake | .spawn => true
  | .accept _ | .handshake _ => false

namespace Acceptor

def isAlive (acceptor : Acceptor) : Bool :=
  decide (acceptor.stage ≠ .ended)

def isSpawning (acceptor : Acceptor) : Bool :=
  decide (acceptor.stage = .spawning)

def isSelect (acceptor : Acceptor) : Bool :=
  decide (acceptor.stage = .select)

end Acceptor

namespace Server

variable {config : ServeConfig} {s next final : Server} {action : Action} {actions : List Action}
  {index : ℕ} {acceptor : Acceptor}

/-- A step of an accept task or of a call of `trigger` that waits for no client. -/
def Action.unaided : Action → Bool
  | .acceptor _ act => act.unaided
  | .watcher .advance | .heartbeat .advance | .connection _ .advance => true
  | _ => false

/-- The accept task at `index` gets to where it takes the next connection. -/
def CanAccept (config : ServeConfig) (s : Server) (index : ℕ) : Prop :=
  ∃ (own : List AcceptorAction) (later : Server), (∀ act ∈ own, act.unaided = true) ∧
    run (step config) s (own.map (.acceptor index)) = some later ∧
    (later.step config (.acceptor index (.accept true))).isSome = true

/-- The accept tasks get to their ends. -/
def CanExit (config : ServeConfig) (s : Server) : Prop :=
  ∃ (actions : List Action) (later : Server), (∀ action ∈ actions, action.unaided = true) ∧
    run (step config) s actions = some later ∧
    ∀ acceptor ∈ later.acceptors, acceptor.stage = .ended

/-- No client holds an accept task or the shutdown. -/
structure Unheld (config : ServeConfig) (s : Server) : Prop where
  accepts : s.shutdown.flag = false → ∀ index acceptor, s.acceptors[index]? = some acceptor →
    acceptor.stage ≠ .ended → s.CanAccept config index
  exits : s.shutdown.flag = true → s.CanExit config

/-- No accept task awaits a handshake. -/
def Unshaken (s : Server) : Prop :=
  ∀ acceptor ∈ s.acceptors, acceptor.stage ≠ .handshake

instance (s : Server) : Decidable s.Unshaken :=
  inferInstanceAs (Decidable (∀ _ ∈ _, _))

/-- The accept task is to be woken, and has not been. -/
def Expects (s : Server) (index : ℕ) (acceptor : Acceptor) : Prop :=
  acceptor.stage = .select ∨
    acceptor.stage = .selecting ∧ s.shutdown.notify.Waits (.acceptor index)

/-- A shutdown whose trigger is over is expected by no accept task. -/
def Announced (s : Server) : Prop :=
  s.shutdown.flag = true → s.Notifying ∨
    ∀ index acceptor, s.acceptors[index]? = some acceptor → ¬ s.Expects index acceptor

theorem stepAcceptor_handshake {act : AcceptorAction} (handshake : acceptor.stage = .handshake)
    (unaided : act.unaided = true) : s.stepAcceptor index acceptor act = none := by
  cases act with
  | check | park | wake | spawn => simp [stepAcceptor, handshake]
  | accept succeeded => cases unaided
  | handshake succeeded => cases unaided

/-- Without its client, an accept task does not get out of the handshake. -/
theorem handshake_step (handshake : acceptor.stage = .handshake)
    (found : s.acceptors[index]? = some acceptor) (unaided : action.unaided = true)
    (stepped : s.step config action = some next) : next.acceptors[index]? = some acceptor := by
  rcases acceptor_step found stepped with still | ⟨act, rfl, moved⟩
  · exact still
  · rw [stepAcceptor_handshake handshake unaided] at moved
    cases moved

theorem handshake_run (handshake : acceptor.stage = .handshake)
    (found : s.acceptors[index]? = some acceptor)
    (unaided : ∀ action ∈ actions, action.unaided = true)
    (ran : run (step config) s actions = some final) : final.acceptors[index]? = some acceptor := by
  have along : Along (step config) (fun _ action => action.unaided = true) s actions :=
    along_of_forall fun action member _ => unaided action member
  apply run_invariant (fun current => current.acceptors[index]? = some acceptor) _ along ran found
  intro current action next here allowed stepped
  exact handshake_step handshake here allowed stepped

theorem not_canAccept (handshake : acceptor.stage = .handshake)
    (found : s.acceptors[index]? = some acceptor) : ¬ s.CanAccept config index := by
  rintro ⟨own, later, unaided, ran, accepts⟩
  have still : later.acceptors[index]? = some acceptor := by
    apply handshake_run handshake found _ ran
    intro action member
    rcases List.mem_map.mp member with ⟨act, mine, rfl⟩
    exact unaided act mine
  simp [step, still, stepAcceptor, handshake] at accepts

/-- The trigger is over, and the accept task at `index` still expects to hear of it. -/
def Stranded (s : Server) (index : ℕ) : Prop :=
  s.shutdown.flag = true ∧ ¬ s.Notifying ∧
    ∃ acceptor, s.acceptors[index]? = some acceptor ∧ s.Expects index acceptor

theorem Expects.of_waits {later : Server} (expects : s.Expects index acceptor)
    (waits : s.shutdown.notify.Waits (.acceptor index) →
      later.shutdown.notify.Waits (.acceptor index)) : later.Expects index acceptor := by
  rcases expects with selects | ⟨selecting, parked⟩
  · exact .inl selects
  · exact .inr ⟨selecting, waits parked⟩

/-- A step of a call of `trigger`, by whichever task. -/
theorem Stranded.call {advances : Bool} {call? later? : Option Trigger}
    (stranded : s.Stranded index) (step : CallStep s next advances call? later?) :
    next.Stranded index := by
  rcases stranded with ⟨set, quiet, acceptor, found, expects⟩
  rcases step with ⟨calling, _, acceptors, others, before, after⟩
  generalize now : next.shutdown = shutdown at calling
  cases calling with
  | rest same =>
      refine ⟨now ▸ set, ?_, acceptor, acceptors ▸ found, expects.of_waits (by rw [now]; exact id)⟩
      rw [after, same, ← before]
      exact quiet
  | advance call =>
      have other : call ≠ .notify := by
        rintro rfl
        exact quiet (before.mpr (.inl rfl))
      refine ⟨now ▸ Shutdown.advance_flag set, ?_, acceptor, acceptors ▸ found, ?_⟩
      · intro notifying
        rcases after.mp notifying with mine | theirs
        · exact Shutdown.advance_of_set set mine
        · exact quiet (before.mpr (.inr theirs))
      · apply expects.of_waits
        rw [now, Shutdown.advance_notify other]
        exact id

/-- Of its own accord it does no more than park. -/
theorem Stranded.stepAcceptor {act : AcceptorAction} {other : ℕ} {each : Acceptor}
    (stranded : s.Stranded index) (here : s.acceptors[other]? = some each)
    (unaided : act.unaided = true) (stepped : s.stepAcceptor other each act = some next) :
    next.Stranded index := by
  rcases stranded with ⟨set, quiet, acceptor, found, expects⟩
  by_cases same : other = index
  · subst same
    rw [found, Option.some.injEq] at here
    subst here
    have bound : other < s.acceptors.length := (List.getElem?_eq_some_iff.mp found).1
    cases act with
    | park =>
        simp only [Server.stepAcceptor, Option.ite_none_right_eq_some, Option.some.injEq] at stepped
        rcases stepped with ⟨_, rfl⟩
        exact ⟨set, quiet, _, List.getElem?_set_self bound, .inr ⟨rfl, Notify.waits_notified⟩⟩
    | check | wake | spawn =>
        rcases expects with selects | ⟨selecting, waits⟩ <;> simp_all [Server.stepAcceptor]
    | accept | handshake => cases unaided
  · have still (later : Acceptor) : (s.acceptors.set other later)[index]? = some acceptor :=
      (List.getElem?_set_ne same).trans found
    cases stepAcceptor_cases stepped with
    | leave | enter | wake | handshake =>
        exact ⟨set, quiet, acceptor, still _, expects.of_waits id⟩
    | park =>
        refine ⟨set, quiet, acceptor, still _, expects.of_waits ?_⟩
        intro waits
        exact Notify.waits_notified_of_waits waits
    | accept =>
        refine ⟨set, quiet, acceptor, still _, expects.of_waits ?_⟩
        intro waits
        exact Notify.waits_drop.mpr ⟨waits, by simpa using Ne.symm same⟩
    | spawn =>
        refine ⟨set, ?_, acceptor, still _, expects.of_waits id⟩
        intro notifying
        exact quiet (notifying_append notifying)

theorem Stranded.step (stranded : s.Stranded index) (unaided : action.unaided = true)
    (stepped : s.step config action = some next) : next.Stranded index := by
  cases action with
  | acceptor other act =>
      simp only [Server.step, Option.bind_eq_some_iff] at stepped
      rcases stepped with ⟨each, here, moved⟩
      exact stranded.stepAcceptor here unaided moved
  | watcher =>
      cases step_cases stepped with
      | watcher calling => exact stranded.call (callStep_watcher calling)
  | heartbeat =>
      cases step_cases stepped with
      | heartbeat calling => exact stranded.call (callStep_heartbeat calling)
  | connection =>
      cases step_cases stepped with
      | connection found moved =>
          rcases callStep_connection found moved with ⟨later?, call⟩
          exact stranded.call call
  | serve | gracefulTimeout | handler => cases unaided

theorem Stranded.not_canExit (stranded : s.Stranded index) : ¬ s.CanExit config := by
  rintro ⟨actions, later, unaided, ran, ended⟩
  have along : Along (Server.step config) (fun _ action => action.unaided = true) s actions :=
    along_of_forall fun action member _ => unaided action member
  have still : later.Stranded index := by
    apply run_invariant (fun current => current.Stranded index) _ along ran stranded
    intro current action next before allowed stepped
    exact before.step allowed stepped
  rcases still with ⟨_, _, acceptor, found, expects⟩
  have left := ended acceptor (List.mem_of_getElem? found)
  rcases expects with selects | ⟨selecting, _⟩
  · rw [left] at selects
    cases selects
  · rw [left] at selecting
    cases selecting

theorem not_canExit (handshake : acceptor.stage = .handshake)
    (found : s.acceptors[index]? = some acceptor) : ¬ s.CanExit config := by
  rintro ⟨actions, later, unaided, ran, ended⟩
  have still := handshake_run handshake found unaided ran
  rw [ended acceptor (List.mem_of_getElem? still)] at handshake
  cases handshake

theorem Unheld.unshaken (unheld : s.Unheld config) : s.Unshaken := by
  intro acceptor member handshake
  rcases List.mem_iff_getElem?.mp member with ⟨index, found⟩
  cases flag : s.shutdown.flag with
  | true => exact not_canExit handshake found (unheld.exits flag)
  | false =>
      have alive : acceptor.stage ≠ .ended := by
        rw [handshake]
        decide
      exact not_canAccept handshake found (unheld.accepts flag index acceptor found alive)

theorem Unheld.announced (unheld : s.Unheld config) : s.Announced := by
  intro set
  by_cases notifying : s.Notifying
  · exact .inl notifying
  · refine .inr ?_
    intro index acceptor found expects
    have stranded : s.Stranded index := ⟨set, notifying, acceptor, found, expects⟩
    exact stranded.not_canExit (unheld.exits set)

theorem canAccept_of_select (found : s.acceptors[index]? = some acceptor)
    (selects : acceptor.stage = .select ∨ acceptor.stage = .selecting) :
    s.CanAccept config index := by
  refine ⟨[], s, ?_, rfl, ?_⟩
  · intro act member
    cases member
  · simp [step, found, stepAcceptor, selects]

theorem canAccept_of_step {act : AcceptorAction} (unaided : act.unaided = true)
    (stepped : s.step config (.acceptor index act) = some next)
    (can : next.CanAccept config index) : s.CanAccept config index := by
  rcases can with ⟨own, later, rest, ran, accepts⟩
  refine ⟨act :: own, later, ?_, run_cons_eq_some.mpr ⟨next, stepped, ran⟩, accepts⟩
  intro each member
  rcases List.mem_cons.mp member with rfl | mine
  · exact unaided
  · exact rest each mine

theorem canAccept_of_check (unset : s.shutdown.flag = false)
    (found : s.acceptors[index]? = some acceptor) (stage : acceptor.stage = .check) :
    s.CanAccept config index := by
  have bound : index < s.acceptors.length := (List.getElem?_eq_some_iff.mp found).1
  have stepped : s.step config (.acceptor index .check) =
      some (s.setAcceptor index acceptor .select) := by
    simp [step, found, stepAcceptor, stage, unset]
  have selects : (s.setAcceptor index acceptor .select).acceptors[index]? =
      some { acceptor with stage := .select } := List.getElem?_set_self bound
  exact canAccept_of_step rfl stepped (canAccept_of_select selects (.inl rfl))

theorem canAccept (unset : s.shutdown.flag = false) (found : s.acceptors[index]? = some acceptor)
    (shaken : acceptor.stage ≠ .handshake) (alive : acceptor.stage ≠ .ended) :
    s.CanAccept config index := by
  have bound : index < s.acceptors.length := (List.getElem?_eq_some_iff.mp found).1
  cases stage : acceptor.stage with
  | check => exact canAccept_of_check unset found stage
  | select => exact canAccept_of_select found (.inl stage)
  | selecting => exact canAccept_of_select found (.inr stage)
  | spawning =>
      have stepped : s.step config (.acceptor index .spawn) =
          some { s.setAcceptor index acceptor .check with
            connections := s.connections ++ [.idle] } := by
        simp [step, found, stepAcceptor, stage]
      have checks : (s.setAcceptor index acceptor .check).acceptors[index]? =
          some { acceptor with stage := .check } := List.getElem?_set_self bound
      exact canAccept_of_step rfl stepped (canAccept_of_check unset checks rfl)
  | handshake => exact absurd stage shaken
  | ended => exact absurd stage alive

theorem Unshaken.setAcceptor {stage : AcceptorStage} (unshaken : s.Unshaken)
    (other : stage ≠ .handshake) : (s.setAcceptor index acceptor stage).Unshaken := by
  intro each member
  rcases List.mem_or_eq_of_mem_set member with before | rfl
  · exact unshaken each before
  · exact other

/-- The flag is set, and every accept task will find that out. -/
structure Settling (s : Server) : Prop where
  set : s.shutdown.flag = true
  unshaken : s.Unshaken
  unexpected : ∀ index acceptor, s.acceptors[index]? = some acceptor → ¬ s.Expects index acceptor

theorem Settling.setAcceptor {stage : AcceptorStage} (settling : s.Settling)
    (found : s.acceptors[index]? = some acceptor) (later : stage = .ended ∨ stage = .check) :
    (s.setAcceptor index acceptor stage).Settling where
  set := settling.set
  unshaken := settling.unshaken.setAcceptor (by rcases later with rfl | rfl <;> decide)
  unexpected := by
    intro position each here expects
    have bound : index < s.acceptors.length := (List.getElem?_eq_some_iff.mp found).1
    by_cases same : index = position
    · subst same
      simp only [Server.setAcceptor, List.getElem?_set_self bound, Option.some.injEq] at here
      subst here
      rcases later with rfl | rfl
      · rcases expects with selects | ⟨selecting, _⟩
        · cases selects
        · cases selecting
      · rcases expects with selects | ⟨selecting, _⟩
        · cases selects
        · cases selecting
    · simp only [Server.setAcceptor, List.getElem?_set_ne same] at here
      exact settling.unexpected position each here expects

/-- What is left to do of the accept tasks. -/
def unfinished (s : Server) : ℕ :=
  s.acceptors.countP Acceptor.isAlive + s.acceptors.countP Acceptor.isSpawning

theorem unfinished_eq_zero :
    s.unfinished = 0 ↔ ∀ acceptor ∈ s.acceptors, acceptor.stage = .ended := by
  constructor
  · intro zero acceptor member
    have none_ := List.countP_eq_zero.mp (Nat.eq_zero_of_add_eq_zero_right zero) acceptor member
    simpa [Acceptor.isAlive] using none_
  · intro ended
    rw [unfinished, Nat.add_eq_zero_iff, List.countP_eq_zero, List.countP_eq_zero]
    constructor
    · intro acceptor member
      simp [Acceptor.isAlive, ended acceptor member]
    · intro acceptor member
      simp [Acceptor.isSpawning, ended acceptor member]

theorem unfinished_lt {stage : AcceptorStage} (found : s.acceptors[index]? = some acceptor)
    (left : acceptor.stage = .check ∧ stage = .ended ∨
      acceptor.stage = .selecting ∧ stage = .ended ∨
      acceptor.stage = .spawning ∧ stage = .check) :
    (s.setAcceptor index acceptor stage).unfinished < s.unfinished := by
  have alive := countP_set_add Acceptor.isAlive found { acceptor with stage }
  have spawns := countP_set_add Acceptor.isSpawning found { acceptor with stage }
  simp only [unfinished, Server.setAcceptor]
  rcases left with ⟨before, rfl⟩ | ⟨before, rfl⟩ | ⟨before, rfl⟩
  · simp [Acceptor.isAlive, Acceptor.isSpawning, before] at alive spawns
    omega
  · simp [Acceptor.isAlive, Acceptor.isSpawning, before] at alive spawns
    omega
  · simp [Acceptor.isAlive, Acceptor.isSpawning, before] at alive spawns
    omega

/-- An accept task that has not ended goes on by itself. -/
theorem Settling.progress (settling : s.Settling) (remains : s.unfinished ≠ 0) :
    ∃ (action : Action) (next : Server), action.unaided = true ∧
      s.step config action = some next ∧ next.Settling ∧ next.unfinished < s.unfinished := by
  rw [Ne, unfinished_eq_zero] at remains
  push Not at remains
  rcases remains with ⟨acceptor, member, alive⟩
  rcases List.mem_iff_getElem?.mp member with ⟨index, found⟩
  have unexpected := settling.unexpected index acceptor found
  cases stage : acceptor.stage with
  | check =>
      refine ⟨.acceptor index .check, s.setAcceptor index acceptor .ended, rfl, ?_,
        settling.setAcceptor found (.inl rfl), unfinished_lt found (.inl ⟨stage, rfl⟩)⟩
      simp [step, found, stepAcceptor, stage, settling.set]
  | select => exact absurd (.inl stage) unexpected
  | selecting =>
      have woken : ¬ s.shutdown.notify.Waits (.acceptor index) := fun waits =>
        unexpected (.inr ⟨stage, waits⟩)
      refine ⟨.acceptor index .wake, s.setAcceptor index acceptor .ended, rfl, ?_,
        settling.setAcceptor found (.inl rfl), unfinished_lt found (.inr (.inl ⟨stage, rfl⟩))⟩
      simp [step, found, stepAcceptor, stage, woken]
  | handshake => exact absurd stage (settling.unshaken acceptor member)
  | spawning =>
      have settled := settling.setAcceptor found (.inr rfl)
      refine ⟨.acceptor index .spawn,
        { s.setAcceptor index acceptor .check with connections := s.connections ++ [.idle] }, rfl,
        ?_, ⟨settled.set, settled.unshaken, settled.unexpected⟩,
        unfinished_lt found (.inr (.inr ⟨stage, rfl⟩))⟩
      simp [step, found, stepAcceptor, stage]
  | ended => exact absurd stage alive

theorem Settling.canExit (settling : s.Settling) : s.CanExit config := by
  rcases exists_run_of_decreasing Settling unfinished
    (fun _ settling remains => settling.progress remains) settling with
    ⟨actions, later, unaided, ran, _, zero⟩
  exact ⟨actions, later, unaided, ran, unfinished_eq_zero.mp zero⟩

/-- Whoever is about to notify can do so. -/
theorem notify_step (notifying : s.Notifying) :
    ∃ (action : Action) (next : Server), action.unaided = true ∧
      s.step config action = some next ∧ next.acceptors = s.acceptors ∧
      next.shutdown = (s.shutdown.advance .notify).1 := by
  rcases notifying with watcher | heartbeat | ⟨connection, member, call⟩
  · cases stage : s.watcher.stage with
    | triggering signal call =>
        simp only [Watcher.call?, stage, Option.some.injEq] at watcher
        subst watcher
        refine ⟨.watcher .advance, { s with
          shutdown := (s.shutdown.advance .notify).1
          watcher := s.watcher.triggeredBy signal (decide (s.serve = .done)) }, rfl, ?_, rfl, rfl⟩
        simp only [step, Watcher.step, stage, Option.map_some, Shutdown.advance]
    | listening | ended => simp [Watcher.call?, stage] at watcher
  · cases stage : s.heartbeat.stage with
    | triggering call =>
        simp only [Heartbeat.call?, stage, Option.some.injEq] at heartbeat
        subst heartbeat
        refine ⟨.heartbeat .advance, { s with
          shutdown := (s.shutdown.advance .notify).1
          heartbeat := { s.heartbeat with stage := .ended } }, rfl, ?_, rfl, rfl⟩
        simp only [step, Heartbeat.step, stage, Option.map_some, Shutdown.advance]
    | _ => simp [Heartbeat.call?, stage] at heartbeat
  · rcases List.mem_iff_getElem?.mp member with ⟨index, found⟩
    cases connection with
    | recycling id trigger =>
        simp only [Connection.call?, Option.some.injEq] at call
        subst call
        refine ⟨.connection index .advance, { s.setConnection index (.writing id) with
          shutdown := (s.shutdown.advance .notify).1 }, rfl, ?_, rfl, rfl⟩
        simp only [step, found, Option.bind_some, stepConnection, Shutdown.advance]
    | _ => cases call

/-- A notification is on its way to the accept tasks that wait for it. -/
structure Notified (s : Server) : Prop where
  set : s.shutdown.flag = true
  unshaken : s.Unshaken
  notifying : s.Notifying

theorem Notified.progress (notified : s.Notified)
    (remains : s.acceptors.countP Acceptor.isSelect ≠ 0) :
    ∃ (action : Action) (next : Server), action.unaided = true ∧
      s.step config action = some next ∧ next.Notified ∧
      next.acceptors.countP Acceptor.isSelect < s.acceptors.countP Acceptor.isSelect := by
  rcases List.countP_pos_iff.mp (Nat.pos_of_ne_zero remains) with ⟨acceptor, member, selects⟩
  have stage : acceptor.stage = .select := of_decide_eq_true selects
  rcases List.mem_iff_getElem?.mp member with ⟨index, found⟩
  have changed := countP_set_add Acceptor.isSelect found { acceptor with stage := .selecting }
  have parked : (s.setAcceptor index acceptor .selecting).Unshaken :=
    notified.unshaken.setAcceptor (by decide)
  refine ⟨.acceptor index .park, { s.setAcceptor index acceptor .selecting with
    shutdown := { s.shutdown with notify := s.shutdown.notify.notified (.acceptor index) } }, rfl,
    ?_, ⟨notified.set, parked, notified.notifying⟩, ?_⟩
  · simp only [step, found, Option.bind_some, stepAcceptor, stage, if_true]
  · simp only [selects, if_true] at changed
    exact Nat.lt_of_succ_le (Nat.le_of_eq changed)

/-- Every accept task parks, and then all of them are notified. -/
theorem Notified.canExit (notified : s.Notified) : s.CanExit config := by
  have parking : ∃ (parks : List Action) (parked : Server),
      (∀ action ∈ parks, action.unaided = true) ∧ run (step config) s parks = some parked ∧
      parked.Notified ∧ parked.acceptors.countP Acceptor.isSelect = 0 :=
    exists_run_of_decreasing Notified (fun s => s.acceptors.countP Acceptor.isSelect)
      (fun _ notified remains => notified.progress remains) notified
  rcases parking with ⟨parks, parked, own, ran, still, zero⟩
  have notify : ∃ (action : Action) (next : Server), action.unaided = true ∧
      parked.step config action = some next ∧ next.acceptors = parked.acceptors ∧
      next.shutdown = (parked.shutdown.advance .notify).1 := notify_step still.notifying
  rcases notify with ⟨action, next, unaided, stepped, acceptors, shutdown⟩
  have quiet : parked.shutdown.notify.notifyWaiters.Quiet := Notify.quiet_notifyWaiters
  have settling : next.Settling := by
    refine ⟨by rw [shutdown]; exact Shutdown.advance_flag still.set, ?_, ?_⟩
    · rw [Unshaken, acceptors]
      exact still.unshaken
    · intro index acceptor found expects
      rw [acceptors] at found
      rcases expects with selects | ⟨_, waits⟩
      · have none_ := List.countP_eq_zero.mp zero acceptor (List.mem_of_getElem? found)
        exact none_ (decide_eq_true selects)
      · rw [shutdown] at waits
        exact quiet.not_waits waits
  rcases settling.canExit with ⟨actions, later, others, onward, ended⟩
  refine ⟨parks ++ action :: actions, later, ?_, ?_, ended⟩
  · intro each member
    rcases List.mem_append.mp member with first | rest
    · exact own each first
    · rcases List.mem_cons.mp rest with rfl | last
      · exact unaided
      · exact others each last
  · rw [run_append, ran, Option.bind_some]
    exact run_cons_eq_some.mpr ⟨next, stepped, onward⟩

theorem unheld_of_announced (unshaken : s.Unshaken) (announced : s.Announced) :
    s.Unheld config where
  accepts := by
    intro unset index acceptor found alive
    exact canAccept unset found (unshaken acceptor (List.mem_of_getElem? found)) alive
  exits := by
    intro set
    rcases announced set with notifying | unexpected
    · exact Notified.canExit ⟨set, unshaken, notifying⟩
    · exact Settling.canExit ⟨set, unshaken, unexpected⟩

theorem Heard.announced (heard : s.Heard) : s.Announced := by
  intro set
  rcases heard set with notifying | attentive
  · exact .inl notifying
  · refine .inr ?_
    rintro index acceptor found (selects | ⟨_, waits⟩)
    · exact attentive.2.2 acceptor (List.mem_of_getElem? found) selects
    · exact attentive.1.not_waits waits

/-- Only an accept task of a TLS listener awaits a handshake. -/
def Secured (s : Server) : Prop :=
  ∀ acceptor ∈ s.acceptors, acceptor.stage = .handshake → acceptor.listener = .tls

theorem Secured.setAcceptor {stage : AcceptorStage} (secured : s.Secured)
    (tls : stage = .handshake → acceptor.listener = .tls) :
    (s.setAcceptor index acceptor stage).Secured := by
  intro each member handshake
  rcases List.mem_or_eq_of_mem_set member with before | rfl
  · exact secured each before handshake
  · exact tls handshake

theorem Secured.step (secured : s.Secured) (stepped : s.step config action = some next) :
    next.Secured := by
  cases step_cases stepped with
  | serve stepped => cases stepped <;> exact secured
  | gracefulTimeout | watcher | heartbeat | handler => exact secured
  | @acceptor index _ acceptor _ _ stepped =>
      cases stepped with
      | leave | enter | wake => exact secured.setAcceptor fun handshake => by cases handshake
      | park =>
          have kept : (s.setAcceptor index acceptor .selecting).Secured :=
            secured.setAcceptor fun handshake => by cases handshake
          exact kept
      | accept _ after =>
          have before : (s.dropWait index).Secured := secured
          apply before.setAcceptor
          rintro rfl
          simpa using after
      | handshake _ after =>
          apply secured.setAcceptor
          rintro rfl
          simp at after
      | spawn =>
          have kept : (s.setAcceptor index acceptor .check).Secured :=
            secured.setAcceptor fun handshake => by cases handshake
          exact kept
  | connection found stepped =>
      rcases stepped.calling found with ⟨_, _, _, _, acceptors, _⟩
      rw [Secured, acceptors]
      exact secured

theorem secured_init (config : ServeConfig) : (init config).Secured := by
  intro acceptor member handshake
  rcases List.mem_map.mp member with ⟨listener, _, rfl⟩
  cases handshake

/-- What holds an accept task is the handshake of a TLS client, and apart from that a shutdown that
it has missed. -/
theorem unheld_iff (ran : run (step config) (init config) actions = some final) :
    (final.Unheld config ↔ final.Unshaken ∧ final.Announced) ∧
      (Along (step config) Timely (init config) actions →
        (final.Unheld config ↔ final.Unshaken)) ∧ final.Secured := by
  refine ⟨?_, ?_, ?_⟩
  · constructor
    · intro unheld
      exact ⟨unheld.unshaken, unheld.announced⟩
    · rintro ⟨unshaken, announced⟩
      exact unheld_of_announced unshaken announced
  · intro timely
    have heard : final.Heard := by
      apply run_invariant Heard _ timely ran (heard_init config)
      intro current action next heard allowed stepped
      exact heard.step allowed stepped
    constructor
    · intro unheld
      exact unheld.unshaken
    · intro unshaken
      exact unheld_of_announced unshaken heard.announced
  · apply run_invariant_of_step Secured _ ran (secured_init config)
    intro current action next secured stepped
    exact secured.step stepped

def tlsListener : ServeConfig :=
  { listeners := [.tls], maxRequests := 0 }

/-- A client connects to the TLS listener. -/
def connectRun : List Action :=
  [.serve, .acceptor 0 .check, .acceptor 0 .park, .acceptor 0 (.accept true)]

theorem unheld_iff_shaken :
    ∃ final, run (step tlsListener) (init tlsListener)
        (connectRun ++ [.acceptor 0 (.handshake true), .acceptor 0 .spawn]) = some final ∧
      final.connections.length = 1 ∧ final.Unheld tlsListener := by
  have ran : ∃ final, run (step tlsListener) (init tlsListener)
      (connectRun ++ [.acceptor 0 (.handshake true), .acceptor 0 .spawn]) = some final ∧
      final.connections.length = 1 ∧ final.Unshaken :=
    exists_of_run_any (by decide)
  rcases ran with ⟨final, ran, connected, unshaken⟩
  exact ⟨final, ran, connected, ((unheld_iff ran).2.1 (by decide)).mpr unshaken⟩

/-- The client sends nothing, and the worker is told to terminate. -/
theorem silent_client_holds :
    ∃ final, run (step tlsListener) (init tlsListener) (connectRun ++
        [.watcher (.signal .terminate), .watcher (.receive .terminate), .watcher .advance,
          .watcher .advance, .serve, .serve]) = some final ∧
      final.serve = .joining .graceful ∧ ¬ final.Unheld tlsListener := by
  have ran : ∃ final, run (step tlsListener) (init tlsListener) (connectRun ++
      [.watcher (.signal .terminate), .watcher (.receive .terminate), .watcher .advance,
        .watcher .advance, .serve, .serve]) = some final ∧
      final.serve = .joining .graceful ∧ ¬ final.Unshaken :=
    exists_of_run_any (by decide)
  rcases ran with ⟨final, ran, joining, shaken⟩
  exact ⟨final, ran, joining, fun unheld => shaken unheld.unshaken⟩

end Server

end RustAsgi
