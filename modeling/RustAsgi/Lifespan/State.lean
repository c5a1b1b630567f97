import RustAsgi.Lifespan.Startup
import RustAsgi.Python.Heap

/-!
# The lifespan state in the scopes

The lifespan scope has a dictionary of its own under `state`, but what the scopes of
requests get is the object under `state` of the reply. They all get that one object,
and a new dictionary each when there is none.
-/

namespace RustAsgi

open Machine Python

inductive ScopeKind where
  | http
  | websocket
  deriving DecidableEq, Repr

structure Scope where
  kind : ScopeKind
  /-- The object under `state`. -/
  state : ℕ
  deriving DecidableEq, Repr

namespace Scope

/-- What both scope builders do about the state. -/
def build (kind : ScopeKind) (lifespanState : Option ℕ) (heap : Heap) : Scope × Heap :=
  match lifespanState with
  | some state => ({ kind, state }, heap)
  | none => ({ kind, state := heap.size }, heap.alloc .empty)

theorem build_heap {object : ℕ} {heap : Heap} (kind : ScopeKind) (lifespanState : Option ℕ)
    (old : object < heap.size) :
    (build kind lifespanState heap).2.read object = heap.read object ∧
      object < (build kind lifespanState heap).2.size := by
  cases lifespanState with
  | some state => exact ⟨rfl, old⟩
  | none =>
      refine ⟨Heap.read_alloc old, ?_⟩
      simp only [build, Heap.size_alloc]
      omega

end Scope

def buildHttpScope (lifespanState : Option ℕ) (heap : Heap) : Scope × Heap :=
  Scope.build .http lifespanState heap

/-- The scope that `setup_ws_call` builds. -/
def setupWsCall (lifespanState : Option ℕ) (heap : Heap) : Scope × Heap :=
  Scope.build .websocket lifespanState heap

/-- The scopes of a worker, and the dictionaries that its application can reach. -/
structure Scopes where
  mode : LifespanMode
  heap : Heap
  /-- The dictionary under `state` of the lifespan scope. -/
  lifespanScope : ℕ
  /-- The start-up has concluded, and requests are accepted. -/
  serving : Bool
  /-- `AppState::lifespan_state`. -/
  lifespanState : Option ℕ
  built : List Scope

namespace Scopes

/-- `startup` has built the lifespan scope. -/
def init (mode : LifespanMode) (heap : Heap) : Scopes :=
  { mode, heap := heap.alloc .empty, lifespanScope := heap.size, serving := false,
    lifespanState := none, built := [] }

inductive Action where
  /-- The application creates a dictionary. -/
  | create
  /-- The application, in whichever call or task, assigns an item of a dictionary. -/
  | setItem (object : ℕ) (key : String) (value : Value)
  | delItem (object : ℕ) (key : String)
  /-- The race for the reply ends, with the reply if the worker takes one. -/
  | startup (reply : Option (Option Reply))
  | http
  | websocket
  deriving DecidableEq, Repr

def add (s : Scopes) (built : Scope × Heap) : Scopes :=
  { s with heap := built.2, built := s.built ++ [built.1] }

def step (s : Scopes) : Action → Option Scopes
  | .create => some { s with heap := s.heap.alloc .empty }
  | .setItem object key value =>
      if object < s.heap.size then
        some { s with heap := s.heap.write object ((s.heap.read object).setItem key value) }
      else none
  | .delItem object key =>
      if object < s.heap.size then
        some { s with heap := s.heap.write object ((s.heap.read object).delItem key) }
      else none
  | .startup reply =>
      if s.serving = false ∧ ∀ object ∈ reply.join.bind Reply.state, object < s.heap.size then
        match RustAsgi.lifespanState s.mode (conclude reply) with
        | .ok lifespanState => some { s with serving := true, lifespanState }
        | .error _ => none
      else none
  | .http => if s.serving then some (s.add (buildHttpScope s.lifespanState s.heap)) else none
  | .websocket => if s.serving then some (s.add (setupWsCall s.lifespanState s.heap)) else none

namespace Action

/-- What an action makes of the items of an object. -/
def change (object : ℕ) (dict : Dict) : Action → Dict
  | .setItem other key value => if other = object then dict.setItem key value else dict
  | .delItem other key => if other = object then dict.delItem key else dict
  | _ => dict

def opens : Action → Bool
  | .http | .websocket => true
  | _ => false

end Action

variable {s current next final : Scopes} {action : Action} {actions later : List Action}
  {mode : LifespanMode} {heap : Heap} {object : ℕ}

/-- The items of an object after all changes that the actions make to it. -/
def changed (object : ℕ) (dict : Dict) (actions : List Action) : Dict :=
  actions.foldl (Action.change object) dict

/-- What a scope starts with when it is built after `actions`: the captured object with the changes
made to it, or nothing. -/
def inherited (lifespanState : Option ℕ) (heap : Heap) (actions : List Action) : Dict :=
  match lifespanState with
  | some object => changed object (heap.read object) actions
  | none => .empty

theorem read_step (old : object < s.heap.size) (stepped : s.step action = some next) :
    next.heap.read object = action.change object (s.heap.read object) ∧
      object < next.heap.size := by
  cases action with
  | create =>
      simp only [step, Option.some.injEq] at stepped
      subst stepped
      refine ⟨Heap.read_alloc old, ?_⟩
      simp only [Heap.size_alloc]
      omega
  | setItem other key value =>
      simp only [step, Option.ite_none_right_eq_some, Option.some.injEq] at stepped
      rcases stepped with ⟨exists_, rfl⟩
      exact ⟨Heap.read_update (Dict.setItem · key value) exists_, by simpa using old⟩
  | delItem other key =>
      simp only [step, Option.ite_none_right_eq_some, Option.some.injEq] at stepped
      rcases stepped with ⟨exists_, rfl⟩
      exact ⟨Heap.read_update (Dict.delItem · key) exists_, by simpa using old⟩
  | startup reply =>
      simp only [step, Option.ite_none_right_eq_some] at stepped
      rcases stepped with ⟨_, stepped⟩
      split at stepped
      · rw [← Option.some.inj stepped]
        exact ⟨rfl, old⟩
      · cases stepped
  | http =>
      simp only [step, Option.ite_none_right_eq_some, Option.some.injEq] at stepped
      rcases stepped with ⟨_, rfl⟩
      exact Scope.build_heap .http s.lifespanState old
  | websocket =>
      simp only [step, Option.ite_none_right_eq_some, Option.some.injEq] at stepped
      rcases stepped with ⟨_, rfl⟩
      exact Scope.build_heap .websocket s.lifespanState old

/-- An object holds what it held before, with the changes made to it. -/
theorem read_run (old : object < s.heap.size) (ran : run step s actions = some final) :
    final.heap.read object = changed object (s.heap.read object) actions ∧
      object < final.heap.size := by
  induction actions generalizing s with
  | nil =>
      cases ran
      exact ⟨rfl, old⟩
  | cons action rest ih =>
      rcases run_cons_eq_some.mp ran with ⟨next, stepped, ran⟩
      rcases read_step old stepped with ⟨read, kept⟩
      have later := ih kept ran
      rw [read] at later
      exact later

theorem serving_step (serving : s.serving = true) (stepped : s.step action = some next) :
    next.serving = true ∧ next.lifespanState = s.lifespanState := by
  cases action with
  | startup reply => simp [step, serving] at stepped
  | create =>
      simp only [step, Option.some.injEq] at stepped
      subst stepped
      exact ⟨serving, rfl⟩
  | setItem | delItem | http | websocket =>
      simp only [step, Option.ite_none_right_eq_some, Option.some.injEq] at stepped
      rcases stepped with ⟨_, rfl⟩
      exact ⟨serving, rfl⟩

theorem serving_run (serving : s.serving = true) (ran : run step s actions = some final) :
    final.serving = true ∧ final.lifespanState = s.lifespanState := by
  apply run_invariant_of_step (fun current : Scopes =>
    current.serving = true ∧ current.lifespanState = s.lifespanState) _ ran ⟨serving, rfl⟩
  intro current action next ⟨serving, same⟩ stepped
  rcases serving_step serving stepped with ⟨still, kept⟩
  exact ⟨still, kept.trans same⟩

/-- The state that the start-up captures is the one of the reply. -/
theorem state_of_conclude {reply : Option (Option Reply)} {lifespanState : Option ℕ}
    (concluded : RustAsgi.lifespanState mode (conclude reply) = .ok lifespanState)
    (captured : object ∈ lifespanState) : object ∈ reply.join.bind Reply.state := by
  rcases reply with _ | _ | reply
  · cases mode <;> cases concluded <;> cases captured
  · cases mode <;> cases concluded <;> cases captured
  · show object ∈ reply.state
    simp only [conclude, classify] at concluded
    split at concluded
    · cases mode with
      | off =>
          cases concluded
          cases captured
      | auto | on =>
          cases concluded
          exact captured
    · split at concluded
      · cases mode <;> cases concluded
        cases captured
      · cases mode <;> cases concluded <;> cases captured

/-- The worker serves with what the start-up makes of the reply, an object that exists. -/
theorem startup_step {reply : Option (Option Reply)}
    (started : s.step (.startup reply) = some next) :
    next.serving = true ∧ next.heap = s.heap ∧
      RustAsgi.lifespanState s.mode (conclude reply) = .ok next.lifespanState ∧
      ∀ object ∈ next.lifespanState, object < next.heap.size := by
  simp only [step, Option.ite_none_right_eq_some] at started
  rcases started with ⟨⟨_, named⟩, started⟩
  split at started
  · rename_i lifespanState concluded
    rw [← Option.some.inj started]
    refine ⟨rfl, rfl, concluded, ?_⟩
    intro object captured
    apply named
    exact state_of_conclude concluded captured
  · cases started

/-- A scope built after `actions`, whatever its kind. -/
theorem opened_of_run (serving : s.serving = true)
    (captured : ∀ object ∈ s.lifespanState, object < s.heap.size)
    (ran : run step s actions = some current) (opens : action.opens = true)
    (opened : current.step action = some next) :
    ∃ scope, next.built = current.built ++ [scope] ∧
      next.heap.read scope.state = inherited s.lifespanState s.heap actions ∧
      (∀ object ∈ s.lifespanState, scope.state = object) ∧
      (s.lifespanState = none → scope.state = current.heap.size) := by
  rcases serving_run serving ran with ⟨still, same⟩
  have built : ∃ kind, next = current.add (Scope.build kind s.lifespanState current.heap) := by
    cases action with
    | http =>
        refine ⟨.http, ?_⟩
        simpa [step, still, same, buildHttpScope] using opened.symm
    | websocket =>
        refine ⟨.websocket, ?_⟩
        simpa [step, still, same, setupWsCall] using opened.symm
    | create | setItem | delItem | startup => cases opens
  rcases built with ⟨kind, rfl⟩
  refine ⟨(Scope.build kind s.lifespanState current.heap).1, rfl, ?_⟩
  cases state : s.lifespanState with
  | some object =>
      refine ⟨(read_run (captured object state) ran).1, ?_, ?_⟩
      · intro other same
        exact Option.some.inj same
      · intro none_
        cases none_
  | none =>
      refine ⟨Heap.read_alloc_self, ?_, fun _ => rfl⟩
      intro object some_
      cases some_

def complete (state : Option ℕ) : Reply :=
  { kind := some "lifespan.startup.complete", state, message := none }

/-- The worker takes this reply. -/
def replied (state : Option ℕ) : Action :=
  .startup (some (some (complete state)))

def answer : Action :=
  .setItem 0 "answer" (.str "42")

/-- Every scope has the captured object itself, with all that has been done to it; without one it
has a dictionary of its own. -/
theorem state_shared {reply : Option (Option Reply)} {serving : Scopes}
    (replied : s.step (.startup reply) = some serving)
    (ran : run step serving later = some current) (opens : action.opens = true)
    (opened : current.step action = some next) :
    ∃ scope, next.built = current.built ++ [scope] ∧
      match serving.lifespanState with
      | some object =>
          scope.state = object ∧
            next.heap.read object = changed object (serving.heap.read object) later
      | none => scope.state = current.heap.size ∧ next.heap.read scope.state = .empty := by
  rcases startup_step replied with ⟨serves, _, _, captured⟩
  rcases opened_of_run serves captured ran opens opened with ⟨scope, built, read, shared, fresh⟩
  refine ⟨scope, built, ?_⟩
  cases state : serving.lifespanState with
  | some object =>
      have same := shared object state
      rw [state, same] at read
      exact ⟨same, read⟩
  | none =>
      rw [state] at read
      exact ⟨fresh state, read⟩

theorem state_shared_twice :
    ∃ serving current next, (init .auto ⟨[.empty]⟩).step (replied (some 0)) = some serving ∧
      run step serving [.http, answer] = some current ∧ current.step .websocket = some next ∧
      ∃ scope, next.built = current.built ++ [scope] ∧
        match serving.lifespanState with
        | some object =>
            scope.state = object ∧
              next.heap.read object = changed object (serving.heap.read object) [.http, answer]
        | none => scope.state = current.heap.size ∧ next.heap.read scope.state = .empty := by
  have ran : ∃ final, run step (init .auto ⟨[.empty]⟩)
      ([replied (some 0), .http, answer] ++ [.websocket]) = some final :=
    ⟨_, rfl⟩
  rcases ran with ⟨final, ran⟩
  rw [run_append, Option.bind_eq_some_iff] at ran
  rcases ran with ⟨current, ran, last⟩
  rcases run_cons_eq_some.mp ran with ⟨serving, replied, ran⟩
  rcases run_cons_eq_some.mp last with ⟨next, opened, _⟩
  exact ⟨serving, current, next, replied, ran, opened, state_shared replied ran rfl opened⟩

/-- What the first request writes into its state, the next connection finds in its own. -/
theorem state_leaks :
    ∃ serving current next, (init .auto ⟨[.empty]⟩).step (replied (some 0)) = some serving ∧
      run step serving [.http, answer] = some current ∧ current.step .websocket = some next ∧
      ∃ scope, next.built = current.built ++ [scope] ∧
        next.heap.read scope.state ≠ serving.heap.read 0 := by
  refine ⟨_, _, _, rfl, rfl, rfl, _, rfl, ?_⟩
  intro same
  cases congrFun same "answer"

end Scopes

end RustAsgi
