import RustAsgi.Python.Object

/-!
# `_call_app`

How the bridge calls an application for one scope. A coroutine function is an ASGI 3
application, a plain function an ASGI 2 application. Any other callable is called as an
ASGI 3 application first, and once more when that call raises a `TypeError`.
-/

namespace RustAsgi

open Python

/-- What reflection tells of a callable. -/
inductive Shape where
  /-- `asyncio.iscoroutinefunction`. -/
  | coroutineFunction
  /-- `inspect.isfunction`, `inspect.ismethod` or `inspect.isbuiltin`. -/
  | function
  /-- A class or a callable object. -/
  | other
  deriving DecidableEq, Repr

/-- How a call ends. -/
inductive CallResult (Value : Type) where
  /-- The arguments do not fit the signature: none of the callable's own code has run. -/
  | unbound (message : String)
  /-- The callable's own code raises. -/
  | raises (error : PyErr)
  | returns (value : Value)
  deriving DecidableEq, Repr

/-- A result of a call: what awaiting it comes to, if it is awaitable. -/
structure Answer where
  awaitable : Option (Except PyErr Unit)
  deriving DecidableEq, Repr

/-- A call that `_call_app` makes; `bound` when its arguments fit. -/
inductive AppCall where
  /-- `app(scope, receive, send)`. -/
  | full (bound : Bool)
  /-- `app(scope)`. -/
  | legacy (bound : Bool)
  /-- `instance(receive, send)`. -/
  | instance_ (bound : Bool)
  deriving DecidableEq, Repr

/-- An application with the way in which it answers the calls for one scope. The legacy call
returns an instance, and may depend on what the calls before have left behind. -/
structure Application where
  shape : Shape
  full : CallResult Answer
  legacy : List AppCall → CallResult (CallResult Answer)

/-- What a run of `_call_app` has called, in order, and how it has ended. -/
structure Invocation where
  calls : List AppCall
  result : Except PyErr Unit
  deriving DecidableEq, Repr

namespace CallResult

variable {Value : Type}

def isBound : CallResult Value → Bool
  | .unbound _ => false
  | _ => true

/-- What the caller sees: a failure to bind is a `TypeError` as well. -/
def outcome : CallResult Value → Except PyErr Value
  | .unbound message => .error (typeError message)
  | .raises error => .error error
  | .returns value => .ok value

end CallResult

/-- `await result`, or a `TypeError` when that cannot be. -/
def Answer.await (answer : Answer) (message : String) : Except PyErr Unit :=
  answer.awaitable.getD (.error (typeError message))

/-- `instance = app(scope)` and `result = instance(receive, send)`. -/
def callLegacy (app : Application) (earlier : List AppCall) :
    List AppCall × Except PyErr Answer :=
  let called := app.legacy earlier
  let calls := earlier ++ [.legacy called.isBound]
  match called.outcome with
  | .error error => (calls, .error error)
  | .ok instance_ => (calls ++ [.instance_ instance_.isBound], instance_.outcome)

/-- The end of each branch. -/
def concludeCall (message : String) (calls : List AppCall) (result : Except PyErr Answer) :
    Invocation :=
  { calls
    result :=
      match result with
      | .error error => .error error
      | .ok answer => answer.await message }

def callApp (app : Application) : Invocation :=
  let full : List AppCall := [.full app.full.isBound]
  match app.shape with
  | .coroutineFunction =>
      concludeCall "object can't be used in 'await' expression" full app.full.outcome
  | .function =>
      let (calls, result) := callLegacy app []
      concludeCall "ASGI 2 application instance did not return an awaitable" calls result
  | .other =>
      let (calls, result) :=
        match app.full.outcome with
        | .error error =>
            if error.type = .typeError then callLegacy app full else (full, .error error)
        | .ok answer => (full, .ok answer)
      concludeCall "ASGI application did not return an awaitable" calls result

namespace AppCall

/-- The application's own code runs in this call. -/
def runsApp : AppCall → Bool
  | .full bound | .legacy bound => bound
  | .instance_ _ => false

def isLegacy : AppCall → Bool
  | .legacy _ => true
  | _ => false

end AppCall

/-- The application's own code is run once at most, and its full call is not repeated once it has
been bound. -/
structure CalledOnce (calls : List AppCall) : Prop where
  once : calls.countP AppCall.runsApp ≤ 1
  retry : .full true ∈ calls → ∀ call ∈ calls, call.isLegacy = false

section Calls

variable {app : Application} {earlier : List AppCall}

/-- The legacy call adds itself, and the call of the instance if it gets one. -/
theorem callLegacy_calls (app : Application) (earlier : List AppCall) :
    ∃ bound rest, (callLegacy app earlier).1 = earlier ++ .legacy bound :: rest ∧
      ∀ call ∈ rest, ∃ bound, call = .instance_ bound := by
  simp only [callLegacy]
  split
  next => exact ⟨_, [], rfl, nofun⟩
  next instance_ _ =>
    refine ⟨(app.legacy earlier).isBound, [.instance_ instance_.isBound], by simp, ?_⟩
    intro call member
    exact ⟨_, List.mem_singleton.mp member⟩

theorem countP_instances {rest : List AppCall}
    (instances : ∀ call ∈ rest, ∃ bound, call = AppCall.instance_ bound) :
    rest.countP AppCall.runsApp = 0 := by
  apply List.countP_eq_zero.mpr
  intro call member
  rcases instances call member with ⟨bound, rfl⟩
  simp [AppCall.runsApp]

/-- A legacy call is the only one, or comes after a full call that has not been bound. -/
theorem calledOnce_callLegacy (unbound : ∀ call ∈ earlier, call = .full false) :
    CalledOnce (callLegacy app earlier).1 := by
  rcases callLegacy_calls app earlier with ⟨bound, rest, calls, instances⟩
  have before : earlier.countP AppCall.runsApp = 0 := by
    apply List.countP_eq_zero.mpr
    intro call member
    simp [unbound call member, AppCall.runsApp]
  rw [calls]
  refine ⟨?_, ?_⟩
  · rw [List.countP_append, List.countP_cons, before, countP_instances instances]
    split <;> omega
  · intro full
    rcases List.mem_append.mp full with early | late
    · cases unbound _ early
    · rcases List.mem_cons.mp late with same | later
      · cases same
      · rcases instances _ later with ⟨_, same⟩
        cases same

theorem calledOnce_full (bound : Bool) : CalledOnce [.full bound] where
  once := List.countP_le_length
  retry := by simp [AppCall.isLegacy]

theorem not_calledOnce_callLegacy (full : .full true ∈ earlier) :
    ¬ CalledOnce (callLegacy app earlier).1 := by
  intro called
  rcases callLegacy_calls app earlier with ⟨bound, rest, calls, _⟩
  rw [calls] at called
  have other := called.retry (List.mem_append_left _ full) (.legacy bound) (by simp)
  cases other

/-- An application is called once, unless it is neither a coroutine function nor a plain one and
its own code raises a `TypeError` out of the full call. -/
theorem calledOnce_iff (app : Application) :
    CalledOnce (callApp app).calls ↔
      ¬ (app.shape = .other ∧ ∃ message, app.full = .raises (typeError message)) := by
  cases shape : app.shape with
  | coroutineFunction =>
      refine iff_of_true ?_ (by simp)
      simp only [callApp, shape, concludeCall]
      exact calledOnce_full _
  | function =>
      refine iff_of_true ?_ (by simp)
      simp only [callApp, shape, concludeCall]
      exact calledOnce_callLegacy nofun
  | other =>
      simp only [callApp, shape, concludeCall, true_and]
      cases full : app.full with
      | unbound message =>
          refine iff_of_true ?_ (by simp)
          simp only [CallResult.outcome, CallResult.isBound, typeError, if_true]
          apply calledOnce_callLegacy
          simp
      | returns answer =>
          refine iff_of_true ?_ (by simp)
          exact calledOnce_full true
      | raises error =>
          simp only [CallResult.outcome, CallResult.isBound]
          split
          next own =>
            refine iff_of_false (not_calledOnce_callLegacy List.mem_cons_self) ?_
            intro clean
            exact clean ⟨error.message, by rw [typeError, ← own]⟩
          next foreign =>
            refine iff_of_true (calledOnce_full true) ?_
            rintro ⟨message, same⟩
            cases same
            exact foreign rfl

/-- `__call__(self, scope, receive=None, send=None)`, which counts its calls and then adds a number
to a string. -/
def counting : Application :=
  { shape := .other
    full := .raises (typeError "unsupported operand type(s) for +: 'int' and 'str'")
    legacy := fun _ => .raises (typeError "unsupported operand type(s) for +: 'int' and 'str'") }

/-- Its body runs twice for one scope. -/
theorem counting_called_twice :
    (callApp counting).calls = [.full true, .legacy true] ∧
      ¬ CalledOnce (callApp counting).calls := by
  refine ⟨rfl, ?_⟩
  intro called
  have once := called.once
  revert once
  decide

end Calls

end RustAsgi
