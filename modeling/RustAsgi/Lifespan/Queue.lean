import RustAsgi.Asyncio.Coroutine

/-!
# The queues of the lifespan

`LifespanManager::queue_put` and `LifespanManager::queue_get` each run one coroutine of
an `asyncio.Queue` on the event loop. Both need a loop that runs when the coroutine is
submitted, and a task that is cancelled raises instead of putting or getting. The
start-up and the shutdown wait for their messages through these two alone.
-/

namespace RustAsgi

open Asyncio

/-- What `queue_put` does before it waits. -/
inductive PutPart where
  | dict
  | put
  | submit
  deriving DecidableEq, Repr

inductive PutError where
  | broken (part : PutPart) (error : String)
  | timedOut
  | raised
  deriving DecidableEq, Repr

def PutError.text : PutError → String
  | .broken .dict error => "dict: " ++ error
  | .broken .put error => "queue.put: " ++ error
  | .broken .submit _ => "lifespan submit failed"
  | .timedOut => "lifespan put timed out"
  | .raised => "lifespan put failed"

/-- `queue_put` up to the submission; `broken` is what it fails with on the way, besides a loop
that does not run. -/
def submitPut (running : Bool) (broken : Option (PutPart × String)) :
    Except PutError (Crossing Outcome) :=
  match broken with
  | some (part, error) => .error (.broken part error)
  | none => if running then .ok .scheduled else .error (.broken .submit "event loop not running")

/-- A poll of `queue_put` from there on, which looks at the coroutine before its timer. -/
def pollPut (put : Crossing Outcome) (timer : Bool) : Option (Except PutError Unit) :=
  match put with
  | .visible .returned => some (.ok ())
  | .visible .raised => some (.error .raised)
  | _ => if timer then some (.error .timedOut) else none

/-- What a poll of `queue_get` comes to. -/
inductive GetPoll (Message : Type*) where
  | submits
  /-- The message, or nothing when the get has not been accepted or has raised. -/
  | ready (message : Option Message)
  | pending
  deriving DecidableEq, Repr

/-- The first poll of `queue_get` submits its coroutine. A get that is refused for another reason
than the loop counts as one that has raised. -/
def pollGet {Message : Type*} (running : Bool) : Crossing (Option Message) → GetPoll Message
  | .unscheduled => if running then .submits else .ready none
  | .visible message => .ready message
  | _ => .pending

section Lemmas

variable {Message : Type*} {running timer : Bool} {put : Crossing Outcome}
  {get : Crossing (Option Message)} {broken : Option (PutPart × String)}

theorem submitPut_ok (submitted : submitPut running broken = .ok put) :
    running = true ∧ broken = none ∧ put = .scheduled := by
  simp only [submitPut] at submitted
  split at submitted
  · cases submitted
  · split at submitted <;> cases submitted
    rename_i running
    exact ⟨running, rfl, rfl⟩

@[simp]
theorem submitPut_running : submitPut true none = .ok .scheduled :=
  rfl

theorem pollPut_ok (polled : pollPut put timer = some (.ok ())) : put = .visible .returned := by
  simp only [pollPut] at polled
  split at polled
  · rfl
  · cases polled
  · split at polled <;> cases polled

theorem pollPut_error {error : PutError} (polled : pollPut put timer = some (.error error)) :
    put = .visible .raised ∨ (∀ outcome, put ≠ .visible outcome) ∧ timer = true := by
  simp only [pollPut] at polled
  split at polled
  · cases polled
  · exact .inl rfl
  · rename_i returned raised
    split at polled <;> cases polled
    rename_i fired
    refine .inr ⟨?_, fired⟩
    rintro (_ | _) rfl
    · exact returned rfl
    · exact raised rfl

theorem pollGet_submits (polled : pollGet running get = .submits) :
    get = .unscheduled ∧ running = true := by
  cases get with
  | unscheduled =>
      cases running <;> cases polled
      exact ⟨rfl, rfl⟩
  | scheduled | done | visible => cases polled

theorem pollGet_ready {message : Message} (polled : pollGet running get = .ready (some message)) :
    get = .visible (some message) := by
  cases get with
  | unscheduled => cases running <;> cases polled
  | visible =>
      cases polled
      rfl
  | scheduled | done => cases polled

theorem pollGet_failed (polled : pollGet running get = .ready none) :
    get = .unscheduled ∧ running = false ∨ get = .visible none := by
  cases get with
  | unscheduled =>
      cases running <;> cases polled
      exact .inl ⟨rfl, rfl⟩
  | visible =>
      cases polled
      exact .inr rfl
  | scheduled | done => cases polled

theorem pollGet_pending (polled : pollGet running get = .pending) :
    get = .scheduled ∨ ∃ message, get = .done message := by
  cases get with
  | unscheduled => cases running <;> cases polled
  | scheduled => exact .inl rfl
  | done message => exact .inr ⟨message, rfl⟩
  | visible => cases polled

end Lemmas

end RustAsgi
