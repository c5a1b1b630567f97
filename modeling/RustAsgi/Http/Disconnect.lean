import RustAsgi.Http.Wire

/-!
# A client that is lost

A request whose connection goes away before the response is complete leaves an
application behind that may wait in `receive()`. The responder tells it with an
`http.disconnect`, which goes through `put_nowait`: on a full queue the message is
refused and nothing tries again. Phase A has no such exit, because its future is
simply dropped.
-/

namespace RustAsgi

open Machine Asyncio

def Message.isDisconnect : Message → Bool
  | .disconnect => true
  | .request _ _ => false

namespace Feed

variable {feed next : Feed} {move : Move} {loop : Loop Message}

/-- What the application has received and will receive next, in order. -/
def delivered (feed : Feed) : List Message :=
  feed.received ++ (feed.first.toList ++ feed.loop.items.map Put.item)

/-- A disconnect message is scheduled, in the queue or received. -/
def told (feed : Feed) : Bool :=
  (feed.received ++ feed.first.toList).any Message.isDisconnect ||
    feed.loop.puts.any fun put => put.item.isDisconnect

/-- The feeding side with the oldest callback of the event loop taken away. -/
def skipped (feed : Feed) : Feed :=
  { feed with loop := { feed.loop with ready := feed.loop.ready.tail } }

/-- The oldest callback is a `put_nowait` of the only disconnect message, and the queue is full. -/
def refusesLast (feed : Feed) : Bool :=
  feed.loop.refused?.isSome && !feed.skipped.told

/-- These moves touch neither the queue nor what the application has received. -/
def Move.quiet : Move → Bool
  | .frameArrives | .bodyEnds | .drop | .handOver _ | .release | .timeout | .stop => true
  | .poll | .disconnect | .turn | .receive => false

theorem quiet_step (quiet : move.quiet = true) (stepped : feed.step move = some next) :
    next.received = feed.received ∧ next.first = feed.first ∧ next.loop = feed.loop := by
  cases step_cases stepped with
  | frameArrives | bodyEnds | drop | handOver | release | timeout | stop => exact ⟨rfl, rfl, rfl⟩
  | poll | turn | first | get | disconnect | disconnectRefused => cases quiet

/-- Disconnect messages do not wait for room, and whoever waits is not one of them. -/
structure Impatient (loop : Loop Message) : Prop where
  nowait : ∀ put ∈ loop.puts, put.item.isDisconnect = true → put.nowait = true
  parked : ∀ put ∈ loop.putters, put.nowait = false

theorem Impatient.submit {put : Put Message} (impatient : Impatient loop)
    (own : put.item.isDisconnect = true → put.nowait = true) : Impatient (loop.submit put) where
  nowait := by
    intro other member disconnect
    rcases Loop.mem_puts_submit_iff.mp member with before | rfl
    · exact impatient.nowait other before disconnect
    · exact own disconnect
  parked := impatient.parked

theorem Impatient.step (impatient : Impatient feed.loop) (stepped : feed.step move = some next) :
    Impatient next.loop := by
  cases step_cases stepped with
  | poll _ _ polled =>
      cases polled with
      | chunk | «ending» => exact impatient.submit fun disconnect => nomatch disconnect
      | failed => exact impatient.submit fun _ => rfl
      | skip | chunkRefused | endingRefused | completed => exact impatient
  | disconnect => exact impatient.submit fun _ => rfl
  | turn turned =>
      refine ⟨?_, Loop.putters_turn turned impatient.parked⟩
      intro put member
      exact impatient.nowait put (Loop.mem_puts_turn turned member)
  | get _ got =>
      refine ⟨?_, ?_⟩
      · intro other member
        exact impatient.nowait other ((Loop.mem_puts_get got).2 other member)
      · intro other member
        exact impatient.parked other (Loop.putters_get got other member)
  | first | disconnectRefused | frameArrives | bodyEnds | drop | handOver | release | timeout
  | stop => exact impatient

end Feed

/-- The client has been given up on, or the response is complete. -/
def Stage.late : Stage → Bool
  | .clientGone _ | .closing | .observing | .done => true
  | _ => false

namespace Http

variable {request : Request} {s next final : Http} {action : Action}
  {actions front back : List Action}

/-- This step loses the client: hyper drops the service future in Phase A, or `send_data` finds
the response body gone. -/
def losesClient (s : Http) : Action → Bool
  | .dropService => s.stage.inPhaseA
  | .poll =>
      match s.stage with
      | .sendData _ _ => !s.body.receiver
      | _ => false
  | _ => false

/-- The client is lost to a failing `send_data` while the event loop runs, or a disconnect message
is there already; and the queue has room when the event loop comes to put it. -/
def Reports (s : Http) (action : Action) : Prop :=
  (s.losesClient action = true → s.feed.told = true ∨ (action = .poll ∧ s.feed.running = true)) ∧
    (action = .turn → s.feed.refusesLast = false)

instance (s : Http) (action : Action) : Decidable (s.Reports action) :=
  inferInstanceAs (Decidable (_ ∧ _))

def streaming : Request :=
  { hasBody := false, isHead := false, accessLog := false,
    crate := { validHeader := fun _ => true, builds := fun _ => true } }

end Http

end RustAsgi
