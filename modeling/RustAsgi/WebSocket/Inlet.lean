import RustAsgi.Asyncio.Producer
import RustAsgi.WebSocket.Steps

/-!
# The application's queue

The driver awaits each put before it takes the next message, and it never feeds
again after a put that has failed or timed out. What the application has received
and what is on its way is therefore what was submitted, in order.
-/

namespace RustAsgi

open Machine Asyncio Tokio

namespace Ws

variable {s next final : Ws} {action : Action} {actions : List Action}

/-- What a stage knows about the put that was scheduled last: it has succeeded where another
message may follow, and it is the one that is awaited where one is. -/
def Awaited (s : Ws) : Prop :=
  match s.stage with
  | .setup | .accepting | .pump _ | .sending _ | .closing _ _ .loop
  | .closing _ _ (.disconnect _ _) => s.loop.pending = []
  | .connecting put | .feeding put _ => put + 1 = s.nextId
  | .closing _ _ .leave | .closing _ _ .denied | .closing _ _ .gone | .ending | .finishing
  | .done => True

structure Inlet (s : Ws) : Prop where
  serial : s.loop.Serial s.nextId
  order : s.received ++ s.loop.puts.map Put.item = s.submitted
  awaited : s.Awaited

theorem Inlet.of_same (inlet : Inlet s) (loop : next.loop = s.loop)
    (nextId : next.nextId = s.nextId) (received : next.received = s.received)
    (submitted : next.submitted = s.submitted)
    (awaited : next.Awaited) : Inlet next where
  serial := by
    rw [loop, nextId]
    exact inlet.serial
  order := by
    rw [loop, received, submitted]
    exact inlet.order
  awaited := awaited

theorem Awaited.of_pending (awaited : s.Awaited) (stage : next.stage = s.stage)
    (nextId : next.nextId = s.nextId)
    (idle : s.loop.pending = [] → next.loop.pending = []) : next.Awaited := by
  simp only [Awaited, stage, nextId]
  simp only [Awaited] at awaited
  split at awaited <;> first | exact idle awaited | exact awaited

theorem Inlet.enqueue (inlet : Inlet s) (idle : s.loop.pending = []) (message : WsInbound)
    (stage : WsStage)
    (awaits : stage = .connecting s.nextId ∨ ∃ last, stage = .feeding s.nextId last) :
    Inlet ((s.enqueue message).goto stage) where
  serial := (inlet.serial.submit idle message).1
  order := by
    have puts := (inlet.serial.submit idle message).2
    simp only [goto, Ws.enqueue, puts, List.map_append, ← inlet.order, List.append_assoc]
    rfl
  awaited := by
    rcases awaits with rfl | ⟨last, rfl⟩ <;> rfl

theorem Inlet.feed (inlet : Inlet s) (idle : s.loop.pending = []) (message : WsInbound)
    (last : Bool) : Inlet (s.feed message last) := by
  rcases s.feed_cases message last with ⟨_, same⟩ | ⟨_, same⟩ <;> rw [same]
  · exact inlet.enqueue idle message _ (.inr ⟨last, rfl⟩)
  · exact inlet.of_same rfl rfl rfl rfl trivial

theorem Inlet.idle_of_succeeded {put : ℕ} (inlet : Inlet s) (last : put + 1 = s.nextId)
    (succeeded : s.putSucceeded put = true) : s.loop.pending = [] := by
  have reported : s.loop.outcome? put = some true := by simpa [putSucceeded] using succeeded
  exact inlet.serial.idle_of_outcome last reported

theorem Inlet.polled (inlet : Inlet s) (polled : Polled s next) : Inlet next := by
  have awaited := inlet.awaited
  cases polled with
  | connected stage succeeded =>
      simp only [Awaited, stage] at awaited
      exact inlet.of_same rfl rfl rfl rfl (inlet.idle_of_succeeded awaited succeeded)
  | @fed _ last stage succeeded =>
      simp only [Awaited, stage] at awaited
      have idle := inlet.idle_of_succeeded awaited succeeded
      refine inlet.of_same rfl rfl rfl rfl ?_
      cases last
      · exact idle
      · trivial
  | @message _ _ socket stage =>
      have read : Inlet { s with socket } := inlet.of_same rfl rfl rfl rfl awaited
      simp only [Awaited, stage] at awaited
      exact read.feed awaited _ _
  | @echoed _ socket stage =>
      have read : Inlet { s with socket } := inlet.of_same rfl rfl rfl rfl awaited
      simp only [Awaited, stage] at awaited
      exact read.feed awaited _ _
  | vanished stage read =>
      simp only [Awaited, stage] at awaited
      exact inlet.feed awaited _ _
  | @closed code reason after stage =>
      have sent : Inlet (s.sendClose code reason) := inlet.of_same rfl rfl rfl rfl awaited
      cases after with
      | disconnect =>
          simp only [Awaited, stage] at awaited
          exact sent.feed awaited _ _
      | loop =>
          simp only [Awaited, stage] at awaited
          exact inlet.of_same rfl rfl rfl rfl awaited
      | leave | denied | gone => exact inlet.of_same rfl rfl rfl rfl trivial
  | leave =>
      refine inlet.of_same rfl rfl rfl rfl ?_
      simp only [Awaited]
      cases s.appDone <;> trivial
  | accepted stage | onward _ stage | data stage | appClose stage | duplicate stage | ping stage
  | ignored stage | clientClosed stage | sent stage =>
      simp only [Awaited, stage] at awaited
      exact inlet.of_same rfl rfl rfl rfl awaited
  | unconnected | denied | unexpected | appFailed | acceptTimeout | appEnd | appReturned | drained
  | unsent | unfed | finish => exact inlet.of_same rfl rfl rfl rfl trivial

theorem Inlet.step (inlet : Inlet s) (stepped : s.step action = some next) : Inlet next := by
  have awaited := inlet.awaited
  cases step_cases stepped with
  | poll polled => exact inlet.polled polled
  | begin stage =>
      simp only [Awaited, stage] at awaited
      exact inlet.enqueue awaited _ _ (.inl rfl)
  | stopped | refused => exact inlet.of_same rfl rfl rfl rfl trivial
  | receive got =>
      refine ⟨inlet.serial.get got, ?_, ?_⟩
      · simp only [← inlet.order, Loop.puts_get got, List.map_cons, List.append_assoc]
        rfl
      · exact awaited.of_pending rfl rfl fun idle => (Loop.pending_get got).trans idle
  | turn turned =>
      refine ⟨inlet.serial.turn turned, ?_, ?_⟩
      · simp only [inlet.serial.puts_turn turned]
        exact inlet.order
      · refine awaited.of_pending rfl rfl fun idle => ?_
        rcases inlet.serial.pending_turn turned with ⟨entered, _, split_⟩
        rw [idle] at split_
        exact (List.append_eq_nil_iff.mp split_.symm).2
  | _ => exact inlet.of_same rfl rfl rfl rfl awaited

theorem inlet_init : Inlet init where
  serial := Loop.serial_empty _ _
  order := rfl
  awaited := rfl

theorem inlet_of_run (ran : run step init actions = some final) : Inlet final :=
  run_invariant_of_step Inlet (fun _ _ _ inlet stepped => inlet.step stepped) ran inlet_init

end Ws

end RustAsgi
