import RustAsgi.Http.Finish

/-!
# How far an application gets ahead of its client

The data that `send()` has accepted is with the connection, in the response body, in the
responder's hand or in the channel. So an application that streams is kept back as soon as
its client is, and by nothing else: a full channel is read on by the handler's own steps
unless the response body is full as well.
-/

namespace RustAsgi

open Machine Tokio

namespace ResponseEvent

/-- What an event gives to the response body. -/
def chunk? : ResponseEvent → Option Bytes
  | .start _ _ => none
  | .body data _ => if data = [] then none else some data

end ResponseEvent

open ResponseEvent

namespace Stage

/-- What the responder has taken from the channel and not handed over. A chunk that comes too
early or too late for the client is lost, and no other is taken after it. -/
def Holds : Stage → List Bytes → Prop
  | .establish, held | .phaseA _, held | .responder _, held => held = []
  | .sendData data _, held => held = [data]
  | .rejected _, held | .clientGone _, held | .closing, held | .observing, held | .done, held =>
      held.length ≤ 1

variable {stage : Stage} {held : List Bytes}

theorem Holds.length_le (holds : stage.Holds held) : held.length ≤ 1 := by
  cases stage with
  | establish | phaseA | responder =>
      rw [show held = [] from holds]
      exact Nat.zero_le 1
  | sendData data moreBody =>
      rw [show held = [data] from holds]
      exact Nat.le_refl 1
  | rejected | clientGone | closing | observing | done => exact holds

theorem holds_afterBody (moreBody : Bool) : (Http.afterBody moreBody).Holds [] := by
  cases moreBody with
  | true => rfl
  | false => exact Nat.zero_le 1

end Stage

namespace Wire

open Http

variable {request : Request} {w next : Wire} {action : Action}

/-- The channel keeps its order, and what was taken from it has been handed over or is held. -/
def Accounts (w : Wire) : Prop :=
  w.chan.Fifo ∧
    ∃ held, w.chan.received.filterMap chunk? = w.handed ++ held ∧ w.stage.Holds held

theorem accounts_of_recv {event : ResponseEvent} {chan : Mpsc ResponseEvent}
    (received : w.chan.recv = .item event chan) :
    chan.received.filterMap chunk? =
      w.chan.received.filterMap chunk? ++ (chunk? event).toList := by
  rcases Mpsc.recv_item received with ⟨rest, _, rfl⟩
  rw [List.filterMap_append, List.append_cancel_left_eq]
  cases chunk : chunk? event <;> simp [chunk]

/-- A stage that holds no more than the last one. -/
theorem Accounts.goto (accounts : w.Accounts) (chan : next.chan.Fifo)
    (received : next.chan.received = w.chan.received) (handed : next.handed = w.handed)
    (kept : ∀ held, w.stage.Holds held → next.stage.Holds held) : next.Accounts := by
  rcases accounts with ⟨_, held, taken, holds⟩
  refine ⟨chan, held, ?_, kept held holds⟩
  rw [received, handed]
  exact taken

/-- An event that is taken where nothing was held. -/
theorem Accounts.take (accounts : w.Accounts) {event : ResponseEvent} {chan : Mpsc ResponseEvent}
    (received : w.chan.recv = .item event chan) (idle : ∀ held, w.stage.Holds held → held = [])
    (fresh : next.chan = chan) (handed : next.handed = w.handed)
    (holds : next.stage.Holds (chunk? event).toList) : next.Accounts := by
  rcases accounts with ⟨fifo, held, taken, before⟩
  refine ⟨fresh ▸ fifo.recv received, (chunk? event).toList, ?_, holds⟩
  rw [fresh, handed, accounts_of_recv received, taken, idle held before, List.append_nil]

theorem Accounts.failed (accounts : w.Accounts) : w.failed.Accounts :=
  accounts.goto accounts.1.dropReceiver rfl rfl fun _ holds => holds.length_le

theorem Accounts.step (other : request.isHead = false) (accounts : w.Accounts)
    (stepped : Step request w action next) : next.Accounts := by
  cases stepped with
  | silent => exact accounts
  | established stage | phaseA _ stage | responder _ stage =>
      refine accounts.goto accounts.1 rfl rfl fun held holds => ?_
      rw [stage] at holds
      exact holds
  | refused | neverStarted | startTimeout | rejected => exact accounts.failed
  | push => exact accounts.goto accounts.1.accept rfl rfl fun _ => id
  | park => exact accounts.goto accounts.1.park rfl rfl fun _ => id
  | unpark unparked =>
      refine accounts.goto (accounts.1.unpark unparked) ?_ rfl fun _ => id
      rcases Mpsc.unpark_cases unparked with ⟨value, _, _, _, rfl⟩
      rfl
  | dropSink => exact accounts.goto accounts.1.dropSenders rfl rfl fun _ => id
  | startDeadline | appDeadline | dropBody => exact accounts
  | dropService | observe =>
      exact accounts.goto accounts.1.dropReceiver rfl rfl fun _ holds => holds.length_le
  | start stage received | duplicate stage received =>
      refine accounts.take received (fun held holds => ?_) rfl rfl rfl
      rw [stage] at holds
      exact holds
  | early _ stage received =>
      refine accounts.take received (fun held holds => ?_) rfl rfl Option.length_toList_le
      rw [stage] at holds
      exact holds
  | skip stage received nothing =>
      have empty := nothing.resolve_left (by simp [other])
      refine accounts.take received (fun held holds => ?_) rfl rfl ?_
      · rw [stage] at holds
        exact holds
      · rw [chunk?, if_pos empty]
        exact Stage.holds_afterBody _
  | take stage received _ nonempty =>
      refine accounts.take received (fun held holds => ?_) rfl rfl ?_
      · rw [stage] at holds
        exact holds
      · rw [chunk?, if_neg nonempty]
        rfl
  | closed stage | appTimeout stage | gone _ stage | told stage | close stage =>
      refine accounts.goto accounts.1 rfl rfl fun held holds => holds.length_le
  | hand stage =>
      rcases accounts with ⟨fifo, held, taken, holds⟩
      rw [stage] at holds
      refine ⟨fifo, [], ?_, Stage.holds_afterBody _⟩
      rw [List.append_nil, taken, show held = _ from holds]

/-- The receiving half of the channel is dropped with the handler's locals. -/
def Attended (w : Wire) : Prop :=
  w.chan.receiver = false ↔ w.stage = .done

theorem Attended.step (attended : w.Attended) (stepped : Step request w action next) :
    next.Attended := by
  have read {event : ResponseEvent} {chan : Mpsc ResponseEvent}
      (received : w.chan.recv = .item event chan) : chan.receiver = w.chan.receiver := by
    rcases Mpsc.recv_item received with ⟨rest, _, rfl⟩
    rfl
  have open_ (going : w.stage ≠ .done) : w.chan.receiver = true :=
    Bool.of_not_eq_false fun dropped => going (attended.mp dropped)
  simp only [Attended]
  cases stepped with
  | silent | dropSink | startDeadline | appDeadline | dropBody => exact attended
  | push _ _ _ receiver | park _ _ _ receiver => exact attended
  | unpark unparked =>
      rcases Mpsc.unpark_cases unparked with ⟨value, _, _, _, rfl⟩
      exact attended
  | refused | neverStarted | startTimeout | rejected | dropService | observe =>
      exact iff_of_true rfl rfl
  | established stage | phaseA _ stage | responder _ stage | closed stage | appTimeout stage
  | gone _ stage | told stage | close stage =>
      simp [open_ (by simp [stage])]
  | start stage received | early _ stage received | duplicate stage received
  | take stage received =>
      simp [read received, open_ (by simp [stage])]
  | @skip _ moreBody _ stage received =>
      cases moreBody <;> simp [read received, open_ (by simp [stage]), afterBody]
  | @hand _ moreBody stage =>
      cases moreBody <;> simp [open_ (by simp [stage]), afterBody]

end Wire

namespace Http

variable {request : Request} {s next : Http} {action : Action}

/-- Hyper takes the chunks of the response body in order. -/
theorem queued_step (queued : s.body.queue <:+ s.body.handed)
    (stepped : s.step request action = some next) : next.body.queue <:+ next.body.handed := by
  cases step_cases stepped with
  | poll polled =>
      cases polled with
      | hand =>
          rcases queued with ⟨read, same⟩
          exact ⟨read, by rw [← same, List.append_assoc]⟩
      | phaseAApp | responderApp => rw [pollApp_body]; exact queued
      | phaseAFeed | responderFeed => rw [pollFeed_body]; exact queued
      | neverStarted | startTimeout =>
          have same : (s.logAccess request 500 0).body = s.body := logAccess_body 500 0 s
          simp only [spawnDrainReaper, fail, same]
          exact queued
      | observe => rw [observe_body]; exact queued
      | _ => exact queued
  | takeChunk first =>
      refine List.IsSuffix.trans ?_ queued
      rw [first]
      exact List.suffix_cons _ _
  | refused =>
      have same : (s.logAccess request 500 0).body = s.body := logAccess_body 500 0 s
      simp only [fail, same]
      exact queued
  | _ => exact queued

/-- The responder to a `HEAD` request hands nothing over. -/
theorem head_step (head : request.isHead = true)
    (unsent : ∀ data moreBody, s.stage ≠ .sendData data moreBody)
    (stepped : s.step request action = some next) :
    ∀ data moreBody, next.stage ≠ .sendData data moreBody := by
  have wired := step_wire stepped
  have before : ∀ data moreBody, s.wire.stage ≠ .sendData data moreBody := unsent
  suffices ∀ data moreBody, next.wire.stage ≠ .sendData data moreBody from this
  intro data moreBody
  generalize s.wire = wire at wired before
  generalize next.wire = later at wired
  cases wired with
  | silent | push | park | unpark | dropSink | startDeadline | appDeadline | dropBody =>
      exact before data moreBody
  | take _ _ hasBody => simp [head] at hasBody
  | hand stage => exact absurd stage (before _ _)
  | @skip _ goesOn => cases goesOn <;> exact nofun
  | _ => exact nofun

/-- An application that waits in `send()` waits for the client. -/
def Jammed (s : Http) : Prop :=
  s.Full ∧ s.chan.hasRoom = false

/-- Permitted actions alone can let an application on that waits in `send()`. -/
def LetsOn (request : Request) (s : Http) (permitted : Action → Prop) : Prop :=
  ∃ actions final, (∀ action ∈ actions, permitted action) ∧
    run (step request) s actions = some final ∧ final.chan.Released

/-- The chunks that `send()` has accepted. -/
def accepted (s : Http) : List Bytes :=
  s.chan.sent.filterMap chunk?

/-- The responder that comes to await `send_data` has just read the channel. -/
theorem released_of_taken {data : Bytes} {moreBody : Bool} (bounded : s.chan.Bounded)
    (polled : Polled request s next) (stage : next.stage = .sendData data moreBody) :
    next.chan.Released := by
  cases polled with
  | taken _ received => exact bounded.released_of_recv received
  | phaseAApp =>
      rcases (s.pollApp_stage (.phaseA .rx) (.phaseA .feed)).1 with same | same <;>
        simp [same] at stage
  | responderApp =>
      rcases (s.pollApp_stage (.responder .rx) (.responder .feed)).1 with same | same <;>
        simp [same] at stage
  | phaseAFeed here =>
      rcases (s.pollFeed_stage (.phaseA .rx) (.phaseA .deadline)).1 with same | same | same <;>
        simp [same, here] at stage
  | responderFeed here =>
      rcases (s.pollFeed_stage (.responder .rx) (.responder .deadline)).1 with
        same | same | same <;> simp [same, here] at stage
  | @suppressed _ goesOn | @empty goesOn | @hand _ goesOn =>
      cases goesOn <;> simp [afterBody] at stage
  | _ => cases stage

theorem Jammed.not_released (jammed : s.Jammed) (attended : s.wire.Attended) :
    ¬ s.chan.Released := by
  rcases jammed with ⟨⟨data, moreBody, stage, _⟩, none⟩
  rintro (room | dropped)
  · rw [none] at room
    cases room
  · have done : s.stage = .done := attended.mp dropped
    rw [stage] at done
    cases done

theorem not_jammed_step (roomy : s.Roomy) (attended : s.wire.Attended) (free : ¬ s.Jammed)
    (own : action.ofHandler = true) (stepped : s.step request action = some next) :
    ¬ next.Jammed := by
  have still := attended.step (step_wire stepped)
  cases step_cases stepped with
  | poll polled =>
      intro jammed
      rcases jammed.1 with ⟨data, moreBody, stage, _⟩
      exact jammed.not_released still (released_of_taken roomy.bounded polled stage)
  | startDeadline | appDeadline | feed => exact free
  | _ => cases own

/-- While the client is behind, nothing but the connection makes room. -/
theorem Jammed.step (jammed : s.Jammed) (away : action.ofConnection = false)
    (stepped : s.step request action = some next) : next.Jammed := by
  rcases jammed with ⟨⟨data, moreBody, stage, receiver, many⟩, none⟩
  have full : s.Full := ⟨data, moreBody, stage, receiver, many⟩
  cases step_cases stepped with
  | poll polled =>
      cases polled with
      | hand _ _ room => exact absurd room (Nat.not_lt_of_le many)
      | gone _ dropped => simp [receiver] at dropped
      | _ here => simp [stage] at here
  | push _ _ _ _ _ room => simp [none] at room
  | unpark unparked =>
      rcases Mpsc.unpark_cases unparked with ⟨value, _, room, _⟩
      simp [none] at room
  | established here | refused here => simp [stage] at here
  | takeChunk | dropBody | dropService => cases away
  | park | exit | settle | dropSink | feed | startDeadline | appDeadline | reaped | reapTimeout =>
      exact ⟨full, none⟩

/-- Where a kept property permits each step towards the end, such steps let the application on. -/
theorem letsOn_of_kept {permitted : Action → Prop} (kept : Http → Prop)
    (preserved : ∀ current act later, current.Roomy → current.wire.Attended → kept current →
      permitted act → current.step request act = some later → kept later)
    (allowed : ∀ current act, kept current → ¬ current.chan.Released →
      (act.ofHandler = true ∨ act = .takeChunk ∧ current.Full) → permitted act)
    (roomy : s.Roomy) (begun : s.stage ≠ .establish) (attended : s.wire.Attended)
    (holds : kept s) : s.LetsOn request permitted := by
  have released (current : Http) (attended : current.wire.Attended) (done : current.stage = .done) :
      current.chan.Released :=
    .inr (attended.mpr done)
  have progress (current : Http) (invariant : current.Roomy ∧ current.stage ≠ .establish ∧
        current.wire.Attended ∧ kept current) (waits : ¬ current.chan.Released) :
      ∃ act later, permitted act ∧ current.step request act = some later ∧
        (later.Roomy ∧ later.stage ≠ .establish ∧ later.wire.Attended ∧ kept later) ∧
        (later.chan.Released ∨ later.ahead < current.ahead) := by
    rcases invariant with ⟨roomy, begun, attended, holds⟩
    have going : current.stage ≠ .done := fun done => waits (released current attended done)
    rcases @exists_ahead request current begun going with ⟨act, later, own, stepped, lower⟩
    have permits := allowed current act holds waits own
    have still := attended.step (step_wire stepped)
    have kept := preserved current act later roomy attended holds permits stepped
    exact ⟨act, later, permits, stepped,
      ⟨roomy.step stepped, begun_step begun stepped, still, kept⟩,
      lower.imp_left (released later still)⟩
  rcases exists_run_until _ (fun current => current.chan.Released) ahead progress
    ⟨roomy, begun, attended, holds⟩ with ⟨actions, final, chosen, ran, _, reached⟩
  exact ⟨actions, final, chosen, ran, reached⟩

theorem letsOn_of_not_jammed (roomy : s.Roomy) (begun : s.stage ≠ .establish)
    (attended : s.wire.Attended) (free : ¬ s.Jammed) :
    s.LetsOn request fun action => action.ofHandler = true := by
  apply letsOn_of_kept (fun current => ¬ current.Jammed) _ _ roomy begun attended free
  · intro current act later roomy attended free own stepped
    exact not_jammed_step roomy attended free own stepped
  · rintro current act free waits (own | ⟨_, full⟩)
    · exact own
    · have none := Bool.eq_false_iff.mpr fun room => waits (.inl room)
      exact absurd ⟨full, none⟩ free

theorem Jammed.not_letsOn (jammed : s.Jammed) (attended : s.wire.Attended) :
    ¬ s.LetsOn request fun action => action.ofConnection = false := by
  rintro ⟨actions, final, away, ran, reached⟩
  have along : Along (Http.step request) (fun _ action => action.ofConnection = false) s actions :=
    along_of_forall fun action member _ => away action member
  have stays : final.wire.Attended ∧ final.Jammed := by
    apply run_invariant (fun current => current.wire.Attended ∧ current.Jammed) _ along ran
      ⟨attended, jammed⟩
    intro current action next both away stepped
    exact ⟨both.1.step (step_wire stepped), both.2.step away stepped⟩
  exact stays.2.not_released stays.1 reached

theorem LetsOn.mono {permitted allowed : Action → Prop} (letsOn : s.LetsOn request permitted)
    (weaker : ∀ action, permitted action → allowed action) : s.LetsOn request allowed := by
  rcases letsOn with ⟨actions, final, chosen, rest⟩
  exact ⟨actions, final, fun action member => weaker action (chosen action member), rest⟩

/-- Where the accepted chunks are. -/
theorem accepted_eq (accounts : s.wire.Accounts) (queued : s.body.queue <:+ s.body.handed) :
    ∃ read held, s.accepted =
        read ++ s.body.queue ++ held ++ s.chan.buffer.filterMap chunk? ∧
      s.body.handed = read ++ s.body.queue ∧ s.stage.Holds held := by
  rcases accounts with ⟨fifo, held, taken, holds⟩
  rcases queued with ⟨read, handed⟩
  have sent : s.chan.sent = s.chan.received ++ s.chan.buffer := fifo
  have shares : s.chan.received.filterMap chunk? = s.body.handed ++ held := taken
  refine ⟨read, held, ?_, handed.symm, holds⟩
  rw [accepted, sent, List.filterMap_append, shares, ← handed]

/-- An application that streams is kept back by its client and by nothing else. What it has sent
and the connection has not read is bounded by the two channels and one chunk. When the channel is
full the handler's own steps let it on unless the response body is full too, and then nothing does
but a client that reads. -/
theorem flow_controlled {body : Incoming} {actions : List Action}
    (ran : run (step request) (init request body) actions = some s) :
    (request.isHead = false → ∃ read held,
        s.accepted = read ++ s.body.queue ++ held ++ s.chan.buffer.filterMap chunk? ∧
          s.body.handed = read ++ s.body.queue ∧ s.stage.Holds held ∧
          s.accepted.length ≤ read.length + (2 * responseChannelBound + 1)) ∧
      (request.isHead = true → ¬ s.Jammed) ∧
      (s.stage ≠ .establish →
        (s.LetsOn request fun action => action.ofHandler = true ∨ action = .takeChunk) ∧
        ((s.LetsOn request fun action => action.ofHandler = true) ↔ ¬ s.Jammed) ∧
        ((s.LetsOn request fun action => action.ofConnection = false) ↔ ¬ s.Jammed)) := by
  have roomy : s.Roomy := by
    apply run_invariant_of_step Roomy _ ran (roomy_init request body)
    intro current action next roomy stepped
    exact roomy.step stepped
  have attended : s.wire.Attended := by
    apply run_invariant_of_step (fun current => current.wire.Attended) _ ran
    · exact iff_of_false Bool.noConfusion Stage.noConfusion
    · intro current action next attended stepped
      exact attended.step (step_wire stepped)
  have weaker (action : Action) (own : action.ofHandler = true) : action.ofConnection = false := by
    cases action <;> first | rfl | cases own
  refine ⟨fun other => ?_, fun head => ?_, fun begun => ⟨?_, ⟨?_, ?_⟩, ⟨?_, ?_⟩⟩⟩
  · have tracked : s.wire.Accounts ∧ s.body.queue <:+ s.body.handed := by
      apply run_invariant_of_step
        (fun current => current.wire.Accounts ∧ current.body.queue <:+ current.body.handed) _ ran
      · exact ⟨⟨rfl, [], rfl, rfl⟩, List.suffix_rfl⟩
      · intro current action next both stepped
        exact ⟨both.1.step other (step_wire stepped), queued_step both.2 stepped⟩
    rcases accepted_eq tracked.1 tracked.2 with ⟨read, held, accepted, handed, holds⟩
    refine ⟨read, held, accepted, handed, holds, ?_⟩
    have buffered := s.chan.buffer.length_filterMap_le chunk?
    have few := roomy.bounded.buffered
    have queued := roomy.queued
    have single := holds.length_le
    rw [roomy.bound] at few
    simp only [accepted, List.length_append]
    omega
  · have unsent : ∀ data moreBody, s.stage ≠ .sendData data moreBody := by
      apply run_invariant_of_step
        (fun current => ∀ data moreBody, current.stage ≠ .sendData data moreBody) _ ran
      · exact fun _ _ => nofun
      · intro current action next unsent stepped
        exact head_step head unsent stepped
    rintro ⟨⟨data, moreBody, stage, _⟩, _⟩
    exact unsent data moreBody stage
  · apply letsOn_of_kept (fun _ => True) _ _ roomy begun attended trivial
    · intros
      trivial
    · rintro current act _ _ (own | ⟨rfl, _⟩)
      · exact .inl own
      · exact .inr rfl
  · intro letsOn jammed
    exact jammed.not_letsOn attended (letsOn.mono weaker)
  · exact letsOn_of_not_jammed roomy begun attended
  · intro letsOn jammed
    exact jammed.not_letsOn attended letsOn
  · intro free
    exact (letsOn_of_not_jammed roomy begun attended free).mono weaker

/-- The application goes on to send when its client has stopped reading. -/
def jammedRun : List Action :=
  stalledRun ++ List.replicate 16 (.push (.body [1] true) false)

/-- As much as the bound allows is then under way. -/
theorem flow_controlled_jammed :
    ∃ s, run (step streaming) (init streaming (.new [] false)) jammedRun = some s ∧
      s.accepted.length = 33 ∧ s.body.queue = s.body.handed ∧
      (¬ s.LetsOn streaming fun action => action.ofConnection = false) ∧
      s.LetsOn streaming fun action => action.ofHandler = true ∨ action = .takeChunk := by
  have reached : ∃ s, run (step streaming) (init streaming (.new [] false)) jammedRun = some s ∧
      s.stage = .sendData [1] true ∧ s.body.receiver = true ∧
      responseChannelBound ≤ s.body.queue.length ∧ s.chan.hasRoom = false ∧
      s.accepted.length = 33 ∧ s.body.queue = s.body.handed :=
    exists_of_run_any (by decide)
  rcases reached with ⟨s, ran, stage, receiver, many, none, ahead, unread⟩
  rcases flow_controlled ran with ⟨_, _, waiting⟩
  rcases waiting (by simp [stage]) with ⟨reading, _, exactly⟩
  have jammed : s.Jammed := ⟨⟨[1], true, stage, receiver, many⟩, none⟩
  exact ⟨s, ran, ahead, unread, fun letsOn => exactly.mp letsOn jammed, reading⟩

end Http

end RustAsgi
