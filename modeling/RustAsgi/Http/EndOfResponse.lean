import RustAsgi.Http.Wire

/-!
# The end of a response body

Every way out of the responder's loop drops the body sender, which ends the body
cleanly. A client can tell a truncated response from a complete one only where
the loop was left with the final body event.
-/

namespace RustAsgi

open Machine Tokio

namespace Wire

open Http

variable {request : Request} {w next : Wire} {action : Action}

/-- The application has sent its final body event. -/
def FinalSent (w : Wire) : Prop :=
  ∃ event ∈ w.chan.sent, event.isFinal = true

/-- The next poll leaves the responder's loop, and the final body event is neither taken
nor waiting in the channel. -/
def givesUp (w : Wire) : Bool :=
  match w.stage with
  | .responder .rx => w.chan.buffer.isEmpty && w.chan.sendersGone
  | .responder .deadline => w.appTimer && !w.chan.buffer.any ResponseEvent.isFinal
  | .sendData _ true => !w.receiver && !w.chan.buffer.any ResponseEvent.isFinal
  | _ => false

/-- The stages after the final body event has been taken. -/
def concluding : Stage → Bool
  | .sendData _ moreBody => !moreBody
  | .clientGone _ | .closing | .observing => true
  | _ => false

/-- The body is concluded, and ended, only after a final event. -/
structure Concludes (w : Wire) : Prop where
  fifo : w.chan.Fifo
  concluded : concluding w.stage = true → w.FinalSent
  ended : w.ending ≠ none → w.FinalSent

theorem Concludes.of_sent (concludes : Concludes w) (fifo : next.chan.Fifo)
    (sent : w.chan.sent <+: next.chan.sent)
    (stage : concluding next.stage = true → w.FinalSent) (ending : next.ending = w.ending) :
    Concludes next := by
  have mono : w.FinalSent → next.FinalSent := by
    rintro ⟨event, member, isFinal⟩
    exact ⟨event, sent.subset member, isFinal⟩
  exact ⟨fifo, fun now => mono (stage now), fun now => mono (concludes.ended (ending ▸ now))⟩

theorem finalSent_of_buffer (fifo : w.chan.Fifo)
    (unread : w.chan.buffer.any ResponseEvent.isFinal = true) : w.FinalSent := by
  rcases List.any_eq_true.mp unread with ⟨event, member, isFinal⟩
  refine ⟨event, ?_, isFinal⟩
  rw [show w.chan.sent = _ from fifo]
  exact List.mem_append_right _ member

theorem sent_recv {chan after : Mpsc ResponseEvent} {event : ResponseEvent}
    (received : chan.recv = .item event after) : chan.sent <+: after.sent := by
  rcases Mpsc.recv_item received with ⟨rest, _, rfl⟩
  exact List.prefix_rfl

theorem mem_sent_of_recv {chan after : Mpsc ResponseEvent} {event : ResponseEvent}
    (fifo : chan.Fifo) (received : chan.recv = .item event after) : event ∈ chan.sent := by
  rcases Mpsc.recv_item received with ⟨rest, buffered, rfl⟩
  rw [show chan.sent = _ from fifo, buffered]
  exact List.mem_append_right _ List.mem_cons_self

theorem Concludes.step (concludes : Concludes w)
    (continues : action = .poll → w.givesUp = false)
    (stepped : Step request w action next) : Concludes next := by
  have fifo := concludes.fifo
  cases stepped with
  | silent => exact concludes
  | established stage => exact concludes.of_sent fifo List.prefix_rfl (by simp [concluding]) rfl
  | refused stage =>
      exact concludes.of_sent fifo.dropReceiver List.prefix_rfl (by simp [failed, concluding]) rfl
  | push stage accepted senders receiver =>
      exact concludes.of_sent fifo.accept (List.prefix_append _ _) concludes.concluded rfl
  | park stage accepted senders receiver =>
      exact concludes.of_sent fifo.park List.prefix_rfl concludes.concluded rfl
  | unpark unparked =>
      have kept := fifo.unpark unparked
      rcases Mpsc.unpark_cases unparked with ⟨value, _, _, _, rfl⟩
      exact concludes.of_sent kept (List.prefix_append _ _) concludes.concluded rfl
  | dropSink => exact concludes.of_sent fifo.dropSenders List.prefix_rfl concludes.concluded rfl
  | startDeadline => exact concludes.of_sent fifo List.prefix_rfl concludes.concluded rfl
  | appDeadline stage => exact concludes.of_sent fifo List.prefix_rfl concludes.concluded rfl
  | dropBody => exact concludes.of_sent fifo List.prefix_rfl concludes.concluded rfl
  | dropService stage =>
      exact concludes.of_sent fifo.dropReceiver List.prefix_rfl (by simp [concluding]) rfl
  | phaseA branch stage =>
      exact concludes.of_sent fifo List.prefix_rfl (by simp [concluding]) rfl
  | start stage received =>
      exact concludes.of_sent (fifo.recv received) (sent_recv received) (by simp [concluding]) rfl
  | early waiting stage received =>
      exact concludes.of_sent (fifo.recv received) (sent_recv received) (by simp [concluding]) rfl
  | neverStarted stage received =>
      exact concludes.of_sent fifo.dropReceiver List.prefix_rfl (by simp [failed, concluding]) rfl
  | startTimeout stage fired =>
      exact concludes.of_sent fifo.dropReceiver List.prefix_rfl (by simp [failed, concluding]) rfl
  | rejected stage =>
      exact concludes.of_sent fifo.dropReceiver List.prefix_rfl (by simp [failed, concluding]) rfl
  | responder branch stage =>
      exact concludes.of_sent fifo List.prefix_rfl (by simp [concluding]) rfl
  | duplicate stage received =>
      exact concludes.of_sent (fifo.recv received) (sent_recv received) (by simp [concluding]) rfl
  | @skip data moreBody chan stage received nothing =>
      refine concludes.of_sent (fifo.recv received) (sent_recv received) ?_ rfl
      intro now
      cases moreBody with
      | true => simp [afterBody, concluding] at now
      | false => exact ⟨_, mem_sent_of_recv fifo received, rfl⟩
  | @take data moreBody chan stage received hasBody nonempty =>
      refine concludes.of_sent (fifo.recv received) (sent_recv received) ?_ rfl
      intro now
      cases moreBody with
      | true => simp [concluding] at now
      | false => exact ⟨_, mem_sent_of_recv fifo received, rfl⟩
  | closed stage received =>
      -- The channel is closed before a final event: excluded.
      rcases Mpsc.recv_closed.mp received with ⟨drained, gone⟩
      simp [givesUp, stage, drained, gone] at continues
  | appTimeout stage fired =>
      refine concludes.of_sent fifo List.prefix_rfl ?_ rfl
      intro _
      apply finalSent_of_buffer fifo
      simpa [givesUp, stage, fired] using continues rfl
  | @hand data moreBody stage receiver =>
      refine concludes.of_sent fifo List.prefix_rfl ?_ rfl
      intro now
      cases moreBody with
      | true => simp [afterBody, concluding] at now
      | false => exact concludes.concluded (by simp [stage, concluding])
  | @gone data moreBody waiting stage receiver =>
      refine concludes.of_sent fifo List.prefix_rfl ?_ rfl
      intro _
      cases moreBody with
      | true =>
          apply finalSent_of_buffer fifo
          simpa [givesUp, stage, receiver] using continues rfl
      | false => exact concludes.concluded (by simp [stage, concluding])
  | told stage =>
      refine concludes.of_sent fifo List.prefix_rfl ?_ rfl
      intro _
      exact concludes.concluded (by simp [stage, concluding])
  | close stage =>
      have sent : w.FinalSent := concludes.concluded (by simp [stage, concluding])
      exact ⟨fifo, fun _ => sent, fun _ => sent⟩
  | observe stage =>
      exact concludes.of_sent fifo.dropReceiver List.prefix_rfl (by simp [concluding]) rfl

theorem concludes_init (request : Request) (body : Incoming) :
    Concludes (Http.init request body).wire where
  fifo := rfl
  concluded := by simp [wire, Http.init, concluding]
  ended := by simp [wire, Http.init]

end Wire

namespace Http

variable {request : Request} {s final : Http} {actions : List Action}

/-- The responder does not give up: it leaves its loop with the final body event taken or
still waiting in the channel. -/
def Continues (s : Http) (action : Action) : Prop :=
  action = .poll → s.wire.givesUp = false

instance (s : Http) (action : Action) : Decidable (s.Continues action) :=
  inferInstanceAs (Decidable (_ → _))

/-- A body ends cleanly only after its final event, and is aborted otherwise, as long as the
responder does not give up. -/
theorem clean_end_of_continues (body : Incoming)
    (continues : Along (step request) Continues (init request body) actions)
    (ran : run (step request) (init request body) actions = some final) :
    (final.body.ending = some .endOfStream →
      ∃ event ∈ final.chan.sent, event.isFinal = true) ∧
    (final.stage = .observing → (∀ event ∈ final.chan.sent, event.isFinal = false) →
      final.body.ending = some .aborted) := by
  have concludes : final.wire.Concludes :=
    run_invariant (fun s : Http => s.wire.Concludes)
      (fun _ _ _ concludes continues stepped => concludes.step continues (step_wire stepped))
      continues ran (Wire.concludes_init request body)
  constructor
  · intro ended
    apply concludes.ended
    simp [wire, ended]
  · intro stage unsent
    rcases concludes.concluded (by simp [wire, stage, Wire.concluding]) with
      ⟨event, member, isFinal⟩
    rw [unsent event member] at isFinal
    cases isFinal

def download : Request :=
  { hasBody := false, isHead := false, accessLog := false,
    crate := { validHeader := fun _ => true, builds := fun _ => true } }

theorem clean_end_of_continues_two :
    ∃ final, run (step download) (init download (.new [] false))
        [.established true, .push (.start 200 []) false, .poll, .push (.body [1] true) false,
          .push (.body [] false) false, .poll, .poll, .poll, .poll] = some final ∧
      (final.body.ending = some .endOfStream →
        ∃ event ∈ final.chan.sent, event.isFinal = true) ∧
      (final.stage = .observing → (∀ event ∈ final.chan.sent, event.isFinal = false) →
        final.body.ending = some .aborted) := by
  have ran : ∃ final, run (step download) (init download (.new [] false))
      [.established true, .push (.start 200 []) false, .poll, .push (.body [1] true) false,
        .push (.body [] false) false, .poll, .poll, .poll, .poll] = some final ∧
      final.body.ending = some .endOfStream :=
    exists_of_run_any (by decide)
  rcases ran with ⟨final, ran, _⟩
  exact ⟨final, ran, clean_end_of_continues _ (by decide) ran⟩

/-- The application raises in the middle of its body, and the client sees a clean end. -/
theorem clean_end_of_raise :
    ∃ final, run (step download) (init download (.new [] false))
        [.established true, .push (.start 200 []) false, .poll, .push (.body [1] true) false,
          .exit .raised, .dropSink, .poll, .poll, .poll, .poll] = some final ∧
      final.body.ending = some .endOfStream ∧
      ∀ event ∈ final.chan.sent, event.isFinal = false :=
  exists_of_run_any (by decide)

end Http

end RustAsgi
