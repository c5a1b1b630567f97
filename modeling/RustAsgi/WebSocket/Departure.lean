import RustAsgi.WebSocket.Grammar

/-!
# The end of the client

The pump learns that the client is gone from a read or from a send that fails. A
read reports it to the application; a failed send leaves the pump without a word.
-/

namespace RustAsgi

open Machine Asyncio Tokio

namespace Ws

variable {s next final : Ws} {action : Action} {actions : List Action}
  {departures : List (Option (ℕ × String))} {clean : Prop}

/-- The client closes, vanishes or becomes unwritable, and the pump notices: the close frame's
code and reason if there is one. -/
def departs (s : Ws) : Action → List (Option (ℕ × String))
  | .poll =>
      match s.stage with
      | .pump .socket =>
          match s.socket.next with
          | .frame (.close frame) _ => [frame]
          | .finished => [none]
          | _ => []
      | .sending frame =>
          if s.socket.blocked = false ∧ s.socket.send frame = none then [none] else []
      | _ => []
  | _ => []

/-- No send of the pump fails, and the event loop runs when the application is to be told. -/
def heard (s : Ws) : Action → Bool
  | .poll =>
      match s.stage with
      | .pump .socket =>
          match s.socket.next with
          | .frame (.close _) _ => !s.appClosed || s.running
          | .finished => s.running
          | _ => true
      | .sending frame => s.socket.blocked || (s.socket.send frame).isSome
      | .closing _ _ (.disconnect _ _) => s.socket.blocked || s.running
      | _ => true
  | _ => true

def Heard (s : Ws) (action : Action) : Prop :=
  s.heard action = true

instance (s : Ws) (action : Action) : Decidable (s.Heard action) :=
  inferInstanceAs (Decidable (_ = _))

/-- The pump has been left. -/
def left (s : Ws) : Bool :=
  match s.stage with
  | .ending | .finishing | .done => true
  | _ => false

/-- The disconnect messages that are on their way to the application, or have reached it. -/
def disconnects (s : Ws) : List WsInbound :=
  (s.received ++ s.loop.puts.map Put.item).filter WsInbound.isDisconnect

/-- Exactly one disconnect message for the application, with the client's code if it sent one. -/
def Reported (s : Ws) (departure : Option (ℕ × String)) : Prop :=
  ∃ code reason, s.disconnects = [.disconnect code reason] ∧
    ∀ close ∈ departure, code = close.1

/-- The message that reports a departure. -/
def farewell (departure : Option (ℕ × String)) : WsInbound :=
  .disconnect (departure.getD (1006, "")).1 (departure.getD (1006, "")).2

/-- The disconnect messages that have been handed to the event loop. -/
def reports (s : Ws) : List WsInbound :=
  s.submitted.filter WsInbound.isDisconnect

/-- What each stage knows of the departure and its report, where `clean` says whether every step
so far was heard. -/
def Noticed (s : Ws) (departures : List (Option (ℕ × String))) (clean : Prop) : Prop :=
  match s.stage with
  | .closing _ _ (.disconnect code reason) =>
      clean ∧ s.reports = [] ∧
        ∃ departure, departures = [departure] ∧ .disconnect code reason = farewell departure
  | .feeding _ true =>
      clean ∧ ∃ departure, departures = [departure] ∧ s.reports = [farewell departure]
  | .ending | .finishing | .done =>
      departures = [] ∨ ∃ departure, departures = [departure] ∧
        ((clean ∧ s.reports = [farewell departure]) ∨ (¬ clean ∧ s.reports = []))
  | _ => clean ∧ s.reports = [] ∧ departures = []

theorem Noticed.quiet (noticed : Noticed next departures clean) (silent : s.departs action = [])
    (heard : s.heard action = true) :
    Noticed next (departures ++ s.departs action) (clean ∧ s.Heard action) := by
  simpa only [silent, List.append_nil, Heard, heard, and_true] using noticed

theorem quiet_of_read {frame : ClientFrame} {socket : Socket} (stage : s.stage = .pump .socket)
    (read : s.socket.next = .frame frame socket) (other : ∀ close, frame ≠ .close close) :
    s.departs .poll = [] ∧ s.heard .poll = true := by
  simp only [departs, heard, stage, read]
  cases frame with
  | close close => exact absurd rfl (other close)
  | _ => exact ⟨rfl, rfl⟩

theorem reports_enqueue (s : Ws) (message : WsInbound) :
    (s.enqueue message).reports = s.reports ++ [message].filter WsInbound.isDisconnect := by
  simp only [reports, enqueue, List.filter_append]

theorem isDisconnect_of_message {frame : ClientFrame} {message : WsInbound}
    (carries : frame.message? = some message) : message.isDisconnect = false := by
  cases frame <;> cases carries <;> rfl

theorem Noticed.told {departure : Option (ℕ × String)} (before : clean) (untold : s.reports = []) :
    Noticed (s.feed (farewell departure) true) [departure] (clean ∧ s.running = true) := by
  rcases s.feed_cases (farewell departure) true with ⟨running, same⟩ | ⟨stopped, same⟩ <;> rw [same]
  · refine ⟨⟨before, running⟩, departure, rfl, ?_⟩
    change (s.enqueue (farewell departure)).reports = _
    rw [reports_enqueue, untold]
    rfl
  · refine .inr ⟨departure, rfl, .inr ⟨?_, untold⟩⟩
    rw [stopped]
    simp

theorem Noticed.polled (noticed : Noticed s departures clean) (polled : Polled s next) :
    Noticed next (departures ++ s.departs .poll) (clean ∧ s.Heard .poll) := by
  cases polled with
  | connected stage | unconnected stage | accepted stage | denied stage | unexpected stage
  | appFailed stage | acceptTimeout stage | appReturned stage | data stage | appClose stage
  | duplicate stage | drained stage =>
      simp only [Noticed, stage] at noticed
      exact Noticed.quiet noticed (by simp [departs, stage]) (by simp [heard, stage])
  | @onward branch later stage unread =>
      simp only [Noticed, stage] at noticed
      cases branch with
      | socket =>
          have nothing := unread rfl
          exact Noticed.quiet noticed (by simp [departs, stage, nothing])
            (by simp [heard, stage, nothing])
      | app | rx =>
          exact Noticed.quiet noticed (by simp [departs, stage]) (by simp [heard, stage])
  | appEnd stage =>
      simp only [Noticed, stage] at noticed
      exact Noticed.quiet (.inl noticed.2.2) (by simp [departs, stage]) (by simp [heard, stage])
  | @message frame message socket stage read carries =>
      simp only [Noticed, stage] at noticed
      rcases noticed with ⟨before, untold, nobody⟩
      rcases quiet_of_read stage read (by rintro close rfl; cases carries) with ⟨silent, heard⟩
      refine Noticed.quiet ?_ silent heard
      rcases ({ s with socket } : Ws).feed_cases message false with ⟨_, same⟩ | ⟨_, same⟩ <;>
        rw [same]
      · refine ⟨before, ?_, nobody⟩
        change (({ s with socket } : Ws).enqueue message).reports = _
        rw [reports_enqueue, List.filter_cons_of_neg (by simp [isDisconnect_of_message carries])]
        exact (List.append_nil _).trans untold
      · exact .inl nobody
  | ping stage read =>
      simp only [Noticed, stage] at noticed
      rcases quiet_of_read stage read (by simp) with ⟨silent, heard⟩
      exact Noticed.quiet noticed silent heard
  | ignored stage read silent =>
      simp only [Noticed, stage] at noticed
      rcases quiet_of_read stage read (by rintro close rfl; simp at silent) with ⟨silent, heard⟩
      exact Noticed.quiet noticed silent heard
  | @echoed departure socket stage read closed =>
      simp only [Noticed, stage] at noticed
      rcases noticed with ⟨before, untold, rfl⟩
      have told : Noticed (({ s with socket } : Ws).feed (farewell departure) true) [departure]
        (clean ∧ s.running = true) := Noticed.told before untold
      have departed : s.departs .poll = [departure] := by simp only [departs, stage, read]
      have heard : s.Heard .poll ↔ s.running = true := by simp [Heard, heard, stage, read, closed]
      simp only [departed, heard]
      exact told
  | @clientClosed departure socket stage read opened =>
      simp only [Noticed, stage] at noticed
      rcases noticed with ⟨before, untold, rfl⟩
      have heard : s.heard .poll = true := by simp [heard, stage, read, opened]
      simp only [departs, stage, read]
      exact ⟨⟨before, heard⟩, untold, departure, rfl, rfl⟩
  | vanished stage read =>
      simp only [Noticed, stage] at noticed
      rcases noticed with ⟨before, untold, rfl⟩
      have told : Noticed (s.feed (farewell none) true) [none] (clean ∧ s.running = true) :=
        Noticed.told before untold
      have departed : s.departs .poll = [none] := by simp only [departs, stage, read]
      have heard : s.Heard .poll ↔ s.running = true := by simp [Heard, heard, stage, read]
      simp only [departed, heard]
      exact told
  | sent stage unblocked sent =>
      simp only [Noticed, stage] at noticed
      exact Noticed.quiet noticed (by simp [departs, stage, sent]) (by simp [heard, stage, sent])
  | unsent stage unblocked unsent =>
      simp only [Noticed, stage] at noticed
      rcases noticed with ⟨before, untold, rfl⟩
      refine .inr ⟨none, by simp [departs, stage, unblocked, unsent], .inr ⟨?_, untold⟩⟩
      simp [Heard, heard, stage, unblocked, unsent]
  | @closed code reason after stage unblocked =>
      simp only [Noticed, stage] at noticed
      cases after with
      | disconnect later why =>
          rcases noticed with ⟨before, untold, departure, rfl, same⟩
          have told : Noticed ((s.sendClose code reason).feed (farewell departure) true) [departure]
            (clean ∧ s.running = true) := Noticed.told before untold
          simpa [departs, Heard, heard, stage, unblocked, afterClose, same] using told
      | loop =>
          exact Noticed.quiet noticed (by simp [departs, stage]) (by simp [heard, stage])
      | leave | denied | gone =>
          exact Noticed.quiet (.inl noticed.2.2) (by simp [departs, stage]) (by simp [heard, stage])
  | @fed _ last stage =>
      simp only [Noticed, stage] at noticed
      refine Noticed.quiet ?_ (by simp [departs, stage]) (by simp [heard, stage])
      cases last with
      | false => exact noticed
      | true =>
          rcases noticed with ⟨before, departure, departed, told⟩
          exact .inr ⟨departure, departed, .inl ⟨before, told⟩⟩
  | @unfed _ last stage =>
      simp only [Noticed, stage] at noticed
      refine Noticed.quiet ?_ (by simp [departs, stage]) (by simp [heard, stage])
      cases last with
      | false => exact .inl noticed.2.2
      | true =>
          rcases noticed with ⟨before, departure, departed, told⟩
          exact .inr ⟨departure, departed, .inl ⟨before, told⟩⟩
  | leave stage =>
      simp only [Noticed, stage] at noticed
      refine Noticed.quiet ?_ (by simp [departs, stage]) (by simp [heard, stage])
      simp only [Noticed]
      cases s.appDone <;> exact noticed
  | finish stage =>
      simp only [Noticed, stage] at noticed
      exact Noticed.quiet noticed (by simp [departs, stage]) (by simp [heard, stage])

theorem Noticed.step (noticed : Noticed s departures clean)
    (stepped : s.step action = some next) :
    Noticed next (departures ++ s.departs action) (clean ∧ s.Heard action) := by
  cases step_cases stepped with
  | poll polled => exact noticed.polled polled
  | begin stage =>
      simp only [Noticed, stage] at noticed
      rcases noticed with ⟨before, untold, nobody⟩
      refine Noticed.quiet ⟨before, ?_, nobody⟩ rfl rfl
      change (s.enqueue .connect).reports = []
      rw [reports_enqueue, untold]
      rfl
  | stopped stage | refused stage =>
      simp only [Noticed, stage] at noticed
      exact Noticed.quiet noticed rfl rfl
  | _ => exact Noticed.quiet noticed rfl rfl

end Ws

end RustAsgi
