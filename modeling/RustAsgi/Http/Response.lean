import RustAsgi.Http.EndOfResponse

/-!
# What the client receives

An application that awaits every `send()` before the next one has its events
delivered in order, whichever of the two send paths they take. The status and the
chunks of the response are then functions of the events.
-/

namespace RustAsgi

open Machine Tokio

namespace ResponseEvent

def isStart : ResponseEvent → Bool
  | .start _ _ => true
  | .body _ _ => false

/-- The nonempty data of the body events up to and including the first final one. -/
def bodyChunks : List ResponseEvent → List Bytes
  | [] => []
  | .start _ _ :: rest => bodyChunks rest
  | .body data moreBody :: rest =>
      (if data = [] then [] else [data]) ++ if moreBody then bodyChunks rest else []

def Open (events : List ResponseEvent) : Prop :=
  ∀ event ∈ events, event.isFinal = false

theorem bodyChunks_append_of_open {events : List ResponseEvent} (rest : List ResponseEvent)
    (opened : Open events) :
    bodyChunks (events ++ rest) = bodyChunks events ++ bodyChunks rest := by
  induction events with
  | nil => rfl
  | cons event events ih =>
      have openedRest : Open events := fun later member =>
        opened later (List.mem_cons_of_mem _ member)
      have more := opened event List.mem_cons_self
      cases event with
      | start status headers => exact ih openedRest
      | body data moreBody =>
          cases moreBody with
          | true => simp [bodyChunks, ih openedRest]
          | false => cases more

/-- Nothing after a final body event counts. -/
theorem bodyChunks_append_of_final {events : List ResponseEvent} (rest : List ResponseEvent)
    (closed : ∃ event ∈ events, event.isFinal = true) :
    bodyChunks (events ++ rest) = bodyChunks events := by
  induction events with
  | nil => simp at closed
  | cons event events ih =>
      cases event with
      | start status headers =>
          apply ih
          rcases closed with ⟨final, member, isFinal⟩
          rcases List.mem_cons.mp member with rfl | later
          · cases isFinal
          · exact ⟨final, later, isFinal⟩
      | body data moreBody =>
          cases moreBody with
          | false => simp [bodyChunks]
          | true =>
              have closedRest : ∃ event ∈ events, event.isFinal = true := by
                rcases closed with ⟨final, member, isFinal⟩
                rcases List.mem_cons.mp member with rfl | later
                · cases isFinal
                · exact ⟨final, later, isFinal⟩
              simp [bodyChunks, ih closedRest]

theorem bodyChunks_prefix (events rest : List ResponseEvent) :
    bodyChunks events <+: bodyChunks (events ++ rest) := by
  by_cases closed : ∃ event ∈ events, event.isFinal = true
  · rw [bodyChunks_append_of_final rest closed]
  · have opened : Open events := by
      intro event member
      cases final : event.isFinal with
      | false => rfl
      | true => exact absurd ⟨event, member, final⟩ closed
    rw [bodyChunks_append_of_open rest opened]
    exact List.prefix_append _ _

theorem Open.concat {events : List ResponseEvent} {event : ResponseEvent}
    (opened : Open events) (more : event.isFinal = false) : Open (events ++ [event]) := by
  intro other member
  rcases List.mem_append.mp member with earlier | last
  · exact opened other earlier
  · rw [List.mem_singleton.mp last]
    exact more

end ResponseEvent

/-- The chunk that the responder has taken and not handed over. -/
def Stage.inHand : Stage → List Bytes
  | .sendData data _ => [data]
  | _ => []

open ResponseEvent

namespace Request

/-- The chunks that the response body is to carry. -/
def expected (request : Request) (events : List ResponseEvent) : List Bytes :=
  if request.isHead then [] else bodyChunks events

variable (request : Request)

theorem expected_prefix (events rest : List ResponseEvent) :
    request.expected events <+: request.expected (events ++ rest) := by
  simp only [expected]
  split
  · exact List.prefix_rfl
  · exact bodyChunks_prefix events rest

theorem expected_append_of_final {events : List ResponseEvent} (rest : List ResponseEvent)
    (closed : ∃ event ∈ events, event.isFinal = true) :
    request.expected (events ++ rest) = request.expected events := by
  simp only [expected, bodyChunks_append_of_final rest closed]

theorem expected_concat_of_silent {events : List ResponseEvent} {event : ResponseEvent}
    (opened : Open events)
    (silent : request.isHead = true ∨ bodyChunks [event] = []) :
    request.expected (events ++ [event]) = request.expected events := by
  simp only [expected]
  split
  · rfl
  · rename_i hasBody
    rcases silent with head | empty
    · exact absurd head hasBody
    · rw [bodyChunks_append_of_open _ opened, empty, List.append_nil]

theorem expected_concat_of_data {events : List ResponseEvent} {data : Bytes} {moreBody : Bool}
    (opened : Open events) (hasBody : request.isHead = false) (nonempty : data ≠ []) :
    request.expected (events ++ [.body data moreBody]) = request.expected events ++ [data] := by
  simp only [expected, hasBody, Bool.false_eq_true, if_false]
  rw [bodyChunks_append_of_open _ opened]
  cases moreBody <;> simp [bodyChunks, nonempty]

end Request

namespace Wire

open Http

variable {request : Request} {w next : Wire} {action : Action}

/-- The application awaits each `send()` before the next, and starts with the start event;
the deadline for that event does not pass. -/
def awaited (w : Wire) : Action → Bool
  | .push event _ => w.chan.parked.isEmpty && (!w.chan.sent.isEmpty || event.isStart)
  | .startDeadline => false
  | _ => true

def Started (request : Request) (w : Wire) : Prop :=
  ∃ status headers rest, w.chan.received = .start status headers :: rest ∧
    w.response = some (buildResponse request.crate status headers)

/-- No event has been read. -/
def Unread (w : Wire) : Prop :=
  w.chan.received = [] ∧ w.handed = [] ∧ w.ending = none

def Fresh (w : Wire) : Prop :=
  Unread w ∧ w.response = none

/-- Nothing relevant is left in the channel, and nothing relevant can enter it. -/
def Drained (chan : Mpsc ResponseEvent) : Prop :=
  (∃ event ∈ chan.received, event.isFinal = true) ∨
    (chan.buffer = [] ∧ chan.parked = [] ∧ (chan.senders = false ∨ chan.receiver = false))

/-- The responder is done with the chunks. -/
def Finished (request : Request) (w : Wire) : Prop :=
  w.handed <+: request.expected w.chan.received ∧
    (w.disconnected = false → w.handed = request.expected w.chan.received ∧
      (w.appTimer = false → Drained w.chan))

/-- What each stage knows of the chunks. -/
def AtStage (request : Request) (w : Wire) : Prop :=
  match w.stage with
  | .establish => Fresh w ∧ w.chan.sent = [] ∧ w.chan.parked = []
  | .phaseA _ => Fresh w
  | .rejected _ => False
  | .responder _ =>
      Started request w ∧ w.ending = none ∧ Open w.chan.received ∧
        w.handed = request.expected w.chan.received
  | .sendData data moreBody =>
      Started request w ∧ w.ending = none ∧ request.isHead = false ∧ data ≠ [] ∧
        ∃ earlier, w.chan.received = earlier ++ [.body data moreBody] ∧ Open earlier ∧
          w.handed = request.expected earlier
  | .clientGone _ =>
      Started request w ∧ w.ending = none ∧ w.disconnected = true ∧
        w.handed <+: request.expected w.chan.received
  | .closing => Started request w ∧ Finished request w
  | .observing => Started request w ∧ Finished request w ∧ w.ending ≠ none
  | .done =>
      w.chan.receiver = false ∧
        (Unread w ∧ (w.chan.sent = [] ∨ w.response = none) ∨
          Started request w ∧ Finished request w)

/-- The response side keeps faith with the events that were sent. -/
structure Delivers (request : Request) (w : Wire) : Prop where
  fifo : w.chan.Fifo
  accepted : ∀ event ∈ w.chan.sent ++ w.chan.parked, event.accepted = true
  single : w.chan.parked.length ≤ 1
  opening : ∀ event ∈ (w.chan.sent ++ w.chan.parked).head?, event.isStart = true
  timer : w.startTimer = false
  atStage : AtStage request w

theorem awaited_push {event : ResponseEvent} {behind : Bool}
    (awaited : w.awaited (.push event behind) = true) :
    w.chan.parked = [] ∧ (w.chan.sent = [] → event.isStart = true) := by
  simp only [Wire.awaited, Bool.and_eq_true, List.isEmpty_iff] at awaited
  refine ⟨awaited.1, ?_⟩
  intro nothing
  simpa [nothing] using awaited.2

theorem Started.of_received (started : Started request w) {chan : Mpsc ResponseEvent}
    (received : chan.received = w.chan.received) : Started request { w with chan } := by
  rcases started with ⟨status, headers, rest, first, response⟩
  exact ⟨status, headers, rest, received.trans first, response⟩

theorem AtStage.of_chan {chan : Mpsc ResponseEvent} (atStage : AtStage request w)
    (received : chan.received = w.chan.received) (drained : Drained w.chan → Drained chan)
    (establish : w.stage = .establish → chan = w.chan)
    (receiver : w.chan.receiver = false → chan.receiver = false ∧ chan.sent = w.chan.sent) :
    AtStage request { w with chan } := by
  have unread : Unread w → Unread { w with chan } := by
    rintro ⟨noEvent, rest⟩
    exact ⟨received.trans noEvent, rest⟩
  have fresh : Fresh w → Fresh { w with chan } := And.imp_left unread
  have finished : Finished request w → Finished request { w with chan } := by
    rintro ⟨handed, complete⟩
    refine ⟨received ▸ handed, ?_⟩
    intro connected
    rcases complete connected with ⟨all, noMore⟩
    exact ⟨received ▸ all, fun inTime => drained (noMore inTime)⟩
  cases stage : w.stage with
  | establish =>
      simp only [AtStage, stage] at atStage ⊢
      exact ⟨fresh atStage.1, establish stage ▸ atStage.2⟩
  | phaseA branch =>
      simp only [AtStage, stage] at atStage ⊢
      exact fresh atStage
  | rejected waiting =>
      simp only [AtStage, stage] at atStage
  | responder branch =>
      simp only [AtStage, stage, received] at atStage ⊢
      exact ⟨atStage.1.of_received received, atStage.2⟩
  | sendData data moreBody =>
      simp only [AtStage, stage, received] at atStage ⊢
      exact ⟨atStage.1.of_received received, atStage.2⟩
  | clientGone waiting =>
      simp only [AtStage, stage, received] at atStage ⊢
      exact ⟨atStage.1.of_received received, atStage.2⟩
  | closing =>
      simp only [AtStage, stage] at atStage ⊢
      exact ⟨atStage.1.of_received received, finished atStage.2⟩
  | observing =>
      simp only [AtStage, stage] at atStage ⊢
      exact ⟨atStage.1.of_received received, finished atStage.2.1, atStage.2.2⟩
  | done =>
      simp only [AtStage, stage] at atStage ⊢
      rcases receiver atStage.1 with ⟨gone, same⟩
      refine ⟨gone, ?_⟩
      rcases atStage.2 with ⟨nothing, reason⟩ | ⟨started, done⟩
      · exact .inl ⟨unread nothing, same.symm ▸ reason⟩
      · exact .inr ⟨started.of_received received, finished done⟩

theorem Delivers.of_sending (delivers : Delivers request w) (fifo : next.chan.Fifo)
    (events : next.chan.sent ++ next.chan.parked = w.chan.sent ++ w.chan.parked)
    (single : next.chan.parked.length ≤ 1) (timer : next.startTimer = w.startTimer)
    (atStage : AtStage request next) : Delivers request next where
  fifo := fifo
  accepted := events.symm ▸ delivers.accepted
  single := single
  opening := events.symm ▸ delivers.opening
  timer := timer.trans delivers.timer
  atStage := atStage

theorem Delivers.of_same_chan (delivers : Delivers request w) (chan : next.chan = w.chan)
    (timer : next.startTimer = w.startTimer) (atStage : AtStage request next) :
    Delivers request next :=
  delivers.of_sending (chan ▸ delivers.fifo) (by rw [chan]) (chan ▸ delivers.single) timer atStage

theorem Delivers.send (delivers : Delivers request w) {event : ResponseEvent}
    {chan : Mpsc ResponseEvent} (accepted : event.accepted = true) (fifo : chan.Fifo)
    (events : chan.sent ++ chan.parked = w.chan.sent ++ [event])
    (opens : w.chan.sent = [] → event.isStart = true) (nobody : w.chan.parked = [])
    (single : chan.parked.length ≤ 1) (atStage : AtStage request { w with chan }) :
    Delivers request { w with chan } where
  fifo := fifo
  accepted := by
    intro other member
    rw [events] at member
    rcases List.mem_append.mp member with earlier | last
    · exact delivers.accepted other (List.mem_append_left _ earlier)
    · rw [List.mem_singleton.mp last]
      exact accepted
  single := single
  opening := by
    intro first member
    rw [events] at member
    cases sent : w.chan.sent with
    | nil =>
        simp only [sent, List.nil_append, List.head?_cons, Option.mem_some_iff] at member
        exact member ▸ opens sent
    | cons head rest =>
        apply delivers.opening
        simpa [sent, nobody] using member
  timer := delivers.timer
  atStage := atStage

theorem drained_of_final {chan after : Mpsc ResponseEvent}
    (received : after.received = chan.received)
    (open_ : chan.buffer = [] ∧ chan.parked = [] ∧
      (chan.senders = false ∨ chan.receiver = false) → Drained after)
    (drained : Drained chan) : Drained after := by
  rcases drained with final | frozen
  · exact .inl (received.symm ▸ final)
  · exact open_ frozen

/-- The event that a poll of the channel takes is the first one that was not taken. -/
theorem received_recv {chan after : Mpsc ResponseEvent} {event : ResponseEvent}
    (received : chan.recv = .item event after) :
    after.received = chan.received ++ [event] ∧ after.sent = chan.sent ∧
      after.parked = chan.parked ∧ after.senders = chan.senders ∧
      after.receiver = chan.receiver := by
  rcases Mpsc.recv_item received with ⟨rest, _, rfl⟩
  exact ⟨rfl, rfl, rfl, rfl, rfl⟩

theorem Started.recv (started : Started request w) {chan : Mpsc ResponseEvent}
    {event : ResponseEvent} (received : w.chan.recv = .item event chan) {stage : Stage} :
    Started request { w with chan, stage } := by
  rcases started with ⟨status, headers, rest, first, response⟩
  refine ⟨status, headers, rest ++ [event], ?_, response⟩
  rw [(received_recv received).1, first]
  rfl

theorem Delivers.first (delivers : Delivers request w) {event : ResponseEvent}
    {chan : Mpsc ResponseEvent} (noneYet : w.chan.received = [])
    (received : w.chan.recv = .item event chan) : event.isStart = true := by
  rcases Mpsc.recv_item received with ⟨rest, buffered, rfl⟩
  apply delivers.opening
  rw [show w.chan.sent = _ from delivers.fifo, noneYet, buffered]
  rfl

theorem failed_done (delivers : Delivers request w) (unread : Unread w)
    (nothing : w.chan.sent = []) : Delivers request w.failed where
  fifo := delivers.fifo.dropReceiver
  accepted := by
    intro event member
    simp [failed, Mpsc.dropReceiver, nothing] at member
  single := Nat.zero_le _
  opening := by
    intro event member
    simp [failed, Mpsc.dropReceiver, nothing] at member
  timer := delivers.timer
  atStage := ⟨rfl, .inl ⟨unread, .inl nothing⟩⟩

theorem AtStage.of_open_chan {chan : Mpsc ResponseEvent} (atStage : AtStage request w)
    (received : chan.received = w.chan.received) (stage : w.stage ≠ .establish)
    (pending : w.chan.senders = true ∨ w.chan.parked ≠ []) (receiver : w.chan.receiver = true) :
    AtStage request { w with chan } := by
  have alive : w.chan.receiver ≠ false := by simp [receiver]
  refine atStage.of_chan received (drained_of_final received ?_)
    (fun establish => absurd establish stage) (fun gone => absurd gone alive)
  rintro ⟨_, nobody, closed | gone⟩
  · rcases pending with senders | somebody
    · exact Bool.noConfusion (senders.symm.trans closed)
    · exact absurd nobody somebody
  · exact absurd gone alive

/-- Only one send can be parked, so it is the one that gets in. -/
theorem Delivers.unparked (delivers : Delivers request w) {index : ℕ} {value : ResponseEvent}
    (found : w.chan.parked[index]? = some value) :
    w.chan.parked = [value] ∧ w.chan.parked.eraseIdx index = [] := by
  have inside := (List.getElem?_eq_some_iff.mp found).1
  have single := delivers.single
  have zero : index = 0 := by omega
  subst zero
  cases parked : w.chan.parked with
  | nil => simp [parked] at found
  | cons head rest =>
      have nil : rest = [] := by
        simp only [parked, List.length_cons] at single
        exact List.length_eq_zero_iff.mp (by omega)
      subst nil
      simpa [parked] using found

theorem Delivers.dropReceiver (delivers : Delivers request w)
    (chan : next.chan = w.chan.dropReceiver) (timer : next.startTimer = w.startTimer)
    (atStage : AtStage request next) : Delivers request next where
  fifo := chan ▸ delivers.fifo.dropReceiver
  accepted := by
    intro event member
    apply delivers.accepted
    simp only [chan, Mpsc.dropReceiver, List.append_nil] at member
    exact List.mem_append_left _ member
  single := by simp [chan, Mpsc.dropReceiver]
  opening := by
    intro event member
    apply delivers.opening
    simp only [chan, Mpsc.dropReceiver, List.append_nil] at member
    rw [List.head?_append, member]
    rfl
  timer := timer.trans delivers.timer
  atStage := atStage

/-- All of the data is out after a body event: the responder goes on, or is finished. -/
theorem atStage_afterBody {earlier : List ResponseEvent} {data : Bytes} {moreBody : Bool}
    (handed : w.handed = request.expected w.chan.received) (started : Started request w)
    (opened : Open earlier) (received : w.chan.received = earlier ++ [.body data moreBody])
    (noEnd : w.ending = none) (stage : w.stage = afterBody moreBody) : AtStage request w := by
  cases moreBody with
  | true =>
      simp only [AtStage, stage, afterBody, if_true]
      exact ⟨started, noEnd, received ▸ opened.concat rfl, handed⟩
  | false =>
      simp only [AtStage, stage, afterBody, Bool.false_eq_true, if_false]
      refine ⟨started, handed ▸ List.prefix_rfl, fun _ => ⟨handed, fun _ => .inl ?_⟩⟩
      exact ⟨_, received ▸ List.mem_append_right _ List.mem_cons_self, rfl⟩

theorem Delivers.recv (delivers : Delivers request w) {chan : Mpsc ResponseEvent}
    {event : ResponseEvent} (received : w.chan.recv = .item event chan)
    (same : next.chan = chan) (timer : next.startTimer = w.startTimer)
    (atStage : AtStage request next) : Delivers request next := by
  rcases received_recv received with ⟨_, sent, parked, _, _⟩
  refine delivers.of_sending (same ▸ delivers.fifo.recv received) ?_ ?_ timer atStage
  · rw [same, sent, parked]
  · rw [same, parked]
    exact delivers.single

theorem Delivers.step (delivers : Delivers request w) (awaited : w.awaited action = true)
    (stepped : Step request w action next) : Delivers request next := by
  have atStage := delivers.atStage
  have fifo := delivers.fifo
  cases stepped with
  | silent => exact delivers
  | established stage =>
      simp only [AtStage, stage] at atStage
      exact delivers.of_same_chan rfl rfl atStage.1
  | refused stage =>
      simp only [AtStage, stage] at atStage
      exact failed_done delivers atStage.1.1 atStage.2.1
  | @push event behind stage accepted senders receiver =>
      rcases awaited_push awaited with ⟨nobody, opens⟩
      exact delivers.send accepted fifo.accept (by simp [Mpsc.accept, nobody]) opens nobody
        delivers.single (atStage.of_open_chan rfl stage (.inl senders) receiver)
  | @park event behind stage accepted senders receiver =>
      rcases awaited_push awaited with ⟨nobody, opens⟩
      exact delivers.send accepted fifo.park (by simp [Mpsc.park, nobody]) opens nobody
        (by simp [Mpsc.park, nobody]) (atStage.of_open_chan rfl stage (.inl senders) receiver)
  | @unpark index chan unparked =>
      have kept := fifo.unpark unparked
      rcases Mpsc.unpark_cases unparked with ⟨value, found, room, receiver, rfl⟩
      rcases delivers.unparked found with ⟨only, empty⟩
      have somebody : w.chan.parked ≠ [] := by simp [only]
      have stage : w.stage ≠ .establish := by
        intro establish
        simp only [AtStage, establish] at atStage
        exact somebody atStage.2.2
      refine delivers.of_sending kept ?_ ?_ rfl
        (atStage.of_open_chan rfl stage (.inr somebody) receiver)
      · simp only [Mpsc.accept]
        rw [empty, only, List.append_nil]
      · simp [Mpsc.accept, empty]
  | dropSink =>
      refine delivers.of_sending fifo.dropSenders rfl delivers.single rfl ?_
      by_cases stage : w.stage = .establish
      · simp only [AtStage, stage] at atStage ⊢
        exact atStage
      · refine atStage.of_chan rfl (drained_of_final rfl ?_)
          (fun establish => absurd establish stage) (fun gone => ⟨gone, rfl⟩)
        rintro ⟨drained, nobody, _⟩
        exact .inr ⟨drained, nobody, .inl rfl⟩
  | startDeadline => cases awaited
  | appDeadline stage =>
      refine delivers.of_same_chan rfl rfl ?_
      cases within : w.stage with
      | responder branch =>
          simp only [AtStage, within] at atStage ⊢
          exact atStage
      | sendData data moreBody =>
          simp only [AtStage, within] at atStage ⊢
          exact atStage
      | clientGone waiting =>
          simp only [AtStage, within] at atStage ⊢
          exact atStage
      | _ => simp [within, Stage.inResponder] at stage
  | dropBody => exact delivers.of_same_chan rfl rfl atStage
  | dropService stage =>
      have fresh : Fresh w := by
        rcases stage with stage | stage
        · simp only [AtStage, stage] at atStage
          exact atStage.1
        · cases within : w.stage with
          | phaseA branch =>
              simp only [AtStage, within] at atStage
              exact atStage
          | rejected waiting =>
              simp only [AtStage, within] at atStage
          | _ => simp [within, Stage.inPhaseA] at stage
      exact delivers.dropReceiver rfl rfl ⟨rfl, .inl ⟨fresh.1, .inr fresh.2⟩⟩
  | phaseA branch stage =>
      simp only [AtStage, stage] at atStage
      exact delivers.of_same_chan rfl rfl atStage
  | @start status headers chan stage received =>
      simp only [AtStage, stage] at atStage
      rcases atStage with ⟨⟨noneYet, handed, noEnd⟩, _⟩
      refine delivers.recv received rfl rfl ?_
      have taken : chan.received = [.start status headers] := by
        rw [(received_recv received).1, noneYet]
        rfl
      simp only [AtStage, taken]
      refine ⟨⟨status, headers, [], taken, rfl⟩, noEnd, ?_, ?_⟩
      · intro event member
        rw [List.mem_singleton.mp member]
        rfl
      · rw [handed]
        simp [Request.expected, bodyChunks]
  | early waiting stage received =>
      simp only [AtStage, stage] at atStage
      have isStart := delivers.first atStage.1.1 received
      cases isStart
  | neverStarted stage received =>
      simp only [AtStage, stage] at atStage
      apply failed_done delivers atStage.1
      rw [show w.chan.sent = _ from fifo, atStage.1.1, (Mpsc.recv_closed.mp received).1]
      rfl
  | startTimeout stage fired =>
      rw [delivers.timer] at fired
      cases fired
  | rejected stage => simp only [AtStage, stage] at atStage
  | responder branch stage =>
      simp only [AtStage, stage] at atStage
      exact delivers.of_same_chan rfl rfl atStage
  | @duplicate status headers chan stage received =>
      simp only [AtStage, stage] at atStage
      rcases atStage with ⟨started, noEnd, opened, handed⟩
      refine delivers.recv received rfl rfl ?_
      simp only [AtStage, (received_recv received).1]
      refine ⟨started.recv received, noEnd, opened.concat rfl, ?_⟩
      rw [handed, request.expected_concat_of_silent opened (.inr rfl)]
  | @skip data moreBody chan stage received nothing =>
      simp only [AtStage, stage] at atStage
      rcases atStage with ⟨started, noEnd, opened, handed⟩
      refine delivers.recv received rfl rfl ?_
      have all : w.handed = request.expected chan.received := by
        rw [(received_recv received).1, handed, request.expected_concat_of_silent opened]
        rcases nothing with head | rfl
        · exact .inl head
        · cases moreBody <;> exact .inr rfl
      exact atStage_afterBody all (started.recv received) opened (received_recv received).1
        noEnd rfl
  | @take data moreBody chan stage received hasBody nonempty =>
      simp only [AtStage, stage] at atStage
      rcases atStage with ⟨started, noEnd, opened, handed⟩
      refine delivers.recv received rfl rfl ?_
      exact ⟨started.recv received, noEnd, hasBody, nonempty, w.chan.received,
        (received_recv received).1, opened, handed⟩
  | closed stage received =>
      simp only [AtStage, stage] at atStage
      rcases atStage with ⟨started, noEnd, opened, handed⟩
      rcases Mpsc.recv_closed.mp received with ⟨drained, gone⟩
      rcases Mpsc.sendersGone_iff.mp gone with ⟨senders, nobody⟩
      refine delivers.of_same_chan rfl rfl ⟨started, ?_, ?_⟩
      · exact handed ▸ List.prefix_rfl
      · exact fun _ => ⟨handed, fun _ => .inr ⟨drained, nobody, .inl senders⟩⟩
  | appTimeout stage fired =>
      simp only [AtStage, stage] at atStage
      rcases atStage with ⟨started, noEnd, opened, handed⟩
      refine delivers.of_same_chan rfl rfl
        ⟨started, handed ▸ List.prefix_rfl, fun _ => ⟨handed, ?_⟩⟩
      intro inTime
      exact Bool.noConfusion (fired.symm.trans inTime)
  | @hand data moreBody stage receiver =>
      simp only [AtStage, stage] at atStage
      rcases atStage with ⟨started, noEnd, hasBody, nonempty, earlier, received, opened, handed⟩
      refine delivers.of_same_chan rfl rfl ?_
      have all : w.handed ++ [data] = request.expected w.chan.received := by
        rw [received, handed, request.expected_concat_of_data opened hasBody nonempty]
      exact atStage_afterBody all started opened received noEnd rfl
  | @gone data moreBody waiting stage receiver =>
      simp only [AtStage, stage] at atStage
      rcases atStage with ⟨started, noEnd, _, _, earlier, received, opened, handed⟩
      refine delivers.of_same_chan rfl rfl ⟨started, noEnd, rfl, ?_⟩
      rw [handed, received]
      exact request.expected_prefix _ _
  | told stage =>
      simp only [AtStage, stage] at atStage
      rcases atStage with ⟨started, _, gone, handed⟩
      refine delivers.of_same_chan rfl rfl ⟨started, handed, ?_⟩
      intro connected
      exact Bool.noConfusion (gone.symm.trans connected)
  | close stage =>
      simp only [AtStage, stage] at atStage
      exact delivers.of_same_chan rfl rfl ⟨atStage.1, atStage.2, Option.some_ne_none _⟩
  | observe stage =>
      simp only [AtStage, stage] at atStage
      rcases atStage with ⟨started, ⟨handed, complete⟩, _⟩
      refine delivers.dropReceiver rfl rfl ⟨rfl, .inr ⟨started, handed, ?_⟩⟩
      intro connected
      rcases complete connected with ⟨all, drained⟩
      refine ⟨all, fun inTime => ?_⟩
      refine drained_of_final (show _ = w.chan.received from rfl) ?_ (drained inTime)
      rintro ⟨empty, _⟩
      exact .inr ⟨empty, rfl, .inr rfl⟩

theorem delivers_init (request : Request) (body : Incoming) :
    Delivers request (Http.init request body).wire where
  fifo := rfl
  accepted := by simp [wire, Http.init, Mpsc.new]
  single := by simp [wire, Http.init, Mpsc.new]
  opening := by simp [wire, Http.init, Mpsc.new]
  timer := rfl
  atStage := ⟨⟨⟨rfl, rfl, rfl⟩, rfl⟩, rfl, rfl⟩

/-- What was taken from the channel has been handed over or is in hand, unless the client is
gone. -/
theorem Delivers.accounts (delivers : Delivers request w) (connected : w.disconnected = false) :
    w.handed ++ w.stage.inHand = request.expected w.chan.received := by
  have unread (nothing : Unread w) (idle : w.stage.inHand = []) :
      w.handed ++ w.stage.inHand = request.expected w.chan.received := by
    rw [nothing.1, nothing.2.1, idle]
    simp [Request.expected, bodyChunks]
  have finished (done : Finished request w) (idle : w.stage.inHand = []) :
      w.handed ++ w.stage.inHand = request.expected w.chan.received := by
    rw [idle, List.append_nil]
    exact (done.2 connected).1
  have atStage := delivers.atStage
  simp only [AtStage] at atStage
  split at atStage
  next stage => exact unread atStage.1.1 (by rw [stage]; rfl)
  next stage => exact unread atStage.1 (by rw [stage]; rfl)
  next => exact atStage.elim
  next stage =>
    rw [stage]
    exact (List.append_nil _).trans atStage.2.2.2
  next stage =>
    rcases atStage with ⟨_, _, hasBody, nonempty, earlier, received, opened, handed⟩
    rw [stage, Stage.inHand, received, request.expected_concat_of_data opened hasBody nonempty,
      handed]
  next => simp [atStage.2.2.1] at connected
  next stage => exact finished atStage.2 (by rw [stage]; rfl)
  next stage => exact finished atStage.2.1 (by rw [stage]; rfl)
  next stage =>
    have idle : w.stage.inHand = [] := by
      rw [stage]
      rfl
    rcases atStage.2 with ⟨nothing, _⟩ | ⟨_, done⟩
    · exact unread nothing idle
    · exact finished done idle

theorem Delivers.handed_prefix (delivers : Delivers request w) :
    w.handed <+: request.expected w.chan.sent := by
  have ofReceived (handed : w.handed <+: request.expected w.chan.received) :
      w.handed <+: request.expected w.chan.sent := by
    rw [show w.chan.sent = _ from delivers.fifo]
    exact handed.trans (request.expected_prefix _ _)
  have atStage := delivers.atStage
  simp only [AtStage] at atStage
  split at atStage
  · exact atStage.1.1.2.1 ▸ List.nil_prefix
  · exact atStage.1.2.1 ▸ List.nil_prefix
  · exact atStage.elim
  · exact ofReceived (atStage.2.2.2 ▸ List.prefix_rfl)
  · rcases atStage with ⟨_, _, _, _, earlier, received, _, handed⟩
    apply ofReceived
    rw [handed, received]
    exact request.expected_prefix _ _
  · exact ofReceived atStage.2.2.2
  · exact ofReceived atStage.2.1
  · exact ofReceived atStage.2.1.1
  · rcases atStage.2 with ⟨nothing, _⟩ | ⟨_, finished⟩
    · exact nothing.2.1 ▸ List.nil_prefix
    · exact ofReceived finished.1

/-- A finished responder has handed over everything that was sent or is about to be. -/
theorem Finished.handed_eq (finished : Finished request w) (fifo : w.chan.Fifo)
    (connected : w.disconnected = false) (inTime : w.appTimer = false) :
    w.handed = request.expected (w.chan.sent ++ w.chan.parked) := by
  rcases finished.2 connected with ⟨handed, drained⟩
  rw [show w.chan.sent = _ from fifo, List.append_assoc]
  rcases drained inTime with final | ⟨drained, nobody, _⟩
  · rw [request.expected_append_of_final _ final]
    exact handed
  · rw [drained, nobody, List.append_nil, List.append_nil]
    exact handed

/-- Once the body has ended, nothing that was sent for it is missing. -/
theorem Delivers.handed_eq (delivers : Delivers request w) (ended : w.ending ≠ none)
    (connected : w.disconnected = false) (inTime : w.appTimer = false) :
    w.handed = request.expected (w.chan.sent ++ w.chan.parked) := by
  have atStage := delivers.atStage
  have fifo := delivers.fifo
  simp only [AtStage] at atStage
  split at atStage
  · exact absurd atStage.1.1.2.2 ended
  · exact absurd atStage.1.2.2 ended
  · exact atStage.elim
  · exact absurd atStage.2.1 ended
  · exact absurd atStage.2.1 ended
  · exact absurd atStage.2.1 ended
  · exact atStage.2.handed_eq fifo connected inTime
  · exact atStage.2.1.handed_eq fifo connected inTime
  · rcases atStage.2 with ⟨nothing, _⟩ | ⟨_, finished⟩
    · exact absurd nothing.2.2 ended
    · exact finished.handed_eq fifo connected inTime

theorem Delivers.response_eq (delivers : Delivers request w) {status : ℕ}
    {headers : List Header} {rest : List ResponseEvent} {head : ResponseHead}
    (sent : w.chan.sent = .start status headers :: rest) (response : w.response = some head) :
    head = buildResponse request.crate status headers := by
  have ofStarted (started : Started request w) :
      head = buildResponse request.crate status headers := by
    rcases started with ⟨first, firstHeaders, others, received, built⟩
    have fifo : w.chan.sent = _ := delivers.fifo
    rw [sent, received, List.cons_append] at fifo
    simp only [List.cons.injEq, ResponseEvent.start.injEq] at fifo
    rcases fifo with ⟨⟨rfl, rfl⟩, _⟩
    exact Option.some.inj (response.symm.trans built)
  have ofNone (none : w.response = none) : head = buildResponse request.crate status headers := by
    rw [none] at response
    cases response
  have atStage := delivers.atStage
  simp only [AtStage] at atStage
  split at atStage
  · exact ofNone atStage.1.2
  · exact ofNone atStage.2
  · exact atStage.elim
  · exact ofStarted atStage.1
  · exact ofStarted atStage.1
  · exact ofStarted atStage.1
  · exact ofStarted atStage.1
  · exact ofStarted atStage.1
  · rcases atStage.2 with ⟨_, nothing | none⟩ | ⟨started, _⟩
    · rw [nothing] at sent
      cases sent
    · exact ofNone none
    · exact ofStarted started

/-- The status of a start event is one that the builder takes. -/
theorem Delivers.status_eq (delivers : Delivers request w) {status : ℕ} {headers : List Header}
    (sends : .start status headers ∈ w.chan.sent ++ w.chan.parked) :
    (buildResponse request.crate status headers).status =
      if request.crate.builds (headers.filter request.crate.validHeader) then status else 500 := by
  have accepted := delivers.accepted _ sends
  simp only [ResponseEvent.accepted, decide_eq_true_eq] at accepted
  simp only [buildResponse]
  split
  · rw [statusCode, if_pos]
    omega
  · rfl

end Wire

end RustAsgi
