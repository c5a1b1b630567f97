import RustAsgi.Machine
import RustAsgi.Python.Heap
import RustAsgi.Http.Feed

/-!
# The message objects of the bridge

`receive()` returns dictionaries to the application by reference. Those that
`feed_step` builds exist once; the message that announces the empty body of a
bodyless request is one module-level object, pre-seeded into the `_Receive` of
every such request.
-/

namespace RustAsgi

open Machine Python

def Message.dict : Message → Dict
  | .request body moreBody =>
      .ofItems [("type", .str "http.request"), ("body", .bytes body),
        ("more_body", .bool moreBody)]
  | .disconnect => .ofItems [("type", .str "http.disconnect")]

/-- `_Receive` with its queue, both as object references. -/
structure Channel where
  hasBody : Bool
  /-- `_first`, or `none` for `_STREAMING`. -/
  first : Option ℕ
  queue : List ℕ
  /-- What the messages contained when `receive()` returned them, in order. -/
  received : List Dict
  /-- The messages meant for this request, in order. -/
  delivered : List Message

namespace Channel

/-- `_Receive.__call__`: the object to return, once there is one. -/
def call (channel : Channel) : Option (ℕ × Channel) :=
  match channel.first with
  | some message => some (message, { channel with first := none })
  | none =>
      match channel.queue with
      | message :: rest => some (message, { channel with queue := rest })
      | [] => none

/-- The objects that the next calls will return. -/
def pending (channel : Channel) : List ℕ :=
  channel.first.toList ++ channel.queue

end Channel

/-- The part of `Bridge` that concerns messages. -/
structure Bridge where
  /-- `terminal_msg`. -/
  terminalMsg : ℕ
  /-- The global `_TERMINAL` of the bridge module. -/
  terminalGlobal : ℕ
  directQueue : Bool

namespace Bridge

/-- `_init_http_channel`. -/
def initHttpChannel (bridge : Bridge) (terminal : Bool) : Option ℕ :=
  if terminal then some bridge.terminalGlobal else none

/-- `establish_http_call`, the direct path and the legacy one. -/
def establishHttpCall (bridge : Bridge) (hasBody : Bool) : Channel :=
  { hasBody
    first :=
      if bridge.directQueue then if hasBody then none else some bridge.terminalMsg
      else bridge.initHttpChannel !hasBody
    queue := []
    received := []
    delivered := if hasBody then [] else [.terminal] }

end Bridge

/-- A worker process with all of its requests. -/
structure Worker where
  bridge : Bridge
  heap : Heap
  channels : List Channel
  shown : List ℕ

namespace Worker

/-- `Bridge::install`. -/
def install (directQueue : Bool) : Worker :=
  { bridge := { terminalMsg := 0, terminalGlobal := 0, directQueue }
    heap := { objects := [Message.terminal.dict] }
    channels := []
    shown := [] }

inductive Action where
  | establish (hasBody : Bool)
  /-- `feed_message` or `feed_disconnect` builds a message and puts it into the queue. -/
  | feed (request : ℕ) (message : Message)
  | receive (request : ℕ)
  /-- An application assigns an item of a message it has received, in this request or before. -/
  | setItem (object : ℕ) (key : String) (value : Value)
  | delItem (object : ℕ) (key : String)

/-- Put a message built for `request` into its queue. -/
def feed (w : Worker) (request : ℕ) (message : Message) (channel : Channel) : Worker :=
  { w with
    heap := w.heap.alloc message.dict
    channels := w.channels.set request
      { channel with
        queue := channel.queue ++ [w.heap.size]
        delivered := channel.delivered ++ [message] } }

def deliver (w : Worker) (request object : ℕ) (channel : Channel) : Worker :=
  { w with
    channels := w.channels.set request
      { channel with received := channel.received ++ [w.heap.read object] }
    shown := object :: w.shown }

def write (w : Worker) (object : ℕ) (dict : Dict) : Worker :=
  { w with heap := w.heap.write object dict }

def step (w : Worker) : Action → Option Worker
  | .establish hasBody =>
      some { w with channels := w.channels ++ [w.bridge.establishHttpCall hasBody] }
  | .feed request message => w.channels[request]?.map fun channel => w.feed request message channel
  | .receive request =>
      match w.channels[request]? with
      | some channel => channel.call.map fun (object, after) => w.deliver request object after
      | none => none
  | .setItem object key value =>
      if object ∈ w.shown then some (w.write object ((w.heap.read object).setItem key value))
      else none
  | .delItem object key =>
      if object ∈ w.shown then some (w.write object ((w.heap.read object).delItem key)) else none

end Worker

/-- What keeps the messages of a request apart from everything that applications can write to.
`owner` tells for which request an object was built. -/
structure Channel.Isolated (w : Worker) (owner : ℕ → ℕ) (request : ℕ) (channel : Channel) :
    Prop where
  first : ∀ object ∈ channel.first, object = w.bridge.terminalMsg
  queued : ∀ object ∈ channel.queue, object < w.heap.size ∧ object ∉ w.shown ∧
    object ≠ w.bridge.terminalMsg ∧ owner object = request
  nodup : channel.queue.Nodup
  contents : channel.received ++ channel.pending.map w.heap.read =
    channel.delivered.map Message.dict
  opening : channel.hasBody = false → channel.delivered.head? = some .terminal

namespace Channel.Isolated

variable {w next : Worker} {owner owner' : ℕ → ℕ} {request : ℕ} {channel : Channel}

theorem pending_lt (isolated : channel.Isolated w owner request)
    (allocated : w.bridge.terminalMsg < w.heap.size) {object : ℕ}
    (waiting : object ∈ channel.pending) : object < w.heap.size := by
  rcases List.mem_append.mp waiting with first | queued
  · rw [isolated.first object (Option.mem_toList.mp first)]
    exact allocated
  · exact (isolated.queued object queued).1

/-- The frame rule: a channel stays isolated while its pending objects are left alone. -/
theorem frame (isolated : channel.Isolated w owner request) (bridge : next.bridge = w.bridge)
    (size : w.heap.size ≤ next.heap.size)
    (read : ∀ object ∈ channel.pending, next.heap.read object = w.heap.read object)
    (shown : ∀ object ∈ channel.queue, object ∈ next.shown → object ∈ w.shown)
    (owned : ∀ object ∈ channel.queue, owner' object = owner object) :
    channel.Isolated next owner' request where
  first := bridge ▸ isolated.first
  queued := by
    intro object member
    rcases isolated.queued object member with ⟨old, hidden, other, own⟩
    refine ⟨Nat.lt_of_lt_of_le old size, fun now => hidden (shown object member now), ?_, ?_⟩
    · exact bridge ▸ other
    · rw [owned object member, own]
  nodup := isolated.nodup
  contents := by
    rw [← isolated.contents]
    congr 1
    exact List.map_congr_left read
  opening := isolated.opening

end Channel.Isolated

namespace Worker

/-- Every request is isolated, and the shared message still is what it was. -/
structure Isolated (w : Worker) (owner : ℕ → ℕ) : Prop where
  shared : w.bridge.terminalGlobal = w.bridge.terminalMsg
  allocated : w.bridge.terminalMsg < w.heap.size
  terminal : w.heap.read w.bridge.terminalMsg = Message.terminal.dict
  shown : ∀ object ∈ w.shown, object < w.heap.size
  channels : ∀ request (channel : Channel), w.channels[request]? = some channel →
    channel.Isolated w owner request

/-- An application changes what the shared message contains. -/
def spoils (w : Worker) : Action → Bool
  | .setItem object key value =>
      object == w.bridge.terminalMsg && w.heap.read object key != some value
  | .delItem object key =>
      object == w.bridge.terminalMsg && (w.heap.read object key).isSome
  | _ => false

variable {w next final : Worker} {owner : ℕ → ℕ} {actions : List Action}

/-- Both paths seed a bodyless request with the shared message, and no other request. -/
theorem establish_first (bridge : Bridge) (shared : bridge.terminalGlobal = bridge.terminalMsg)
    (hasBody : Bool) : (bridge.establishHttpCall hasBody).first =
      if hasBody then none else some bridge.terminalMsg := by
  cases hasBody <;> cases direct : bridge.directQueue <;>
    simp [Bridge.establishHttpCall, Bridge.initHttpChannel, direct, shared]

theorem Isolated.establish (isolated : w.Isolated owner) (hasBody : Bool) :
    Isolated { w with channels := w.channels ++ [w.bridge.establishHttpCall hasBody] } owner where
  shared := isolated.shared
  allocated := isolated.allocated
  terminal := isolated.terminal
  shown := isolated.shown
  channels := by
    intro request channel found
    rcases Nat.lt_or_ge request w.channels.length with old | new
    · rw [List.getElem?_append_left old] at found
      exact (isolated.channels request channel found).frame rfl le_rfl (fun _ _ => rfl)
        (fun _ _ => id) (fun _ _ => rfl)
    · rw [List.getElem?_append_right new] at found
      have fresh : w.bridge.establishHttpCall hasBody = channel := by
        have member := List.mem_of_getElem? found
        exact (List.mem_singleton.mp member).symm
      have first := establish_first w.bridge isolated.shared hasBody
      rw [fresh] at first
      have queue : channel.queue = [] := by rw [← fresh]; rfl
      have received : channel.received = [] := by rw [← fresh]; rfl
      have delivered : channel.delivered = if hasBody then [] else [.terminal] := by
        rw [← fresh]; rfl
      have hasBodyEq : channel.hasBody = hasBody := by rw [← fresh]; rfl
      constructor
      · intro object member
        rw [first] at member
        cases hasBody
        · exact (Option.mem_some_iff.mp member).symm
        · cases member
      · intro object member
        rw [queue] at member
        cases member
      · rw [queue]
        exact List.nodup_nil
      · rw [Channel.pending, first, queue, received, delivered]
        cases hasBody
        · simp [isolated.terminal]
        · simp
      · rw [hasBodyEq, delivered]
        rintro rfl
        rfl

theorem Isolated.of_set (isolated : w.Isolated owner) {owner' : ℕ → ℕ} {request : ℕ}
    {after : Channel} (bridge : next.bridge = w.bridge) (size : w.heap.size ≤ next.heap.size)
    (read : ∀ object < w.heap.size, next.heap.read object = w.heap.read object)
    (shown : ∀ object ∈ next.shown, object < next.heap.size)
    (channels : next.channels = w.channels.set request after)
    (others : ∀ other (channel : Channel), other ≠ request → w.channels[other]? = some channel →
      (∀ object ∈ channel.queue, object ∈ next.shown → object ∈ w.shown) ∧
      (∀ object ∈ channel.queue, owner' object = owner object))
    (own : after.Isolated next owner' request) : next.Isolated owner' where
  shared := bridge ▸ isolated.shared
  allocated := by
    rw [bridge]
    exact Nat.lt_of_lt_of_le isolated.allocated size
  terminal := by
    rw [bridge, read _ isolated.allocated]
    exact isolated.terminal
  shown := shown
  channels := by
    intro other channel found
    rw [channels] at found
    by_cases same : request = other
    · subst other
      rw [List.getElem?_set_self'] at found
      have afterEq : after = channel := by
        cases before : w.channels[request]? with
        | none => simp [before] at found
        | some old => simpa [before] using found
      exact afterEq ▸ own
    · rw [List.getElem?_set_ne same] at found
      have before := isolated.channels other channel found
      rcases others other channel (Ne.symm same) found with ⟨hidden, owned⟩
      refine before.frame bridge size ?_ hidden owned
      intro object waiting
      exact read object (before.pending_lt isolated.allocated waiting)

theorem Isolated.feed (isolated : w.Isolated owner) {request : ℕ} {channel : Channel}
    (found : w.channels[request]? = some channel) (message : Message) :
    ∃ owner', (w.feed request message channel).Isolated owner' := by
  have own := isolated.channels request channel found
  have unseen (object : ℕ) (old : object < w.heap.size) : object ≠ w.heap.size :=
    Nat.ne_of_lt old
  refine ⟨fun object => if object = w.heap.size then request else owner object, ?_⟩
  refine isolated.of_set rfl (by simp [Worker.feed]) (fun object old => Heap.read_alloc old)
    ?_ rfl ?_ ?_
  · intro object member
    simp only [Worker.feed, Heap.size_alloc]
    exact Nat.lt_succ_of_lt (isolated.shown object member)
  · intro other waiting _ foundOther
    refine ⟨fun _ _ => id, ?_⟩
    intro object member
    have old := ((isolated.channels other waiting foundOther).queued object member).1
    rw [if_neg (unseen object old)]
  · constructor
    · exact own.first
    · intro object member
      simp only [Worker.feed, Heap.size_alloc]
      rcases List.mem_append.mp member with before | new
      · rcases own.queued object before with ⟨old, hidden, different, owned⟩
        refine ⟨Nat.lt_succ_of_lt old, hidden, different, ?_⟩
        rw [if_neg (unseen object old), owned]
      · rw [List.mem_singleton.mp new]
        refine ⟨Nat.lt_succ_self _, ?_, ?_, if_pos rfl⟩
        · exact fun shown => unseen _ (isolated.shown _ shown) rfl
        · exact (unseen _ isolated.allocated).symm
    · rw [List.nodup_append]
      refine ⟨own.nodup, List.pairwise_singleton _ _, ?_⟩
      intro object member last memberLast
      rw [List.mem_singleton.mp memberLast]
      exact unseen object (own.queued object member).1
    · have before : channel.pending.map (w.heap.alloc message.dict).read =
          channel.pending.map w.heap.read := by
        apply List.map_congr_left
        intro object waiting
        exact Heap.read_alloc (own.pending_lt isolated.allocated waiting)
      have split : ({ channel with
          queue := channel.queue ++ [w.heap.size]
          delivered := channel.delivered ++ [message] } : Channel).pending =
            channel.pending ++ [w.heap.size] := by
        simp [Channel.pending]
      simp only [Worker.feed, split, List.map_append, before, List.map_cons, List.map_nil,
        Heap.read_alloc_self, ← List.append_assoc, own.contents]
    · intro bodyless
      rw [List.head?_append, own.opening bodyless]
      rfl

theorem call_pending {channel after : Channel} {object : ℕ}
    (called : channel.call = some (object, after)) :
    channel.pending = object :: after.pending ∧ after.received = channel.received ∧
      after.delivered = channel.delivered ∧ after.hasBody = channel.hasBody ∧
      (∀ first ∈ after.first, first ∈ channel.first) ∧
      ((object ∈ channel.first ∧ after.queue = channel.queue) ∨
        channel.queue = object :: after.queue) := by
  simp only [Channel.call] at called
  split at called
  · rename_i message first
    simp only [Option.some.injEq, Prod.mk.injEq] at called
    rcases called with ⟨rfl, rfl⟩
    simp [Channel.pending, first]
  · rename_i streaming
    split at called
    · rename_i message rest queue
      simp only [Option.some.injEq, Prod.mk.injEq] at called
      rcases called with ⟨rfl, rfl⟩
      simp [Channel.pending, streaming, queue]
    · cases called

theorem Isolated.deliver (isolated : w.Isolated owner) {request object : ℕ}
    {channel after : Channel} (found : w.channels[request]? = some channel)
    (called : channel.call = some (object, after)) :
    (w.deliver request object after).Isolated owner := by
  have own := isolated.channels request channel found
  rcases call_pending called with ⟨pending, received, delivered, hasBody, first, source⟩
  have member : object ∈ channel.pending := by
    rw [pending]
    exact List.mem_cons_self
  refine isolated.of_set rfl le_rfl (fun _ _ => rfl) ?_ rfl ?_ ?_
  · intro shown memberShown
    rcases List.mem_cons.mp memberShown with rfl | before
    · exact own.pending_lt isolated.allocated member
    · exact isolated.shown shown before
  · intro other waiting different foundOther
    refine ⟨?_, fun _ _ => rfl⟩
    intro kept queued memberShown
    rcases (isolated.channels other waiting foundOther).queued kept queued with
      ⟨_, _, notShared, owned⟩
    rcases List.mem_cons.mp memberShown with rfl | before
    · rcases source with ⟨preSeeded, _⟩ | queue
      · exact absurd (own.first kept preSeeded) notShared
      · have ownerEq := (own.queued kept (queue ▸ List.mem_cons_self)).2.2.2
        exact absurd (owned.symm.trans ownerEq) different
    · exact before
  · have queued (kept : ℕ) (memberKept : kept ∈ after.queue) :
        kept ∈ channel.queue ∧ kept ≠ object := by
      rcases source with ⟨preSeeded, same⟩ | queue
      · rw [same] at memberKept
        refine ⟨memberKept, ?_⟩
        rintro rfl
        exact (own.queued kept memberKept).2.2.1 (own.first kept preSeeded)
      · refine ⟨queue ▸ List.mem_cons_of_mem _ memberKept, ?_⟩
        rintro rfl
        have nodup := own.nodup
        rw [queue] at nodup
        exact (List.nodup_cons.mp nodup).1 memberKept
    constructor
    · exact fun kept memberFirst => own.first kept (first kept memberFirst)
    · intro kept memberKept
      rcases queued kept memberKept with ⟨memberBefore, different⟩
      rcases own.queued kept memberBefore with ⟨old, hidden, notShared, owned⟩
      refine ⟨old, ?_, notShared, owned⟩
      intro memberShown
      rcases List.mem_cons.mp memberShown with same | before
      · exact different same
      · exact hidden before
    · rcases source with ⟨_, same⟩ | queue
      · exact same ▸ own.nodup
      · have nodup := own.nodup
        rw [queue] at nodup
        exact (List.nodup_cons.mp nodup).2
    · have contents := own.contents
      rw [pending, List.map_cons] at contents
      simp only [Worker.deliver, received, delivered, List.append_assoc, List.singleton_append]
      exact contents
    · intro bodyless
      simp only [delivered]
      exact own.opening (hasBody ▸ bodyless)

theorem Isolated.write (isolated : w.Isolated owner) {object : ℕ} {dict : Dict}
    (shown : object ∈ w.shown)
    (keeps : object = w.bridge.terminalMsg → dict = w.heap.read object) :
    (w.write object dict).Isolated owner := by
  by_cases same : object = w.bridge.terminalMsg
  · have unchanged : w.write object dict = w := by
      rw [Worker.write, Heap.write_read (keeps same) (isolated.shown object shown)]
    rw [unchanged]
    exact isolated
  · refine ⟨isolated.shared, ?_, ?_, ?_, ?_⟩
    · simpa only [Worker.write, Heap.size_write] using isolated.allocated
    · simp only [Worker.write]
      rw [Heap.read_write_of_ne same]
      exact isolated.terminal
    · simpa only [Worker.write, Heap.size_write] using isolated.shown
    · intro request channel found
      have own := isolated.channels request channel found
      refine own.frame rfl (by simp [Worker.write]) ?_ (fun _ _ => id) (fun _ _ => rfl)
      intro waiting member
      apply Heap.read_write_of_ne
      rintro rfl
      rcases List.mem_append.mp member with first | queued
      · exact same (own.first object (Option.mem_toList.mp first))
      · exact (own.queued object queued).2.1 shown

theorem Isolated.step {action : Action} (isolated : w.Isolated owner)
    (kept : w.spoils action = false) (stepped : w.step action = some next) :
    ∃ owner', next.Isolated owner' := by
  cases action with
  | establish hasBody =>
      simp only [Worker.step, Option.some.injEq] at stepped
      subst next
      exact ⟨owner, isolated.establish hasBody⟩
  | feed request message =>
      simp only [Worker.step, Option.map_eq_some_iff] at stepped
      rcases stepped with ⟨channel, found, rfl⟩
      exact isolated.feed found message
  | receive request =>
      simp only [Worker.step] at stepped
      split at stepped
      · rename_i channel found
        simp only [Option.map_eq_some_iff] at stepped
        rcases stepped with ⟨⟨object, after⟩, called, rfl⟩
        exact ⟨owner, isolated.deliver found called⟩
      · cases stepped
  | setItem object key value =>
      simp only [Worker.step] at stepped
      split at stepped
      · rename_i shown
        simp only [Option.some.injEq] at stepped
        subst next
        refine ⟨owner, isolated.write shown ?_⟩
        intro same
        apply Dict.setItem_eq_self
        simpa [spoils, same] using kept
      · cases stepped
  | delItem object key =>
      simp only [Worker.step] at stepped
      split at stepped
      · rename_i shown
        simp only [Option.some.injEq] at stepped
        subst next
        refine ⟨owner, isolated.write shown ?_⟩
        intro same
        apply Dict.delItem_eq_self
        simpa [spoils, same] using kept
      · cases stepped

theorem isolated_install (directQueue : Bool) : (install directQueue).Isolated id where
  shared := rfl
  allocated := Nat.zero_lt_one
  terminal := rfl
  shown := by simp [install]
  channels := by simp [install]

/-- No application changes what the shared message contains. -/
def Unspoilt (w : Worker) (action : Action) : Prop :=
  w.spoils action = false

instance (w : Worker) (action : Action) : Decidable (w.Unspoilt action) :=
  inferInstanceAs (Decidable (_ = _))

/-- Requests are isolated as long as the shared message is left as it is: a bodyless request
starts with the standard message, and every request receives what was built for it. -/
theorem received_of_unspoilt {directQueue : Bool}
    (unspoilt : Along step Unspoilt (install directQueue) actions)
    (ran : run step (install directQueue) actions = some final) :
    ∀ channel ∈ final.channels,
      (channel.hasBody = false →
        ∀ message ∈ channel.received.head?, message = Message.terminal.dict) ∧
      channel.received <+: channel.delivered.map Message.dict := by
  have isolated : ∃ owner, final.Isolated owner :=
    run_invariant (fun w : Worker => ∃ owner, w.Isolated owner)
      (fun _ _ _ ⟨_, isolated⟩ kept stepped => isolated.step kept stepped)
      unspoilt ran ⟨id, isolated_install directQueue⟩
  rcases isolated with ⟨owner, isolated⟩
  intro channel member
  rcases List.mem_iff_getElem?.mp member with ⟨request, found⟩
  have own := isolated.channels request channel found
  refine ⟨?_, ⟨_, own.contents⟩⟩
  intro bodyless message first
  have delivered := congrArg List.head? own.contents
  rw [List.head?_map, own.opening bodyless, List.head?_append, first] at delivered
  simpa using delivered

/-- Two bodyless requests, the first of which adds a note to its own copy of the second message
it receives, and then reads on. -/
theorem received_of_unspoilt_two :
    ∃ final, run step (install true) [.establish false, .receive 0, .feed 0 .disconnect,
        .receive 0, .setItem 1 "note" (.str "seen"), .establish false, .receive 1] = some final ∧
      ∀ channel ∈ final.channels,
        (channel.hasBody = false →
          ∀ message ∈ channel.received.head?, message = Message.terminal.dict) ∧
        channel.received <+: channel.delivered.map Message.dict := by
  have ran : ∃ final, run step (install true) [.establish false, .receive 0,
      .feed 0 .disconnect, .receive 0, .setItem 1 "note" (.str "seen"), .establish false,
      .receive 1] = some final ∧ final.channels.length = 2 :=
    exists_of_run_any (by decide)
  rcases ran with ⟨final, ran, _⟩
  exact ⟨final, ran, received_of_unspoilt (by decide) ran⟩

/-- A middleware that marks the message it has received marks it for every later request. -/
theorem received_spoilt :
    ∃ final, run step (install true) [.establish false, .receive 0,
        .setItem 0 "body" (.bytes [1]), .establish false, .receive 1] = some final ∧
      ¬ ∀ channel ∈ final.channels, channel.hasBody = false →
        ∀ message ∈ channel.received.head?, message = Message.terminal.dict := by
  refine ⟨_, rfl, ?_⟩
  intro standard
  have second := standard _ (List.mem_cons_of_mem _ List.mem_cons_self) rfl _ rfl
  have bodies : some (Value.bytes [1]) = some (Value.bytes []) := congrFun second "body"
  cases bodies

end Worker

end RustAsgi
