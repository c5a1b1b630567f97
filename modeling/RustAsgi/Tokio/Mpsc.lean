import Mathlib.Data.List.Basic
import Mathlib.Tactic.Common

/-!
# A bounded Tokio `mpsc` channel

The channel keeps a buffer of at most `bound` items. A `try_send` on a full
channel fails; the caller may then park an awaited `send`, which enters the
buffer once a slot is free. The receiver sees the buffered items in order and is
told that the channel is closed only after the buffer is drained and every
sender is gone.

The two histories `sent` and `received` record what entered and what left the
buffer. `Mpsc.Fifo` says that together they are the buffer.
-/

namespace Tokio

universe u

/-- A bounded channel, with the histories of its two ends. -/
structure Mpsc (Item : Type u) where
  bound : ℕ
  buffer : List Item
  /-- Items of `send` calls that wait for capacity. -/
  parked : List Item
  /-- A sender other than the clones held by parked sends is alive. -/
  senders : Bool
  receiver : Bool
  sent : List Item
  received : List Item
  deriving DecidableEq, Repr

inductive Recv (Item : Type u) where
  | item (value : Item) (channel : Mpsc Item)
  | closed
  | pending

namespace Mpsc

variable {Item : Type u}

def new (bound : ℕ) : Mpsc Item :=
  { bound, buffer := [], parked := [], senders := true, receiver := true,
    sent := [], received := [] }

def hasRoom (channel : Mpsc Item) : Bool :=
  decide (channel.buffer.length < channel.bound)

def accept (channel : Mpsc Item) (value : Item) : Mpsc Item :=
  { channel with buffer := channel.buffer ++ [value], sent := channel.sent ++ [value] }

def park (channel : Mpsc Item) (value : Item) : Mpsc Item :=
  { channel with parked := channel.parked ++ [value] }

/-- The parked send at `index` obtains a slot. -/
def unpark (channel : Mpsc Item) (index : ℕ) : Option (Mpsc Item) :=
  match channel.parked[index]? with
  | some value =>
      if channel.hasRoom && channel.receiver then
        some (({ channel with parked := channel.parked.eraseIdx index } : Mpsc Item).accept value)
      else none
  | none => none

/-- Every sender is gone, those of the parked sends included. -/
def sendersGone (channel : Mpsc Item) : Bool :=
  !channel.senders && channel.parked.isEmpty

/-- `Receiver::poll_recv`: buffered items come before the end of the channel. -/
def recv (channel : Mpsc Item) : Recv Item :=
  match channel.buffer with
  | value :: rest =>
      .item value { channel with buffer := rest, received := channel.received ++ [value] }
  | [] => if channel.sendersGone then .closed else .pending

/-- The receiver is dropped: parked sends fail and their items are lost. -/
def dropReceiver (channel : Mpsc Item) : Mpsc Item :=
  { channel with receiver := false, parked := [] }

/-- The last handle that is not a parked send's clone is dropped. -/
def dropSenders (channel : Mpsc Item) : Mpsc Item :=
  { channel with senders := false }

/-- Nothing is lost, repeated or reordered between the two ends. -/
def Fifo (channel : Mpsc Item) : Prop :=
  channel.sent = channel.received ++ channel.buffer

section Fifo

variable {channel next : Mpsc Item} {value : Item}

theorem Fifo.accept (fifo : channel.Fifo) : (channel.accept value).Fifo := by
  simp only [Fifo, Mpsc.accept] at fifo ⊢
  rw [fifo, List.append_assoc]

theorem Fifo.park (fifo : channel.Fifo) : (channel.park value).Fifo :=
  fifo

theorem Fifo.dropReceiver (fifo : channel.Fifo) : channel.dropReceiver.Fifo :=
  fifo

theorem Fifo.dropSenders (fifo : channel.Fifo) : channel.dropSenders.Fifo :=
  fifo

theorem unpark_cases {index : ℕ} (unparked : channel.unpark index = some next) :
    ∃ value, channel.parked[index]? = some value ∧ channel.hasRoom = true ∧
      channel.receiver = true ∧
      next = ({ channel with parked := channel.parked.eraseIdx index } : Mpsc Item).accept
        value := by
  simp only [unpark] at unparked
  split at unparked
  · rename_i value found
    split at unparked
    · rename_i allowed
      simp only [Bool.and_eq_true] at allowed
      exact ⟨value, found, allowed.1, allowed.2, (Option.some.inj unparked).symm⟩
    · cases unparked
  · cases unparked

theorem Fifo.unpark {index : ℕ} (fifo : channel.Fifo)
    (unparked : channel.unpark index = some next) : next.Fifo := by
  rcases unpark_cases unparked with ⟨value, _, _, _, rfl⟩
  have parkedAside : ({ channel with parked := channel.parked.eraseIdx index } :
      Mpsc Item).Fifo := fifo
  exact parkedAside.accept

theorem recv_item (received : channel.recv = .item value next) :
    ∃ rest, channel.buffer = value :: rest ∧
      next = { channel with buffer := rest, received := channel.received ++ [value] } := by
  simp only [recv] at received
  split at received
  · rename_i head rest buffered
    simp only [Recv.item.injEq] at received
    rcases received with ⟨rfl, rfl⟩
    exact ⟨rest, buffered, rfl⟩
  · split at received <;> cases received

theorem Fifo.recv (fifo : channel.Fifo) (received : channel.recv = .item value next) :
    next.Fifo := by
  rcases recv_item received with ⟨rest, buffered, rfl⟩
  simp only [Fifo] at fifo ⊢
  rw [fifo, buffered]
  simp

theorem sendersGone_iff :
    channel.sendersGone = true ↔ channel.senders = false ∧ channel.parked = [] := by
  simp [sendersGone]

/-- The receiver learns of the close only when nothing is left to read. -/
theorem recv_closed : channel.recv = .closed ↔
    channel.buffer = [] ∧ channel.sendersGone = true := by
  simp only [recv]
  split
  · rename_i buffered
    simp [buffered]
  · rename_i drained
    cases gone : channel.sendersGone <;> simp [drained]

theorem recv_pending : channel.recv = .pending ↔
    channel.buffer = [] ∧ channel.sendersGone = false := by
  simp only [recv]
  split
  · rename_i buffered
    simp [buffered]
  · rename_i drained
    cases gone : channel.sendersGone <;> simp [drained]

end Fifo

/-- The buffer keeps to its bound, and nobody waits for a receiver that is gone. -/
structure Bounded (channel : Mpsc Item) : Prop where
  buffered : channel.buffer.length ≤ channel.bound
  attended : channel.parked ≠ [] → channel.receiver = true

section Bounded

variable {channel next : Mpsc Item} {value : Item}

theorem bounded_new (bound : ℕ) : (new bound : Mpsc Item).Bounded where
  buffered := Nat.zero_le bound
  attended := fun parked => absurd rfl parked

theorem Bounded.accept (bounded : channel.Bounded) (room : channel.hasRoom = true) :
    (channel.accept value).Bounded := by
  refine ⟨?_, bounded.attended⟩
  simp only [hasRoom, decide_eq_true_eq] at room
  simp only [Mpsc.accept, List.length_append, List.length_singleton]
  omega

theorem Bounded.park (bounded : channel.Bounded) (receiver : channel.receiver = true) :
    (channel.park value).Bounded :=
  ⟨bounded.buffered, fun _ => receiver⟩

theorem Bounded.unpark {index : ℕ} (bounded : channel.Bounded)
    (unparked : channel.unpark index = some next) : next.Bounded := by
  rcases unpark_cases unparked with ⟨value, _, room, receiver, rfl⟩
  have parkedAside : ({ channel with parked := channel.parked.eraseIdx index } :
      Mpsc Item).Bounded := ⟨bounded.buffered, fun _ => receiver⟩
  exact parkedAside.accept room

theorem Bounded.recv (bounded : channel.Bounded) (received : channel.recv = .item value next) :
    next.Bounded := by
  rcases recv_item received with ⟨rest, buffered, rfl⟩
  have few := bounded.buffered
  rw [buffered, List.length_cons] at few
  exact ⟨Nat.le_of_succ_le few, bounded.attended⟩

/-- Nobody has to wait in `send`: there is a slot, or the receiver is gone. -/
def Released (channel : Mpsc Item) : Prop :=
  channel.hasRoom = true ∨ channel.receiver = false

theorem Bounded.released_of_recv (bounded : channel.Bounded)
    (received : channel.recv = .item value next) : next.Released := by
  rcases recv_item received with ⟨rest, buffered, rfl⟩
  have few := bounded.buffered
  rw [buffered, List.length_cons] at few
  exact .inl (decide_eq_true few)

theorem Bounded.dropReceiver (bounded : channel.Bounded) : channel.dropReceiver.Bounded :=
  ⟨bounded.buffered, fun parked => absurd rfl parked⟩

theorem Bounded.dropSenders (bounded : channel.Bounded) : channel.dropSenders.Bounded :=
  ⟨bounded.buffered, bounded.attended⟩

/-- While there is room the oldest parked send obtains it. -/
theorem Bounded.unpark_oldest (bounded : channel.Bounded) (room : channel.hasRoom = true)
    (waits : channel.parked ≠ []) :
    ∃ after, channel.unpark 0 = some after ∧ after.bound = channel.bound ∧
      after.buffer.length = channel.buffer.length + 1 ∧
      after.parked.length + 1 = channel.parked.length := by
  have receiver := bounded.attended waits
  cases parked : channel.parked with
  | nil => exact absurd parked waits
  | cons oldest rest =>
      refine ⟨({ channel with parked := rest } : Mpsc Item).accept oldest, ?_, rfl, ?_, rfl⟩
      · simp only [Mpsc.unpark, parked, List.getElem?_cons_zero, room, receiver, Bool.and_self,
          if_true, List.eraseIdx_cons_zero]
      · simp only [Mpsc.accept, List.length_append, List.length_singleton]

end Bounded

end Mpsc

end Tokio
