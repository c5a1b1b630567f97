import Mathlib.Data.List.Basic
import Mathlib.Tactic.Common

/-!
# A bounded `asyncio.Queue` and the loop that serves it

CPython's queue parks a `put` that finds it full and lets every `get` wake the
oldest parked putter. Waking only schedules the putter: when its turn comes it
checks `full()` again, and if another coroutine has taken the slot meanwhile it
parks once more, behind everybody. Order therefore rests on what the event loop
runs between a wake-up and the resumption, so the loop's ready queue is part of
the model.

`Loop.order` lists the watched puts in the order in which the queue will release
them if nobody jumps ahead. It changes only at an overtaking turn, which is the
content of `Loop.order_turn`.
-/

namespace Asyncio

universe u

/-- One scheduled coroutine that puts `item` into the queue. A `nowait` put raises
`QueueFull` where an ordinary one would park. -/
structure Put (Item : Type u) where
  id : ℕ
  item : Item
  nowait : Bool
  deriving DecidableEq, Repr

/-- The callbacks in the loop's ready queue. -/
inductive Handle (Item : Type u) where
  /-- The `call_soon_threadsafe` callback that turns the coroutine into a task. -/
  | submit (put : Put Item)
  /-- The first step of the task. -/
  | start (put : Put Item)
  /-- The step of a task whose putter future has been resolved by a `get`. -/
  | resume (put : Put Item)
  /-- The done callback that carries the outcome to whoever awaits the task. -/
  | report (id : ℕ) (succeeded : Bool)
  deriving DecidableEq, Repr

/-- A queue together with the part of the event loop that runs its putters. -/
structure Loop (Item : Type u) where
  maxsize : ℕ
  items : List (Put Item)
  putters : List (Put Item)
  ready : List (Handle Item)
  /-- Outcomes that have crossed over to the awaiting side. -/
  reported : List (ℕ × Bool)
  deriving DecidableEq, Repr

namespace Handle

variable {Item : Type u}

def resumed? : Handle Item → Option (Put Item)
  | .resume put => some put
  | _ => none

def started? : Handle Item → Option (Put Item)
  | .start put => some put
  | _ => none

def submitted? : Handle Item → Option (Put Item)
  | .submit put => some put
  | _ => none

end Handle

namespace Loop

variable {Item : Type u}

def empty (maxsize : ℕ) : Loop Item :=
  { maxsize, items := [], putters := [], ready := [], reported := [] }

/-- `Queue.full`; a nonpositive bound means an unbounded queue. -/
def full (loop : Loop Item) : Bool :=
  decide (0 < loop.maxsize ∧ loop.maxsize ≤ loop.items.length)

def submit (loop : Loop Item) (put : Put Item) : Loop Item :=
  { loop with ready := loop.ready ++ [.submit put] }

/-- One attempt of a put: the body of `while self.full()` or `put_nowait`. -/
def attempt (loop : Loop Item) (put : Put Item) : Loop Item :=
  if loop.full then
    if put.nowait then
      { loop with ready := loop.ready ++ [.report put.id false] }
    else
      { loop with putters := loop.putters ++ [put] }
  else
    { loop with
      items := loop.items ++ [put]
      ready := loop.ready ++ [.report put.id true] }

def execute (loop : Loop Item) : Handle Item → Loop Item
  | .submit put => { loop with ready := loop.ready ++ [.start put] }
  | .start put => loop.attempt put
  | .resume put => loop.attempt put
  | .report id succeeded => { loop with reported := loop.reported ++ [(id, succeeded)] }

def turn (loop : Loop Item) : Option (Loop Item) :=
  match loop.ready with
  | [] => none
  | handle :: rest => some (({ loop with ready := rest } : Loop Item).execute handle)

/-- `_wakeup_next(self._putters)`: schedule the oldest parked putter. -/
def wakeupNext (loop : Loop Item) : Loop Item :=
  match loop.putters with
  | [] => loop
  | put :: rest =>
      { loop with putters := rest, ready := loop.ready ++ [.resume put] }

/-- `get_nowait`, the part of a `get` that runs once the queue is not empty. -/
def get (loop : Loop Item) : Option (Put Item × Loop Item) :=
  match loop.items with
  | [] => none
  | put :: rest => some (put, ({ loop with items := rest } : Loop Item).wakeupNext)

def outcome? (loop : Loop Item) (id : ℕ) : Option Bool :=
  (loop.reported.find? fun report => report.1 == id).map Prod.snd

/-- Woken putters that have not run again yet, oldest first. -/
def woken (loop : Loop Item) : List (Put Item) :=
  loop.ready.filterMap Handle.resumed?

/-- Submitted puts that have not had their first step, oldest first. -/
def fresh (loop : Loop Item) : List (Put Item) :=
  loop.ready.filterMap Handle.started? ++ loop.ready.filterMap Handle.submitted?

/-- Every put whose item has not been taken, in the order of release if nobody overtakes. -/
def puts (loop : Loop Item) : List (Put Item) :=
  loop.items ++ (loop.woken ++ (loop.putters ++ loop.fresh))

/-- The watched puts in the order in which the queue will release their items. -/
def order (watched : Put Item → Bool) (loop : Loop Item) : List (Put Item) :=
  loop.puts.filter watched

/-- Some watched put already had to wait: it is parked, or woken and not resumed. -/
def waiting (watched : Put Item → Bool) (loop : Loop Item) : Bool :=
  (loop.woken ++ loop.putters).any watched

/-- A first step of `put` now would pass an older put that waits. -/
def passes (watched : Put Item → Bool) (loop : Loop Item) (put : Put Item) : Bool :=
  watched put && !loop.full && loop.waiting watched

/-- A resumption of `put` now would find its slot taken and park behind a younger put. -/
def losesPlace (watched : Put Item → Bool) (loop : Loop Item) (put : Put Item) : Bool :=
  watched put && loop.full && loop.waiting watched

/-- Executing the oldest callback now lets one watched put overtake another. -/
def overtakes (watched : Put Item → Bool) (loop : Loop Item) : Bool :=
  match loop.ready with
  | .start put :: rest => ({ loop with ready := rest } : Loop Item).passes watched put
  | .resume put :: rest => ({ loop with ready := rest } : Loop Item).losesPlace watched put
  | _ => false

/-- The put whose `put_nowait` raises `QueueFull` if the oldest callback is executed now. -/
def refused? (loop : Loop Item) : Option (Put Item) :=
  match loop.ready with
  | .start put :: _ | .resume put :: _ => if put.nowait && loop.full then some put else none
  | _ => none

section Cases

variable {loop next : Loop Item} {put : Put Item}

/-- A turn executes the oldest callback. -/
theorem turn_cases (turned : loop.turn = some next) :
    ∃ handle rest, loop.ready = handle :: rest ∧
      ({ loop with ready := rest } : Loop Item).execute handle = next := by
  cases ready : loop.ready with
  | nil => simp [turn, ready] at turned
  | cons handle rest =>
      simp only [turn, ready, Option.some.injEq] at turned
      exact ⟨handle, rest, rfl, turned⟩

/-- A get takes the oldest item and wakes a putter. -/
theorem get_cases (got : loop.get = some (put, next)) :
    ∃ rest, loop.items = put :: rest ∧
      ({ loop with items := rest } : Loop Item).wakeupNext = next := by
  cases items : loop.items with
  | nil => simp [get, items] at got
  | cons head rest =>
      simp only [get, items, Option.some.injEq, Prod.mk.injEq] at got
      rcases got with ⟨rfl, woken⟩
      exact ⟨rest, rfl, woken⟩

@[simp]
theorem items_wakeupNext (loop : Loop Item) : loop.wakeupNext.items = loop.items := by
  simp only [wakeupNext]
  split <;> rfl

@[simp]
theorem maxsize_wakeupNext (loop : Loop Item) : loop.wakeupNext.maxsize = loop.maxsize := by
  simp only [wakeupNext]
  split <;> rfl

/-- The putter that is woken keeps its place. -/
@[simp]
theorem puts_wakeupNext (loop : Loop Item) : loop.wakeupNext.puts = loop.puts := by
  rcases loop with ⟨maxsize, items, putters, ready, reported⟩
  cases putters with
  | nil => rfl
  | cons put rest =>
      simp [wakeupNext, puts, woken, fresh, List.filterMap_append, List.filterMap_cons,
        Handle.resumed?, Handle.started?, Handle.submitted?, List.append_assoc]

theorem items_get (got : loop.get = some (put, next)) : loop.items = put :: next.items := by
  rcases get_cases got with ⟨rest, items, rfl⟩
  rw [items, items_wakeupNext]

theorem maxsize_get (got : loop.get = some (put, next)) : next.maxsize = loop.maxsize := by
  rcases get_cases got with ⟨rest, items, rfl⟩
  rw [maxsize_wakeupNext]

theorem puts_get (got : loop.get = some (put, next)) : loop.puts = put :: next.puts := by
  rcases get_cases got with ⟨rest, items, rfl⟩
  rw [puts_wakeupNext]
  simp only [puts, items, woken, fresh, List.cons_append]

theorem putters_get (got : loop.get = some (put, next)) :
    ∀ parked ∈ next.putters, parked ∈ loop.putters := by
  rcases get_cases got with ⟨rest, items, rfl⟩
  intro parked member
  cases putters : loop.putters with
  | nil => simp [wakeupNext, putters] at member
  | cons oldest others =>
      simp only [wakeupNext, putters] at member
      exact List.mem_cons_of_mem oldest member

end Cases

section Room

variable {loop : Loop Item}

/-- The queue with one put more, and its outcome reported. -/
def taken (loop : Loop Item) (put : Put Item) : Loop Item :=
  { loop with items := loop.items ++ [put], reported := loop.reported ++ [(put.id, true)] }

/-- The three turns of a put that finds the loop at rest and a free slot. -/
theorem turns_submit (put : Put Item) (idle : loop.ready = []) (room : loop.full = false) :
    ∃ started reporting, (loop.submit put).turn = some started ∧
      started.turn = some reporting ∧ reporting.turn = some (loop.taken put) := by
  have started : (loop.submit put).turn = some { loop with ready := [.start put] } := by
    simp [submit, turn, execute, idle]
  have reporting : ({ loop with ready := [.start put] } : Loop Item).turn =
      some { loop with items := loop.items ++ [put], ready := [.report put.id true] } := by
    have room : ({ loop with ready := [] } : Loop Item).full = false := room
    simp [turn, execute, attempt, room]
  refine ⟨_, _, started, reporting, ?_⟩
  simp [turn, execute, taken, idle]

theorem outcome?_taken {put : Put Item} (unreported : loop.outcome? put.id = none) :
    (loop.taken put).outcome? put.id = some true := by
  simp only [outcome?, Option.map_eq_none_iff] at unreported
  simp [outcome?, taken, List.find?_append, unreported]

end Room

section Members

variable {loop next : Loop Item} {put other : Put Item}

theorem mem_woken : put ∈ loop.woken ↔ .resume put ∈ loop.ready := by
  simp only [woken, List.mem_filterMap]
  constructor
  · rintro ⟨handle, member, found⟩
    cases handle <;> simp_all [Handle.resumed?]
  · intro member
    exact ⟨_, member, rfl⟩

theorem mem_fresh : put ∈ loop.fresh ↔ .start put ∈ loop.ready ∨ .submit put ∈ loop.ready := by
  simp only [fresh, List.mem_append, List.mem_filterMap]
  apply or_congr
  · constructor
    · rintro ⟨handle, member, found⟩
      cases handle <;> simp_all [Handle.started?]
    · intro member
      exact ⟨_, member, rfl⟩
  · constructor
    · rintro ⟨handle, member, found⟩
      cases handle <;> simp_all [Handle.submitted?]
    · intro member
      exact ⟨_, member, rfl⟩

theorem mem_puts : put ∈ loop.puts ↔
    put ∈ loop.items ∨ put ∈ loop.putters ∨ .resume put ∈ loop.ready ∨
      .start put ∈ loop.ready ∨ .submit put ∈ loop.ready := by
  simp only [puts, List.mem_append, mem_woken, mem_fresh]
  tauto

theorem mem_puts_submit_iff : put ∈ (loop.submit other).puts ↔ put ∈ loop.puts ∨ put = other := by
  simp only [mem_puts, submit, List.mem_append, List.mem_singleton]
  simp only [reduceCtorEq, or_false, Handle.submit.injEq]
  tauto

theorem mem_puts_turn (turned : loop.turn = some next) (member : put ∈ next.puts) :
    put ∈ loop.puts := by
  rcases turn_cases turned with ⟨handle, rest, ready, rfl⟩
  rw [mem_puts] at member ⊢
  rw [ready]
  cases handle <;> simp only [execute, attempt] at member <;> grind

theorem mem_puts_get (got : loop.get = some (other, next)) :
    other ∈ loop.puts ∧ ∀ put ∈ next.puts, put ∈ loop.puts := by
  rw [puts_get got]
  exact ⟨List.mem_cons_self, fun _ member => List.mem_cons_of_mem other member⟩

end Members

section Placement

variable {loop next : Loop Item}

theorem items_turn (turned : loop.turn = some next) : loop.items <+: next.items := by
  rcases turn_cases turned with ⟨handle, rest, ready, rfl⟩
  cases handle <;> simp only [execute, attempt] <;> grind

/-- Nobody who may not wait is parked. -/
theorem putters_turn (turned : loop.turn = some next)
    (patient : ∀ parked ∈ loop.putters, parked.nowait = false) :
    ∀ parked ∈ next.putters, parked.nowait = false := by
  rcases turn_cases turned with ⟨handle, rest, ready, rfl⟩
  cases handle <;> simp only [execute, attempt] <;> grind

theorem maxsize_turn (turned : loop.turn = some next) : next.maxsize = loop.maxsize := by
  rcases turn_cases turned with ⟨handle, rest, ready, rfl⟩
  cases handle <;> simp only [execute, attempt] <;> grind

/-- A put enters the queue only where there is room. -/
theorem length_items_turn (turned : loop.turn = some next) (positive : 0 < loop.maxsize)
    (few : loop.items.length ≤ loop.maxsize) : next.items.length ≤ loop.maxsize := by
  rcases turn_cases turned with ⟨handle, rest, ready, rfl⟩
  cases handle with
  | submit scheduled | report id succeeded => exact few
  | start tried | resume tried =>
      simp only [execute, attempt, full]
      grind

end Placement

section Order

variable (watched : Put Item → Bool)

theorem order_submit (loop : Loop Item) (put : Put Item) :
    (loop.submit put).order watched =
      loop.order watched ++ if watched put then [put] else [] := by
  simp only [order, puts, submit, woken, fresh, List.filterMap_append, List.filter_append,
    List.append_assoc]
  cases watchedPut : watched put <;>
    simp [List.filterMap_cons, Handle.resumed?, Handle.started?, Handle.submitted?, watchedPut]

theorem puts_submit (loop : Loop Item) (put : Put Item) :
    (loop.submit put).puts = loop.puts ++ [put] := by
  simpa [order] using order_submit (fun _ => true) loop put

theorem order_get {loop next : Loop Item} {put : Put Item}
    (got : loop.get = some (put, next)) :
    loop.order watched = (if watched put then [put] else []) ++ next.order watched := by
  simp only [order, puts_get got, List.filter_cons]
  split <;> simp

theorem order_eq (loop : Loop Item) :
    loop.order watched =
      loop.items.filter watched ++
        (loop.woken.filter watched ++
          (loop.putters.filter watched ++ loop.fresh.filter watched)) := by
  simp only [order, puts, List.filter_append]

theorem order_of_not_waiting {loop : Loop Item} (nobody : loop.waiting watched = false) :
    loop.woken.filter watched = [] ∧ loop.putters.filter watched = [] := by
  simp only [waiting, List.any_append, Bool.or_eq_false_iff, List.any_eq_false] at nobody
  exact ⟨List.filter_eq_nil_iff.mpr nobody.1, List.filter_eq_nil_iff.mpr nobody.2⟩

/-- A put that finds room is released after the items and before everybody who waits. -/
theorem order_attempt_of_room {loop : Loop Item} (put : Put Item) (room : loop.full = false) :
    (loop.attempt put).order watched =
      loop.items.filter watched ++ ((if watched put then [put] else []) ++
        (loop.woken.filter watched ++
          (loop.putters.filter watched ++ loop.fresh.filter watched))) := by
  simp only [attempt, room, Bool.false_eq_true, if_false, order_eq]
  cases watchedPut : watched put <;>
    simp [woken, fresh, List.filterMap_append, List.filterMap_cons, Handle.resumed?,
      Handle.started?, Handle.submitted?, watchedPut]

/-- A put that finds the queue full goes behind everybody who waits. -/
theorem order_attempt_of_full {loop : Loop Item} {put : Put Item} (isFull : loop.full = true)
    (patient : watched put = true → put.nowait = false) :
    (loop.attempt put).order watched =
      loop.items.filter watched ++ (loop.woken.filter watched ++
        (loop.putters.filter watched ++
          ((if watched put then [put] else []) ++ loop.fresh.filter watched))) := by
  simp only [attempt, isFull, if_true]
  cases watchedPut : watched put with
  | false =>
      cases impatient : put.nowait <;>
        simp [order_eq, woken, fresh, List.filterMap_append, List.filterMap_cons,
          Handle.resumed?, Handle.started?, Handle.submitted?, watchedPut]
  | true =>
      simp [patient watchedPut, order_eq, woken, fresh, watchedPut]

/-- The first step of a put keeps the order unless it passes somebody. -/
theorem order_start {loop : Loop Item} {put : Put Item} {rest : List (Handle Item)}
    (patient : watched put = true → put.nowait = false)
    (head : loop.ready = .start put :: rest)
    (fair : ({ loop with ready := rest } : Loop Item).passes watched put = false) :
    (({ loop with ready := rest } : Loop Item).attempt put).order watched =
      loop.order watched := by
  have before : loop.order watched =
      loop.items.filter watched ++
        (({ loop with ready := rest } : Loop Item).woken.filter watched ++
          (loop.putters.filter watched ++
            ((if watched put then [put] else []) ++
              ({ loop with ready := rest } : Loop Item).fresh.filter watched))) := by
    cases watchedPut : watched put <;>
      simp [order_eq, woken, fresh, head, List.filterMap_cons, Handle.resumed?,
        Handle.started?, Handle.submitted?, watchedPut]
  rw [before]
  cases isFull : ({ loop with ready := rest } : Loop Item).full with
  | true => exact order_attempt_of_full watched isFull patient
  | false =>
      rw [order_attempt_of_room watched put isFull]
      cases watchedPut : watched put with
      | false => simp
      | true =>
          have nobody : ({ loop with ready := rest } : Loop Item).waiting watched = false := by
            simpa [passes, watchedPut, isFull] using fair
          rcases order_of_not_waiting watched nobody with ⟨noneWoken, noneParked⟩
          simp only [noneWoken, noneParked, List.nil_append]

/-- A resumed put keeps the order unless it loses its place. -/
theorem order_resume {loop : Loop Item} {put : Put Item} {rest : List (Handle Item)}
    (patient : watched put = true → put.nowait = false)
    (head : loop.ready = .resume put :: rest)
    (fair : ({ loop with ready := rest } : Loop Item).losesPlace watched put = false) :
    (({ loop with ready := rest } : Loop Item).attempt put).order watched =
      loop.order watched := by
  have before : loop.order watched =
      loop.items.filter watched ++ ((if watched put then [put] else []) ++
        (({ loop with ready := rest } : Loop Item).woken.filter watched ++
          (loop.putters.filter watched ++
            ({ loop with ready := rest } : Loop Item).fresh.filter watched))) := by
    cases watchedPut : watched put <;>
      simp [order_eq, woken, fresh, head, List.filterMap_cons, Handle.resumed?,
        Handle.started?, Handle.submitted?, watchedPut]
  rw [before]
  cases isFull : ({ loop with ready := rest } : Loop Item).full with
  | false => exact order_attempt_of_room watched put isFull
  | true =>
      rw [order_attempt_of_full watched isFull patient]
      cases watchedPut : watched put with
      | false => simp
      | true =>
          have nobody : ({ loop with ready := rest } : Loop Item).waiting watched = false := by
            simpa [losesPlace, watchedPut, isFull] using fair
          rcases order_of_not_waiting watched nobody with ⟨noneWoken, noneParked⟩
          simp only [noneWoken, noneParked, List.nil_append]

/-- Executing the oldest callback keeps the order of the watched puts unless it overtakes. -/
theorem order_turn (patient : ∀ put : Put Item, watched put = true → put.nowait = false)
    {loop next : Loop Item} (turned : loop.turn = some next)
    (fair : loop.overtakes watched = false) :
    next.order watched = loop.order watched := by
  rcases turn_cases turned with ⟨handle, rest, head, rfl⟩
  simp only [overtakes, head] at fair
  cases handle with
  | submit put =>
      simp [execute, order, puts, woken, fresh, head, List.filterMap_cons, Handle.resumed?,
        Handle.started?, Handle.submitted?, List.append_assoc]
  | report id succeeded =>
      simp [execute, order, puts, woken, fresh, head, List.filterMap_cons, Handle.resumed?,
        Handle.started?, Handle.submitted?]
  | start put => exact order_start watched (patient put) head fair
  | resume put => exact order_resume watched (patient put) head fair

end Order

end Loop

end Asyncio
