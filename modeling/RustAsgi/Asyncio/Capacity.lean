import RustAsgi.Asyncio.Queue

/-!
# How many puts a full queue holds back

A put parks only while the queue is full, so as long as no more puts are under way
than the queue has slots, none of them parks. One put more is the last to find out:
the callbacks run in the order in which they were scheduled, so everybody before it
has its slot by then, and it is the one that waits until an item is taken.
-/

namespace Asyncio

universe u

variable {Item : Type u}

namespace Handle

def put? : Handle Item → Option (Put Item)
  | .submit put | .start put | .resume put => some put
  | .report _ _ => none

/-- The put that the callback is about. -/
def about : Handle Item → ℕ
  | .submit put | .start put | .resume put => put.id
  | .report id _ => id

/-- The first step of a task, or the report of one that is done. -/
def settling : Handle Item → Bool
  | .start _ | .report _ _ => true
  | .submit _ | .resume _ => false

end Handle

namespace Loop

variable {loop next : Loop Item} {put other : Put Item} {handle : Handle Item}
  {rest : List (Handle Item)}

section Count

variable (watched : Put Item → Bool)

theorem countP_puts (loop : Loop Item) :
    loop.puts.countP watched = loop.items.countP watched + loop.woken.countP watched +
      loop.putters.countP watched + loop.fresh.countP watched := by
  simp only [puts, List.countP_append]
  omega

/-- The oldest callback takes its put with it. -/
theorem countP_puts_cons (ready : loop.ready = handle :: rest) :
    loop.puts.countP watched =
      ({ loop with ready := rest } : Loop Item).puts.countP watched +
        handle.put?.toList.countP watched := by
  cases handle <;>
    simp [countP_puts, woken, fresh, ready, List.filterMap_cons, Handle.resumed?, Handle.started?,
      Handle.submitted?, Handle.put?, List.countP_append, List.countP_cons] <;> omega

theorem countP_puts_attempt (loop : Loop Item) (put : Put Item) :
    (loop.attempt put).puts.countP watched ≤
      loop.puts.countP watched + [put].countP watched := by
  simp only [attempt]
  split
  · split
    · simp only [countP_puts, woken, fresh, List.filterMap_append, List.filterMap_cons,
        List.filterMap_nil, Handle.resumed?, Handle.started?, Handle.submitted?, List.append_nil]
      omega
    · simp only [countP_puts, woken, fresh, List.countP_append]
      omega
  · simp only [countP_puts, woken, fresh, List.filterMap_append, List.filterMap_cons,
      List.filterMap_nil, Handle.resumed?, Handle.started?, Handle.submitted?, List.append_nil,
      List.countP_append]
    omega

/-- A turn makes no puts. -/
theorem countP_puts_turn (turned : loop.turn = some next) :
    next.puts.countP watched ≤ loop.puts.countP watched := by
  rcases turn_cases turned with ⟨handle, rest, ready, rfl⟩
  rw [countP_puts_cons watched ready]
  cases handle with
  | submit scheduled =>
      simp only [execute, countP_puts, woken, fresh, Handle.put?, List.filterMap_append,
        List.filterMap_cons, List.filterMap_nil, Handle.resumed?, Handle.started?,
        Handle.submitted?, List.append_nil, List.countP_append, Option.toList_some]
      omega
  | start tried | resume tried => exact countP_puts_attempt watched _ tried
  | report id succeeded => exact Nat.le_refl _

end Count

theorem length_puts (loop : Loop Item) :
    loop.puts.length = loop.items.length + loop.woken.length + loop.putters.length +
      loop.fresh.length := by
  simpa using countP_puts (fun _ => true) loop

theorem length_puts_turn (turned : loop.turn = some next) :
    next.puts.length ≤ loop.puts.length := by
  simpa using countP_puts_turn (fun _ => true) turned

/-- Nobody parks beside a free slot that is not promised to somebody who has been woken. -/
structure Saturated (loop : Loop Item) : Prop where
  few : loop.items.length ≤ loop.maxsize
  parked : loop.putters ≠ [] → loop.maxsize ≤ loop.items.length + loop.woken.length

theorem saturated_empty (maxsize : ℕ) : (empty maxsize : Loop Item).Saturated where
  few := Nat.zero_le maxsize
  parked := fun parked => absurd rfl parked

theorem Saturated.submit (saturated : loop.Saturated) (put : Put Item) :
    (loop.submit put).Saturated := by
  refine ⟨saturated.few, ?_⟩
  have same : (loop.submit put).woken = loop.woken := by
    simp [woken, Loop.submit, List.filterMap_append, List.filterMap_cons, Handle.resumed?]
  rw [same]
  exact saturated.parked

/-- Puts that all find a slot do not park. -/
theorem Saturated.putters_eq_nil (saturated : loop.Saturated)
    (few : loop.puts.length ≤ loop.maxsize) : loop.putters = [] := by
  by_contra parked
  have crowded := saturated.parked parked
  have waiting := List.length_pos_iff.mpr parked
  rw [length_puts] at few
  omega

theorem not_full_iff (positive : 0 < loop.maxsize) :
    loop.full = false ↔ loop.items.length < loop.maxsize := by
  simp only [full, decide_eq_false_iff_not]
  omega

theorem full_iff (positive : 0 < loop.maxsize) :
    loop.full = true ↔ loop.maxsize ≤ loop.items.length := by
  simp only [full, decide_eq_true_eq]
  omega

theorem attempt_of_room (put : Put Item) (room : loop.full = false) :
    loop.attempt put =
      { loop with
        items := loop.items ++ [put]
        ready := loop.ready ++ [.report put.id true] } := by
  simp [attempt, room]

theorem attempt_of_full (crowded : loop.full = true) (waits : put.nowait = false) :
    loop.attempt put = { loop with putters := loop.putters ++ [put] } := by
  simp [attempt, crowded, waits]

/-- An attempt fills the slot that a wake-up may have promised to it. -/
theorem saturated_attempt (positive : 0 < loop.maxsize) (few : loop.items.length ≤ loop.maxsize)
    (parked : loop.putters ≠ [] → loop.maxsize ≤ loop.items.length + loop.woken.length + 1)
    (put : Put Item) : (loop.attempt put).Saturated := by
  cases room : loop.full with
  | true =>
      have crowded := (full_iff positive).mp room
      simp only [attempt, room, if_true]
      split
      · refine ⟨few, ?_⟩
        intro _
        exact Nat.le_add_right_of_le crowded
      · refine ⟨few, ?_⟩
        intro _
        exact Nat.le_add_right_of_le crowded
  | false =>
      have free := (not_full_iff positive).mp room
      rw [attempt_of_room put room]
      refine ⟨?_, ?_⟩
      · simp only [List.length_append, List.length_singleton]
        omega
      · intro waiting
        have promised := parked waiting
        simp only [woken, List.filterMap_append, List.filterMap_cons, List.filterMap_nil,
          Handle.resumed?, List.append_nil, List.length_append, List.length_singleton]
        simp only [woken] at promised
        omega

theorem Saturated.turn (saturated : loop.Saturated) (positive : 0 < loop.maxsize)
    (turned : loop.turn = some next) : next.Saturated := by
  rcases turn_cases turned with ⟨handle, rest, ready, rfl⟩
  have parked := saturated.parked
  cases handle with
  | submit put =>
      refine ⟨saturated.few, ?_⟩
      simpa [woken, ready, execute, List.filterMap_cons, Handle.resumed?] using parked
  | report id succeeded =>
      refine ⟨saturated.few, ?_⟩
      simpa [woken, ready, execute, List.filterMap_cons, Handle.resumed?] using parked
  | start put =>
      apply saturated_attempt
      · exact positive
      · exact saturated.few
      · intro waiting
        have promised := parked waiting
        simp only [woken, ready, List.filterMap_cons, Handle.resumed?] at promised ⊢
        omega
  | resume put =>
      apply saturated_attempt
      · exact positive
      · exact saturated.few
      · intro waiting
        have promised := parked waiting
        simp only [woken, ready, List.filterMap_cons, Handle.resumed?, List.length_cons]
          at promised ⊢
        omega

theorem Saturated.get (saturated : loop.Saturated) (got : loop.get = some (put, next)) :
    next.Saturated := by
  have few := saturated.few
  have parked := saturated.parked
  rcases get_cases got with ⟨rest, items, rfl⟩
  rw [items, List.length_cons] at few parked
  cases putters : loop.putters with
  | nil =>
      simp only [wakeupNext]
      exact ⟨Nat.le_of_succ_le few, fun waiting => absurd rfl waiting⟩
  | cons oldest others =>
      simp only [wakeupNext]
      refine ⟨Nat.le_of_succ_le few, ?_⟩
      intro _
      have promised := parked (by simp [putters])
      simp only [woken, List.filterMap_append, List.filterMap_cons, List.filterMap_nil,
        Handle.resumed?, List.length_append, List.length_singleton]
      simp only [woken] at promised
      omega

/-- Where the put that was scheduled last can be while nothing is taken: everybody before it is on
the way to a slot, and it parks when its turn comes. -/
inductive Last (loop : Loop Item) (put : Put Item) : Prop where
  | submitted {front back : List (Handle Item)} (ready : loop.ready = front ++ .submit put :: back)
      (idle : loop.putters = []) (apart : ∀ handle ∈ front ++ back, handle.about ≠ put.id)
      (behind : ∀ handle ∈ back, handle.settling = true)
  | started {front back : List (Handle Item)} (ready : loop.ready = front ++ .start put :: back)
      (idle : loop.putters = []) (apart : ∀ handle ∈ front ++ back, handle.about ≠ put.id)
      (ahead : ∀ handle ∈ front, handle.settling = true)
      (behind : ∀ handle ∈ back, handle.put? = none)
  | parked (member : put ∈ loop.putters) (apart : ∀ handle ∈ loop.ready, handle.about ≠ put.id)

/-- One put more than the queue has slots is under way, and the last of them has not reported
back. -/
structure Overfull (loop : Loop Item) (put : Put Item) : Prop where
  total : loop.puts.length = loop.maxsize + 1
  last : loop.Last put
  unreported : ∀ report ∈ loop.reported, report.1 ≠ put.id

theorem Overfull.outcome?_eq_none (overfull : loop.Overfull put) : loop.outcome? put.id = none := by
  simp only [outcome?, Option.map_eq_none_iff, List.find?_eq_none]
  intro report member
  simpa using overfull.unreported report member

theorem length_puts_rest (loop : Loop Item) (rest : List (Handle Item)) :
    ({ loop with ready := rest } : Loop Item).puts.length =
      loop.items.length + ({ loop with ready := rest } : Loop Item).woken.length +
        loop.putters.length + ({ loop with ready := rest } : Loop Item).fresh.length :=
  length_puts _

theorem length_puts_cons (ready : loop.ready = handle :: rest) (tried : handle.put? = some other) :
    loop.puts.length = ({ loop with ready := rest } : Loop Item).puts.length + 1 := by
  simpa [tried] using countP_puts_cons (fun _ => true) ready

/-- Beside a put that has not been tried, the oldest one finds a slot. -/
theorem room_of_fresh (positive : 0 < loop.maxsize)
    (total : loop.puts.length = loop.maxsize + 1) (ready : loop.ready = handle :: rest)
    (tried : handle.put? = some other) (later : .start put ∈ rest ∨ .submit put ∈ rest) :
    ({ loop with ready := rest } : Loop Item).full = false := by
  have popped := length_puts_cons ready tried
  have scheduled : put ∈ ({ loop with ready := rest } : Loop Item).fresh := mem_fresh.mpr later
  have one := List.length_pos_of_mem scheduled
  have parts := length_puts_rest loop rest
  apply (not_full_iff positive).mpr
  show loop.items.length < loop.maxsize
  omega

/-- Where nothing else is scheduled, the last put finds the queue full. -/
theorem full_of_alone (positive : 0 < loop.maxsize)
    (total : loop.puts.length = loop.maxsize + 1) (ready : loop.ready = handle :: rest)
    (tried : handle.put? = some other) (idle : loop.putters = [])
    (alone : ∀ later ∈ rest, later.put? = none) :
    ({ loop with ready := rest } : Loop Item).full = true := by
  have popped := length_puts_cons ready tried
  have silent (found : Handle Item → Option (Put Item))
      (part : ∀ handle put, found handle = some put → handle.put? = some put) :
      rest.filterMap found = [] := by
    apply List.filterMap_eq_nil_iff.mpr
    intro later member
    cases same : found later with
    | none => rfl
    | some put =>
        have own := part later put same
        rw [alone later member] at own
        cases own
  have noneWoken : ({ loop with ready := rest } : Loop Item).woken = [] := by
    apply silent
    intro handle put found
    cases handle <;> simp_all [Handle.resumed?, Handle.put?]
  have noneFresh : ({ loop with ready := rest } : Loop Item).fresh = [] := by
    simp only [fresh, List.append_eq_nil_iff]
    constructor
    · apply silent
      intro handle put found
      cases handle <;> simp_all [Handle.started?, Handle.put?]
    · apply silent
      intro handle put found
      cases handle <;> simp_all [Handle.submitted?, Handle.put?]
  have parts := length_puts_rest loop rest
  have noWoken := congrArg List.length noneWoken
  have noFresh := congrArg List.length noneFresh
  have noPutters := congrArg List.length idle
  simp only [List.length_nil] at noWoken noFresh noPutters
  apply (full_iff positive).mpr
  show loop.maxsize ≤ loop.items.length
  omega

/-- A turn schedules callbacks behind the others, and parks a put only where it finds no room. -/
theorem turn_cons (turned : loop.turn = some next) (ready : loop.ready = handle :: rest) :
    ∃ parked after, next.putters = loop.putters ++ parked ∧ next.ready = rest ++ after ∧
      (∀ later ∈ after, later.about = handle.about ∧ later.settling = true ∧
        (handle.settling = true → later.put? = none)) ∧
      (∀ other ∈ parked, other.id = handle.about) ∧
      ((∀ other, handle.put? = some other →
        ({ loop with ready := rest } : Loop Item).full = false) → parked = []) := by
  simp only [Loop.turn, ready, Option.some.injEq] at turned
  subst next
  cases handle with
  | submit put =>
      refine ⟨[], [.start put], (List.append_nil _).symm, rfl, ?_, by simp, fun _ => rfl⟩
      simp [Handle.about, Handle.settling]
  | report id succeeded =>
      refine ⟨[], [], (List.append_nil _).symm, (List.append_nil _).symm, by simp, by simp, ?_⟩
      exact fun _ => rfl
  | start put | resume put =>
      cases room : ({ loop with ready := rest } : Loop Item).full with
      | false =>
          rw [execute, attempt_of_room put room]
          refine ⟨[], [.report put.id true], (List.append_nil _).symm, rfl, ?_, by simp, ?_⟩
          · simp [Handle.about, Handle.settling, Handle.put?]
          · exact fun _ => rfl
      | true =>
          have finds : ¬ ∀ other, some put = some other → true = false := by simp
          cases waits : put.nowait with
          | false =>
              rw [execute, attempt_of_full room waits]
              refine ⟨[put], [], rfl, (List.append_nil _).symm, by simp, ?_, ?_⟩
              · simp [Handle.about]
              · intro free
                exact absurd free finds
          | true =>
              simp only [execute, attempt, room, waits, if_true]
              refine ⟨[], [.report put.id false], (List.append_nil _).symm, rfl, ?_, by simp, ?_⟩
              · simp [Handle.about, Handle.settling, Handle.put?]
              · exact fun _ => rfl

/-- A callback ahead of the last put finds room, and schedules nothing but its own follow-up. -/
theorem turn_ahead {own : Handle Item} {front back : List (Handle Item)}
    (positive : 0 < loop.maxsize) (total : loop.puts.length = loop.maxsize + 1)
    (untried : own = .start put ∨ own = .submit put)
    (ready : loop.ready = handle :: front ++ own :: back)
    (apart : ∀ later ∈ handle :: front ++ back, later.about ≠ put.id)
    (turned : loop.turn = some next) :
    ∃ after, next.ready = front ++ own :: (back ++ after) ∧ next.putters = loop.putters ∧
      (∀ later ∈ front ++ (back ++ after), later.about ≠ put.id) ∧
      ∀ later ∈ after, later.settling = true ∧ (handle.settling = true → later.put? = none) := by
  rw [List.cons_append] at ready
  have behind : .start put ∈ front ++ own :: back ∨ .submit put ∈ front ++ own :: back := by
    refine untried.imp ?_ ?_
    · rintro rfl
      simp
    · rintro rfl
      simp
  rcases turn_cons turned ready with ⟨parked, after, putters, grown, reports, _, unparked⟩
  have nobody : parked = [] :=
    unparked fun other tried => room_of_fresh positive total ready tried behind
  rw [nobody, List.append_nil] at putters
  rw [List.append_assoc, List.cons_append] at grown
  refine ⟨after, grown, putters, ?_, fun later new => (reports later new).2⟩
  intro later member
  rw [← List.append_assoc] at member
  rcases List.mem_append.mp member with before | new
  · exact apart later (List.mem_cons_of_mem _ before)
  · rw [(reports later new).1]
    exact apart handle List.mem_cons_self

theorem Last.turn (positive : 0 < loop.maxsize) (total : loop.puts.length = loop.maxsize + 1)
    (waits : put.nowait = false) (last : loop.Last put) (turned : loop.turn = some next) :
    next.Last put := by
  cases last with
  | @submitted front back ready idle apart behind =>
      cases front with
      | nil =>
          simp only [Loop.turn, ready, List.nil_append, Option.some.injEq] at turned
          subst next
          refine .started rfl idle ?_ behind ?_
          · simpa using apart
          · intro handle member
            cases member
      | cons handle front =>
          rcases turn_ahead positive total (.inr rfl) ready apart turned with
            ⟨after, grown, putters, still, settling⟩
          refine .submitted grown (putters.trans idle) still ?_
          intro later member
          rcases List.mem_append.mp member with before | new
          · exact behind later before
          · exact (settling later new).1
  | @started front back ready idle apart ahead behind =>
      cases front with
      | nil =>
          have crowded := full_of_alone positive total ready rfl idle behind
          simp only [Loop.turn, ready, List.nil_append, Option.some.injEq] at turned
          subst next
          rw [execute, attempt_of_full crowded waits]
          refine .parked ?_ ?_
          · exact List.mem_append_right _ List.mem_cons_self
          · simpa using apart
      | cons handle front =>
          rcases turn_ahead positive total (.inl rfl) ready apart turned with
            ⟨after, grown, putters, still, settling⟩
          refine .started grown (putters.trans idle) still ?_ ?_
          · intro later member
            exact ahead later (List.mem_cons_of_mem _ member)
          · intro later member
            rcases List.mem_append.mp member with before | new
            · exact behind later before
            · exact (settling later new).2 (ahead handle List.mem_cons_self)
  | parked member apart =>
      rcases turn_cases turned with ⟨handle, rest, ready, _⟩
      rcases turn_cons turned ready with ⟨parked, after, putters, grown, reports, _, _⟩
      rw [ready] at apart
      refine .parked ?_ ?_
      · rw [putters]
        exact List.mem_append_left _ member
      · intro later scheduled
        rw [grown] at scheduled
        rcases List.mem_append.mp scheduled with before | new
        · exact apart later (List.mem_cons_of_mem _ before)
        · rw [(reports later new).1]
          exact apart handle List.mem_cons_self

/-- The put has not been tried, or does not report back. -/
theorem Last.not_report (last : loop.Last put) {id : ℕ} {succeeded : Bool}
    (member : .report id succeeded ∈ loop.ready) : id ≠ put.id := by
  have other {front back : List (Handle Item)} {own : Handle Item}
      (ready : loop.ready = front ++ own :: back) (scheduled : own ≠ .report id succeeded)
      (apart : ∀ handle ∈ front ++ back, handle.about ≠ put.id) : id ≠ put.id := by
    apply apart (.report id succeeded)
    rw [ready] at member
    rcases List.mem_append.mp member with before | after
    · exact List.mem_append_left _ before
    · rcases List.mem_cons.mp after with same | later
      · exact absurd same.symm scheduled
      · exact List.mem_append_right _ later
  cases last with
  | submitted ready _ apart => exact other ready (by simp) apart
  | started ready _ apart => exact other ready (by simp) apart
  | parked _ apart => exact apart _ member

theorem reported_turn (turned : loop.turn = some next) {report : ℕ × Bool}
    (member : report ∈ next.reported) :
    report ∈ loop.reported ∨ .report report.1 report.2 ∈ loop.ready := by
  rcases turn_cases turned with ⟨handle, rest, ready, rfl⟩
  rw [ready]
  cases handle with
  | submit put => exact .inl member
  | start put | resume put =>
      refine .inl ?_
      simp only [execute, attempt] at member
      split at member
      · split at member <;> exact member
      · exact member
  | report id succeeded =>
      rcases List.mem_append.mp member with before | new
      · exact .inl before
      · rw [List.mem_singleton.mp new]
        exact .inr List.mem_cons_self

/-- As long as nothing is taken, the last put stays without a slot. -/
theorem Overfull.turn (overfull : loop.Overfull put) (positive : 0 < loop.maxsize)
    (waits : put.nowait = false) (turned : loop.turn = some next)
    (still : next.maxsize < next.puts.length) : next.Overfull put where
  total := by
    have fewer := length_puts_turn turned
    have same := maxsize_turn turned
    have total := overfull.total
    omega
  last := overfull.last.turn positive overfull.total waits turned
  unreported := by
    intro report member
    rcases reported_turn turned member with before | scheduled
    · exact overfull.unreported report before
    · exact overfull.last.not_report scheduled

/-- The ids under way have been given out. -/
structure Dated (loop : Loop Item) (nextId : ℕ) : Prop where
  scheduled : ∀ handle ∈ loop.ready, handle.about < nextId
  parked : ∀ put ∈ loop.putters, put.id < nextId
  reported : ∀ report ∈ loop.reported, report.1 < nextId

variable {nextId : ℕ}

theorem dated_empty (maxsize nextId : ℕ) : (empty maxsize : Loop Item).Dated nextId where
  scheduled := by simp [empty]
  parked := by simp [empty]
  reported := by simp [empty]

theorem Dated.submit (dated : loop.Dated nextId) (own : put.id = nextId) :
    (loop.submit put).Dated (nextId + 1) where
  scheduled := by
    intro handle member
    rcases List.mem_append.mp member with before | new
    · exact Nat.lt_succ_of_lt (dated.scheduled handle before)
    · rw [List.mem_singleton.mp new, Handle.about, own]
      exact Nat.lt_succ_self nextId
  parked := fun put member => Nat.lt_succ_of_lt (dated.parked put member)
  reported := fun report member => Nat.lt_succ_of_lt (dated.reported report member)

theorem Dated.turn (dated : loop.Dated nextId) (turned : loop.turn = some next) :
    next.Dated nextId := by
  rcases turn_cases turned with ⟨handle, rest, ready, _⟩
  rcases turn_cons turned ready with ⟨parked, after, putters, grown, reports, waits, _⟩
  have scheduled := dated.scheduled
  rw [ready] at scheduled
  have own := scheduled handle List.mem_cons_self
  refine ⟨?_, ?_, ?_⟩
  · intro later member
    rw [grown] at member
    rcases List.mem_append.mp member with before | new
    · exact scheduled later (List.mem_cons_of_mem _ before)
    · rw [(reports later new).1]
      exact own
  · intro put member
    rw [putters] at member
    rcases List.mem_append.mp member with before | new
    · exact dated.parked put before
    · rw [waits put new]
      exact own
  · intro report member
    rcases reported_turn turned member with before | executed
    · exact dated.reported report before
    · exact dated.scheduled _ executed

theorem Dated.get (dated : loop.Dated nextId) (got : loop.get = some (put, next)) :
    next.Dated nextId := by
  rcases get_cases got with ⟨rest, items, rfl⟩
  cases putters : loop.putters with
  | nil => exact ⟨dated.scheduled, by simp [wakeupNext], dated.reported⟩
  | cons oldest others =>
      have parked := dated.parked
      rw [putters] at parked
      refine ⟨?_, ?_, dated.reported⟩
      · intro handle member
        rcases List.mem_append.mp member with before | new
        · exact dated.scheduled handle before
        · rw [List.mem_singleton.mp new]
          exact parked oldest List.mem_cons_self
      · exact fun put member => parked put (List.mem_cons_of_mem _ member)

/-- A put scheduled on top of as many as the queue has slots is one too many. -/
theorem overfull_submit (saturated : loop.Saturated) (dated : loop.Dated put.id)
    (total : loop.puts.length = loop.maxsize) : (loop.submit put).Overfull put where
  total := by
    rw [puts_submit, List.length_append, total]
    rfl
  last := by
    have ready : (loop.submit put).ready = loop.ready ++ .submit put :: [] := rfl
    refine .submitted ready (saturated.putters_eq_nil (Nat.le_of_eq total)) ?_ ?_
    · intro handle member
      rw [List.append_nil] at member
      exact Nat.ne_of_lt (dated.scheduled handle member)
    · intro handle member
      cases member
  unreported := fun report member => Nat.ne_of_lt (dated.reported report member)

end Loop

end Asyncio
