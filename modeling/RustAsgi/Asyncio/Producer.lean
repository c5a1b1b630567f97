import RustAsgi.Asyncio.Queue

/-!
# A producer that awaits its puts

A producer that schedules a put only after the one before has reported back never
has two puts under way, so none can overtake another: what has been taken and what
is still to be taken is what was scheduled, in order.
-/

namespace Asyncio

namespace Loop

universe u

variable {Item : Type u} {loop next : Loop Item} {put other : Put Item} {nextId : ℕ}

/-- The puts under way, in the order of release. -/
def pending (loop : Loop Item) : List (Put Item) :=
  loop.woken ++ (loop.putters ++ loop.fresh)

theorem puts_eq (loop : Loop Item) : loop.puts = loop.items ++ loop.pending :=
  rfl

/-- The put with this id has reported back, or is about to. -/
def Reports (loop : Loop Item) (id : ℕ) (succeeded : Bool) : Prop :=
  .report id succeeded ∈ loop.ready ∨ (id, succeeded) ∈ loop.reported

/-- At most one put is under way: the last one, which has not reported back. -/
structure Serial (loop : Loop Item) (nextId : ℕ) : Prop where
  patient : ∀ put ∈ loop.puts, put.nowait = false
  single : loop.pending.length ≤ 1
  last : ∀ put ∈ loop.pending, put.id + 1 = nextId
  unreported : ∀ put ∈ loop.pending, ∀ succeeded, ¬ loop.Reports put.id succeeded
  past : ∀ id succeeded, loop.Reports id succeeded → id < nextId

theorem serial_empty (maxsize nextId : ℕ) : (empty maxsize : Loop Item).Serial nextId where
  patient := by simp [puts, empty, woken, fresh]
  single := by simp [pending, empty, woken, fresh]
  last := by simp [pending, empty, woken, fresh]
  unreported := by simp [pending, empty, woken, fresh]
  past := by simp [Reports, empty]

/-- With one put under way there is nobody to overtake. -/
theorem Serial.not_overtakes (serial : loop.Serial nextId) (watched : Put Item → Bool) :
    loop.overtakes watched = false := by
  have single := serial.single
  simp only [overtakes]
  split
  · rename_i put rest ready
    have nobody : ({ loop with ready := rest } : Loop Item).waiting watched = false := by
      simp only [pending, woken, fresh, ready, List.filterMap_cons, Handle.resumed?,
        Handle.started?, List.length_append, List.length_cons] at single
      have noneWoken : rest.filterMap Handle.resumed? = [] :=
        List.eq_nil_of_length_eq_zero (by omega)
      have noneParked : loop.putters = [] := List.eq_nil_of_length_eq_zero (by omega)
      simp [waiting, woken, noneWoken, noneParked]
    simp [passes, nobody]
  · rename_i put rest ready
    have nobody : ({ loop with ready := rest } : Loop Item).waiting watched = false := by
      simp only [pending, woken, ready, List.filterMap_cons, Handle.resumed?, List.length_append,
        List.length_cons] at single
      have noneWoken : rest.filterMap Handle.resumed? = [] :=
        List.eq_nil_of_length_eq_zero (by omega)
      have noneParked : loop.putters = [] := List.eq_nil_of_length_eq_zero (by omega)
      simp [waiting, woken, noneWoken, noneParked]
    simp [losesPlace, nobody]
  · rfl

theorem order_patient (patient : ∀ put ∈ loop.puts, put.nowait = false) :
    loop.order (fun put => !put.nowait) = loop.puts := by
  apply List.filter_eq_self.mpr
  intro put member
  simp [patient put member]

theorem Serial.puts_turn (serial : loop.Serial nextId) (turned : loop.turn = some next) :
    next.puts = loop.puts := by
  have patientNext : ∀ put ∈ next.puts, put.nowait = false := fun put member =>
    serial.patient put (mem_puts_turn turned member)
  have kept := order_turn (fun put : Put Item => !put.nowait) (by simp) turned
    (serial.not_overtakes _)
  rwa [order_patient patientNext, order_patient serial.patient] at kept

theorem Serial.pending_turn (serial : loop.Serial nextId) (turned : loop.turn = some next) :
    ∃ entered, next.items = loop.items ++ entered ∧ loop.pending = entered ++ next.pending := by
  rcases items_turn turned with ⟨entered, items⟩
  refine ⟨entered, items.symm, ?_⟩
  have same := serial.puts_turn turned
  rw [puts_eq, puts_eq, ← items, List.append_assoc] at same
  exact (List.append_cancel_left same).symm

/-- The turns that are left to take as long as the queue stays full. -/
def effort (loop : Loop Item) : ℕ :=
  loop.ready.length + (loop.ready.filterMap Handle.submitted?).length

theorem Serial.turn_of_full (serial : loop.Serial nextId) (crowded : loop.full = true)
    (busy : loop.ready ≠ []) :
    ∃ next, loop.turn = some next ∧ next.items = loop.items ∧ next.effort < loop.effort := by
  cases ready : loop.ready with
  | nil => exact absurd ready busy
  | cons handle rest =>
      have crowdedRest : ({ loop with ready := rest } : Loop Item).full = true := crowded
      refine ⟨({ loop with ready := rest } : Loop Item).execute handle, ?_, ?_⟩
      · simp only [turn, ready]
      cases handle with
      | submit put =>
          refine ⟨rfl, ?_⟩
          simp only [effort, execute, ready, List.length_append, List.length_cons, List.length_nil,
            List.filterMap_append, List.filterMap_cons, List.filterMap_nil, Handle.submitted?,
            List.append_nil]
          omega
      | report id succeeded =>
          refine ⟨rfl, ?_⟩
          simp only [effort, execute, ready, List.length_cons, List.filterMap_cons,
            Handle.submitted?]
          omega
      | start put | resume put =>
          have waits : put.nowait = false := serial.patient put (by simp [mem_puts, ready])
          simp only [execute, attempt, crowdedRest, waits, if_true, Bool.false_eq_true, if_false]
          refine ⟨trivial, ?_⟩
          simp only [effort, ready, List.length_cons, List.filterMap_cons, Handle.submitted?]
          omega

theorem Serial.reports_turn {id : ℕ} {succeeded : Bool} (serial : loop.Serial nextId)
    (turned : loop.turn = some next) (reports : next.Reports id succeeded) :
    loop.Reports id succeeded ∨
      ((∃ put ∈ loop.pending, put.id = id) ∧ next.items ≠ loop.items) := by
  rcases turn_cases turned with ⟨handle, rest, ready, executed⟩
  have attempted {put : Put Item} (member : put ∈ loop.pending)
      (tried : next = ({ loop with ready := rest } : Loop Item).attempt put) :
      loop.Reports id succeeded ∨
        ((∃ put ∈ loop.pending, put.id = id) ∧ next.items ≠ loop.items) := by
    have waits : put.nowait = false := serial.patient put (List.mem_append_right _ member)
    subst tried
    simp only [attempt, waits] at reports ⊢
    split at reports
    · left
      simpa [Reports, ready] using reports.imp_left .inr
    · rename_i room
      simp only [Reports, List.mem_append, List.mem_singleton, Handle.report.injEq] at reports
      simp only [room]
      rcases reports with (before | new) | before
      · exact .inl (.inl (ready ▸ List.mem_cons_of_mem _ before))
      · exact .inr ⟨⟨put, member, new.1.symm⟩, by simp⟩
      · exact .inl (.inr before)
  cases handle with
  | submit put =>
      subst next
      left
      simpa [Reports, execute, ready] using reports
  | report own outcome =>
      subst next
      left
      simp only [Reports, execute, List.mem_append, List.mem_singleton, Prod.mk.injEq]
        at reports
      rcases reports with before | before | ⟨rfl, rfl⟩
      · exact .inl (ready ▸ List.mem_cons_of_mem _ before)
      · exact .inr before
      · exact .inl (ready ▸ List.mem_cons_self)
  | start put =>
      exact attempted (by simp [pending, fresh, ready, Handle.started?]) executed.symm
  | resume put =>
      exact attempted (by simp [pending, woken, ready, Handle.resumed?]) executed.symm

theorem Serial.turn (serial : loop.Serial nextId) (turned : loop.turn = some next) :
    next.Serial nextId := by
  rcases serial.pending_turn turned with ⟨entered, items, split_⟩
  have under {put : Put Item} (member : put ∈ next.pending) : put ∈ loop.pending :=
    split_ ▸ List.mem_append_right _ member
  have single := serial.single
  refine ⟨?_, ?_, fun put member => serial.last put (under member), ?_, ?_⟩
  · exact fun put member => serial.patient put (mem_puts_turn turned member)
  · rw [split_, List.length_append] at single
    omega
  · intro put member succeeded reports
    rcases serial.reports_turn turned reports with before | ⟨_, changed⟩
    · exact serial.unreported put (under member) succeeded before
    · -- The only put under way has entered the queue.
      have some_ : entered ≠ [] := by
        rintro rfl
        exact changed (by rw [items, List.append_nil])
      have nonempty := List.length_pos_iff.mpr some_
      have present := List.length_pos_of_mem member
      rw [split_, List.length_append] at single
      omega
  · intro id succeeded reports
    rcases serial.reports_turn turned reports with before | ⟨⟨put, member, rfl⟩, _⟩
    · exact serial.past id succeeded before
    · have last := serial.last put member
      omega

theorem reports_get (got : loop.get = some (put, next)) {id : ℕ} {succeeded : Bool} :
    next.Reports id succeeded ↔ loop.Reports id succeeded := by
  rcases get_cases got with ⟨rest, items, rfl⟩
  cases loop.putters <;> simp [wakeupNext, Reports]

theorem pending_get (got : loop.get = some (put, next)) : next.pending = loop.pending := by
  have taken := puts_get got
  rw [puts_eq, puts_eq, items_get got, List.cons_append, List.cons.injEq] at taken
  exact (List.append_cancel_left taken.2).symm

theorem Serial.get (serial : loop.Serial nextId) (got : loop.get = some (put, next)) :
    next.Serial nextId := by
  have same := pending_get got
  refine ⟨?_, same ▸ serial.single, same ▸ serial.last, ?_, ?_⟩
  · exact fun other member => serial.patient other ((mem_puts_get got).2 other member)
  · intro other member succeeded reports
    exact serial.unreported other (same ▸ member) succeeded ((reports_get got).mp reports)
  · exact fun id succeeded reports => serial.past id succeeded ((reports_get got).mp reports)

theorem Serial.idle_of_outcome {succeeded : Bool} {id : ℕ} (serial : loop.Serial nextId)
    (last : id + 1 = nextId) (outcome : loop.outcome? id = some succeeded) :
    loop.pending = [] := by
  apply List.eq_nil_iff_forall_not_mem.mpr
  intro put member
  simp only [outcome?, Option.map_eq_some_iff] at outcome
  rcases outcome with ⟨report, found, rfl⟩
  have same : report.1 = id := by simpa using List.find?_some found
  have own := serial.last put member
  apply serial.unreported put member report.2
  have identical : put.id = report.1 := by omega
  rw [identical]
  exact .inr (List.mem_of_find?_eq_some found)

theorem Serial.submit (serial : loop.Serial nextId) (idle : loop.pending = []) (item : Item) :
    (loop.submit { id := nextId, item, nowait := false }).Serial (nextId + 1) ∧
      (loop.submit { id := nextId, item, nowait := false }).puts =
        loop.puts ++ [{ id := nextId, item, nowait := false }] := by
  have more : (loop.submit { id := nextId, item, nowait := false }).pending =
      loop.pending ++ [{ id := nextId, item, nowait := false }] := by
    simp [pending, Loop.submit, woken, fresh, List.filterMap_cons, Handle.resumed?, Handle.started?,
      Handle.submitted?]
  have reports {id : ℕ} {succeeded : Bool} :
      (loop.submit { id := nextId, item, nowait := false }).Reports id succeeded ↔
        loop.Reports id succeeded := by
    simp [Reports, Loop.submit]
  refine ⟨⟨?_, ?_, ?_, ?_, ?_⟩, ?_⟩
  · intro put member
    rcases mem_puts_submit_iff.mp member with before | rfl
    · exact serial.patient put before
    · rfl
  · simp [more, idle]
  · intro put member
    rw [more, idle, List.nil_append, List.mem_singleton] at member
    rw [member]
  · intro put member succeeded reported
    rw [more, idle, List.nil_append, List.mem_singleton] at member
    have past := serial.past put.id succeeded (reports.mp reported)
    rw [member] at past
    exact Nat.lt_irrefl _ past
  · intro id succeeded reported
    exact Nat.lt_succ_of_lt (serial.past id succeeded (reports.mp reported))
  · exact puts_submit loop _

end Loop

end Asyncio
