import Mathlib.Algebra.GroupWithZero.Nat
import Mathlib.Data.List.Infix
import Mathlib.Tactic.Common

/-!
# Runs of executable machines

A machine is a partial step function on states: `step state action` is the next
state, or `none` when the action is not enabled. A run is a list of actions
executed in order. This file gives the two rules every safety proof uses: an
invariant that each permitted step preserves holds after every permitted run,
and a run is mapped to a run of another machine when each of its steps is.
-/

namespace Machine

universe u v w x

variable {State : Type u} {Action : Type v}

/-- Execute `actions` in order, stopping as soon as one of them is not enabled. -/
def run (step : State → Action → Option State) : State → List Action → Option State
  | state, [] => some state
  | state, action :: rest => (step state action).bind fun next => run step next rest

/-- Every action of the execution from `state` is `permitted` in the state it is taken in. -/
def Along (step : State → Action → Option State) (permitted : State → Action → Prop) :
    State → List Action → Prop
  | _, [] => True
  | state, action :: rest =>
      permitted state action ∧
        match step state action with
        | none => True
        | some next => Along step permitted next rest

section Runs

variable {step : State → Action → Option State} {permitted : State → Action → Prop}

@[simp]
theorem run_nil (state : State) : run step state [] = some state :=
  rfl

theorem run_cons (state : State) (action : Action) (rest : List Action) :
    run step state (action :: rest) =
      (step state action).bind fun next => run step next rest :=
  rfl

theorem run_cons_eq_some {state final : State} {action : Action} {rest : List Action} :
    run step state (action :: rest) = some final ↔
      ∃ next, step state action = some next ∧ run step next rest = some final := by
  rw [run_cons, Option.bind_eq_some_iff]

theorem run_append (state : State) (front back : List Action) :
    run step state (front ++ back) =
      (run step state front).bind fun middle => run step middle back := by
  induction front generalizing state with
  | nil => simp
  | cons action rest ih =>
      simp only [List.cons_append, run_cons, Option.bind_assoc]
      congr 1
      funext next
      exact ih next

theorem along_cons_of_step {state next : State} {action : Action} {rest : List Action}
    (stepped : step state action = some next)
    (along : Along step permitted state (action :: rest)) :
    permitted state action ∧ Along step permitted next rest := by
  simp only [Along, stepped] at along
  exact along

theorem along_of_forall {state : State} {actions : List Action}
    (always : ∀ action ∈ actions, ∀ current, permitted current action) :
    Along step permitted state actions := by
  induction actions generalizing state with
  | nil => trivial
  | cons action rest ih =>
      refine ⟨always action List.mem_cons_self state, ?_⟩
      split
      · trivial
      · exact ih fun later member => always later (List.mem_cons_of_mem _ member)

theorem along_singleton {state : State} {action : Action} (allowed : permitted state action) :
    Along step permitted state [action] := by
  refine ⟨allowed, ?_⟩
  split <;> trivial

theorem along_append {state middle : State} {front back : List Action}
    (first : Along step permitted state front) (ran : run step state front = some middle)
    (second : Along step permitted middle back) :
    Along step permitted state (front ++ back) := by
  induction front generalizing state with
  | nil =>
      simp only [run_nil, Option.some.injEq] at ran
      exact ran ▸ second
  | cons action rest ih =>
      rcases run_cons_eq_some.mp ran with ⟨next, stepped, ranRest⟩
      rcases along_cons_of_step stepped first with ⟨allowed, alongRest⟩
      refine ⟨allowed, ?_⟩
      simp only [stepped]
      exact ih alongRest ranRest

theorem Along.and {allowed : State → Action → Prop} {state : State} {actions : List Action}
    (first : Along step permitted state actions) (second : Along step allowed state actions) :
    Along step (fun current action => permitted current action ∧ allowed current action)
      state actions := by
  induction actions generalizing state with
  | nil => trivial
  | cons action rest ih =>
      refine ⟨⟨first.1, second.1⟩, ?_⟩
      have firstTail := first.2
      have secondTail := second.2
      split
      · trivial
      · rename_i next stepped
        rw [stepped] at firstTail secondTail
        exact ih firstTail secondTail

instance Along.decidable [∀ state action, Decidable (permitted state action)] :
    ∀ (state : State) (actions : List Action), Decidable (Along step permitted state actions)
  | _, [] => .isTrue trivial
  | state, action :: rest =>
      match stepped : step state action with
      | none =>
          if allowed : permitted state action then
            .isTrue ⟨allowed, by simp [stepped]⟩
          else .isFalse fun along => allowed along.1
      | some next =>
          if allowed : permitted state action then
            match Along.decidable next rest with
            | .isTrue tail => .isTrue ⟨allowed, by simpa [stepped] using tail⟩
            | .isFalse tailFails =>
                .isFalse fun along => tailFails (along_cons_of_step stepped along).2
          else .isFalse fun along => allowed along.1

theorem exists_of_run_any {property : State → Prop} [DecidablePred property] {state : State}
    {actions : List Action}
    (found : ((run step state actions).any fun final => decide (property final)) = true) :
    ∃ final, run step state actions = some final ∧ property final := by
  cases ran : run step state actions with
  | none => simp [ran] at found
  | some final => exact ⟨final, rfl, by simpa [ran] using found⟩

/-- The invariant rule: what every permitted step preserves, every permitted run preserves. -/
theorem run_invariant (invariant : State → Prop)
    (preserved : ∀ state action next, invariant state → permitted state action →
      step state action = some next → invariant next)
    {state final : State} {actions : List Action}
    (along : Along step permitted state actions)
    (ran : run step state actions = some final) (start : invariant state) :
    invariant final := by
  induction actions generalizing state with
  | nil =>
      simp only [run_nil, Option.some.injEq] at ran
      exact ran ▸ start
  | cons action rest ih =>
      rcases run_cons_eq_some.mp ran with ⟨next, stepped, ranRest⟩
      rcases along_cons_of_step stepped along with ⟨allowed, alongRest⟩
      exact ih alongRest ranRest (preserved state action next start allowed stepped)

/-- What is permitted in every state of an invariant is permitted along the run. -/
theorem Along.of_invariant {allowed : State → Action → Prop} (invariant : State → Prop)
    (preserved : ∀ state action next, invariant state → permitted state action →
      step state action = some next → invariant next)
    (allows : ∀ state action, invariant state → permitted state action → allowed state action)
    {state : State} {actions : List Action} (along : Along step permitted state actions)
    (start : invariant state) : Along step allowed state actions := by
  induction actions generalizing state with
  | nil => trivial
  | cons action rest ih =>
      refine ⟨allows state action start along.1, ?_⟩
      have tail := along.2
      split
      · trivial
      · rename_i next stepped
        rw [stepped] at tail
        exact ih tail (preserved state action next start along.1 stepped)

/-- The invariant rule for a machine all of whose steps are permitted. -/
theorem run_invariant_of_step (invariant : State → Prop)
    (preserved : ∀ state action next, invariant state →
      step state action = some next → invariant next)
    {state final : State} {actions : List Action}
    (ran : run step state actions = some final) (start : invariant state) :
    invariant final := by
  have along : Along step (fun _ _ => True) state actions := along_of_forall fun _ _ _ => trivial
  apply run_invariant invariant _ along ran start
  intro current action next holds _ stepped
  exact preserved current action next holds stepped

/-- The progress rule: where every state of an invariant has a step of a chosen kind that keeps the
invariant and lowers a measure, a run of such steps brings the measure to zero. -/
theorem exists_run_of_decreasing {chosen : Action → Prop} (invariant : State → Prop)
    (measure : State → ℕ)
    (progress : ∀ state, invariant state → measure state ≠ 0 → ∃ action next, chosen action ∧
      step state action = some next ∧ invariant next ∧ measure next < measure state)
    {state : State} (start : invariant state) :
    ∃ actions final, (∀ action ∈ actions, chosen action) ∧
      run step state actions = some final ∧ invariant final ∧ measure final = 0 := by
  by_cases zero : measure state = 0
  · refine ⟨[], state, ?_, rfl, start, zero⟩
    intro action member
    cases member
  · rcases progress state start zero with ⟨action, next, first, stepped, holds, lower⟩
    rcases exists_run_of_decreasing invariant measure progress holds with
      ⟨rest, final, others, ran, kept, reached⟩
    refine ⟨action :: rest, final, ?_, run_cons_eq_some.mpr ⟨next, stepped, ran⟩, kept, reached⟩
    intro each member
    rcases List.mem_cons.mp member with rfl | later
    · exact first
    · exact others each later
termination_by measure state

open Classical in
/-- The progress rule for a goal that the measure need not show. -/
theorem exists_run_until {chosen : Action → Prop} (invariant goal : State → Prop)
    (measure : State → ℕ)
    (progress : ∀ state, invariant state → ¬ goal state → ∃ action next, chosen action ∧
      step state action = some next ∧ invariant next ∧
        (goal next ∨ measure next < measure state))
    {state : State} (start : invariant state) :
    ∃ actions final, (∀ action ∈ actions, chosen action) ∧
      run step state actions = some final ∧ invariant final ∧ goal final := by
  let left (current : State) : ℕ := if goal current then 0 else measure current + 1
  have reached (current : State) : left current = 0 ↔ goal current := by
    simp only [left]
    split <;> simp_all
  have lowers (current : State) (holds : invariant current) (going : left current ≠ 0) :
      ∃ action next, chosen action ∧ step current action = some next ∧ invariant next ∧
        left next < left current := by
    have unmet : ¬ goal current := fun met => going ((reached current).mpr met)
    rcases progress current holds unmet with ⟨action, next, first, stepped, kept, lower⟩
    refine ⟨action, next, first, stepped, kept, ?_⟩
    by_cases met : goal next
    · rw [(reached next).mpr met]
      exact Nat.pos_of_ne_zero going
    · simp only [left, met, unmet, if_false]
      exact Nat.succ_lt_succ (lower.resolve_left met)
  rcases exists_run_of_decreasing invariant left lowers start with
    ⟨actions, final, all, ran, kept, done⟩
  exact ⟨actions, final, all, ran, kept, (reached final).mp done⟩

/-- The progress rule for steps that are permitted in the state they are taken in. -/
theorem exists_along_of_decreasing (invariant : State → Prop) (measure : State → ℕ)
    (progress : ∀ state, invariant state → measure state ≠ 0 → ∃ action next,
      permitted state action ∧ step state action = some next ∧ invariant next ∧
        measure next < measure state)
    {state : State} (start : invariant state) :
    ∃ actions final, Along step permitted state actions ∧ run step state actions = some final ∧
      invariant final ∧ measure final = 0 := by
  by_cases zero : measure state = 0
  · exact ⟨[], state, trivial, rfl, start, zero⟩
  · rcases progress state start zero with ⟨action, next, first, stepped, holds, lower⟩
    rcases exists_along_of_decreasing invariant measure progress holds with
      ⟨rest, final, others, ran, kept, reached⟩
    refine ⟨action :: rest, final, ⟨first, ?_⟩, run_cons_eq_some.mpr ⟨next, stepped, ran⟩, kept,
      reached⟩
    simpa only [stepped] using others
termination_by measure state

/-- The converse rule: among the states of an invariant, what every forbidden step brings about and
every step then keeps holds after each run that takes a forbidden step. -/
theorem run_of_not_along [∀ state action, Decidable (permitted state action)]
    (invariant property : State → Prop)
    (preserved : ∀ state action next, invariant state → step state action = some next →
      invariant next)
    (kept : ∀ state action next, invariant state → property state →
      step state action = some next → property next)
    (brought : ∀ state action next, invariant state → ¬ permitted state action →
      step state action = some next → property next)
    {state final : State} {actions : List Action} (start : invariant state)
    (forbidden : ¬ Along step permitted state actions)
    (ran : run step state actions = some final) : property final := by
  induction actions generalizing state with
  | nil => exact absurd trivial forbidden
  | cons action rest ih =>
      rcases run_cons_eq_some.mp ran with ⟨next, stepped, ranRest⟩
      have holds := preserved state action next start stepped
      by_cases allowed : permitted state action
      · apply ih holds _ ranRest
        intro alongRest
        apply forbidden
        refine ⟨allowed, ?_⟩
        simpa only [stepped] using alongRest
      · have both : invariant final ∧ property final := by
          refine run_invariant_of_step (fun current => invariant current ∧ property current) ?_
            ranRest ⟨holds, brought state action next start allowed stepped⟩
          intro current act later before moved
          exact ⟨preserved current act later before.1 moved,
            kept current act later before.1 before.2 moved⟩
        exact both.2

/-- Rounds of the same actions, each from one state of a family to the next. -/
theorem run_rounds (states : ℕ → State) {round : List Action} {count : ℕ}
    (goes : ∀ n < count, run step (states n) round = some (states (n + 1))) :
    run step (states 0) (List.replicate count round).flatten = some (states count) := by
  induction count with
  | zero => rfl
  | succ count ih =>
      have before := ih fun n earlier => goes n (Nat.lt_succ_of_lt earlier)
      rw [List.replicate_succ', List.flatten_concat, run_append, before]
      exact goes count (Nat.lt_succ_self count)

theorem run_replicate (states : ℕ → State) {action : Action} {count : ℕ}
    (goes : ∀ n < count, step (states n) action = some (states (n + 1))) :
    run step (states 0) (List.replicate count action) = some (states count) := by
  rw [← List.flatten_replicate_singleton]
  apply run_rounds
  intro n earlier
  exact run_cons_eq_some.mpr ⟨_, goes n earlier, rfl⟩

/-- A run that brings something about has a step that does. -/
theorem exists_change (property : State → Prop) {state final : State} {actions : List Action}
    (before : ¬property state) (ran : run step state actions = some final)
    (after : property final) :
    ∃ front action back middle next, actions = front ++ action :: back ∧
      run step state front = some middle ∧ step middle action = some next ∧
      ¬property middle ∧ property next := by
  induction actions generalizing state with
  | nil =>
      obtain rfl := Option.some.inj ran
      exact absurd after before
  | cons action rest ih =>
      rcases run_cons_eq_some.mp ran with ⟨next, stepped, ranRest⟩
      by_cases now : property next
      · exact ⟨[], action, rest, state, next, rfl, rfl, stepped, before, now⟩
      · rcases ih now ranRest with
          ⟨front, act, back, middle, later, rfl, reached, moved, unchanged, changed⟩
        exact ⟨action :: front, act, back, middle, later, rfl,
          run_cons_eq_some.mpr ⟨next, stepped, reached⟩, moved, unchanged, changed⟩

end Runs

section Measures

/-- How replacing one member of a list changes a sum over it. -/
theorem sum_map_set_add {α : Type u} {list : List α} {index : ℕ} {old : α} (rank : α → ℕ)
    (found : list[index]? = some old) (new : α) :
    ((list.set index new).map rank).sum + rank old = (list.map rank).sum + rank new := by
  induction list generalizing index with
  | nil => cases found
  | cons head tail ih =>
      cases index with
      | zero =>
          simp only [List.getElem?_cons_zero, Option.some.injEq] at found
          subst found
          simp only [List.set_cons_zero, List.map_cons, List.sum_cons]
          omega
      | succ index =>
          rw [List.getElem?_cons_succ] at found
          have rest := ih found
          simp only [List.set_cons_succ, List.map_cons, List.sum_cons]
          omega

end Measures

section Views

variable {Source : Type u} {SourceAction : Type v} {Target : Type w} {TargetAction : Type x}
  {step : Source → SourceAction → Option Source}
  {targetStep : Target → TargetAction → Option Target}

/-- The actions a component takes while the whole machine executes `actions`. -/
def trace (step : Source → SourceAction → Option Source)
    (moves : Source → SourceAction → List TargetAction) :
    Source → List SourceAction → List TargetAction
  | _, [] => []
  | state, action :: rest =>
      moves state action ++
        match step state action with
        | none => []
        | some next => trace step moves next rest

/-- The invariant rule for states together with what the run has brought forth so far. -/
theorem trace_invariant {Output : Type w} {step : State → Action → Option State}
    {emits : State → Action → List Output} (invariant : State → List Output → Prop)
    (preserved : ∀ state action next seen, invariant state seen →
      step state action = some next → invariant next (seen ++ emits state action))
    {state final : State} {actions : List Action} {seen : List Output}
    (ran : run step state actions = some final) (start : invariant state seen) :
    invariant final (seen ++ trace step emits state actions) := by
  induction actions generalizing state seen with
  | nil =>
      simp only [run_nil, Option.some.injEq] at ran
      simpa [trace] using ran ▸ start
  | cons action rest ih =>
      rcases run_cons_eq_some.mp ran with ⟨next, stepped, ranRest⟩
      simp only [trace, stepped, ← List.append_assoc]
      exact ih ranRest (preserved state action next seen start stepped)

/-- The invariant rule for states, outputs and the question whether every step so far has been
permitted. -/
theorem trace_along_invariant {Output : Type w} {step : State → Action → Option State}
    {permitted : State → Action → Prop} {emits : State → Action → List Output}
    (invariant : State → List Output → Prop → Prop)
    (preserved : ∀ state action next seen clean, invariant state seen clean →
      step state action = some next →
      invariant next (seen ++ emits state action) (clean ∧ permitted state action))
    {state final : State} {actions : List Action} {seen : List Output} {clean : Prop}
    (ran : run step state actions = some final) (start : invariant state seen clean) :
    invariant final (seen ++ trace step emits state actions)
      (clean ∧ Along step permitted state actions) := by
  induction actions generalizing state seen clean with
  | nil =>
      simp only [run_nil, Option.some.injEq] at ran
      simpa [trace, Along] using ran ▸ start
  | cons action rest ih =>
      rcases run_cons_eq_some.mp ran with ⟨next, stepped, ranRest⟩
      simp only [trace, Along, stepped, ← List.append_assoc, ← and_assoc]
      exact ih ranRest (preserved state action next seen clean start stepped)

/-- A map of states that commutes with every step commutes with every run. -/
theorem run_map {step : State → Action → Option State} (view : State → State)
    (commutes : ∀ state action, step (view state) action = (step state action).map view)
    (state : State) (actions : List Action) :
    run step (view state) actions = (run step state actions).map view := by
  induction actions generalizing state with
  | nil => rfl
  | cons action rest ih =>
      rw [run_cons, run_cons, commutes]
      cases step state action with
      | none => rfl
      | some next => exact ih next

/-- If each step moves the component along a run of its own machine, so does every run. -/
theorem run_trace (view : Source → Target) {moves : Source → SourceAction → List TargetAction}
    (projected : ∀ state action next, step state action = some next →
      run targetStep (view state) (moves state action) = some (view next))
    {state final : Source} {actions : List SourceAction}
    (ran : run step state actions = some final) :
    run targetStep (view state) (trace step moves state actions) = some (view final) := by
  induction actions generalizing state with
  | nil =>
      simp only [run_nil, Option.some.injEq] at ran
      simp [trace, ran]
  | cons action rest ih =>
      rcases run_cons_eq_some.mp ran with ⟨next, stepped, ranRest⟩
      rw [trace, run_append, projected state action next stepped]
      simp only [stepped, Option.bind_some]
      exact ih ranRest

/-- Steps that let the component move as allowed make the whole trace allowed. -/
theorem along_trace (view : Source → Target) {moves : Source → SourceAction → List TargetAction}
    {permitted : Source → SourceAction → Prop} {allowed : Target → TargetAction → Prop}
    (projected : ∀ state action next, step state action = some next →
      run targetStep (view state) (moves state action) = some (view next))
    (allows : ∀ state action, permitted state action →
      Along targetStep allowed (view state) (moves state action))
    {state final : Source} {actions : List SourceAction}
    (along : Along step permitted state actions)
    (ran : run step state actions = some final) :
    Along targetStep allowed (view state) (trace step moves state actions) := by
  induction actions generalizing state with
  | nil => trivial
  | cons action rest ih =>
      rcases run_cons_eq_some.mp ran with ⟨next, stepped, ranRest⟩
      rcases along_cons_of_step stepped along with ⟨permittedNow, alongRest⟩
      rw [trace]
      apply along_append (allows state action permittedNow) (projected state action next stepped)
      simp only [stepped]
      exact ih alongRest ranRest

end Views

end Machine
