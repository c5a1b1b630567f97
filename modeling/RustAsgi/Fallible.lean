import Mathlib.Data.List.Forall2
import Mathlib.Tactic.Common

/-!
# Fallible computations

When a computation in `Except` succeeds. The rules take a chain of checks apart into
what each of them has found, and a loop with an early exit into what it has found at
every item.
-/

namespace Fallible

universe u

section Checks

variable {Error Failure Value Result : Type}

def okOr (value : Option Value) (error : Error) : Except Error Value :=
  match value with
  | some value => .ok value
  | none => .error error

/-- Go on only if the condition holds. -/
def ensure (condition : Prop) [Decidable condition] (error : Error) : Except Error Unit :=
  if condition then .ok () else .error error

theorem bind_eq_ok {first : Except Error Value} {rest : Value → Except Error Result}
    {result : Result} :
    (first >>= rest) = .ok result ↔ ∃ value, first = .ok value ∧ rest value = .ok result := by
  cases first <;> simp [bind, Except.bind]

theorem bind_succeeds {first : Except Error Value} {rest : Value → Except Error Result} :
    (∃ result, (first >>= rest) = .ok result) ↔
      ∃ value, first = .ok value ∧ ∃ result, rest value = .ok result := by
  simp only [bind_eq_ok]
  constructor
  · rintro ⟨result, value, found, finished⟩
    exact ⟨value, found, result, finished⟩
  · rintro ⟨value, found, result, finished⟩
    exact ⟨result, value, found, finished⟩

@[simp]
theorem okOr_eq_ok {option : Option Value} {error : Error} {value : Value} :
    okOr option error = .ok value ↔ option = some value := by
  cases option <;> simp [okOr]

@[simp]
theorem ensure_eq_ok {condition : Prop} [Decidable condition] {error : Error} {done : Unit} :
    ensure condition error = .ok done ↔ condition := by
  by_cases holds : condition <;> simp [ensure, holds]

@[simp]
theorem mapError_eq_ok {change : Error → Failure} {computed : Except Error Value} {value : Value} :
    computed.mapError change = .ok value ↔ computed = .ok value := by
  cases computed <;> simp [Except.mapError]

end Checks

section Loops

variable {Error Item Found Output : Type}

/-- A loop that appends what it gets from each item, until an item fails. -/
def collect (body : Item → Except Error (List Output)) : List Item → Except Error (List Output)
  | [] => .ok []
  | item :: rest => do
      let front ← body item
      let back ← collect body rest
      .ok (front ++ back)

/-- A loop succeeds when each of its rounds does, with what each of them has found. -/
theorem collect_eq_ok {body : Item → Except Error (List Output)} {finds : Item → Found → Prop}
    {keep : Found → List Output} {items : List Item} {outputs : List Output}
    (round : ∀ item ∈ items, ∀ outputs, body item = .ok outputs ↔
      ∃ found, finds item found ∧ keep found = outputs) :
    collect body items = .ok outputs ↔
      ∃ founds, List.Forall₂ finds items founds ∧ founds.flatMap keep = outputs := by
  induction items generalizing outputs with
  | nil =>
      simp only [collect, List.forall₂_nil_left_iff, exists_eq_left, List.flatMap_nil,
        Except.ok.injEq]
  | cons item rest ih =>
      have others : ∀ outputs, collect body rest = .ok outputs ↔
          ∃ founds, List.Forall₂ finds rest founds ∧ founds.flatMap keep = outputs :=
        fun outputs => ih fun item later => round item (List.mem_cons_of_mem _ later)
      simp only [collect, bind_eq_ok, others, round item List.mem_cons_self, Except.ok.injEq]
      constructor
      · rintro ⟨front, ⟨found, first, rfl⟩, back, ⟨founds, all, rfl⟩, rfl⟩
        exact ⟨found :: founds, .cons first all, List.flatMap_cons⟩
      · rintro ⟨founds, all, rfl⟩
        cases all with
        | cons first all => exact ⟨_, ⟨_, first, rfl⟩, _, ⟨_, all, rfl⟩, List.flatMap_cons.symm⟩

end Loops

end Fallible
