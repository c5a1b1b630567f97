import Mathlib.Data.List.Nodup
import Mathlib.Tactic.Common

/-!
# Descriptors with owners

The numbers that a process has open, each on a file. A new descriptor gets the lowest
number that is free, so a number that one party has closed may at once be another's.

`Apart` divides the open numbers between the party that is looked at, which holds some
of them, and the rest of the process. Whatever the one does to its own numbers leaves
those of the other alone.
-/

namespace Os

universe u

/-- The descriptor table of a process. -/
structure Descriptors (File : Type u) where
  slots : List (Option File)
  deriving DecidableEq, Repr

namespace Descriptors

variable {File : Type u} {table : Descriptors File} {fd : ℕ} {file : File}

/-- The file that the number is open on. -/
def get (table : Descriptors File) (fd : ℕ) : Option File :=
  table.slots[fd]?.join

def lowest (table : Descriptors File) : ℕ :=
  table.slots.findIdx Option.isNone

/-- Open the file, under the lowest number. -/
def add (table : Descriptors File) (file : File) : Descriptors File :=
  if table.lowest < table.slots.length then { slots := table.slots.set table.lowest (some file) }
  else { slots := table.slots ++ [some file] }

def close (table : Descriptors File) (fd : ℕ) : Descriptors File :=
  { slots := table.slots.set fd none }

def opened (table : Descriptors File) : List ℕ :=
  (List.range table.slots.length).filter fun fd => (table.get fd).isSome

theorem mem_opened : fd ∈ table.opened ↔ table.get fd ≠ none := by
  rw [opened, List.mem_filter, List.mem_range, Option.isSome_iff_ne_none]
  constructor
  · exact And.right
  · intro found
    refine ⟨?_, found⟩
    by_contra beyond
    rw [get, List.getElem?_eq_none (Nat.le_of_not_lt beyond)] at found
    exact found rfl

theorem get_lowest (table : Descriptors File) : table.get table.lowest = none := by
  by_cases inside : table.lowest < table.slots.length
  · have free : (table.slots[table.lowest]).isNone = true := List.findIdx_getElem
    rw [get, List.getElem?_eq_getElem inside, Option.join_some, Option.isNone_iff_eq_none.mp free]
  · rw [get, List.getElem?_eq_none (Nat.le_of_not_lt inside)]
    rfl

@[simp]
theorem get_add_self (table : Descriptors File) (file : File) :
    (table.add file).get table.lowest = some file := by
  simp only [add]
  split
  · rename_i inside
    simp [get, List.getElem?_set_self inside]
  · rename_i beyond
    have last : table.lowest = table.slots.length :=
      Nat.le_antisymm List.findIdx_le_length (Nat.le_of_not_lt beyond)
    simp [get, last]

@[simp]
theorem get_add_ne (file : File) (other : fd ≠ table.lowest) :
    (table.add file).get fd = table.get fd := by
  simp only [add]
  split
  · simp only [get]
    rw [List.getElem?_set_ne (Ne.symm other)]
  · rename_i beyond
    have last : table.lowest = table.slots.length :=
      Nat.le_antisymm List.findIdx_le_length (Nat.le_of_not_lt beyond)
    rw [last] at other
    simp only [get]
    rcases Nat.lt_or_gt_of_ne other with before | after
    · rw [List.getElem?_append_left before]
    · rw [List.getElem?_eq_none (Nat.le_of_lt after), List.getElem?_eq_none]
      rw [List.length_append]
      exact after

@[simp]
theorem get_close_self (table : Descriptors File) (fd : ℕ) : (table.close fd).get fd = none := by
  simp only [get, close, List.getElem?_set_self']
  cases table.slots[fd]? <;> rfl

@[simp]
theorem get_close_ne {other : ℕ} (different : fd ≠ other) :
    (table.close other).get fd = table.get fd := by
  simp only [get, close]
  rw [List.getElem?_set_ne (Ne.symm different)]

/-- The open numbers are `theirs`, or `held` by the party that is looked at, which relies on the
files next to them. -/
structure Apart (table : Descriptors File) (theirs : List ℕ) (held : List (ℕ × File)) : Prop where
  distinct : (held.map Prod.fst).Nodup
  opened : ∀ pair ∈ held, table.get pair.1 = some pair.2
  living : ∀ fd ∈ theirs, table.get fd ≠ none
  away : ∀ pair ∈ held, pair.1 ∉ theirs
  accounted : ∀ fd, table.get fd ≠ none → fd ∈ theirs ∨ ∃ pair ∈ held, pair.1 = fd

variable {theirs : List ℕ} {held : List (ℕ × File)}

theorem apart_opened (table : Descriptors File) : table.Apart table.opened [] where
  distinct := List.nodup_nil
  opened := nofun
  living := fun _ member => mem_opened.mp member
  away := nofun
  accounted := fun _ found => .inl (mem_opened.mpr found)

/-- The number that is opened next is in nobody's hands. -/
theorem Apart.fresh (apart : table.Apart theirs held) :
    table.lowest ∉ theirs ∧ ∀ pair ∈ held, pair.1 ≠ table.lowest := by
  refine ⟨fun member => apart.living _ member table.get_lowest, ?_⟩
  intro pair member same
  have found := apart.opened pair member
  rw [same, get_lowest] at found
  cases found

theorem Apart.add_theirs (apart : table.Apart theirs held) (file : File) :
    (table.add file).Apart (table.lowest :: theirs) held := by
  rcases apart.fresh with ⟨_, fresh⟩
  refine ⟨apart.distinct, ?_, ?_, ?_, ?_⟩
  · intro pair member
    rw [get_add_ne file (fresh pair member)]
    exact apart.opened pair member
  · intro fd member
    by_cases same : fd = table.lowest
    · simp [same]
    · rw [get_add_ne file same]
      exact apart.living fd ((List.mem_cons.mp member).resolve_left same)
  · intro pair member
    rw [List.mem_cons, not_or]
    exact ⟨fresh pair member, apart.away pair member⟩
  · intro fd found
    by_cases same : fd = table.lowest
    · exact .inl (same ▸ List.mem_cons_self)
    · rw [get_add_ne file same] at found
      exact (apart.accounted fd found).imp_left (List.mem_cons_of_mem _)

theorem Apart.add (apart : table.Apart theirs held) (file : File) :
    (table.add file).Apart theirs (held ++ [(table.lowest, file)]) := by
  rcases apart.fresh with ⟨unknown, fresh⟩
  refine ⟨?_, ?_, ?_, ?_, ?_⟩
  · rw [List.map_append, List.map_singleton, ← List.concat_eq_append]
    apply List.Nodup.concat _ apart.distinct
    intro member
    rcases List.mem_map.mp member with ⟨pair, among, same⟩
    exact fresh pair among same
  · intro pair member
    rcases List.mem_append.mp member with before | last
    · rw [get_add_ne file (fresh pair before)]
      exact apart.opened pair before
    · rw [List.mem_singleton.mp last, get_add_self]
  · intro fd member
    rw [get_add_ne file fun same => unknown (same ▸ member)]
    exact apart.living fd member
  · intro pair member
    rcases List.mem_append.mp member with before | last
    · exact apart.away pair before
    · rw [List.mem_singleton.mp last]
      exact unknown
  · intro fd found
    by_cases same : fd = table.lowest
    · exact .inr ⟨_, List.mem_append_right _ (List.mem_singleton_self _), same.symm⟩
    · rw [get_add_ne file same] at found
      rcases apart.accounted fd found with known | ⟨pair, among, at_⟩
      · exact .inl known
      · exact .inr ⟨pair, List.mem_append_left _ among, at_⟩

theorem Apart.close_theirs (apart : table.Apart theirs held) (member : fd ∈ theirs) :
    (table.close fd).Apart (theirs.filter fun each => decide (each ≠ fd)) held := by
  have other (pair : ℕ × File) (among : pair ∈ held) : pair.1 ≠ fd := by
    rintro rfl
    exact apart.away pair among member
  refine ⟨apart.distinct, ?_, ?_, ?_, ?_⟩
  · intro pair among
    rw [get_close_ne (other pair among)]
    exact apart.opened pair among
  · intro each kept
    rw [List.mem_filter, decide_eq_true_eq] at kept
    rw [get_close_ne kept.2]
    exact apart.living each kept.1
  · intro pair among kept
    exact apart.away pair among (List.mem_filter.mp kept).1
  · intro each found
    have different : each ≠ fd := by
      rintro rfl
      exact found (get_close_self table each)
    rw [get_close_ne different] at found
    refine (apart.accounted each found).imp_left fun known => ?_
    exact List.mem_filter.mpr ⟨known, by simpa using different⟩

theorem Apart.close {front back : List (ℕ × File)}
    (apart : table.Apart theirs (front ++ (fd, file) :: back)) :
    (table.close fd).Apart theirs (front ++ back) := by
  have distinct := apart.distinct
  rw [List.map_append, List.map_cons, List.nodup_middle, List.nodup_cons, ← List.map_append]
    at distinct
  have among (pair : ℕ × File) (member : pair ∈ front ++ back) :
      pair ∈ front ++ (fd, file) :: back := by
    rw [List.mem_append] at member ⊢
    exact member.imp_right (List.mem_cons_of_mem _)
  have own : (fd, file) ∈ front ++ (fd, file) :: back :=
    List.mem_append_right _ List.mem_cons_self
  refine ⟨distinct.2, ?_, ?_, fun pair member => apart.away pair (among pair member), ?_⟩
  · intro pair member
    have different : pair.1 ≠ fd := by
      intro same
      exact distinct.1 (List.mem_map.mpr ⟨pair, member, same⟩)
    rw [get_close_ne different]
    exact apart.opened pair (among pair member)
  · intro each known
    have different : each ≠ fd := by
      rintro rfl
      exact apart.away _ own known
    rw [get_close_ne different]
    exact apart.living each known
  · intro each found
    have different : each ≠ fd := by
      rintro rfl
      exact found (get_close_self table each)
    rw [get_close_ne different] at found
    refine (apart.accounted each found).imp_right ?_
    rintro ⟨pair, member, same⟩
    refine ⟨pair, ?_, same⟩
    rw [List.mem_append, List.mem_cons] at member
    rcases member with before | rfl | after
    · exact List.mem_append_left _ before
    · exact absurd same.symm different
    · exact List.mem_append_right _ after

end Descriptors

end Os
