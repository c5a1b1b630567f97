import Mathlib.Data.List.Basic
import Mathlib.Tactic.Common

/-!
# Shared dictionaries

Python hands out references. A dictionary that two parties can reach is changed
for both by either of them, so a dictionary that is to stay what it was must not
be reachable by whoever may write. The heap below has just enough to say this:
allocation, item assignment and deletion, and what each of them leaves alone.
-/

namespace Python

/-- The values of a dictionary. They are immutable, or their state is not looked at. -/
inductive Value where
  | str (text : String)
  | bytes (data : List UInt8)
  | bool (value : Bool)
  | other (identity : ℕ)
  deriving DecidableEq, Repr

/-- The items of a dictionary, regardless of their order. -/
abbrev Dict := String → Option Value

namespace Dict

def empty : Dict := fun _ => none

/-- `dict[key] = value`. -/
def setItem (dict : Dict) (key : String) (value : Value) : Dict :=
  fun other => if other = key then some value else dict other

/-- `del dict[key]`. -/
def delItem (dict : Dict) (key : String) : Dict :=
  fun other => if other = key then none else dict other

/-- A dictionary display. -/
def ofItems (items : List (String × Value)) : Dict :=
  items.foldl (fun dict item => dict.setItem item.1 item.2) empty

variable (dict : Dict) (key : String) (value : Value)

theorem setItem_eq_self (present : dict key = some value) : dict.setItem key value = dict := by
  funext other
  simp only [setItem]
  split
  · rename_i same
    rw [same, present]
  · rfl

theorem delItem_eq_self (absent : dict key = none) : dict.delItem key = dict := by
  funext other
  simp only [delItem]
  split
  · rename_i same
    rw [same, absent]
  · rfl

end Dict

/-- Every dictionary that was ever created; an object is its position. -/
structure Heap where
  objects : List Dict

namespace Heap

def size (heap : Heap) : ℕ :=
  heap.objects.length

def read (heap : Heap) (object : ℕ) : Dict :=
  heap.objects.getD object .empty

/-- Create a dictionary; it is the object `heap.size`. -/
def alloc (heap : Heap) (dict : Dict) : Heap :=
  { heap with objects := heap.objects ++ [dict] }

def write (heap : Heap) (object : ℕ) (dict : Dict) : Heap :=
  { heap with objects := heap.objects.set object dict }

variable {heap : Heap} {object other : ℕ} {dict : Dict}

@[simp]
theorem size_alloc : (heap.alloc dict).size = heap.size + 1 := by
  simp [size, alloc]

@[simp]
theorem size_write : (heap.write object dict).size = heap.size := by
  simp [size, write]

theorem read_alloc (old : object < heap.size) :
    (heap.alloc dict).read object = heap.read object := by
  simp only [read, alloc, List.getD_eq_getElem?_getD]
  rw [List.getElem?_append_left old]

@[simp]
theorem read_alloc_self : (heap.alloc dict).read heap.size = dict := by
  simp [read, alloc, size]

theorem read_write_self (old : object < heap.size) :
    (heap.write object dict).read object = dict := by
  have inside : object < heap.objects.length := old
  simp [read, write, inside]

theorem read_write_of_ne (different : object ≠ other) :
    (heap.write object dict).read other = heap.read other := by
  simp only [read, write, List.getD_eq_getElem?_getD]
  rw [List.getElem?_set_ne different]

/-- A change of one dictionary, seen from any. -/
theorem read_update (change : Dict → Dict) (old : object < heap.size) :
    (heap.write object (change (heap.read object))).read other =
      if object = other then change (heap.read other) else heap.read other := by
  split
  · rename_i same
    subst same
    exact read_write_self old
  · rename_i different
    exact read_write_of_ne different

theorem write_read (same : dict = heap.read object) (old : object < heap.size) :
    heap.write object dict = heap := by
  have inside : object < heap.objects.length := old
  simp only [write, same, read, List.getD_eq_getElem?_getD, List.getElem?_eq_getElem inside,
    Option.getD_some, List.set_getElem_self]

end Heap

end Python
