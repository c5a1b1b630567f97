import Mathlib.Data.Int.Notation
import RustAsgi.Fallible

/-!
# Python objects

The values that an application can hand over, as far as the conversions of PyO3 tell
them apart: what an object yields when it is iterated over, whether it counts as a
sequence, and which integer, boolean or string can be read from it. A string is made of
code points, so it need not have a UTF-8 form.
-/

namespace Python

open Fallible

inductive ExceptionType where
  | typeError
  | valueError
  | indexError
  | osError
  | other (identity : ℕ)
  deriving DecidableEq, Repr

structure PyErr where
  type : ExceptionType
  message : String
  deriving DecidableEq, Repr

def typeError (message : String) : PyErr :=
  { type := .typeError, message }

def valueError (message : String) : PyErr :=
  { type := .valueError, message }

def osError (message : String) : PyErr :=
  { type := .osError, message }

/-- A code point of a `str`: a character or a surrogate. -/
abbrev CodePoint := Char ⊕ Fin 2048

inductive Object where
  | none
  | bool (value : Bool)
  | int (value : ℤ)
  | str (text : List CodePoint)
  | bytes (data : List UInt8)
  | bytearray (data : List UInt8)
  /-- A list, a tuple or another sequence. Reading the item after the last one may raise. -/
  | sequence (items : List Object) (raises : Option PyErr)
  /-- A generator, a set or another iterable that is no sequence. -/
  | iterable (items : List Object) (raises : Option PyErr)
  /-- Anything else, with the integer that its `__index__` returns. -/
  | other (index : Option ℤ)

/-- What an iteration yields, and how it ends. -/
structure Items where
  items : List Object
  raises : Option PyErr

/-- What `message.get_item` finds. -/
abbrev Mapping := String → Option Object

namespace Items

def len (items : Items) : ℕ :=
  items.items.length + if items.raises.isSome then 1 else 0

def getItem (items : Items) (index : ℕ) : Except PyErr Object :=
  match items.items[index]? with
  | some item => .ok item
  | none => .error (items.raises.getD { type := .indexError, message := "index out of range" })

/-- A `for` loop over the items, appending to a list. -/
def collect {Output : Type} (body : Object → Except PyErr (List Output)) (items : Items) :
    Except PyErr (List Output) := do
  let outputs ← Fallible.collect body items.items
  match items.raises with
  | some error => .error error
  | none => .ok outputs

theorem getItem_eq_ok {items : Items} {index : ℕ} {object : Object} :
    items.getItem index = .ok object ↔ items.items[index]? = some object := by
  simp only [getItem]
  split
  next found => simp [found]
  next absent => simp [absent]

theorem collect_eq_ok {Output : Type} {body : Object → Except PyErr (List Output)} {items : Items}
    {outputs : List Output} :
    items.collect body = .ok outputs ↔
      items.raises = none ∧ Fallible.collect body items.items = .ok outputs := by
  simp only [collect, bind_eq_ok]
  cases items.raises <;> simp

end Items

namespace Object

def ofString (text : String) : Object :=
  .str (text.toList.map .inl)

/-- `try_iter`, or `none` for a `TypeError`. -/
def iter : Object → Option Items
  | .str text => some { items := text.map fun point => .str [point], raises := Option.none }
  | .bytes data | .bytearray data =>
      some { items := data.map fun byte => .int byte.toNat, raises := Option.none }
  | .sequence items raises | .iterable items raises => some { items, raises }
  | _ => Option.none

/-- `cast::<PySequence>`. -/
def asSequence : Object → Option Items
  | .iterable _ _ => Option.none
  | object => object.iter

/-- `__index__`. -/
def index : Object → Option ℤ
  | .bool value => some (if value then 1 else 0)
  | .int value => some value
  | .other index => index
  | _ => Option.none

/-- `extract::<u16>`. -/
def extractU16 (object : Object) : Option ℕ :=
  object.index.bind fun value => if 0 ≤ value ∧ value < 65536 then some value.toNat else Option.none

/-- `extract::<bool>`. -/
def extractBool : Object → Option Bool
  | .bool value => some value
  | _ => Option.none

/-- `extract::<String>`. -/
def extractString : Object → Option String
  | .str text => (text.mapM Sum.getLeft?).map String.ofList
  | _ => Option.none

variable {object : Object}

theorem mapM_getLeft? {points : List CodePoint} {chars : List Char} :
    points.mapM Sum.getLeft? = some chars ↔ points = chars.map .inl := by
  induction points generalizing chars with
  | nil => cases chars <;> simp
  | cons point rest ih =>
      cases chars with
      | nil => cases point <;> simp [List.mapM_cons, Option.bind_eq_some_iff]
      | cons c chars => cases point <;> simp [List.mapM_cons, Option.bind_eq_some_iff, ih, and_comm]

@[simp]
theorem extractString_eq_some {text : String} :
    object.extractString = some text ↔ object = .ofString text := by
  constructor
  · intro extracted
    cases object with
    | str points =>
        simp only [extractString, Option.map_eq_some_iff, mapM_getLeft?] at extracted
        rcases extracted with ⟨chars, rfl, rfl⟩
        simp [ofString]
    | _ => cases extracted
  · rintro rfl
    have found := mapM_getLeft?.mpr (rfl : text.toList.map Sum.inl = text.toList.map Sum.inl)
    simp [extractString, ofString, found]

theorem extractU16_eq_some {number : ℕ} :
    object.extractU16 = some number ↔ object.index = some (number : ℤ) ∧ number < 65536 := by
  simp only [extractU16, Option.bind_eq_some_iff, Option.ite_none_right_eq_some, Option.some.injEq]
  constructor
  · rintro ⟨value, index, bounds, rfl⟩
    rw [index]
    refine ⟨?_, ?_⟩
    · congr 1
      omega
    · omega
  · rintro ⟨index, bound⟩
    refine ⟨number, index, ?_, Int.toNat_natCast number⟩
    omega

@[simp]
theorem extractBool_eq_some {value : Bool} :
    object.extractBool = some value ↔ object = .bool value := by
  cases object <;> simp [extractBool]

end Object

end Python
