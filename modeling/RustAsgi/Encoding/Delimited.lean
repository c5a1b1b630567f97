import Mathlib.Data.List.Basic
import Mathlib.Data.List.DropRight
import Mathlib.Data.List.TakeWhile
import Mathlib.Tactic.Common

/-!
# Text between delimiters

A delimiter ends a field where the field is known not to contain it, from the left or
from the right. Blocks that are free of their terminator can be told apart in a row.
-/

namespace Delimited

universe u v

variable {α : Type u} {delimiter : α} {front front' back back' : List α}

/-- The first delimiter is in one place. -/
theorem eq_of_first (free : delimiter ∉ front) (free' : delimiter ∉ front')
    (same : front ++ delimiter :: back = front' ++ delimiter :: back') :
    front = front' ∧ back = back' := by
  induction front generalizing front' with
  | nil =>
      cases front' with
      | nil => exact ⟨rfl, (List.cons.inj same).2⟩
      | cons head rest =>
          rcases List.cons.inj same with ⟨rfl, _⟩
          exact absurd List.mem_cons_self free'
  | cons head rest ih =>
      cases front' with
      | nil =>
          rcases List.cons.inj same with ⟨rfl, _⟩
          exact absurd List.mem_cons_self free
      | cons head' rest' =>
          rcases List.cons.inj same with ⟨rfl, later⟩
          rw [List.mem_cons, not_or] at free free'
          rcases ih free.2 free'.2 later with ⟨rfl, rfl⟩
          exact ⟨rfl, rfl⟩

/-- And so is the last one. -/
theorem eq_of_last (free : delimiter ∉ back) (free' : delimiter ∉ back')
    (same : front ++ delimiter :: back = front' ++ delimiter :: back') :
    front = front' ∧ back = back' := by
  have reversed := congrArg List.reverse same
  simp only [List.reverse_append, List.reverse_cons, List.append_assoc, List.cons_append,
    List.nil_append] at reversed
  rw [← List.mem_reverse] at free free'
  rcases eq_of_first free free' reversed with ⟨backs, fronts⟩
  exact ⟨List.reverse_inj.mp fronts, List.reverse_inj.mp backs⟩

/-- Blocks in a row, each with its terminator. -/
def terminated (delimiter : α) (blocks : List (List α)) : List α :=
  blocks.flatMap fun block => block ++ [delimiter]

theorem terminated_cons (delimiter : α) (block : List α) (blocks : List (List α)) :
    terminated delimiter (block :: blocks) = block ++ delimiter :: terminated delimiter blocks := by
  simp [terminated]

/-- Records that are written without the terminator, and each in its own way, can be read back
from their row. -/
theorem terminated_map_inj {β : Type v} {write : β → List α} {Plain : β → Prop}
    (free : ∀ record, Plain record → delimiter ∉ write record)
    (inj : ∀ record record', Plain record → Plain record' → write record = write record' →
      record = record')
    {records records' : List β} (plain : ∀ record ∈ records, Plain record)
    (plain' : ∀ record ∈ records', Plain record)
    (same : terminated delimiter (records.map write) = terminated delimiter (records'.map write)) :
    records = records' := by
  induction records generalizing records' with
  | nil =>
      cases records' with
      | nil => rfl
      | cons record' rest' =>
          rw [List.map_cons, terminated_cons] at same
          exact absurd same.symm (by simp [terminated])
  | cons record rest ih =>
      cases records' with
      | nil =>
          rw [List.map_cons, terminated_cons] at same
          exact absurd same (by simp [terminated])
      | cons record' rest' =>
          rw [List.map_cons, List.map_cons, terminated_cons, terminated_cons] at same
          rw [List.forall_mem_cons] at plain plain'
          rcases eq_of_first (free _ plain.1) (free _ plain'.1) same with ⟨written, later⟩
          rw [inj _ _ plain.1 plain'.1 written, ih plain.2 plain'.2 later]

/-- The pieces hold what is not the delimiter. -/
theorem exists_piece_iff [BEq α] [LawfulBEq α] {text : List α} {c : α} :
    (∃ piece ∈ text.splitOn delimiter, c ∈ piece) ↔ c ∈ text ∧ c ≠ delimiter := by
  induction text with
  | nil => simp
  | cons head rest ih =>
      rw [List.splitOn_cons_eq_if_modifyHead]
      split
      · rename_i met
        have same : head = delimiter := beq_iff_eq.mp met
        simp only [List.mem_cons, exists_eq_or_imp, List.not_mem_nil, false_or, ih, same]
        exact ⟨fun ⟨member, other⟩ => ⟨.inr member, other⟩,
          fun ⟨member, other⟩ => ⟨member.resolve_left other, other⟩⟩
      · rename_i differs
        have other : head ≠ delimiter := fun same => differs (beq_iff_eq.mpr same)
        rcases List.exists_cons_of_ne_nil (List.splitOn_ne_nil delimiter rest) with
          ⟨first, others, pieces⟩
        rw [pieces] at ih ⊢
        simp only [List.mem_cons, exists_eq_or_imp] at ih
        simp only [List.modifyHead_cons, List.mem_cons, exists_eq_or_imp, or_assoc, ih]
        constructor
        · rintro (rfl | ⟨member, apart⟩)
          · exact ⟨.inl rfl, other⟩
          · exact ⟨.inr member, apart⟩
        · rintro ⟨rfl | member, apart⟩
          · exact .inl rfl
          · exact .inr ⟨member, apart⟩

theorem notMem_of_mem_splitOn [BEq α] [LawfulBEq α] {text piece : List α}
    (member : piece ∈ text.splitOn delimiter) : delimiter ∉ piece :=
  fun within => (exists_piece_iff.mp ⟨piece, member, within⟩).2 rfl

section Fields

variable {blank : α → Bool} {text : List α}

/-- Without what is blank at either end. -/
def strip (blank : α → Bool) (text : List α) : List α :=
  (text.dropWhile blank).rdropWhile blank

theorem strip_eq_nil : strip blank text = [] ↔ ∀ c ∈ text, blank c = true := by
  rw [strip, List.rdropWhile_eq_nil_iff]
  constructor
  · intro rest c member
    rw [← List.takeWhile_append_dropWhile (p := blank) (l := text), List.mem_append] at member
    rcases member with front | back
    · exact List.mem_takeWhile_imp front
    · exact rest c back
  · intro all c member
    exact all c ((List.dropWhile_suffix _).subset member)

theorem strip_strip : strip blank (strip blank text) = strip blank text := by
  have front : (strip blank text).dropWhile blank = strip blank text := by
    rw [List.dropWhile_eq_self_iff]
    intro nonempty
    have within : strip blank text <+: text.dropWhile blank := List.rdropWhile_prefix _ _
    have longer := Nat.lt_of_lt_of_le nonempty within.length_le
    rw [within.getElem nonempty]
    exact List.dropWhile_eq_self_iff.mp (List.dropWhile_idempotent _ _) longer
  rw [strip, front]
  exact List.rdropWhile_idempotent _ _

theorem strip_eq_self :
    strip blank text = text ↔ text.dropWhile blank = text ∧ text.rdropWhile blank = text := by
  constructor
  · intro same
    have back : text.dropWhile blank <:+ text := List.dropWhile_suffix _
    have front : strip blank text <+: text.dropWhile blank := List.rdropWhile_prefix _ _
    rw [same] at front
    have dropped := back.eq_of_length (Nat.le_antisymm back.length_le front.length_le)
    rw [strip, dropped] at same
    exact ⟨dropped, same⟩
  · rintro ⟨dropped, same⟩
    rw [strip, dropped, same]

/-- What has no blank ends has none where fewer characters are blank. -/
theorem strip_eq_self_of_imp {blank' : α → Bool} (fewer : ∀ c, blank c = true → blank' c = true)
    (same : strip blank' text = text) : strip blank text = text := by
  rw [strip_eq_self, List.dropWhile_eq_self_iff, List.rdropWhile_eq_self_iff] at same ⊢
  exact ⟨fun nonempty blank => same.1 nonempty (fewer _ blank),
    fun nonempty blank => same.2 nonempty (fewer _ blank)⟩

theorem mem_of_mem_strip {c : α} (member : c ∈ strip blank text) : c ∈ text :=
  (List.dropWhile_suffix _).subset ((List.rdropWhile_prefix _ _).subset member)

/-- What a field may be. -/
@[mk_iff]
structure IsField (delimiter : α) (blank : α → Bool) (field : List α) : Prop where
  nonempty : field ≠ []
  free : delimiter ∉ field
  stripped : strip blank field = field

theorem IsField.of_imp {blank' : α → Bool} {field : List α}
    (fewer : ∀ c, blank c = true → blank' c = true) (proper : IsField delimiter blank' field) :
    IsField delimiter blank field :=
  ⟨proper.nonempty, proper.free, strip_eq_self_of_imp fewer proper.stripped⟩

variable [BEq α]

/-- The fields between delimiters, without blanks around them and without empty ones. -/
def fields (delimiter : α) (blank : α → Bool) (text : List α) : List (List α) :=
  ((text.splitOn delimiter).map (strip blank)).filter fun field => !field.isEmpty

variable [LawfulBEq α]

theorem isField_of_mem {field : List α} (member : field ∈ fields delimiter blank text) :
    IsField delimiter blank field := by
  rcases List.mem_filter.mp member with ⟨mapped, nonempty⟩
  rcases List.mem_map.mp mapped with ⟨piece, among, rfl⟩
  refine ⟨?_, fun within => notMem_of_mem_splitOn among (mem_of_mem_strip within), strip_strip⟩
  simpa using nonempty

/-- Fields that are joined are read back, and nothing else is. -/
theorem fields_intercalate {row : List (List α)} :
    fields delimiter blank ([delimiter].intercalate row) = row ↔
      ∀ field ∈ row, IsField delimiter blank field := by
  constructor
  · intro same field member
    rw [← same] at member
    exact isField_of_mem member
  · intro proper
    cases row with
    | nil => simp [fields, strip]
    | cons first rest =>
        have pieces := List.splitOn_intercalate delimiter
          (fun field member => (proper field member).free) (List.cons_ne_nil first rest)
        have stripped : (first :: rest).map (strip blank) = first :: rest :=
          List.map_congr_left (fun field member => (proper field member).stripped) |>.trans
            (List.map_id _)
        rw [fields, pieces, stripped, List.filter_eq_self]
        intro field member
        simpa using (proper field member).nonempty

/-- A text without a field is made of delimiters and blanks. -/
theorem fields_eq_nil :
    fields delimiter blank text = [] ↔ ∀ c ∈ text, c ≠ delimiter → blank c = true := by
  have stripped : fields delimiter blank text = [] ↔
      ∀ piece ∈ text.splitOn delimiter, ∀ c ∈ piece, blank c = true := by
    simp [fields, strip_eq_nil]
  rw [stripped]
  constructor
  · intro blanks c member other
    rcases exists_piece_iff.mpr ⟨member, other⟩ with ⟨piece, among, within⟩
    exact blanks piece among c within
  · intro blanks piece among c within
    rcases exists_piece_iff.mp ⟨piece, among, within⟩ with ⟨member, other⟩
    exact blanks c member other

end Fields

end Delimited
