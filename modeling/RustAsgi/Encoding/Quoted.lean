import Mathlib.Data.List.Infix
import Mathlib.Tactic.Common

/-!
# Records of quoted text

Text between double quotes, with a backslash before a quote or a backslash, and
records that put such fields between fixed labels. Both are self-delimiting: a
reader stops where the writer did, whatever comes next. So no record is a proper
prefix of another.
-/

namespace Quoted

def special (c : Char) : Bool :=
  c == '"' || c == '\\'

def escape (c : Char) : List Char :=
  if special c then ['\\', c] else [c]

/-- Quoted text from after its opening quote. -/
def quote (text : List Char) : List Char :=
  text.flatMap escape ++ ['"']

/-- The text up to its closing quote, and what comes after it. `escaped` is set after a
backslash. -/
def unquote : Bool → List Char → Option (List Char × List Char)
  | _, [] => none
  | true, c :: rest =>
      if special c then (unquote false rest).map (Prod.map (c :: ·) id) else none
  | false, c :: rest =>
      if c = '"' then some ([], rest)
      else if c = '\\' then unquote true rest
      else (unquote false rest).map (Prod.map (c :: ·) id)

/-- Each field after its label, and the closing text. -/
def record (closing : List Char) : List (List Char × List Char) → List Char
  | [] => closing
  | (label, value) :: rest => label ++ (quote value ++ record closing rest)

/-- The fields under these labels, and what comes after the record. -/
def scan (closing : List Char) : List (List Char) → List Char →
    Option (List (List Char) × List Char)
  | [], input => (input.dropPrefix? closing).map ([], ·)
  | label :: labels, input => do
      let quoted ← input.dropPrefix? label
      let (value, later) ← unquote false quoted
      let (values, after) ← scan closing labels later
      some (value :: values, after)

/-- The fields of a text that is one record. -/
def fields (closing : List Char) (labels : List (List Char)) (input : List Char) :
    Option (List (List Char)) :=
  match scan closing labels input with
  | some (values, []) => some values
  | _ => none

variable {escaped : Bool} {c : Char} {text input rest closing label : List Char}
  {labels values found : List (List Char)}

theorem dropPrefix_append (front rest : List Char) :
    (front ++ rest).dropPrefix? front = some rest :=
  List.dropPrefix?_append_of_beq rest (beq_self_eq_true front)

theorem eq_of_dropPrefix (dropped : input.dropPrefix? label = some rest) :
    input = label ++ rest := by
  rcases List.dropPrefix?_eq_some_iff.mp dropped with ⟨front, rfl, same⟩
  rw [eq_of_beq same]

theorem quote_cons (c : Char) (text : List Char) : quote (c :: text) = escape c ++ quote text := by
  simp only [quote, List.flatMap_cons, List.append_assoc]

theorem unquote_quote (text rest : List Char) :
    unquote false (quote text ++ rest) = some (text, rest) := by
  induction text with
  | nil => rfl
  | cons c text ih =>
      rw [quote_cons, List.append_assoc]
      by_cases needs : special c = true
      · simp only [escape, needs, if_true, List.cons_append, List.nil_append, unquote,
          Char.reduceEq, if_false, ih, Option.map_some, Prod.map, id]
      · have plain : c ≠ '"' ∧ c ≠ '\\' := by simpa [special] using needs
        simp only [escape, needs, if_false, List.cons_append, List.nil_append, unquote,
          plain.1, plain.2, ih, Option.map_some, Prod.map, id, Bool.false_eq_true]

/-- What is read as quoted text has been written as it. -/
theorem eq_of_unquote (read : unquote escaped input = some (text, rest)) :
    (if escaped then ['\\'] else []) ++ input = quote text ++ rest := by
  induction input generalizing escaped text with
  | nil => cases escaped <;> cases read
  | cons c input ih =>
      cases escaped with
      | true =>
          simp only [unquote] at read
          split at read
          · rename_i needs
            rcases Option.map_eq_some_iff.mp read with ⟨⟨later, after⟩, readLater, same⟩
            cases same
            rw [quote_cons, List.append_assoc, ← ih readLater]
            simp only [escape, needs, if_true, if_false, Bool.false_eq_true, List.nil_append,
              List.cons_append]
          · cases read
      | false =>
          simp only [unquote] at read
          split at read
          · rename_i closes
            cases read
            rw [closes]
            rfl
          · rename_i open_
            split at read
            · rename_i backslash
              rw [backslash]
              exact ih read
            · rename_i plain
              rcases Option.map_eq_some_iff.mp read with ⟨⟨later, after⟩, readLater, same⟩
              cases same
              have ordinary : special c = false := by simp [special, open_, plain]
              rw [quote_cons, List.append_assoc, ← ih readLater]
              simp only [escape, ordinary, if_false, Bool.false_eq_true, List.nil_append,
                List.cons_append]

theorem scan_record (closing : List Char) (fields : List (List Char × List Char))
    (rest : List Char) :
    scan closing (fields.map Prod.fst) (record closing fields ++ rest) =
      some (fields.map Prod.snd, rest) := by
  induction fields with
  | nil => simp only [List.map_nil, scan, record, dropPrefix_append, Option.map_some]
  | cons field fields ih =>
      rcases field with ⟨label, value⟩
      simp only [List.map_cons, scan, record, List.append_assoc, dropPrefix_append, unquote_quote,
        ih, Option.bind_eq_bind, Option.bind_some]

/-- What is read as a record has been written as it. -/
theorem eq_of_scan (read : scan closing labels input = some (values, rest)) :
    ∃ fields : List (List Char × List Char), fields.map Prod.fst = labels ∧
      fields.map Prod.snd = values ∧ input = record closing fields ++ rest := by
  induction labels generalizing input values with
  | nil =>
      rcases Option.map_eq_some_iff.mp read with ⟨after, dropped, same⟩
      cases same
      exact ⟨[], rfl, rfl, eq_of_dropPrefix dropped⟩
  | cons label labels ih =>
      simp only [scan, Option.bind_eq_bind, Option.bind_eq_some_iff] at read
      rcases read with ⟨quoted, dropped, ⟨value, later⟩, readValue, ⟨others, after⟩, readOthers,
        same⟩
      cases same
      rcases ih readOthers with ⟨fields, rfl, rfl, rfl⟩
      have written := eq_of_unquote readValue
      refine ⟨(label, value) :: fields, rfl, rfl, ?_⟩
      rw [eq_of_dropPrefix dropped, show quoted = _ from written]
      simp only [record, List.append_assoc]

theorem fields_record (closing : List Char) (fields : List (List Char × List Char)) :
    Quoted.fields closing (fields.map Prod.fst) (record closing fields) =
      some (fields.map Prod.snd) := by
  have read := scan_record closing fields []
  rw [List.append_nil] at read
  simp only [Quoted.fields, read]

/-- Of the text of a record nothing is itself a record but the whole. -/
theorem fields_prefix {front : List Char} (fields : List (List Char × List Char))
    (cut : front <+: record closing fields)
    (read : Quoted.fields closing (fields.map Prod.fst) front = some found) :
    found = fields.map Prod.snd := by
  rcases cut with ⟨rest, whole⟩
  have scanned : scan closing (fields.map Prod.fst) front = some (found, []) := by
    simp only [Quoted.fields] at read
    split at read
    · rename_i values scanned
      cases read
      exact scanned
    · cases read
  rcases eq_of_scan scanned with ⟨others, labels, rfl, written⟩
  rw [List.append_nil] at written
  have first : scan closing (fields.map Prod.fst) (front ++ rest) =
      some (others.map Prod.snd, rest) := by
    rw [written, ← labels]
    exact scan_record closing others rest
  have second := scan_record closing fields []
  rw [List.append_nil, ← whole, first] at second
  exact congrArg Prod.fst (Option.some.inj second)

end Quoted
