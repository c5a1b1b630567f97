import Mathlib.Data.List.Induction
import Mathlib.Data.List.Nodup
import Mathlib.Tactic.Common

/-!
# Insertion-ordered multimaps

A multimap lists its keys in the order of their first insertion, each with all of its
values. Filling it from a list and reading it back keeps the values of every key in
order, but brings them together: the list itself comes back if its keys do not
interleave.
-/

universe u v

/-- The keys with their values, in the order of their first insertion. -/
structure Multimap (Key : Type u) (Value : Type v) where
  entries : List (Key × List Value)
  distinct : (entries.map Prod.fst).Nodup
  filled : ∀ entry ∈ entries, entry.2 ≠ []

namespace Multimap

variable {Key : Type u} {Value : Type v}

/-- No key comes back after another one. -/
def Contiguous (pairs : List (Key × Value)) : Prop :=
  ∀ front middle back key value again,
    pairs = front ++ (key, value) :: middle ++ (key, again) :: back →
    ∀ pair ∈ middle, pair.1 = key

theorem Contiguous.of_append {front back : List (Key × Value)}
    (contiguous : Contiguous (front ++ back)) : Contiguous front := by
  intro before middle after key value again split
  apply contiguous before middle (after ++ back) key value again
  simp [split]

theorem Contiguous.of_map {Key' : Type u} {Value' : Type v} {pairs : List (Key × Value)}
    {name : Key → Key'} {content : Value → Value'} (injective : Function.Injective name)
    (contiguous : Contiguous (pairs.map (Prod.map name content))) : Contiguous pairs := by
  intro before middle after key value again split pair member
  have mapped : pairs.map (Prod.map name content) =
      before.map (Prod.map name content) ++
        (name key, content value) :: middle.map (Prod.map name content) ++
          (name key, content again) :: after.map (Prod.map name content) := by
    simp [split]
  exact injective (contiguous _ _ _ _ _ _ mapped _ (List.mem_map_of_mem member))

def empty : Multimap Key Value where
  entries := []
  distinct := List.nodup_nil
  filled := nofun

def pairsOf (entries : List (Key × List Value)) : List (Key × Value) :=
  entries.flatMap fun entry => entry.2.map fun value => (entry.1, value)

/-- The pairs in the order of the iteration. -/
def iter (map : Multimap Key Value) : List (Key × Value) :=
  pairsOf map.entries

theorem pairsOf_append (front back : List (Key × List Value)) :
    pairsOf (front ++ back) = pairsOf front ++ pairsOf back :=
  List.flatMap_append

theorem pairsOf_cons (entry : Key × List Value) (rest : List (Key × List Value)) :
    pairsOf (entry :: rest) = entry.2.map (fun value => (entry.1, value)) ++ pairsOf rest :=
  List.flatMap_cons

theorem mem_pairsOf {entries : List (Key × List Value)} {pair : Key × Value}
    (member : pair ∈ pairsOf entries) : pair.1 ∈ entries.map Prod.fst := by
  rcases List.mem_flatMap.mp member with ⟨entry, inside, here⟩
  rcases List.mem_map.mp here with ⟨value, _, rfl⟩
  exact List.mem_map_of_mem inside

theorem filter_pairsOf_eq_nil {entries : List (Key × List Value)} {key : Key} {p : Key → Bool}
    (absent : key ∉ entries.map Prod.fst)
    (single : ∀ other, p other = true → other = key) :
    (pairsOf entries).filter (fun pair => p pair.1) = [] := by
  apply List.filter_eq_nil_iff.mpr
  intro pair member chosen
  apply absent
  rw [← single pair.1 chosen]
  exact mem_pairsOf member

variable [DecidableEq Key]

def appendEntry (key : Key) (value : Value) : List (Key × List Value) → List (Key × List Value)
  | [] => [(key, [value])]
  | entry :: rest =>
      if entry.1 = key then (entry.1, entry.2 ++ [value]) :: rest
      else entry :: appendEntry key value rest

section Append

variable {key other : Key} {value : Value} {entries : List (Key × List Value)}

theorem appendEntry_of_not_mem (absent : key ∉ entries.map Prod.fst) :
    appendEntry key value entries = entries ++ [(key, [value])] := by
  induction entries with
  | nil => rfl
  | cons entry rest ih =>
      rw [List.map_cons, List.mem_cons, not_or] at absent
      rw [appendEntry, if_neg (Ne.symm absent.1), ih absent.2, List.cons_append]

theorem appendEntry_of_mem (value : Value) (present : key ∈ entries.map Prod.fst) :
    ∃ front values back, entries = front ++ (key, values) :: back ∧
      key ∉ front.map Prod.fst ∧
      appendEntry key value entries = front ++ (key, values ++ [value]) :: back := by
  induction entries with
  | nil => cases present
  | cons entry rest ih =>
      by_cases same : entry.1 = key
      · subst same
        refine ⟨[], entry.2, rest, rfl, List.not_mem_nil, ?_⟩
        rw [appendEntry, if_pos rfl, List.nil_append]
      · have later : key ∈ rest.map Prod.fst := by
          rcases List.mem_cons.mp present with here | later
          · exact absurd here.symm same
          · exact later
        rcases ih later with ⟨front, values, back, rfl, fresh, appended⟩
        refine ⟨entry :: front, values, back, rfl, ?_, ?_⟩
        · rw [List.map_cons, List.mem_cons, not_or]
          exact ⟨Ne.symm same, fresh⟩
        · rw [appendEntry, if_neg same, appended, List.cons_append]

theorem keys_appendEntry :
    (appendEntry key value entries).map Prod.fst =
      if key ∈ entries.map Prod.fst then entries.map Prod.fst
      else entries.map Prod.fst ++ [key] := by
  split
  next present =>
    rcases appendEntry_of_mem value present with ⟨front, values, back, rfl, _, appended⟩
    simp [appended]
  next absent => simp [appendEntry_of_not_mem absent]

theorem filled_appendEntry (filled : ∀ entry ∈ entries, entry.2 ≠ []) :
    ∀ entry ∈ appendEntry key value entries, entry.2 ≠ [] := by
  induction entries with
  | nil => simp [appendEntry]
  | cons entry rest ih =>
      intro each member
      rw [appendEntry] at member
      split at member
      next =>
        rcases List.mem_cons.mp member with rfl | later
        · simp
        · exact filled each (List.mem_cons_of_mem _ later)
      next =>
        rcases List.mem_cons.mp member with rfl | later
        · exact filled each List.mem_cons_self
        · exact ih (fun entry inside => filled entry (List.mem_cons_of_mem _ inside)) each later

/-- The new pair comes after those of its key. -/
theorem filter_pairsOf_appendEntry {p : Key → Bool} (distinct : (entries.map Prod.fst).Nodup)
    (single : ∀ other, p other = true → p key = true → other = key) :
    (pairsOf (appendEntry key value entries)).filter (fun pair => p pair.1) =
      (pairsOf entries).filter (fun pair => p pair.1) ++
        [(key, value)].filter fun pair => p pair.1 := by
  by_cases present : key ∈ entries.map Prod.fst
  · rcases appendEntry_of_mem value present with ⟨front, values, back, rfl, _, appended⟩
    rw [List.map_append, List.map_cons] at distinct
    have fresh := (List.nodup_cons.mp distinct.of_append_right).1
    rw [appended, pairsOf_append, pairsOf_cons, pairsOf_append, pairsOf_cons]
    cases chosen : p key with
    | false => simp [chosen]
    | true =>
        have nothing := filter_pairsOf_eq_nil fresh fun other here => single other here chosen
        simp [chosen, nothing]
  · rw [appendEntry_of_not_mem present, pairsOf_append, List.filter_append]
    rfl

end Append

def append (map : Multimap Key Value) (key : Key) (value : Value) : Multimap Key Value where
  entries := appendEntry key value map.entries
  distinct := by
    rw [keys_appendEntry]
    split
    next => exact map.distinct
    next absent =>
      rw [← List.concat_eq_append]
      exact map.distinct.concat absent
  filled := filled_appendEntry map.filled

def ofList (pairs : List (Key × Value)) : Multimap Key Value :=
  pairs.foldl (fun map pair => map.append pair.1 pair.2) empty

section Lists

variable {map : Multimap Key Value} {pairs : List (Key × Value)} {key : Key} {value : Value}

theorem entries_append :
    (map.append key value).entries = appendEntry key value map.entries :=
  rfl

theorem ofList_append_singleton :
    ofList (pairs ++ [(key, value)]) = (ofList pairs).append key value :=
  List.foldl_append

/-- Nothing is lost or added, and the values of each key stay in order. -/
theorem filter_iter_ofList {p : Key → Bool}
    (single : ∀ first second, p first = true → p second = true → first = second)
    (pairs : List (Key × Value)) :
    (ofList pairs).iter.filter (fun pair => p pair.1) = pairs.filter fun pair => p pair.1 := by
  induction pairs using List.reverseRecOn with
  | nil => rfl
  | append_singleton pairs pair ih =>
      rw [ofList_append_singleton, iter, entries_append,
        filter_pairsOf_appendEntry (ofList pairs).distinct fun other here there =>
          single other pair.1 here there, List.filter_append, ← ih, iter]

theorem filter_key_iter_ofList (key : Key) (pairs : List (Key × Value)) :
    ((ofList pairs).iter.filter fun pair => pair.1 = key) =
      pairs.filter fun pair => pair.1 = key := by
  apply @filter_iter_ofList _ _ _ fun other => decide (other = key)
  intro first second here there
  exact (of_decide_eq_true here).trans (of_decide_eq_true there).symm

/-- A key that does not come back after another one is the last one of the map. -/
theorem iter_append (apart : Contiguous (map.iter ++ [(key, value)])) :
    (map.append key value).iter = map.iter ++ [(key, value)] := by
  by_cases present : key ∈ map.entries.map Prod.fst
  · rcases appendEntry_of_mem value present with
      ⟨front, values, back, split, _, appended⟩
    have distinct := map.distinct
    have filled := map.filled
    rw [iter, entries_append, appended, iter, split]
    rw [iter, split] at apart
    rw [split] at distinct filled
    cases back with
    | nil => simp [pairsOf]
    | cons entry rest =>
        -- Another key in between: the list would not be contiguous.
        rcases entry with ⟨other, others⟩
        have someValue := filled (key, values) (by simp)
        have someOther := filled (other, others) (by simp)
        rcases List.exists_cons_of_ne_nil someValue with ⟨first, firsts, rfl⟩
        rcases List.exists_cons_of_ne_nil someOther with ⟨second, seconds, rfl⟩
        have same : other = key := by
          refine apart (pairsOf front) (firsts.map (fun value => (key, value)) ++
            (other, second) :: seconds.map (fun value => (other, value)) ++ pairsOf rest) []
            key first value ?_ (other, second) (by simp)
          simp [pairsOf_append, pairsOf_cons]
        rw [List.map_append] at distinct
        have different := (List.nodup_cons.mp distinct.of_append_right).1
        simp [same] at different
  · rw [iter, entries_append, appendEntry_of_not_mem present, pairsOf_append]
    rfl

/-- A list whose keys do not interleave comes back as it was. -/
theorem iter_ofList (contiguous : Contiguous pairs) : (ofList pairs).iter = pairs := by
  induction pairs using List.reverseRecOn with
  | nil => rfl
  | append_singleton pairs pair ih =>
      have before := ih contiguous.of_append
      rw [ofList_append_singleton, iter_append, before]
      rw [before]
      exact contiguous

end Lists

end Multimap
