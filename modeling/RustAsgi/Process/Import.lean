import RustAsgi.Encoding.Delimited
import RustAsgi.Http.Message

/-!
# The application specifier

`import_app` reads `module:attr`, where the attribute may be a dotted path and may end
with `()` for a factory. It imports, reads and calls while it reads the text, so a text
that it refuses may have had effects.
-/

namespace RustAsgi

namespace Text

/-- `str::split_once`. -/
def splitOnce (separator : Char) (text : Text) : Option (Text × Text) :=
  match text.splitn separator 2 with
  | [front, back] => some (front, back)
  | _ => none

/-- `str::strip_suffix`. -/
def stripTrailing (text back : Text) : Option Text :=
  if back <:+ text then some (text.take (text.length - back.length)) else none

variable {separator : Char} {text front back : Text}

theorem splitOnce_eq_some :
    splitOnce separator text = some (front, back) ↔
      text = front ++ separator :: back ∧ separator ∉ front := by
  rw [splitOnce]
  constructor
  · intro split
    split at split
    next first second parts =>
      cases split
      rcases splitn_eq_cons.mp parts with ⟨rest, rfl, free, last⟩
      cases last
      exact ⟨rfl, free⟩
    next => cases split
  · rintro ⟨rfl, free⟩
    rw [splitn_append free, splitn]

theorem stripTrailing_append : stripTrailing (front ++ back) back = some front := by
  rw [stripTrailing, if_pos (List.suffix_append _ _), List.length_append, Nat.add_sub_cancel,
    List.take_left]

theorem stripTrailing_eq_some : stripTrailing text back = some front ↔ text = front ++ back := by
  constructor
  · intro stripped
    rw [stripTrailing, Option.ite_none_right_eq_some] at stripped
    rcases stripped with ⟨⟨start, rfl⟩, same⟩
    rw [List.length_append, Nat.add_sub_cancel, List.take_left, Option.some.injEq] at same
    rw [same]
  · rintro rfl
    exact stripTrailing_append

end Text

namespace Process

/-- What `import_app` asks of the interpreter. An operation may run any code. -/
structure Interpreter (World Object Exc : Type) where
  /-- `os.getcwd()`, with the imports of `sys` and `os`. -/
  getcwd : EStateM Exc World Text
  /-- `sys.path.__contains__`, if it gives a truth value. -/
  contains : Text → EStateM Exc World (Option Bool)
  /-- `sys.path.insert(0, ..)`. -/
  insert : Text → EStateM Exc World Unit
  importModule : Text → EStateM Exc World Object
  getattr : Object → Text → EStateM Exc World Object
  call0 : Object → EStateM Exc World Object
  valueError : String → Exc

def callSuffix : Text :=
  ['(', ')']

section Source

variable {World Object Exc : Type} (py : Interpreter World Object Exc)

def ensureCwd : EStateM Exc World Unit := do
  let cwd ← py.getcwd
  let contains ← py.contains cwd
  if contains.getD true then pure () else py.insert cwd

/-- The loop over the attribute path. -/
def getattrs : Object → List Text → EStateM Exc World Object
  | current, [] => pure current
  | current, part :: rest =>
      if part = [] then throw (py.valueError "invalid empty attribute in app spec")
      else do
        let next ← py.getattr current part
        getattrs next rest

def importApp (spec : Text) : EStateM Exc World Object := do
  ensureCwd py
  match spec.splitOnce ':' with
  | none => throw (py.valueError "app must be in the form 'module:attr', e.g. 'app:app'")
  | some (moduleName, attr) =>
      if moduleName = [] ∨ attr = [] then
        throw (py.valueError "app must be in the form 'module:attr', e.g. 'app:app'")
      else do
        let current ← py.importModule moduleName
        let callFactory := (attr.stripTrailing callSuffix).isSome
        let attrPath := (attr.stripTrailing callSuffix).getD attr
        let current ← getattrs py current (attrPath.splitOn '.')
        if callFactory then py.call0 current else pure current

end Source

/-- The path to an attribute, or to a factory. What ends like a call is one. -/
structure Attr where
  path : Text
  factory : Bool
  plain : factory = false → ¬callSuffix <:+ path

def Attr.text (attr : Attr) : Text :=
  attr.path ++ if attr.factory then callSuffix else []

/-- An application: the module, the path to the attribute, and whether that is a factory. -/
structure AppSpec where
  moduleName : Text
  attrs : List Text
  factory : Bool
  module_named : moduleName ≠ [] ∧ ':' ∉ moduleName
  attrs_named : attrs ≠ [] ∧ ∀ attr ∈ attrs, attr ≠ [] ∧ '.' ∉ attr
  /-- What ends like a call is one. -/
  plain : factory = false → ¬callSuffix <:+ ['.'].intercalate attrs

/-- What is left of a text that is no application: nothing, or the module and the attributes that
come before an empty one. -/
inductive Refusal where
  | malformed
  | emptyAttribute (moduleName : Text) (attrs : List Text)

/-- The text is refused for this reason: a side of its first colon is missing, or an attribute is
empty behind these. -/
def Refusal.Of (text : Text) : Refusal → Prop
  | .malformed =>
      ∀ moduleName attr, text = moduleName ++ ':' :: attr → ':' ∉ moduleName →
        moduleName = [] ∨ attr = []
  | .emptyAttribute moduleName attrs =>
      (moduleName ≠ [] ∧ ':' ∉ moduleName) ∧ (∀ attr ∈ attrs, attr ≠ [] ∧ '.' ∉ attr) ∧
        ∃ (attr : Attr) (rest : List Text), attr.text ≠ [] ∧ text = moduleName ++ ':' :: attr.text ∧
          attr.path = ['.'].intercalate (attrs ++ [] :: rest) ∧ ∀ attr ∈ rest, '.' ∉ attr

namespace AppSpec

variable {World Object Exc : Type}

def path (spec : AppSpec) : Text :=
  ['.'].intercalate spec.attrs

def toAttr (spec : AppSpec) : Attr :=
  { path := spec.path, factory := spec.factory, plain := spec.plain }

def attr (spec : AppSpec) : Text :=
  spec.toAttr.text

def text (spec : AppSpec) : Text :=
  spec.moduleName ++ ':' :: spec.attr

/-- The module is imported, the attributes are read in order, and the factory is called. -/
def load (spec : AppSpec) (py : Interpreter World Object Exc) : EStateM Exc World Object := do
  ensureCwd py
  let current ← py.importModule spec.moduleName
  let current ← spec.attrs.foldlM py.getattr current
  if spec.factory then py.call0 current else pure current

end AppSpec

def Refusal.run {World Object Exc : Type} (py : Interpreter World Object Exc) :
    Refusal → EStateM Exc World Object
  | .malformed => do
      ensureCwd py
      throw (py.valueError "app must be in the form 'module:attr', e.g. 'app:app'")
  | .emptyAttribute moduleName attrs => do
      ensureCwd py
      let current ← py.importModule moduleName
      let _ ← attrs.foldlM py.getattr current
      throw (py.valueError "invalid empty attribute in app spec")

section Reading

variable {World Object Exc : Type} {py : Interpreter World Object Exc} {parts : List Text}

/-- Where no part is empty, the attributes are read one after the other. -/
theorem getattrs_of_named (named : ∀ part ∈ parts, part ≠ []) (current : Object) :
    getattrs py current parts = parts.foldlM py.getattr current := by
  induction parts generalizing current with
  | nil => rfl
  | cons part rest ih =>
      rw [List.forall_mem_cons] at named
      rw [getattrs, if_neg named.1, List.foldlM_cons]
      exact congrArg _ (funext fun next => ih named.2 next)

theorem getattrs_of_empty {front back : List Text} (named : ∀ part ∈ front, part ≠ [])
    (current : Object) :
    getattrs py current (front ++ [] :: back) = (do
      let _ ← front.foldlM py.getattr current
      throw (py.valueError "invalid empty attribute in app spec")) := by
  induction front generalizing current with
  | nil => rfl
  | cons part rest ih =>
      rw [List.forall_mem_cons] at named
      rw [List.cons_append, getattrs, if_neg named.1, List.foldlM_cons, bind_assoc]
      exact congrArg _ (funext fun next => ih named.2 next)

/-- Parts are named, or there is a first one that is not. -/
theorem named_or_empty (parts : List Text) :
    (∀ part ∈ parts, part ≠ []) ∨
      ∃ front back, parts = front ++ [] :: back ∧ ∀ part ∈ front, part ≠ [] := by
  induction parts with
  | nil => exact .inl nofun
  | cons part rest ih =>
      by_cases empty : part = []
      · subst empty
        exact .inr ⟨[], rest, rfl, nofun⟩
      · rcases ih with named | ⟨front, back, rfl, named⟩
        · exact .inl (List.forall_mem_cons.mpr ⟨empty, named⟩)
        · exact .inr ⟨part :: front, back, rfl, List.forall_mem_cons.mpr ⟨empty, named⟩⟩

end Reading

theorem Attr.stripTrailing_text (attr : Attr) :
    attr.text.stripTrailing callSuffix = if attr.factory then some attr.path else none := by
  rw [text]
  cases factory : attr.factory with
  | true => exact Text.stripTrailing_append
  | false =>
      rw [if_neg Bool.false_ne_true, List.append_nil, Text.stripTrailing]
      exact if_neg (attr.plain factory)

theorem Attr.getD_text (attr : Attr) :
    (attr.text.stripTrailing callSuffix).getD attr.text = attr.path := by
  rw [stripTrailing_text, text]
  cases attr.factory with
  | true => rfl
  | false => exact List.append_nil _

theorem Attr.text_inj {attr other : Attr} (same : attr.text = other.text) : attr = other := by
  have strip := attr.stripTrailing_text
  rw [same, other.stripTrailing_text] at strip
  have factories : attr.factory = other.factory := by
    cases first : attr.factory <;> cases second : other.factory <;> simp_all
  rw [text, text, factories] at same
  have paths := List.append_cancel_right same
  cases attr
  cases other
  cases factories
  cases paths
  rfl

/-- Any text is read as a path, with the mark of a factory taken off. -/
theorem Attr.exists_text (attr : Text) : ∃ read : Attr, read.text = attr := by
  cases strip : attr.stripTrailing callSuffix with
  | none =>
      refine ⟨⟨attr, false, fun _ called => ?_⟩, List.append_nil _⟩
      rw [Text.stripTrailing, if_pos called] at strip
      cases strip
  | some path => exact ⟨⟨path, true, nofun⟩, (Text.stripTrailing_eq_some.mp strip).symm⟩

namespace AppSpec

variable {World Object Exc : Type} {spec other : AppSpec} {text : Text}

theorem splitOnce_text (spec : AppSpec) :
    spec.text.splitOnce ':' = some (spec.moduleName, spec.attr) :=
  Text.splitOnce_eq_some.mpr ⟨rfl, spec.module_named.2⟩

theorem stripTrailing_attr (spec : AppSpec) :
    spec.attr.stripTrailing callSuffix = if spec.factory then some spec.path else none :=
  spec.toAttr.stripTrailing_text

theorem splitOn_path (spec : AppSpec) : spec.path.splitOn '.' = spec.attrs :=
  List.splitOn_intercalate _ (fun part member => (spec.attrs_named.2 part member).2)
    spec.attrs_named.1

theorem attr_ne_nil (spec : AppSpec) : spec.attr ≠ [] := by
  intro empty
  have pathless : spec.path = [] := (List.append_eq_nil_iff.mp empty).1
  have parts := spec.splitOn_path
  rw [pathless, List.splitOn_nil] at parts
  exact (spec.attrs_named.2 [] (by rw [← parts]; exact List.mem_singleton_self _)).1 rfl

theorem importApp_text (spec : AppSpec) (py : Interpreter World Object Exc) :
    importApp py spec.text = spec.load py := by
  have named : ∀ part ∈ spec.attrs, part ≠ [] := fun part member =>
    (spec.attrs_named.2 part member).1
  have both : ¬(spec.moduleName = [] ∨ spec.attr = []) :=
    not_or.mpr ⟨spec.module_named.1, spec.attr_ne_nil⟩
  have called : (spec.attr.stripTrailing callSuffix).isSome = spec.factory := by
    rw [stripTrailing_attr]
    cases spec.factory <;> rfl
  have stripped : (spec.attr.stripTrailing callSuffix).getD spec.attr = spec.path :=
    spec.toAttr.getD_text
  simp only [importApp, splitOnce_text, if_neg both, called, stripped, splitOn_path,
    getattrs_of_named named, load]

theorem text_inj (same : spec.text = other.text) : spec = other := by
  have split := spec.splitOnce_text
  rw [same, other.splitOnce_text, Option.some.injEq, Prod.mk.injEq] at split
  rcases split with ⟨modules, attrs⟩
  have read : other.toAttr = spec.toAttr := Attr.text_inj attrs
  have paths : other.path = spec.path := congrArg Attr.path read
  have factories : other.factory = spec.factory := congrArg Attr.factory read
  have parts : other.attrs = spec.attrs := by rw [← splitOn_path, paths, splitOn_path]
  cases spec
  cases other
  cases modules
  cases factories
  cases parts
  rfl

/-- Both sides of the first colon are there, and so are all attributes. -/
theorem exists_text_of_named {moduleName : Text} {attr : Attr} (named : moduleName ≠ [])
    (free : ':' ∉ moduleName) (parts : ∀ part ∈ attr.path.splitOn '.', part ≠ []) :
    ∃ spec : AppSpec, spec.text = moduleName ++ ':' :: attr.text := by
  refine ⟨{ moduleName, attrs := attr.path.splitOn '.', factory := attr.factory,
            module_named := ⟨named, free⟩,
            attrs_named := ⟨List.splitOn_ne_nil _ _, fun part member =>
              ⟨parts part member, Delimited.notMem_of_mem_splitOn member⟩⟩,
            plain := ?_ }, ?_⟩
  · rw [List.intercalate_splitOn]
    exact attr.plain
  · simp [AppSpec.text, AppSpec.attr, toAttr, AppSpec.path, Attr.text]

end AppSpec

section Refusals

variable {World Object Exc : Type} {text : Text}

theorem bind_ne_ok {α β : Type} {first : EStateM Exc World α} {onward : α → EStateM Exc World β}
    (fails : ∀ value world found after, onward value world ≠ .ok found after)
    (world : World) (found : β) (after : World) : (first >>= onward) world ≠ .ok found after := by
  intro succeeded
  change EStateM.bind first onward world = _ at succeeded
  rw [EStateM.bind] at succeeded
  split at succeeded
  · exact fails _ _ _ _ succeeded
  · cases succeeded

theorem Refusal.run_ne_ok (refusal : Refusal) (py : Interpreter World Object Exc)
    (world after : World) (found : Object) : refusal.run py world ≠ .ok found after := by
  have thrown (exc : Exc) (world : World) (found : Object) (after : World) :
      (throw exc : EStateM Exc World Object) world ≠ .ok found after := by
    intro succeeded
    cases succeeded
  cases refusal with
  | malformed => exact bind_ne_ok (fun _ => thrown _) _ _ _
  | emptyAttribute moduleName attrs =>
      exact bind_ne_ok (fun _ => bind_ne_ok fun _ => bind_ne_ok fun _ => thrown _) _ _ _

/-- A text that no application has is refused for a reason. -/
theorem exists_refusal (other : ∀ spec : AppSpec, spec.text ≠ text) :
    ∃ refusal : Refusal, refusal.Of text ∧
      ∀ {World Object Exc : Type} (py : Interpreter World Object Exc),
        importApp py text = refusal.run py := by
  cases split : text.splitOnce ':' with
  | none =>
      refine ⟨.malformed, fun moduleName attr whole free => ?_, fun py => ?_⟩
      · rw [Text.splitOnce_eq_some.mpr ⟨whole, free⟩] at split
        cases split
      · simp only [importApp, split, Refusal.run]
  | some sides =>
      rcases sides with ⟨moduleName, attr⟩
      rcases Attr.exists_text attr with ⟨read, rfl⟩
      by_cases empty : moduleName = [] ∨ read.text = []
      · refine ⟨.malformed, fun front back whole free => ?_, fun py => ?_⟩
        · rw [Text.splitOnce_eq_some.mpr ⟨whole, free⟩] at split
          cases split
          exact empty
        · simp only [importApp, split, if_pos empty, Refusal.run]
      · have given := not_or.mp empty
        rcases Text.splitOnce_eq_some.mp split with ⟨rfl, free⟩
        rcases named_or_empty (read.path.splitOn '.') with named | ⟨front, back, parts, named⟩
        · rcases AppSpec.exists_text_of_named given.1 free named with ⟨spec, same⟩
          exact absurd same (other spec)
        · have dotless (part : Text) (member : part ∈ front ++ [] :: back) : '.' ∉ part := by
            rw [← parts] at member
            exact Delimited.notMem_of_mem_splitOn member
          refine ⟨.emptyAttribute moduleName front, ?_, fun py => ?_⟩
          · refine ⟨⟨given.1, free⟩, fun part member => ⟨named part member, ?_⟩, read, back,
              given.2, rfl, ?_, fun part member => ?_⟩
            · exact dotless part (List.mem_append_left _ member)
            · rw [← parts, List.intercalate_splitOn]
            · exact dotless part (List.mem_append_right _ (List.mem_cons_of_mem _ member))
          · simp only [importApp, split, if_neg empty, read.getD_text, parts,
              getattrs_of_empty named, Refusal.run, bind_assoc]
            rfl

/-- The reason is determined by the text. -/
theorem Refusal.of_inj {first second : Refusal} (one : first.Of text) (other : second.Of text) :
    first = second := by
  have never {moduleName : Text} {attrs : List Text} (malformed : Refusal.malformed.Of text)
      (empty : (Refusal.emptyAttribute moduleName attrs).Of text) : False := by
    rcases empty with ⟨⟨named, free⟩, _, attr, rest, nonempty, whole, _⟩
    exact (malformed moduleName attr.text whole free).elim named nonempty
  cases first with
  | malformed =>
      cases second with
      | malformed => rfl
      | emptyAttribute => exact (never one other).elim
  | emptyAttribute moduleName attrs =>
      cases second with
      | malformed => exact (never other one).elim
      | emptyAttribute moduleName' attrs' =>
          rcases one with ⟨⟨_, free⟩, named, attr, rest, _, whole, path, dotless⟩
          rcases other with ⟨⟨_, free'⟩, named', attr', rest', _, whole', path', dotless'⟩
          have sides := Delimited.eq_of_first free free' (whole.symm.trans whole')
          have attrsEq := Attr.text_inj sides.2
          subst attrsEq
          have parts := congrArg (List.splitOn '.') (path.symm.trans path')
          have free_ {front back : List Text} (named : ∀ part ∈ front, part ≠ [] ∧ '.' ∉ part)
              (dotless : ∀ part ∈ back, '.' ∉ part) : ∀ part ∈ front ++ [] :: back, '.' ∉ part := by
            intro part member
            rcases List.mem_append.mp member with before | behind
            · exact (named part before).2
            · rcases List.mem_cons.mp behind with rfl | behind
              · exact List.not_mem_nil
              · exact dotless part behind
          rw [List.splitOn_intercalate _ (free_ named dotless) (by simp),
            List.splitOn_intercalate _ (free_ named' dotless') (by simp)] at parts
          have fronts := Delimited.eq_of_first (fun member => (named [] member).1 rfl)
            (fun member => (named' [] member).1 rfl) parts
          rw [sides.1, fronts.1]

/-- What `import_app` makes of any text. It is that of one application at most, which is then
loaded; otherwise it is refused for one reason, which says what has been imported and read by then,
and no factory is called. -/
theorem importApp_cases (text : Text) :
    (∃ spec : AppSpec, spec.text = text ∧ (∀ other : AppSpec, other.text = text → other = spec) ∧
        ∀ {World Object Exc : Type} (py : Interpreter World Object Exc),
          importApp py text = spec.load py) ∨
      (∀ spec : AppSpec, spec.text ≠ text) ∧
        ∃ refusal : Refusal, refusal.Of text ∧
          (∀ other : Refusal, other.Of text → other = refusal) ∧
          ∀ {World Object Exc : Type} (py : Interpreter World Object Exc),
            importApp py text = refusal.run py ∧
              ∀ world found after, importApp py text world ≠ .ok found after := by
  by_cases known : ∃ spec : AppSpec, spec.text = text
  · rcases known with ⟨spec, rfl⟩
    exact .inl ⟨spec, rfl, fun other same => AppSpec.text_inj same,
      fun py => spec.importApp_text py⟩
  · have other : ∀ spec : AppSpec, spec.text ≠ text := fun spec same => known ⟨spec, same⟩
    rcases exists_refusal other with ⟨refusal, reason, refused⟩
    refine .inr ⟨other, refusal, reason, fun _ same => Refusal.of_inj same reason,
      fun py => ⟨refused py, fun world found after => ?_⟩⟩
    rw [refused py]
    exact refusal.run_ne_ok py world after found

end Refusals

end Process

end RustAsgi
