import ElmOverlay.Proofs.LensSubject
import Mathlib.Data.List.Forall2

/-!
The lenses of the declarations of a file. Exposure lenses and reference lenses come from two walks
over the same children of the root, in two orders and at two kinds of place. Both show each
declaration once, and no two declarations share a place: a type annotation stands before one node
only, and an annotation is no declaration.
-/
namespace ElmOverlay.Discovery

open Elm

variable {file : FileId} {t : Tree}

/-! ### Declarations and their lenses -/

def isFunction (n : t.Id) : Bool := (functionName n).isSome

def isType (n : t.Id) : Bool := (typeName n).isSome

variable (t) in
/-- The nodes at the top level that declare a name, as they stand. -/
def declarations : List t.Id := (t.children t.root).filter fun n => isFunction n || isType n

/-- A node declares a name, of a function or of a type. -/
inductive Declares (n : t.Id) : t.Id → Prop
  | function {name : t.Id} (found : functionName n = some name) : Declares n name
  | typeName {name : t.Id} (found : typeName n = some name) : Declares n name

/-- Where the exposure lens of a declaration stands. -/
def exposureAnchor (n : t.Id) : t.Id := if isFunction n then functionAnchor n else n

/-- Where the reference lens of a declaration stands. -/
def referenceAnchor (n : t.Id) : t.Id :=
  if isFunction n then functionAnchor n else (typeName n).getD n

/-- A lens of one family for a declaration. -/
structure Shows (file : FileId) (family : LensFamily) (anchor : t.Id → t.Id) (n : t.Id)
    (p : Placeholder) : Prop where
  family : p.family = family
  file : p.file = file
  callable : p.callable = isFunction n
  subject : ∃ name, Declares n name ∧ p.subject = t.text name
  place : p.anchor = t.span (anchor n)

/-- The lens of a module name, if the name has parts. -/
inductive ShowsModule (file : FileId) (t : Tree) : List Placeholder → Prop
  | present {qid : t.Id} (located : moduleName t = some qid) (parts : t.children qid ≠ []) :
      ShowsModule file t [⟨.referenceCount, file, t.text qid, false, t.span qid⟩]
  | absent (bare : ∀ qid, moduleName t = some qid → t.children qid = []) : ShowsModule file t []

/-- What lenses show, and of what. -/
def subjects (lenses : List Placeholder) : List (String × Bool) :=
  lenses.map fun p => (p.subject, p.callable)

def counting (p : Placeholder) : Placeholder := { p with family := .referenceCount }

/-- The lenses of a file are those of its declarations. -/
structure Covers (file : FileId) (t : Tree) (exposed types functions named : List Placeholder) :
    Prop where
  exposed_each : List.Forall₂ (Shows file .exposure exposureAnchor) (declarations t) exposed
  types_each : List.Forall₂ (Shows file .referenceCount referenceAnchor)
    ((declarations t).filter isType) types
  functions_each : List.Forall₂ (Shows file .referenceCount referenceAnchor)
    ((declarations t).filter isFunction) functions
  named_last : ShowsModule file t named
  /-- The reference lenses show what the exposure lenses show, types before functions. -/
  partition : subjects (types ++ functions) =
    subjects (exposed.filter (!·.callable) ++ exposed.filter (·.callable))
  /-- The two lenses of a function differ in the family and in nothing else. -/
  twins : functions = (exposed.filter (·.callable)).map counting
  count_exposed : exposed.length =
    ((declarations t).filter isFunction).length + ((declarations t).filter isType).length
  count_references : (types ++ functions ++ named).length = exposed.length ∨
    (types ++ functions ++ named).length = exposed.length + 1
  exposure_apart : ∀ n ∈ declarations t, ∀ m ∈ declarations t,
    exposureAnchor n = exposureAnchor m → n = m
  references_apart : ∀ n ∈ declarations t, ∀ m ∈ declarations t,
    referenceAnchor n = referenceAnchor m → n = m

theorem typeName_of_functionName {n name : t.Id} (found : functionName n = some name) :
    typeName n = none := by
  have kind := (functionName_eq_some found).1
  simp [typeName, isTypeDeclaration, kind]

/-- A node declares a function, or a type, or nothing. -/
theorem declares_cases (n : t.Id) :
    (∃ name, functionName n = some name ∧ typeName n = none) ∨
    (functionName n = none ∧ ∃ name, typeName n = some name) ∨
    (functionName n = none ∧ typeName n = none) := by
  cases function : functionName n with
  | some name => exact .inl ⟨name, rfl, typeName_of_functionName function⟩
  | none =>
    cases type : typeName n with
    | some name => exact .inr (.inl ⟨rfl, name, rfl⟩)
    | none => exact .inr (.inr ⟨rfl, rfl⟩)

theorem isFunction_of_type {n name : t.Id} (type : typeName n = some name) :
    isFunction n = false := by
  rcases declares_cases n with ⟨_, -, none⟩ | ⟨none, -⟩ | ⟨none, -⟩
  · cases none.symm.trans type
  · simp [isFunction, none]
  · simp [isFunction, none]

theorem isFunction_iff {n : t.Id} : isFunction n = true ↔ ∃ name, functionName n = some name :=
  Option.isSome_iff_exists

theorem isType_iff {n : t.Id} : isType n = true ↔ ∃ name, typeName n = some name :=
  Option.isSome_iff_exists

theorem filter_declarations {kept : t.Id → Bool}
    (declare : ∀ n, kept n = true → (isFunction n || isType n) = true) :
    (declarations t).filter kept = (t.children t.root).filter kept := by
  rw [declarations, List.filter_filter]
  apply List.filter_congr
  intro n _
  cases keeps : kept n with
  | true => simpa using declare n keeps
  | false => rfl

/-! ### One lens a declaration -/

/-- A walk that makes a lens of each node it keeps, and of no other. -/
theorem forall₂_filterMap {shows : t.Id → Placeholder → Prop} {lens : t.Id → Option Placeholder}
    {kept : t.Id → Bool} (shown : ∀ n, kept n = true → ∃ p, lens n = some p ∧ shows n p)
    (skipped : ∀ n, kept n = false → lens n = none) (ns : List t.Id) :
    List.Forall₂ shows (ns.filter kept) (ns.filterMap lens) := by
  induction ns with
  | nil => exact .nil
  | cons n ns ih =>
    cases keeps : kept n with
    | true =>
      obtain ⟨p, some_lens, shows_p⟩ := shown n keeps
      rw [List.filter_cons_of_pos keeps, List.filterMap_cons_some some_lens]
      exact .cons shows_p ih
    | false =>
      rw [List.filter_cons_of_neg (by simp [keeps]), List.filterMap_cons_none (skipped n keeps)]
      exact ih

theorem shows_ofName {family : LensFamily} {anchor : t.Id → t.Id} {n name place : t.Id}
    {callable : Bool} (declares : Declares n name) (function : callable = isFunction n)
    (here : place = anchor n) :
    Shows file family anchor n (ofName file family callable place name) where
  family := rfl
  file := rfl
  callable := function
  subject := ⟨name, declares, by rw [ofName]⟩
  place := by rw [ofName, here]

theorem exposureLenses_shows (file : FileId) (t : Tree) : List.Forall₂
    (Shows file .exposure exposureAnchor) (declarations t) (exposureLenses file t) := by
  apply forall₂_filterMap
  · intro n declares
    rcases declares_cases n with ⟨name, function, -⟩ | ⟨plain, name, type⟩ | ⟨plain, plain'⟩
    · refine ⟨_, by rw [exposureLens, function], shows_ofName (.function function) ?_ ?_⟩
      · simp [isFunction, function]
      · simp [exposureAnchor, isFunction, function]
    · refine ⟨_, by rw [exposureLens, plain, type, Option.map_some],
        shows_ofName (.typeName type) ?_ ?_⟩
      · simp [isFunction, plain]
      · simp [exposureAnchor, isFunction, plain]
    · simp [isFunction, isType, plain, plain'] at declares
  · intro n other
    simp only [isFunction, isType, Bool.or_eq_false_iff, Option.isSome_eq_false_iff,
      Option.isNone_iff_eq_none] at other
    simp [exposureLens, other.1, other.2]

theorem typeLenses_shows (file : FileId) (t : Tree) : List.Forall₂
    (Shows file .referenceCount referenceAnchor) ((declarations t).filter isType)
    ((t.children t.root).filterMap (typeLens file)) := by
  rw [filter_declarations fun n type => by simp [type]]
  apply forall₂_filterMap
  · intro n type
    obtain ⟨name, found⟩ := isType_iff.mp type
    have plain := isFunction_of_type found
    refine ⟨_, by rw [typeLens, found, Option.map_some],
      shows_ofName (.typeName found) plain.symm ?_⟩
    simp [referenceAnchor, plain, found]
  · intro n other
    simp only [isType, Option.isSome_eq_false_iff, Option.isNone_iff_eq_none] at other
    simp [typeLens, other]

theorem functionLenses_shows (file : FileId) (t : Tree) : List.Forall₂
    (Shows file .referenceCount referenceAnchor) ((declarations t).filter isFunction)
    ((t.children t.root).filterMap (functionLens file)) := by
  rw [filter_declarations fun n function => by simp [function]]
  apply forall₂_filterMap
  · intro n function
    obtain ⟨name, found⟩ := isFunction_iff.mp function
    refine ⟨_, by rw [functionLens, found, Option.map_some],
      shows_ofName (.function found) function.symm ?_⟩
    simp [referenceAnchor, function]
  · intro n other
    simp only [isFunction, Option.isSome_eq_false_iff, Option.isNone_iff_eq_none] at other
    simp [functionLens, other]

theorem moduleLens_shows (file : FileId) (t : Tree) :
    ShowsModule file t (moduleLens file t).toList := by
  unfold moduleLens
  cases located : moduleName t with
  | none => exact .absent (by simp [located])
  | some qid =>
    by_cases bare : t.children qid = []
    · simp only [Option.filter, bare]
      exact .absent (by simp [located, bare])
    · have parts : (!(t.children qid).isEmpty) = true := by simpa using bare
      simp only [Option.filter, parts]
      exact .present located bare

/-! ### Two orders of the same subjects -/

theorem functionLenses_eq (file : FileId) (ns : List t.Id) : ns.filterMap (functionLens file) =
    ((ns.filterMap (exposureLens file)).filter (·.callable)).map counting := by
  induction ns with
  | nil => rfl
  | cons n ns ih =>
    rcases declares_cases n with ⟨name, function, -⟩ | ⟨plain, name, type⟩ | ⟨plain, plain'⟩
    · simp [functionLens, exposureLens, function, ofName, counting, ih]
    · simp [functionLens, exposureLens, plain, type, ofName, ih]
    · simp [functionLens, exposureLens, plain, plain', ih]

theorem subjects_typeLenses (file : FileId) (ns : List t.Id) :
    subjects (ns.filterMap (typeLens file)) =
      subjects ((ns.filterMap (exposureLens file)).filter (!·.callable)) := by
  unfold subjects
  induction ns with
  | nil => rfl
  | cons n ns ih =>
    rcases declares_cases n with ⟨name, function, none⟩ | ⟨plain, name, type⟩ | ⟨plain, plain'⟩
    · simp [typeLens, exposureLens, function, none, ofName, ih]
    · simp [typeLens, exposureLens, plain, type, ofName, ih]
    · simp [typeLens, exposureLens, plain, plain', ih]

/-! ### Anchors -/

theorem kind_functionAnchor {n name : t.Id} (function : functionName n = some name) :
    t.kind (functionAnchor n) ∈ ["value_declaration", "type_annotation"] := by
  rcases functionAnchor_cases n with same | ⟨a, -, annotation, same⟩
  · rw [same, (functionName_eq_some function).1]
    simp
  · rw [same, annotation]
    simp

/-- The node after an annotation is the only one that it stands before. -/
theorem functionAnchor_injective {n m name name' : t.Id} (hn : functionName n = some name)
    (hm : functionName m = some name') (same : functionAnchor n = functionAnchor m) : n = m := by
  have kind := (functionName_eq_some hn).1
  have kind' := (functionName_eq_some hm).1
  rcases functionAnchor_cases n with own | ⟨a, before, annotation, anchor⟩ <;>
    rcases functionAnchor_cases m with own' | ⟨a', before', annotation', anchor'⟩
  · rw [← own, ← own', same]
  · rw [← anchor', ← same, own, kind] at annotation'
    simp at annotation'
  · rw [← anchor, same, own', kind'] at annotation
    simp at annotation
  · have one : a = a' := by rw [← anchor, ← anchor', same]
    have next := Tree.nextNamed_eq_some_iff_prevNamed.mpr before
    have next' := Tree.nextNamed_eq_some_iff_prevNamed.mpr before'
    rw [one] at next
    exact Option.some.inj (next.symm.trans next')

/-- No two declarations share an anchor if no two types do and the anchors of types are neither
declarations of values nor annotations. -/
theorem injective_of_kinds {anchor : t.Id → t.Id}
    (functions : ∀ n name, functionName n = some name → anchor n = functionAnchor n)
    (types : ∀ n m name name', typeName n = some name → typeName m = some name' →
      anchor n = anchor m → n = m)
    (apart : ∀ n name, typeName n = some name →
      t.kind (anchor n) ∉ ["value_declaration", "type_annotation"]) :
    ∀ n ∈ declarations t, ∀ m ∈ declarations t, anchor n = anchor m → n = m := by
  intro n hn m hm same
  have declared : ∀ n ∈ declarations t, (∃ name, functionName n = some name) ∨
      ∃ name, typeName n = some name := by
    intro n hn
    simpa [isFunction_iff, isType_iff] using (List.mem_filter.mp hn).2
  rcases declared n hn with ⟨name, function⟩ | ⟨name, type⟩ <;>
    rcases declared m hm with ⟨name', function'⟩ | ⟨name', type'⟩
  · rw [functions n name function, functions m name' function'] at same
    exact functionAnchor_injective function function' same
  · have kind := kind_functionAnchor function
    rw [← functions n name function, same] at kind
    exact absurd kind (apart m name' type')
  · have kind := kind_functionAnchor function'
    rw [← functions m name' function', ← same] at kind
    exact absurd kind (apart n name type)
  · exact types n m name name' type type' same

theorem anchors_of_type {n name : t.Id} (type : typeName n = some name) :
    exposureAnchor n = n ∧ referenceAnchor n = name := by
  simp [exposureAnchor, referenceAnchor, isFunction_of_type type, type]

theorem exposureAnchor_injective : ∀ n ∈ declarations t, ∀ m ∈ declarations t,
    exposureAnchor n = exposureAnchor m → n = m := by
  apply injective_of_kinds
  · intro n name function
    simp [exposureAnchor, isFunction, function]
  · intro n m name name' type type' same
    rwa [(anchors_of_type type).1, (anchors_of_type type').1] at same
  · intro n name type
    rw [(anchors_of_type type).1]
    rcases (typeName_eq_some type).1 with kind | kind <;> simp [kind]

theorem referenceAnchor_injective : ∀ n ∈ declarations t, ∀ m ∈ declarations t,
    referenceAnchor n = referenceAnchor m → n = m := by
  apply injective_of_kinds
  · intro n name function
    simp [referenceAnchor, isFunction, function]
  · intro n m name name' type type' same
    rw [(anchors_of_type type).2, (anchors_of_type type').2] at same
    have owner := (Tree.childOfKind_eq_some (typeName_eq_some type).2).1
    have owner' := (Tree.childOfKind_eq_some (typeName_eq_some type').2).1
    rw [same] at owner
    exact Option.some.inj (owner.symm.trans owner')
  · intro n name type
    rw [(anchors_of_type type).2,
      (Tree.childOfKind_eq_some (typeName_eq_some type).2).2.2]
    simp

theorem subjects_append (front back : List Placeholder) :
    subjects (front ++ back) = subjects front ++ subjects back :=
  List.map_append

theorem subjects_counting (lenses : List Placeholder) :
    subjects (lenses.map counting) = subjects lenses := by
  rw [subjects, List.map_map]
  rfl

theorem ShowsModule.length_le {lenses : List Placeholder} (named : ShowsModule file t lenses) :
    lenses.length ≤ 1 := by
  cases named <;> simp

/-- Discovery shows every declaration once in each family: first the exposure lenses as the
declarations stand, then the reference lenses of the types, of the functions and of the module. -/
theorem lenses_cover_declarations (file : FileId) (t : Tree) :
    ∃ exposed types functions named, lenses file t = exposed ++ (types ++ functions ++ named) ∧
      Covers file t exposed types functions named := by
  have shown := exposureLenses_shows file t
  have types := typeLenses_shows file t
  have functions := functionLenses_shows file t
  have named := moduleLens_shows file t
  have twins := functionLenses_eq file (t.children t.root)
  have same_types := subjects_typeLenses file (t.children t.root)
  -- Each exposure lens has one reference lens, so their number follows from the two orders.
  have count_types := congrArg List.length same_types
  have count_functions := congrArg List.length twins
  simp only [subjects, List.length_map] at count_types count_functions
  have split := List.length_eq_length_filter_add (l := exposureLenses file t) (·.callable)
  rw [exposureLenses] at split
  refine ⟨_, _, _, _, rfl, shown, types, functions, named, ?partition, twins, ?exposed,
    ?references, exposureAnchor_injective, referenceAnchor_injective⟩
  case partition =>
    rw [subjects_append, subjects_append, same_types, twins, subjects_counting, exposureLenses]
  case exposed =>
    rw [functions.length_eq, types.length_eq, exposureLenses]
    omega
  case references =>
    have last := named.length_le
    rw [List.length_append, List.length_append, exposureLenses]
    omega

example : subjects (lenses "A.elm" annotatedFile) =
    [("T", false), ("f", true), ("T", false), ("f", true), ("A", false)] := by decide +kernel

end ElmOverlay.Discovery
