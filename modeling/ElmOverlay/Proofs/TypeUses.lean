import ElmOverlay.Proofs.ForeignUses

/-!
Uses of types. A type is used where an exposing list names it, and where a dotted name ends in its
name, unless that name stands in a header, in an import, or as an expression. All other places
count as places of types. So a constructor that an expression calls is never taken for a type of
its name, but one that a branch matches is.
-/
namespace ElmOverlay

namespace Elm

variable {t : Tree}

/-- A constructor that is called: a part of a dotted name that is an expression. -/
def Called (n : t.Id) : Prop :=
  ∃ qid owner, t.parent n = some qid ∧ t.kind qid = "upper_case_qid" ∧
    t.parent qid = some owner ∧ t.kind owner = "value_expr"

def InPattern (n : t.Id) : Prop :=
  ∃ branch pattern, t.kind branch = "case_of_branch" ∧
    (t.namedChildren branch).head? = some pattern ∧ n ∈ t.descendants pattern

/-- A constructor that a branch matches: the last part of a dotted name in the pattern. -/
structure Matched (n : t.Id) : Prop where
  refers : Refers .typeName n
  inPattern : InPattern n

theorem not_refers_of_called {n : t.Id} (called : Called n) : ¬ Refers .typeName n := by
  obtain ⟨qid, owner, parent, -, above, isCall⟩ := called
  intro refers
  cases refers with
  | typeName identifier parent' dotted above' place last =>
    obtain rfl := Option.some.inj (parent.symm.trans parent')
    obtain rfl := Option.some.inj (above.symm.trans above')
    simp [isCall] at place

/-- A part of a dotted name is no entry of an exposing list. -/
theorem not_lists_of_dotted {n qid item : t.Id} (parent : t.parent n = some qid)
    (dotted : t.kind qid = "upper_case_qid") : ¬ Lists .typeName n item := by
  intro lists
  cases lists with
  | typeName identifier parent' place =>
    obtain rfl := Option.some.inj (parent.symm.trans parent')
    exact absurd (dotted.symm.trans place) (by decide)

end Elm

open Elm

namespace Forest

variable {forest : Forest} {file : FileId} {t : Tree}

/-- An identifier that stands for a type. -/
inductive NamesType (forest : Forest) (file : FileId) {t : Tree} (n : t.Id) (d : Definition) : Prop
  | entry {item : t.Id} (lists : Lists .typeName n item)
      (found : forest.resolveExposed file item (t.text n) .typeName = some d)
  | reference (refers : Refers .typeName n)
      (found : forest.resolveReference file n .typeName = some d)

theorem namesType_of_resolve {n : t.Id} {d : Definition} (isType : d.kind = .typeName)
    (identifier : t.kind n ∈ identifierKinds) (away : ¬(file = d.file ∧ t.span n = d.span))
    (outside : parentKind n ≠ some "type_annotation") (h : forest.resolve file n = some d) :
    forest.NamesType file n d := by
  rcases resolve_identifier_cases identifier h with ⟨-, found⟩ | ⟨upper, found⟩ | ⟨-, found⟩
  · rcases (resolveLower_answers outside found).kind_eq with isValue | ⟨-, isLocal, -⟩
    · cases isType.symm.trans isValue
    · cases isType.symm.trans isLocal
  · cases resolveUpper_route found with
    | declared parent declares same =>
      subst same
      exact absurd ⟨rfl, rfl⟩ away
    | header parent dotted above place same =>
      subst same
      cases isType
    | imported parent dotted above place found =>
      obtain ⟨_, _, _, -, -, -, rfl⟩ := resolveImport_eq_some found
      cases isType
    | reference parent dotted above place last found =>
      exact .reference (.typeName upper parent dotted above place last) found
    | entry parent place found => exact .entry (.typeName upper parent place) found
  · cases isType.symm.trans (kind_resolveExposed found)

theorem NamesType.resolve {n : t.Id} {d : Definition} (names : forest.NamesType file n d) :
    t.kind n ∈ identifierKinds ∧ parentKind n ≠ some "type_annotation" ∧
      forest.resolve file n = some d := by
  cases names with
  | entry lists found =>
    refine ⟨identifier_of_lists lists, ?_, (resolve_of_lists lists).trans found⟩
    cases lists with
    | typeName identifier parent place => simp [parentKind, parent, place]
  | reference refers found =>
    refine ⟨identifier_of_refers refers, ?_, (resolve_of_refers refers).trans found⟩
    cases refers with
    | typeName identifier parent dotted => simp [parentKind, parent, dotted]

theorem mem_usesIn_type {n : t.Id} {d : Definition} (isType : d.kind = .typeName) :
    n ∈ forest.usesIn d file t ↔
      forest.NamesType file n d ∧ ¬(file = d.file ∧ t.span n = d.span) := by
  have noModule : d.kind ≠ .moduleName := by simp [isType]
  rw [mem_usesIn noModule]
  constructor
  · rintro ⟨identifier, found, away, outside⟩
    exact ⟨namesType_of_resolve isType identifier away outside found, away⟩
  · rintro ⟨names, away⟩
    obtain ⟨identifier, outside, found⟩ := names.resolve
    exact ⟨identifier, found, away, outside⟩

/-- A called constructor is never a use of a type. A constructor in the pattern of a branch is a
use of the type that it names if it is read as the name of a type, just as if it stood in an
annotation. Nothing else in a pattern is a use of a type, an exposing list apart. -/
theorem constructor_uses_iff {d : Definition} (isType : d.kind = .typeName) (n : t.Id) :
    (Called n → n ∉ forest.usesIn d file t) ∧
    (Matched n → (n ∈ forest.usesIn d file t ↔
      forest.resolveReference file n .typeName = some d ∧
        ¬(file = d.file ∧ t.span n = d.span))) ∧
    (InPattern n → n ∈ forest.usesIn d file t → Matched n ∨ ∃ item, Lists .typeName n item) := by
  refine ⟨?_, ?_, ?_⟩
  · intro called use
    cases ((mem_usesIn_type isType).mp use).1 with
    | entry lists found =>
      obtain ⟨_, _, parent, dotted, -⟩ := called
      exact not_lists_of_dotted parent dotted lists
    | reference refers found => exact not_refers_of_called called refers
  · intro isMatched
    rw [mem_usesIn_type isType]
    refine and_congr_left fun _ => ⟨?_, .reference isMatched.refers⟩
    intro names
    cases names with
    | entry lists found =>
      cases isMatched.refers with
      | typeName identifier parent dotted =>
        exact absurd lists (not_lists_of_dotted parent dotted)
    | reference refers found => exact found
  · intro inPattern use
    cases ((mem_usesIn_type isType).mp use).1 with
    | entry lists found => exact .inr ⟨_, lists⟩
    | reference refers found => exact .inl ⟨refers, inPattern⟩

/-- `type Box = Box`, and a function that matches a `Box` and gives one back. -/
def boxFile : Tree :=
  (Tree.build "type Box = Box\nf b =\n    case b of\n        Box -> Box" [.openHere "file",
    .openHere "type_declaration", .token "type", .leaf "upper_case_identifier" "Box", .token "=",
    .openHere "union_variant", .leaf "upper_case_identifier" "Box", .close, .close,
    .openHere "value_declaration", .openHere "function_declaration_left",
    .leaf "lower_case_identifier" "f", .openHere "lower_pattern",
    .leaf "lower_case_identifier" "b", .close, .close, .token "=", .openHere "case_of_expr",
    .token "case", .openHere "value_expr", .openHere "value_qid", .leaf "lower_case_identifier" "b",
    .close, .close, .token "of", .openHere "case_of_branch", .openHere "pattern",
    .openHere "upper_case_qid", .leaf "upper_case_identifier" "Box", .close, .close, .token "->",
    .openHere "value_expr", .openHere "upper_case_qid", .leaf "upper_case_identifier" "Box", .close,
    .close, .close, .close, .close, .close]).toOption.get (by decide +kernel)

def boxNode (i : Fin 27) : boxFile.Id := i.cast (by decide +kernel)

theorem boxFile_shape :
    boxFile.kind (boxNode 19) = "case_of_branch" ∧
      (boxFile.namedChildren (boxNode 19)).head? = some (boxNode 20) ∧
      boxNode 22 ∈ boxFile.descendants (boxNode 20) ∧
      boxFile.parent (boxNode 22) = some (boxNode 21) ∧
      boxFile.kind (boxNode 21) = "upper_case_qid" ∧
      boxFile.parent (boxNode 21) = some (boxNode 20) ∧
      boxFile.parent (boxNode 26) = some (boxNode 25) ∧
      boxFile.kind (boxNode 25) = "upper_case_qid" ∧
      boxFile.parent (boxNode 25) = some (boxNode 24) ∧
      boxFile.kind (boxNode 24) = "value_expr" := by
  decide +kernel

/-- The `Box` in front of the arrow counts as a use of the type. The one behind it does not. -/
theorem matched_constructor_counts :
    let forest := empty.insert "A.elm" boxFile
    let box : Definition := ⟨"A.elm", "Box", .typeName, ⟨⟨0, 5⟩, ⟨0, 8⟩⟩⟩
    topLevel "A.elm" boxFile "Box" .typeName = some box ∧ InPattern (boxNode 22) ∧
      boxFile.span (boxNode 22) = ⟨⟨3, 8⟩, ⟨3, 11⟩⟩ ∧
      forest.references box = [⟨"A.elm", ⟨⟨3, 8⟩, ⟨3, 11⟩⟩⟩] := by
  intro forest box
  have ⟨isBranch, first, inside, _⟩ := boxFile_shape
  have ⟨declared, place, uses⟩ : topLevel "A.elm" boxFile "Box" .typeName = some box ∧
      boxFile.span (boxNode 22) = ⟨⟨3, 8⟩, ⟨3, 11⟩⟩ ∧
      forest.references box = [⟨"A.elm", ⟨⟨3, 8⟩, ⟨3, 11⟩⟩⟩] := by
    decide +kernel
  exact ⟨declared, ⟨_, _, isBranch, first, inside⟩, place, uses⟩

theorem box_constructor_uses :
    let forest := empty.insert "A.elm" boxFile
    let box : Definition := ⟨"A.elm", "Box", .typeName, ⟨⟨0, 5⟩, ⟨0, 8⟩⟩⟩
    box.kind = .typeName ∧
      Matched (boxNode 22) ∧ boxNode 22 ∈ forest.usesIn box "A.elm" boxFile ∧
      Called (boxNode 26) ∧ boxNode 26 ∉ forest.usesIn box "A.elm" boxFile := by
  intro forest box
  have isType : box.kind = .typeName := rfl
  have ⟨isBranch, first, inside, parent, dotted, above, parent', dotted', above', isCall⟩ :=
    boxFile_shape
  have ⟨identifier, place, last, found⟩ : boxFile.kind (boxNode 22) = "upper_case_identifier" ∧
      boxFile.kind (boxNode 20) ∉ ["module_declaration", "import_clause", "value_expr"] ∧
      ((boxFile.namedChildren (boxNode 21)).filter fun m =>
        boxFile.kind m = "upper_case_identifier").getLast? = some (boxNode 22) ∧
      forest.resolveReference "A.elm" (boxNode 22) .typeName = some box ∧
        ¬("A.elm" = box.file ∧ boxFile.span (boxNode 22) = box.span) := by
    decide +kernel
  have isMatched : Matched (boxNode 22) :=
    ⟨.typeName identifier parent dotted above place last, _, _, isBranch, first, inside⟩
  have called : Called (boxNode 26) := ⟨_, _, parent', dotted', above', isCall⟩
  exact ⟨isType, isMatched, ((constructor_uses_iff isType _).2.1 isMatched).mpr found, called,
    (constructor_uses_iff isType _).1 called⟩

end Forest

end ElmOverlay
