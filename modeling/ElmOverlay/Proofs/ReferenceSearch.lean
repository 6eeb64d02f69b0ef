import ElmOverlay.Proofs.Resolution
import ElmOverlay.Syntax.Builder
import ElmOverlay.Workspace.References

/-!
Reference search is the inverse of resolution. The search looks only at nodes with the text of
the definition, of the kinds that can use it, and for local names only in their own file. What
a node resolves to keeps the text of the node, fits its kind, and stays in its file if it is
local, so no use is lost by looking at less.
-/
namespace ElmOverlay

namespace Elm

def identifierKinds : List String :=
  ["lower_case_identifier", "upper_case_identifier", "exposed_value"]

end Elm

namespace Forest

open Elm

variable (forest : Forest)

/-- An identifier, whatever its text, that resolves to a definition. The declaring name itself
and names in type annotations are left out. -/
def pointsTo (d : Definition) (file : FileId) {t : Tree} (n : t.Id) : Bool :=
  identifierKinds.contains (t.kind n) && forest.resolve file n = some d &&
    !(file = d.file && t.span n = d.span) && !(parentKind n = some "type_annotation")

def inverseImage (d : Definition) : List Site :=
  forest.entries.flatMap fun (file, t) =>
    (t.ids.filter (forest.pointsTo d file)).map fun n => ⟨file, t.span n⟩

variable {forest}

theorem resolve_identifier_cases {file : FileId} {t : Tree} {n : t.Id} {d : Definition}
    (identifier : t.kind n ∈ identifierKinds) (h : forest.resolve file n = some d) :
    t.kind n = "lower_case_identifier" ∧ forest.resolveLower file n = some d ∨
      t.kind n = "upper_case_identifier" ∧ forest.resolveUpper file n = some d ∨
      t.kind n = "exposed_value" ∧ forest.resolveExposed file n (t.text n) .function = some d := by
  simp only [identifierKinds, List.mem_cons, List.not_mem_nil, or_false] at identifier
  rcases identifier with lower | upper | entry
  · exact .inl ⟨lower, by simpa [resolve, lower] using h⟩
  · exact .inr (.inl ⟨upper, by simpa [resolve, upper] using h⟩)
  · exact .inr (.inr ⟨entry, by simpa [resolve, entry] using h⟩)

/-- What a definition keeps of an identifier that resolves to it. -/
theorem resolve_keeps {file : FileId} {t : Tree} {n : t.Id} {d : Definition}
    (identifier : t.kind n ∈ identifierKinds) (outside : parentKind n ≠ some "type_annotation")
    (noModule : d.kind ≠ .moduleName) (h : forest.resolve file n = some d) :
    t.text n = d.name ∧ t.kind n ∈ referringKinds d.kind ∧
      (d.kind = .localName → file = d.file) := by
  have value (kind : t.kind n ∈ ["lower_case_identifier", "exposed_value"])
      (answers : d.Answers file (t.text n) .function) :
      t.text n = d.name ∧ t.kind n ∈ referringKinds d.kind ∧
        (d.kind = .localName → file = d.file) := by
    refine ⟨answers.name_eq.symm, ?_⟩
    rcases answers.kind_eq with same | ⟨-, same, home⟩
    · rw [same]
      exact ⟨kind, by intro wrong; cases wrong⟩
    · rw [same]
      exact ⟨kind, fun _ => home.symm⟩
  rcases resolve_identifier_cases identifier h with ⟨lower, found⟩ | ⟨upper, found⟩ | ⟨entry, found⟩
  · exact value (by simp [lower]) (resolveLower_answers outside found)
  · rcases resolveUpper_answers found with answers | isModule
    · rcases answers.kind_eq with same | ⟨wrong, -⟩
      · rw [upper, same]
        exact ⟨answers.name_eq.symm, by simp [referringKinds], by intro wrong; cases wrong⟩
      · cases wrong
    · exact absurd isModule noModule
  · exact value (by simp [entry]) (resolveExposed_answers found)

theorem referringKinds_subset {kind : SymbolKind} {k : String} (h : k ∈ referringKinds kind) :
    k ∈ identifierKinds := by
  cases kind <;> simp_all [referringKinds, identifierKinds] <;> grind

/-- Neither the text, nor the kind, nor the file rules out a node that resolves. -/
theorem mayUse_and_isUse {d : Definition} (noModule : d.kind ≠ .moduleName) (file : FileId)
    {t : Tree} (n : t.Id) :
    (mayUse d file && forest.isUse d file n) = forest.pointsTo d file n := by
  rw [Bool.eq_iff_iff]
  simp only [mayUse, isUse, pointsTo, inSignature, Bool.and_eq_true, Bool.or_eq_true,
    Bool.not_eq_true', decide_eq_true_eq, decide_eq_false_iff_not, List.contains_iff_mem]
  constructor
  · rintro ⟨-, ⟨⟨⟨kind, -⟩, away⟩, outside⟩, found⟩
    exact ⟨⟨⟨referringKinds_subset kind, found⟩, away⟩, outside⟩
  · rintro ⟨⟨⟨identifier, found⟩, away⟩, outside⟩
    obtain ⟨text, kind, home⟩ := resolve_keeps identifier outside noModule found
    refine ⟨?_, ⟨⟨⟨kind, text⟩, away⟩, outside⟩, found⟩
    by_cases isLocal : d.kind = .localName
    · exact .inr (home isLocal)
    · exact .inl isLocal

theorem usesIn_eq_filter {d : Definition} (noModule : d.kind ≠ .moduleName) (file : FileId)
    (t : Tree) : forest.usesIn d file t = t.ids.filter (forest.pointsTo d file) := by
  rw [usesIn, if_neg noModule]
  split
  next may =>
    apply List.filter_congr
    intro n _
    rw [← mayUse_and_isUse noModule, may, Bool.true_and]
  next never =>
    symm
    rw [List.filter_eq_nil_iff]
    intro n _
    rw [← mayUse_and_isUse noModule, Bool.eq_false_iff.mpr never, Bool.false_and]
    exact Bool.false_ne_true

theorem mem_usesIn {d : Definition} (noModule : d.kind ≠ .moduleName) {file : FileId} {t : Tree}
    {n : t.Id} : n ∈ forest.usesIn d file t ↔ t.kind n ∈ identifierKinds ∧
      forest.resolve file n = some d ∧ ¬(file = d.file ∧ t.span n = d.span) ∧
        parentKind n ≠ some "type_annotation" := by
  have listed : n ∈ t.ids := List.mem_finRange n
  rw [usesIn_eq_filter noModule, List.mem_filter, and_iff_right listed, pointsTo]
  simp only [← Bool.decide_and, Bool.and_eq_true, Bool.not_eq_true', decide_eq_true_eq,
    decide_eq_false_iff_not, List.contains_iff_mem, and_assoc, ne_eq]

theorem kind_of_mem_importsOf {t : Tree} {name : String} {q : t.Id} (h : q ∈ importsOf t name) :
    t.kind q = "upper_case_qid" := by
  obtain ⟨inside, -⟩ := List.mem_filter.mp h
  obtain ⟨clause, -, found⟩ := List.mem_filterMap.mp inside
  simpa using List.find?_some found

theorem definition_unique {d e : Definition} (noModule : d.kind ≠ .moduleName) {file : FileId}
    {t : Tree} {n : t.Id} (hd : n ∈ forest.usesIn d file t) (he : n ∈ forest.usesIn e file t) :
    e = d := by
  obtain ⟨identifier, found, -⟩ := (mem_usesIn noModule).mp hd
  by_cases isModule : e.kind = .moduleName
  · rw [usesIn, if_pos isModule] at he
    rw [kind_of_mem_importsOf he] at identifier
    simp [identifierKinds] at identifier
  · obtain ⟨-, found', -⟩ := (mem_usesIn isModule).mp he
    exact Option.some.inj (found'.symm.trans found)

theorem text_of_mem_usesIn {d : Definition} {file : FileId} {t : Tree} {n : t.Id}
    (use : n ∈ forest.usesIn d file t) : t.text n = d.name := by
  unfold usesIn at use
  split at use
  · obtain ⟨-, same⟩ := List.mem_filter.mp use
    exact of_decide_eq_true same
  · split at use
    · obtain ⟨-, isUse⟩ := List.mem_filter.mp use
      simp only [Forest.isUse, Bool.and_eq_true, decide_eq_true_eq] at isUse
      exact isUse.1.1.1.2
    · cases use

theorem mem_references {d : Definition} {site : Site} : site ∈ forest.references d ↔
    ∃ t, forest.get? site.file = some t ∧ ∃ n ∈ forest.usesIn d site.file t,
      t.span n = site.span := by
  obtain ⟨file, span⟩ := site
  simp only [references, List.mem_flatMap, List.mem_map, Prod.exists, mem_entries, Site.mk.injEq]
  constructor
  · rintro ⟨file, t, found, n, use, rfl, rfl⟩
    exact ⟨t, found, n, use, rfl⟩
  · rintro ⟨t, found, n, use, same⟩
    exact ⟨file, t, found, n, use, rfl, same⟩

/-- The uses of a value or a type are exactly the identifiers that resolve to it, in the order
of files and nodes, and no other definition has a node of them among its uses. -/
theorem references_eq_inverseImage (forest : Forest) (d : Definition)
    (noModule : d.kind ≠ .moduleName) :
    forest.references d = forest.inverseImage d ∧
      ∀ (file : FileId) (t : Tree) (n : t.Id) (e : Definition),
        n ∈ forest.usesIn d file t → n ∈ forest.usesIn e file t → e = d := by
  constructor
  · rw [references, inverseImage]
    simp only [usesIn_eq_filter noModule]
  · intro file t n e hd he
    exact definition_unique noModule hd he

end Forest

/-- The calls that build a value referred to by its plain name. -/
def useCalls (name : String) : List BuildCall :=
  [.openHere "value_qid", .leaf "lower_case_identifier" name, .close]

namespace Forest

def ofTexts (files : List (FileId × String × List BuildCall)) : Forest :=
  files.foldl (fun forest (file, text, calls) =>
    match Tree.build text calls with
    | .ok t => forest.insert file t
    | .error _ => forest) .empty

/-- The calls that build a declaration `name = body`. -/
def valueCalls (name : String) (body : List BuildCall) : List BuildCall :=
  [.openHere "value_declaration", .openHere "function_declaration_left",
    .leaf "lower_case_identifier" name, .close, .token "="] ++ body ++ [.close]

/-- One file declares `x`. The other one imports it by name and uses it. -/
def sharedValue : Forest := ofTexts [
  ("A.elm", "module A exposing (..)\nx = 1", [.openHere "file", .openHere "module_declaration",
    .token "module", .openHere "upper_case_qid", .leaf "upper_case_identifier" "A", .close,
    .openHere "exposing_list", .leaf "double_dot" "..", .close, .close,
    .openHere "value_declaration", .openHere "function_declaration_left",
    .leaf "lower_case_identifier" "x", .close, .token "=", .leaf "number_constant_expr" "1",
    .close, .close]),
  ("B.elm", "import A exposing (x)\ny = x", [.openHere "file", .openHere "import_clause",
    .token "import", .openHere "upper_case_qid", .leaf "upper_case_identifier" "A", .close,
    .openHere "exposing_list", .token "exposing", .leaf "exposed_value" "x", .close, .close,
    .openHere "value_declaration", .openHere "function_declaration_left",
    .leaf "lower_case_identifier" "y", .close, .token "=", .openHere "value_qid",
    .leaf "lower_case_identifier" "x", .close, .close, .close])]

theorem references_of_shared_value :
    let d : Definition := ⟨"A.elm", "x", .function, ⟨⟨1, 0⟩, ⟨1, 1⟩⟩⟩
    d.kind ≠ .moduleName ∧
      sharedValue.inverseImage d =
        [⟨"B.elm", ⟨⟨0, 19⟩, ⟨0, 20⟩⟩⟩, ⟨"B.elm", ⟨⟨1, 4⟩, ⟨1, 5⟩⟩⟩] ∧
      sharedValue.references d = sharedValue.inverseImage d := by
  refine ⟨by decide, by decide +kernel, ?_⟩
  exact (references_eq_inverseImage sharedValue _ (by decide)).1

end Forest

end ElmOverlay
