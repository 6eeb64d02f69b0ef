import ElmOverlay.Proofs.Routes

/-!
What a look-up can answer. Every look-up answers with the name that it was asked for, and with
the kind of symbol that it was asked for, except that a value may also be a local name of the
asking file.
-/
namespace ElmOverlay

/-- A definition that a look-up from `file` may answer with. -/
structure Definition.Answers (d : Definition) (file : FileId) (name : String)
    (kind : SymbolKind) : Prop where
  name_eq : d.name = name
  kind_eq : d.kind = kind ∨ kind = .function ∧ d.kind = .localName ∧ d.file = file

theorem Definition.ofNode_answers {t : Tree} (file asking : FileId) (n : t.Id)
    (kind : SymbolKind) : (Definition.ofNode file n kind).Answers asking (t.text n) kind where
  name_eq := by simp
  kind_eq := .inl (by simp)

theorem Definition.localName_answers {t : Tree} (file : FileId) (n : t.Id) :
    (Definition.ofNode file n .localName).Answers file (t.text n) .function where
  name_eq := by simp
  kind_eq := .inr (by simp)

/-- Only a local name can have another kind than asked for, and that is of the asking file. -/
theorem Definition.Answers.kind_elsewhere {file : FileId} {d : Definition} {name : String}
    {kind : SymbolKind} (answers : d.Answers file name kind) (elsewhere : file ≠ d.file) :
    d.kind = kind := by
  rcases answers.kind_eq with same | ⟨-, -, home⟩
  · exact same
  · exact absurd home.symm elsewhere

namespace Elm

theorem topLevel_answers {t : Tree} {file asking : FileId} {name : String} {kind : SymbolKind}
    {d : Definition} (h : topLevel file t name kind = some d) :
    d.Answers asking name kind := by
  obtain ⟨m, found, rfl⟩ := topLevel_eq_some h
  have text := (topLevelName_eq_some found).1
  subst text
  exact Definition.ofNode_answers file asking m kind

end Elm

namespace Forest

open Elm

variable {forest : Forest} {file : FileId} {t : Tree}

theorem importedName_answers {qid : t.Id} {name : String} {kind : SymbolKind} {d : Definition}
    (h : forest.importedName qid name kind = some d) : d.Answers file name kind := by
  obtain ⟨⟨_, _⟩, -, found⟩ := Option.bind_eq_some_iff.mp h
  exact topLevel_answers found

theorem resolveReference_answers {n : t.Id} {kind : SymbolKind} {d : Definition}
    (h : forest.resolveReference file n kind = some d) : d.Answers file (t.text n) kind := by
  cases resolveReference_route h with
  | @scope b value bound same =>
    subst same
    rw [← text_enclosingBinder bound, value]
    exact Definition.localName_answers file b
  | ownFile found => exact topLevel_answers found
  | openImport unqualified free undeclared first =>
    obtain ⟨_, -, _, -, imported⟩ := exists_open_import first
    exact importedName_answers imported
  | qualifiedImport qualified foreign first =>
    obtain ⟨_, -, _, -, imported⟩ := exists_qualified_import first
    exact importedName_answers imported

theorem resolveExposed_answers {entry : t.Id} {name : String} {kind : SymbolKind}
    {d : Definition} (h : forest.resolveExposed file entry name kind = some d) :
    d.Answers file name kind := by
  cases resolveExposed_route h with
  | header found => exact topLevel_answers found
  | importList inList ofClause isImport names declares => exact importedName_answers declares

/-! ### Only a scope answers with another kind -/

theorem kind_topLevel {name : String} {kind : SymbolKind} {d : Definition}
    (h : topLevel file t name kind = some d) : d.kind = kind := by
  obtain ⟨m, -, rfl⟩ := topLevel_eq_some h
  exact Definition.kind_ofNode file m kind

theorem kind_importedName {qid : t.Id} {name : String} {kind : SymbolKind} {d : Definition}
    (h : forest.importedName qid name kind = some d) : d.kind = kind := by
  obtain ⟨⟨_, _⟩, -, found⟩ := Option.bind_eq_some_iff.mp h
  exact kind_topLevel found

theorem kind_resolveQualified {qual name : String} {kind : SymbolKind} {d : Definition}
    (h : forest.resolveQualified file t qual name kind = some d) : d.kind = kind := by
  unfold resolveQualified at h
  split at h
  next => exact kind_topLevel h
  next =>
    obtain ⟨_, -, _, -, imported⟩ := exists_qualified_import h
    exact kind_importedName imported

theorem kind_resolveExposed {entry : t.Id} {name : String} {kind : SymbolKind} {d : Definition}
    (h : forest.resolveExposed file entry name kind = some d) : d.kind = kind := by
  cases resolveExposed_route h with
  | header found => exact kind_topLevel found
  | importList inList ofClause isImport names declares => exact kind_importedName declares

/-! ### Identifiers -/

/-- A lower-case identifier stands for a value of its own text, except in an annotation. -/
theorem resolveLower_answers {n : t.Id} {d : Definition}
    (outside : parentKind n ≠ some "type_annotation") (h : forest.resolveLower file n = some d) :
    d.Answers file (t.text n) .function := by
  cases resolveLower_route h with
  | declared parent place found =>
    rcases functionDefinition_eq_some found with rfl | rfl
    · exact Definition.ofNode_answers file file n .function
    · exact Definition.localName_answers file n
  | pattern parent place same =>
    subst same
    exact Definition.localName_answers file n
  | signature parent place named same found =>
    exact absurd (by simp [parentKind, parent, place]) outside
  | reference parent place found => exact resolveReference_answers found

theorem resolveUpper_answers {n : t.Id} {d : Definition}
    (h : forest.resolveUpper file n = some d) :
    d.Answers file (t.text n) .typeName ∨ d.kind = .moduleName := by
  cases resolveUpper_route h with
  | declared parent declares same =>
    subst same
    exact .inl (Definition.ofNode_answers file file n .typeName)
  | header parent dotted above place same =>
    subst same
    exact .inr rfl
  | imported parent dotted above place found =>
    obtain ⟨_, _, _, -, -, -, rfl⟩ := resolveImport_eq_some found
    exact .inr rfl
  | reference parent dotted above place last found => exact .inl (resolveReference_answers found)
  | entry parent place found => exact .inl (resolveExposed_answers found)

end Forest

end ElmOverlay
