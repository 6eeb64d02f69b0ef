import ElmOverlay.Proofs.Links
import ElmOverlay.Workspace.Resolution

/-!
How a node comes to its definition. Each step of resolution has its routes, one for each way in
which it can answer, and each route says what the step has found on it.
-/
namespace ElmOverlay

namespace Elm

variable {t : Tree}

theorem functionName_eq_some {n name : t.Id} (h : functionName n = some name) :
    t.kind n = "value_declaration" ∧
      ∃ left, t.childOfKind n "function_declaration_left" = some left ∧
        t.childOfKind left "lower_case_identifier" = some name := by
  unfold functionName at h
  split at h
  next kind => exact ⟨kind, Option.bind_eq_some_iff.mp h⟩
  next => cases h

theorem typeName_eq_some {n name : t.Id} (h : typeName n = some name) :
    (t.kind n = "type_declaration" ∨ t.kind n = "type_alias_declaration") ∧
      t.childOfKind n "upper_case_identifier" = some name := by
  unfold typeName at h
  split at h
  next kind => exact ⟨by simpa [isTypeDeclaration] using kind, h⟩
  next => cases h

theorem moduleName_eq_some {qid : t.Id} (h : moduleName t = some qid) :
    ∃ header, t.childOfKind t.root "module_declaration" = some header ∧
      t.childOfKind header "upper_case_qid" = some qid :=
  Option.bind_eq_some_iff.mp h

theorem patternBinder_eq_some {name : String} {pattern b : t.Id}
    (h : patternBinder name pattern = some b) :
    b ∈ t.descendants pattern ∧ t.kind b = "lower_case_identifier" ∧ t.text b = name ∧
      parentKind b = some "lower_pattern" := by
  have inside := List.mem_of_find?_eq_some h
  have binds := List.find?_some h
  simp only [isPatternBinder, Bool.and_eq_true, decide_eq_true_eq] at binds
  exact ⟨inside, binds.1.1, binds.1.2, binds.2⟩

theorem text_scopeBinder {name : String} {scope b : t.Id}
    (h : scopeBinder name scope = some b) : t.text b = name := by
  unfold scopeBinder at h
  split at h
  · obtain ⟨left, -, bound⟩ := Option.bind_eq_some_iff.mp h
    exact (patternBinder_eq_some bound).2.2.1
  · simpa using List.find?_some h
  · obtain ⟨pattern, -, bound⟩ := Option.bind_eq_some_iff.mp h
    exact (patternBinder_eq_some bound).2.2.1
  · obtain ⟨pattern, -, bound⟩ := List.exists_of_findSome?_eq_some h
    exact (patternBinder_eq_some bound).2.2.1
  · cases h

theorem text_enclosingBinder {name : String} {n b : t.Id}
    (h : enclosingBinder name n = some b) : t.text b = name := by
  obtain ⟨scope, -, bound⟩ := List.exists_of_findSome?_eq_some h
  exact text_scopeBinder bound

theorem topLevelName_eq_some {name : String} {kind : SymbolKind} {m : t.Id}
    (h : topLevelName t name kind = some m) :
    t.text m = name ∧ ∃ n ∈ t.namedChildren t.root, declaredName kind n = some m := by
  obtain ⟨n, inside, found⟩ := List.exists_of_findSome?_eq_some h
  obtain ⟨declared, same⟩ := Option.filter_eq_some_iff.mp found
  exact ⟨by simpa using same, n, inside, declared⟩

theorem topLevel_eq_some {file : FileId} {name : String} {kind : SymbolKind} {d : Definition}
    (h : topLevel file t name kind = some d) :
    ∃ m, topLevelName t name kind = some m ∧ d = .ofNode file m kind := by
  obtain ⟨m, found, rfl⟩ := Option.map_eq_some_iff.mp h
  exact ⟨m, found, rfl⟩

theorem functionDefinition_eq_some {file : FileId} {n : t.Id} {d : Definition}
    (h : functionDefinition file n = some d) :
    d = .ofNode file n .function ∨ d = .ofNode file n .localName := by
  obtain ⟨left, -, h⟩ := Option.bind_eq_some_iff.mp h
  obtain ⟨declaration, -, h⟩ := Option.bind_eq_some_iff.mp h
  cases h
  split
  · exact .inl rfl
  · exact .inr rfl

/-- The identifier that a node stands for: itself, or the name in it. -/
def headName (n : t.Id) : Option t.Id :=
  match t.kind n with
  | "lower_case_identifier" | "upper_case_identifier" | "exposed_value" => some n
  | "upper_case_qid" => (t.namedChildren n).getLast?
  | "type_annotation" | "function_declaration_left" => t.childOfKind n "lower_case_identifier"
  | "value_declaration" => functionName n
  | "type_declaration" | "type_alias_declaration" => t.childOfKind n "upper_case_identifier"
  | "module_declaration" =>
    (t.childOfKind n "upper_case_qid").bind fun q => (t.namedChildren q).getLast?
  | _ => none

end Elm

namespace Forest

open Elm

variable {forest : Forest} {file : FileId} {t : Tree}

theorem module?_eq_some {name : String} (h : forest.module? name = some (file, t)) :
    forest.get? file = some t ∧ ∃ qid, moduleName t = some qid ∧ t.text qid = name := by
  refine ⟨mem_entries.mp (List.mem_of_find?_eq_some h), ?_⟩
  have declares := List.find?_some h
  obtain ⟨qid, named, same⟩ := (Option.any_eq_true _ _).mp declares
  exact ⟨qid, named, of_decide_eq_true same⟩

/-! ### Routes -/

theorem exposedByImport_eq_some {name : String} {kind : SymbolKind} {clause : t.Id}
    {d : Definition} (h : forest.exposedByImport name kind clause = some d) :
    ∃ list qid, t.childOfKind clause "exposing_list" = some list ∧
      importedModule clause = some qid ∧ listExposes list name (kind = .function) = true ∧
      forest.importedName qid name kind = some d := by
  obtain ⟨list, hlist, h⟩ := Option.bind_eq_some_iff.mp h
  obtain ⟨qid, hqid, h⟩ := Option.bind_eq_some_iff.mp h
  split at h
  next covers => exact ⟨list, qid, hlist, hqid, covers, h⟩
  next => cases h

theorem qualifiedByImport_eq_some {qual name : String} {kind : SymbolKind} {clause : t.Id}
    {d : Definition} (h : forest.qualifiedByImport qual name kind clause = some d) :
    ∃ qid, importedModule clause = some qid ∧ importQualifier clause qid = qual ∧
      forest.importedName qid name kind = some d := by
  obtain ⟨qid, hqid, h⟩ := Option.bind_eq_some_iff.mp h
  split at h
  next same => exact ⟨qid, hqid, same, h⟩
  next => cases h

theorem exists_open_import {name : String} {kind : SymbolKind} {d : Definition}
    (first : (imports t).findSome? (forest.exposedByImport name kind) = some d) :
    ∃ clause ∈ imports t, ∃ qid, importedModule clause = some qid ∧
      forest.importedName qid name kind = some d := by
  obtain ⟨clause, inside, found⟩ := List.exists_of_findSome?_eq_some first
  obtain ⟨_, qid, -, names, -, declares⟩ := exposedByImport_eq_some found
  exact ⟨clause, inside, qid, names, declares⟩

theorem exists_qualified_import {qual name : String} {kind : SymbolKind} {d : Definition}
    (first : (imports t).findSome? (forest.qualifiedByImport qual name kind) = some d) :
    ∃ clause ∈ imports t, ∃ qid, importedModule clause = some qid ∧
      forest.importedName qid name kind = some d := by
  obtain ⟨clause, inside, found⟩ := List.exists_of_findSome?_eq_some first
  obtain ⟨qid, names, -, declares⟩ := qualifiedByImport_eq_some found
  exact ⟨clause, inside, qid, names, declares⟩

/-- From a name that is used to its definition. -/
inductive ReferenceRoute (forest : Forest) (file : FileId) {t : Tree} (n : t.Id)
    (kind : SymbolKind) (d : Definition) : Prop
  | scope {b : t.Id} (value : kind = .function) (bound : enclosingBinder (t.text n) n = some b)
      (same : d = .ofNode file b .localName)
  | ownFile (found : topLevel file t (t.text n) kind = some d)
  | openImport (unqualified : qualifier n = "")
      (free : kind = .function → enclosingBinder (t.text n) n = none)
      (undeclared : topLevelName t (t.text n) kind = none)
      (first : (imports t).findSome? (forest.exposedByImport (t.text n) kind) = some d)
  | qualifiedImport (qualified : qualifier n ≠ "")
      (foreign : ∀ own, moduleName t = some own → t.text own ≠ qualifier n)
      (first : (imports t).findSome?
        (forest.qualifiedByImport (qualifier n) (t.text n) kind) = some d)

theorem resolveReference_route {n : t.Id} {kind : SymbolKind} {d : Definition}
    (h : forest.resolveReference file n kind = some d) :
    forest.ReferenceRoute file n kind d := by
  unfold resolveReference at h
  dsimp only at h
  split at h
  next unqualified =>
    rcases Option.or_eq_some_iff.mp h with h | ⟨nearer, first⟩
    · rcases Option.or_eq_some_iff.mp h with h | ⟨-, h⟩
      · obtain ⟨b, bound, same⟩ := Option.map_eq_some_iff.mp h
        split at bound
        next value => exact .scope value bound same.symm
        next => cases bound
      · exact .ownFile h
    · obtain ⟨unbound, undeclared⟩ := Option.or_eq_none_iff.mp nearer
      have free (value : kind = .function) : enclosingBinder (t.text n) n = none := by
        simpa [value] using unbound
      exact .openImport (String.isEmpty_iff.mp unqualified) free
        (Option.map_eq_none_iff.mp undeclared) first
  next qualified =>
    unfold resolveQualified at h
    split at h
    next => exact .ownFile h
    next foreign =>
      refine .qualifiedImport (fun empty => qualified (String.isEmpty_iff.mpr empty)) ?_ h
      intro own named same
      exact foreign (by simp [named, same])

/-- From an entry of an exposing list to its definition. -/
inductive EntryRoute (forest : Forest) (file : FileId) {t : Tree} (entry : t.Id)
    (name : String) (kind : SymbolKind) (d : Definition) : Prop
  | header (found : topLevel file t name kind = some d)
  | importList {list clause qid : t.Id} (inList : t.parent entry = some list)
      (ofClause : t.parent list = some clause) (isImport : t.kind clause = "import_clause")
      (names : importedModule clause = some qid)
      (declares : forest.importedName qid name kind = some d)

theorem resolveExposed_route {entry : t.Id} {name : String} {kind : SymbolKind} {d : Definition}
    (h : forest.resolveExposed file entry name kind = some d) :
    forest.EntryRoute file entry name kind d := by
  obtain ⟨list, inList, h⟩ := Option.bind_eq_some_iff.mp h
  obtain ⟨owner, ofOwner, h⟩ := Option.bind_eq_some_iff.mp h
  split at h
  next => exact .header h
  next isImport =>
    obtain ⟨qid, names, declares⟩ := Option.bind_eq_some_iff.mp h
    exact .importList inList ofOwner isImport names declares
  next => cases h

/-- From a lower-case identifier to its definition. -/
inductive LowerRoute (forest : Forest) (file : FileId) {t : Tree} (n : t.Id)
    (d : Definition) : Prop
  | declared {left : t.Id} (parent : t.parent n = some left)
      (place : t.kind left = "function_declaration_left")
      (found : functionDefinition file n = some d)
  | pattern {owner : t.Id} (parent : t.parent n = some owner)
      (place : t.kind owner = "lower_pattern") (same : d = .ofNode file n .localName)
  | signature {owner next name : t.Id} (parent : t.parent n = some owner)
      (place : t.kind owner = "type_annotation") (named : functionName next = some name)
      (same : t.text name = t.text n) (found : functionDefinition file name = some d)
  | reference {owner : t.Id} (parent : t.parent n = some owner)
      (place : t.kind owner = "value_qid")
      (found : forest.resolveReference file n .function = some d)

theorem resolveLower_route {n : t.Id} {d : Definition} (h : forest.resolveLower file n = some d) :
    forest.LowerRoute file n d := by
  obtain ⟨owner, parent, h⟩ := Option.bind_eq_some_iff.mp h
  split at h
  next place => exact .declared parent place h
  next place =>
    cases h
    exact .pattern parent place rfl
  next place =>
    obtain ⟨next, -, h⟩ := Option.bind_eq_some_iff.mp h
    obtain ⟨name, named, h⟩ := Option.bind_eq_some_iff.mp h
    split at h
    next same => exact .signature parent place named same h
    next => cases h
  next place => exact .reference parent place h
  next => cases h

/-- From an upper-case identifier to its definition. -/
inductive UpperRoute (forest : Forest) (file : FileId) {t : Tree} (n : t.Id)
    (d : Definition) : Prop
  | declared {owner : t.Id} (parent : t.parent n = some owner)
      (declares : typeName owner = some n) (same : d = .ofNode file n .typeName)
  | header {qid holder : t.Id} (parent : t.parent n = some qid)
      (dotted : t.kind qid = "upper_case_qid") (above : t.parent qid = some holder)
      (place : t.kind holder = "module_declaration") (same : d = .ofNode file qid .moduleName)
  | imported {qid holder : t.Id} (parent : t.parent n = some qid)
      (dotted : t.kind qid = "upper_case_qid") (above : t.parent qid = some holder)
      (place : t.kind holder = "import_clause") (found : forest.resolveImport qid = some d)
  | reference {qid holder : t.Id} (parent : t.parent n = some qid)
      (dotted : t.kind qid = "upper_case_qid") (above : t.parent qid = some holder)
      (place : t.kind holder ∉ ["module_declaration", "import_clause", "value_expr"])
      (last : ((t.namedChildren qid).filter fun m =>
        t.kind m = "upper_case_identifier").getLast? = some n)
      (found : forest.resolveReference file n .typeName = some d)
  | entry {owner : t.Id} (parent : t.parent n = some owner)
      (place : t.kind owner = "exposed_type")
      (found : forest.resolveExposed file owner (t.text n) .typeName = some d)

theorem resolveUpper_route {n : t.Id} {d : Definition} (h : forest.resolveUpper file n = some d) :
    forest.UpperRoute file n d := by
  have declared {owner : t.Id} (parent : t.parent n = some owner)
      (isType : isTypeDeclaration owner = true)
      (h : (if t.childOfKind owner "upper_case_identifier" = some n then
        some (Definition.ofNode file n .typeName) else none) = some d) :
      forest.UpperRoute file n d := by
    split at h
    next name =>
      cases h
      exact .declared parent (by rw [typeName, if_pos isType, name]) rfl
    next => cases h
  obtain ⟨owner, parent, h⟩ := Option.bind_eq_some_iff.mp h
  split at h
  next place => exact declared parent (by simp [isTypeDeclaration, place]) h
  next place => exact declared parent (by simp [isTypeDeclaration, place]) h
  next dotted =>
    obtain ⟨holder, above, h⟩ := Option.bind_eq_some_iff.mp h
    split at h
    next place =>
      cases h
      exact .header parent dotted above place rfl
    next place => exact .imported parent dotted above place h
    next => cases h
    next noHeader noImport noCall =>
      dsimp only at h
      split at h
      next last =>
        have place : t.kind holder ∉ ["module_declaration", "import_clause", "value_expr"] := by
          simp only [List.mem_cons, List.not_mem_nil, or_false, not_or]
          exact ⟨noHeader, noImport, noCall⟩
        exact .reference parent dotted above place last h
      next => cases h
  next place => exact .entry parent place h
  next => cases h

theorem resolveImport_eq_some {qid : t.Id} {d : Definition}
    (h : forest.resolveImport qid = some d) :
    ∃ (home : FileId) (u : Tree) (name : u.Id), forest.get? home = some u ∧
      moduleName u = some name ∧ u.text name = t.text qid ∧ d = .ofNode home name .moduleName := by
  obtain ⟨⟨home, u⟩, declares, h⟩ := Option.bind_eq_some_iff.mp h
  obtain ⟨name, named, h⟩ := Option.bind_eq_some_iff.mp h
  cases h
  obtain ⟨found, own, same, text⟩ := module?_eq_some declares
  obtain rfl : own = name := Option.some.inj (same.symm.trans named)
  exact ⟨home, u, own, found, named, text, rfl⟩

/-- A node resolves as the identifier that it stands for, or as an entry of an exposing list. -/
theorem resolve_cases {n : t.Id} {d : Definition} (h : forest.resolve file n = some d) :
    t.kind n = "exposed_value" ∧ forest.resolveExposed file n (t.text n) .function = some d ∨
      t.kind n ≠ "exposed_value" ∧ ∃ i, headName n = some i ∧
        (t.kind i = "lower_case_identifier" ∧ forest.resolveLower file i = some d ∨
          forest.resolveUpper file i = some d) := by
  unfold resolve at h
  split at h
  next kind => exact .inr ⟨by simp [kind], n, by simp [headName, kind], .inl ⟨kind, h⟩⟩
  next kind => exact .inr ⟨by simp [kind], n, by simp [headName, kind], .inr h⟩
  next kind => exact .inl ⟨kind, h⟩
  next kind =>
    obtain ⟨i, last, found⟩ := Option.bind_eq_some_iff.mp h
    exact .inr ⟨by simp [kind], i, by simp [headName, kind, last], .inr found⟩
  next kind =>
    obtain ⟨i, name, found⟩ := Option.bind_eq_some_iff.mp h
    have lower := (Tree.childOfKind_eq_some name).2.2
    exact .inr ⟨by simp [kind], i, by simp [headName, kind, name], .inl ⟨lower, found⟩⟩
  next kind =>
    obtain ⟨i, name, found⟩ := Option.bind_eq_some_iff.mp h
    have lower := (Tree.childOfKind_eq_some name).2.2
    exact .inr ⟨by simp [kind], i, by simp [headName, kind, name], .inl ⟨lower, found⟩⟩
  next kind =>
    obtain ⟨i, named, found⟩ := Option.bind_eq_some_iff.mp h
    obtain ⟨-, left, -, name⟩ := functionName_eq_some named
    have lower := (Tree.childOfKind_eq_some name).2.2
    exact .inr ⟨by simp [kind], i, by simp [headName, kind, named], .inl ⟨lower, found⟩⟩
  next kind =>
    obtain ⟨i, name, found⟩ := Option.bind_eq_some_iff.mp h
    exact .inr ⟨by simp [kind], i, by simp [headName, kind, name], .inr found⟩
  next kind =>
    obtain ⟨i, name, found⟩ := Option.bind_eq_some_iff.mp h
    exact .inr ⟨by simp [kind], i, by simp [headName, kind, name], .inr found⟩
  next kind =>
    obtain ⟨q, dotted, h⟩ := Option.bind_eq_some_iff.mp h
    obtain ⟨i, last, found⟩ := Option.bind_eq_some_iff.mp h
    exact .inr ⟨by simp [kind], i, by simp [headName, kind, dotted, last], .inr found⟩
  next => cases h

end Forest

end ElmOverlay
