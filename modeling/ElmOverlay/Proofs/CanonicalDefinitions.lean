import ElmOverlay.Proofs.LensSubject

/-!
Definitions are canonical. Whatever node a definition was reached from, it is the definition of
its own declaring node, so two nodes mean one symbol exactly if their definitions are equal. The
kind is decided in several places: a scope answers with a local name, the top level with a
function, and the declaring node says by its own position which of the two it is.
-/
namespace ElmOverlay

open Elm

/-- What resolution relies on in a file. Only the root has no parent, as `Tree.rooted_of_finish`
says of all built trees; the root is a `file`, so no scope is the root; and each dotted name has
a part. -/
structure Tree.Filelike (t : Tree) : Prop where
  rooted : ∀ n : t.Id, t.parent n = none → n = t.root
  file : t.kind t.root = "file"
  dotted : ∀ q : t.Id, t.kind q = "upper_case_qid" → t.namedChildren q ≠ []

instance (t : Tree) : Decidable t.Filelike :=
  decidable_of_iff ((∀ n : t.Id, t.parent n = none → n = t.root) ∧ t.kind t.root = "file" ∧
      ∀ q : t.Id, t.kind q = "upper_case_qid" → t.namedChildren q ≠ [])
    ⟨fun ⟨a, b, c⟩ => ⟨a, b, c⟩, fun ⟨a, b, c⟩ => ⟨a, b, c⟩⟩

/-- A definition that its own declaring node resolves to. -/
def Forest.Canonical (forest : Forest) (d : Definition) : Prop :=
  ∃ t, forest.get? d.file = some t ∧
    ∃ m : t.Id, t.span m = d.span ∧ t.text m = d.name ∧ forest.resolve d.file m = some d

namespace Forest

variable {forest : Forest} {file : FileId} {t : Tree}

theorem canonical_ofNode (found : forest.get? file = some t) {m : t.Id} {kind : SymbolKind}
    (self : forest.resolve file m = some (.ofNode file m kind)) :
    forest.Canonical (.ofNode file m kind) := by
  rw [Canonical, Definition.file_ofNode, Definition.name_ofNode, Definition.span_ofNode]
  exact ⟨t, found, m, rfl, rfl, self⟩

/-! ### Declarations of the top level -/

theorem topLevel_canonical (found : forest.get? file = some t) {name : String}
    {kind : SymbolKind} {d : Definition} (h : topLevel file t name kind = some d) :
    forest.Canonical d := by
  obtain ⟨m, top, rfl⟩ := topLevel_eq_some h
  obtain ⟨-, n, child, declared⟩ := topLevelName_eq_some top
  apply canonical_ofNode found
  cases kind with
  | function => exact resolve_functionName (List.mem_filter.mp child).1 declared
  | typeName => exact resolve_typeName declared
  | moduleName => cases declared
  | localName => cases declared

theorem importedName_canonical {qid : t.Id} {name : String} {kind : SymbolKind}
    {d : Definition} (h : forest.importedName qid name kind = some d) : forest.Canonical d := by
  obtain ⟨⟨_, _⟩, declares, h⟩ := Option.bind_eq_some_iff.mp h
  exact topLevel_canonical (module?_eq_some declares).1 h

/-! ### Local names -/

theorem resolve_patternName {b : t.Id} (kind : t.kind b = "lower_case_identifier")
    (place : parentKind b = some "lower_pattern") :
    forest.resolve file b = some (.ofNode file b .localName) := by
  obtain ⟨pattern, parent, isPattern⟩ := Option.map_eq_some_iff.mp place
  simp [resolve, kind, resolveLower, parent, isPattern]

/-- A name of a `let` is declared below the top level, since a `let` is not the root. -/
theorem resolve_letName (shaped : t.Filelike) {scope n b : t.Id}
    (isLet : t.kind scope = "let_in_expr") (child : t.parent n = some scope)
    (named : functionName n = some b) :
    forest.resolve file b = some (.ofNode file b .localName) := by
  obtain ⟨-, left, hleft, hname⟩ := functionName_eq_some named
  obtain ⟨owner, -, kind⟩ := Tree.childOfKind_eq_some hname
  obtain ⟨declaration, -, isLeft⟩ := Tree.childOfKind_eq_some hleft
  have inner : isTopLevel n = false := by
    cases above : t.parent scope with
    | none =>
      rw [shaped.rooted scope above, shaped.file] at isLet
      exact absurd isLet (by decide)
    | some p => simp [isTopLevel, child, above]
  simp [resolve, kind, resolveLower, owner, isLeft, functionDefinition, declaration, inner]

theorem resolve_scopeBinder (shaped : t.Filelike) {name : String} {scope b : t.Id}
    (h : scopeBinder name scope = some b) :
    forest.resolve file b = some (.ofNode file b .localName) := by
  have pattern {p : t.Id} (bound : patternBinder name p = some b) :
      forest.resolve file b = some (.ofNode file b .localName) := by
    obtain ⟨-, kind, -, place⟩ := patternBinder_eq_some bound
    exact resolve_patternName kind place
  unfold scopeBinder at h
  split at h
  · obtain ⟨left, -, bound⟩ := Option.bind_eq_some_iff.mp h
    exact pattern bound
  next isLet =>
    obtain ⟨n, child, named⟩ := List.mem_filterMap.mp (List.mem_of_find?_eq_some h)
    exact resolve_letName shaped isLet (Tree.mem_namedChildren.mp child).1 named
  · obtain ⟨first, -, bound⟩ := Option.bind_eq_some_iff.mp h
    exact pattern bound
  · obtain ⟨parameter, -, bound⟩ := List.exists_of_findSome?_eq_some h
    exact pattern bound
  · cases h

/-! ### Look-ups -/

theorem resolveReference_canonical (found : forest.get? file = some t) (shaped : t.Filelike)
    {n : t.Id} {kind : SymbolKind} {d : Definition}
    (h : forest.resolveReference file n kind = some d) : forest.Canonical d := by
  cases resolveReference_route h with
  | scope value bound same =>
    subst same
    obtain ⟨scope, -, bound⟩ := List.exists_of_findSome?_eq_some bound
    exact canonical_ofNode found (resolve_scopeBinder shaped bound)
  | ownFile top => exact topLevel_canonical found top
  | openImport unqualified free undeclared first =>
    obtain ⟨_, -, _, -, imported⟩ := exists_open_import first
    exact importedName_canonical imported
  | qualifiedImport qualified foreign first =>
    obtain ⟨_, -, _, -, imported⟩ := exists_qualified_import first
    exact importedName_canonical imported

theorem resolveExposed_canonical (found : forest.get? file = some t) {entry : t.Id}
    {name : String} {kind : SymbolKind} {d : Definition}
    (h : forest.resolveExposed file entry name kind = some d) : forest.Canonical d := by
  cases resolveExposed_route h with
  | header top => exact topLevel_canonical found top
  | importList inList ofClause isImport names declares => exact importedName_canonical declares

theorem functionDefinition_canonical (found : forest.get? file = some t) {left n : t.Id}
    {d : Definition} (kind : t.kind n = "lower_case_identifier") (parent : t.parent n = some left)
    (place : t.kind left = "function_declaration_left")
    (h : functionDefinition file n = some d) : forest.Canonical d := by
  have self : forest.resolve file n = some d := by
    simpa [resolve, kind, resolveLower, parent, place] using h
  rcases functionDefinition_eq_some h with rfl | rfl
  · exact canonical_ofNode found self
  · exact canonical_ofNode found self

theorem resolveLower_canonical (found : forest.get? file = some t) (shaped : t.Filelike)
    {n : t.Id} {d : Definition} (kind : t.kind n = "lower_case_identifier")
    (h : forest.resolveLower file n = some d) : forest.Canonical d := by
  cases resolveLower_route h with
  | declared parent place h => exact functionDefinition_canonical found kind parent place h
  | pattern parent place same =>
    subst same
    have inPattern : parentKind n = some "lower_pattern" := by simp [parentKind, parent, place]
    exact canonical_ofNode found (resolve_patternName kind inPattern)
  | signature parent place named same h =>
    obtain ⟨-, left, hleft, hname⟩ := functionName_eq_some named
    obtain ⟨above, -, lower⟩ := Tree.childOfKind_eq_some hname
    have isLeft := (Tree.childOfKind_eq_some hleft).2.2
    exact functionDefinition_canonical found lower above isLeft h
  | reference parent place h => exact resolveReference_canonical found shaped h

/-! ### Modules -/

/-- A dotted name means what its last part means, whatever kind of node that is. -/
theorem resolve_dotted {q : t.Id} (dotted : t.kind q = "upper_case_qid")
    (parts : t.namedChildren q ≠ []) :
    ∃ part, forest.resolve file q = forest.resolveSegment file q part := by
  have last := List.getLast?_eq_some_getLast parts
  have parent := (Tree.mem_namedChildren.mp (List.mem_of_getLast? last)).1
  refine ⟨(t.namedChildren q).getLast parts, ?_⟩
  simp [resolve, dotted, resolveDotted, last, resolveUpper, parent]

theorem resolve_headerName {qid owner : t.Id} (dotted : t.kind qid = "upper_case_qid")
    (parts : t.namedChildren qid ≠ []) (parent : t.parent qid = some owner)
    (place : t.kind owner = "module_declaration") :
    forest.resolve file qid = some (.ofNode file qid .moduleName) := by
  obtain ⟨part, same⟩ := resolve_dotted dotted parts
  rw [same]
  simp [resolveSegment, parent, place]

theorem resolveImport_canonical (shaped : ∀ file t, forest.get? file = some t → t.Filelike)
    {qid : t.Id} {d : Definition} (h : forest.resolveImport qid = some d) :
    forest.Canonical d := by
  obtain ⟨home, u, name, found, named, -, rfl⟩ := resolveImport_eq_some h
  obtain ⟨header, hheader, hname⟩ := moduleName_eq_some named
  obtain ⟨parent, -, dotted⟩ := Tree.childOfKind_eq_some hname
  have place := (Tree.childOfKind_eq_some hheader).2.2
  have parts := (shaped home u found).dotted name dotted
  exact canonical_ofNode found (resolve_headerName dotted parts parent place)

theorem resolveUpper_canonical (shaped : ∀ file t, forest.get? file = some t → t.Filelike)
    (found : forest.get? file = some t) {n : t.Id} {d : Definition}
    (h : forest.resolveUpper file n = some d) : forest.Canonical d := by
  cases resolveUpper_route h with
  | declared parent declares same =>
    subst same
    exact canonical_ofNode found (resolve_typeName declares)
  | header parent dotted above place same =>
    subst same
    have parts := (shaped file t found).dotted _ dotted
    exact canonical_ofNode found (resolve_headerName dotted parts above place)
  | imported parent dotted above place h => exact resolveImport_canonical shaped h
  | reference parent dotted above place last h =>
    exact resolveReference_canonical found (shaped file t found) h
  | entry parent place h => exact resolveExposed_canonical found h

/-- Resolving the declaring node of a definition gives the definition again. Whichever node of
whichever file it was reached from, its file is in the workspace and has a node with its name
at its place that resolves to it. -/
theorem resolve_canonical (shaped : ∀ file t, forest.get? file = some t → t.Filelike)
    (found : forest.get? file = some t) {n : t.Id} {d : Definition}
    (h : forest.resolve file n = some d) :
    ∃ u, forest.get? d.file = some u ∧
      ∃ m : u.Id, u.span m = d.span ∧ u.text m = d.name ∧ forest.resolve d.file m = some d := by
  rcases resolve_cases h with ⟨-, entry⟩ | ⟨-, i, -, ⟨kind, lower⟩ | upper⟩
  · exact resolveExposed_canonical found entry
  · exact resolveLower_canonical found (shaped file t found) kind lower
  · exact resolveUpper_canonical shaped found upper

/-- A `let` binds `y`, which its body uses. -/
def letFile : Tree :=
  (Tree.build "x = let y = 1 in y" [.openHere "file",
    .openHere "value_declaration", .openHere "function_declaration_left",
    .leaf "lower_case_identifier" "x", .close, .token "=", .openHere "let_in_expr", .token "let",
    .openHere "value_declaration", .openHere "function_declaration_left",
    .leaf "lower_case_identifier" "y", .close, .token "=", .leaf "number_constant_expr" "1",
    .close, .token "in", .openHere "value_qid", .leaf "lower_case_identifier" "y", .close,
    .close, .close, .close]).toOption.get (by decide +kernel)

theorem let_use_canonical :
    let forest := empty.insert "A.elm" letFile
    let d : Definition := ⟨"A.elm", "y", .localName, ⟨⟨0, 8⟩, ⟨0, 9⟩⟩⟩
    let use : letFile.Id := ⟨14, by decide +kernel⟩
    (∀ file t, forest.get? file = some t → t.Filelike) ∧
      forest.get? "A.elm" = some letFile ∧ forest.resolve "A.elm" use = some d ∧
      ∃ u, forest.get? d.file = some u ∧
        ∃ m : u.Id, u.span m = d.span ∧ u.text m = d.name ∧ forest.resolve d.file m = some d := by
  intro forest d use
  have shaped : ∀ file t, forest.get? file = some t → t.Filelike := by
    intro file t found
    rw [get?_insert] at found
    split at found
    · cases found
      decide +kernel
    · cases found
  have found : forest.get? "A.elm" = some letFile := by rw [get?_insert, if_pos rfl]
  have resolved : forest.resolve "A.elm" use = some d := by decide +kernel
  exact ⟨shaped, found, resolved, resolve_canonical shaped found resolved⟩

end Forest

end ElmOverlay
