import ElmOverlay.Proofs.ReferenceSearch

/-!
Uses of a declaration in files other than its own. There are three ways to such a use, and each
goes through an import of the file that uses it: an entry in the list of the import, a plain name
that the list covers, and a name with the qualifier of the import. The header of the declaring
module stands in none of them, so a name that it hides may be used elsewhere all the same, even in
place of an equal name that another module does expose.
-/
namespace ElmOverlay

namespace Elm

variable {t : Tree}

/-- An identifier in a place where it refers to a value or a type. -/
inductive Refers : SymbolKind → t.Id → Prop
  | value {n owner : t.Id} (identifier : t.kind n = "lower_case_identifier")
      (parent : t.parent n = some owner) (place : t.kind owner = "value_qid") :
      Refers .function n
  | typeName {n qid owner : t.Id} (identifier : t.kind n = "upper_case_identifier")
      (parent : t.parent n = some qid) (dotted : t.kind qid = "upper_case_qid")
      (above : t.parent qid = some owner)
      (place : t.kind owner ∉ ["module_declaration", "import_clause", "value_expr"])
      (last : ((t.namedChildren qid).filter fun m =>
        t.kind m = "upper_case_identifier").getLast? = some n) :
      Refers .typeName n

/-- A name in an entry of an exposing list. -/
inductive Lists : SymbolKind → t.Id → t.Id → Prop
  | value {n : t.Id} (identifier : t.kind n = "exposed_value") : Lists .function n n
  | typeName {n entry : t.Id} (identifier : t.kind n = "upper_case_identifier")
      (parent : t.parent n = some entry) (place : t.kind entry = "exposed_type") :
      Lists .typeName n entry

end Elm

open Elm

namespace Forest

variable {forest : Forest} {file : FileId} {t : Tree}

/-- How an identifier reaches a declaration through an import of its own file. -/
inductive BroughtIn (forest : Forest) {t : Tree} (n : t.Id) (d : Definition) : Prop
  | entry {item list clause qid : t.Id} (lists : Lists d.kind n item)
      (inList : t.parent item = some list) (ofClause : t.parent list = some clause)
      (isImport : t.kind clause = "import_clause") (names : importedModule clause = some qid)
      (declares : forest.importedName qid (t.text n) d.kind = some d)
  | plain (refers : Refers d.kind n) (unqualified : qualifier n = "")
      (free : d.kind = .function → enclosingBinder (t.text n) n = none)
      (undeclared : topLevelName t (t.text n) d.kind = none)
      (first : (imports t).findSome? (forest.exposedByImport (t.text n) d.kind) = some d)
  | qualified (refers : Refers d.kind n) (qualified : qualifier n ≠ "")
      (foreign : ∀ own, moduleName t = some own → t.text own ≠ qualifier n)
      (first : (imports t).findSome?
        (forest.qualifiedByImport (qualifier n) (t.text n) d.kind) = some d)

theorem file_topLevel {name : String} {kind : SymbolKind} {d : Definition}
    (h : topLevel file t name kind = some d) : d.file = file := by
  obtain ⟨m, -, rfl⟩ := topLevel_eq_some h
  exact Definition.file_ofNode file m kind

/-! ### What resolves elsewhere is brought in -/

theorem file_functionDefinition {n : t.Id} {d : Definition}
    (h : functionDefinition file n = some d) : d.file = file := by
  rcases functionDefinition_eq_some h with rfl | rfl
  · exact Definition.file_ofNode file n .function
  · exact Definition.file_ofNode file n .localName

theorem broughtIn_of_resolveReference {n : t.Id} {kind : SymbolKind} {d : Definition}
    (elsewhere : file ≠ d.file) (refers : Refers kind n)
    (h : forest.resolveReference file n kind = some d) : forest.BroughtIn n d := by
  obtain rfl := (resolveReference_answers h).kind_elsewhere elsewhere
  cases resolveReference_route h with
  | scope value bound same => exact absurd (same ▸ Definition.file_ofNode ..).symm elsewhere
  | ownFile found => exact absurd (file_topLevel found).symm elsewhere
  | openImport unqualified free undeclared first =>
    exact .plain refers unqualified free undeclared first
  | qualifiedImport qualified foreign first => exact .qualified refers qualified foreign first

theorem broughtIn_of_resolveExposed {n item : t.Id} {kind : SymbolKind} {d : Definition}
    (elsewhere : file ≠ d.file) (lists : Lists kind n item)
    (h : forest.resolveExposed file item (t.text n) kind = some d) : forest.BroughtIn n d := by
  obtain rfl := (resolveExposed_answers h).kind_elsewhere elsewhere
  cases resolveExposed_route h with
  | header found => exact absurd (file_topLevel found).symm elsewhere
  | importList inList ofClause isImport names declares =>
    exact .entry lists inList ofClause isImport names declares

theorem broughtIn_of_resolveLower {n : t.Id} {d : Definition} (elsewhere : file ≠ d.file)
    (identifier : t.kind n = "lower_case_identifier")
    (h : forest.resolveLower file n = some d) : forest.BroughtIn n d := by
  cases resolveLower_route h with
  | declared parent place found => exact absurd (file_functionDefinition found).symm elsewhere
  | pattern parent place same => exact absurd (same ▸ Definition.file_ofNode ..).symm elsewhere
  | signature parent place named same found =>
    exact absurd (file_functionDefinition found).symm elsewhere
  | reference parent place found =>
    exact broughtIn_of_resolveReference elsewhere (.value identifier parent place) found

theorem broughtIn_of_resolveUpper {n : t.Id} {d : Definition} (elsewhere : file ≠ d.file)
    (noModule : d.kind ≠ .moduleName) (identifier : t.kind n = "upper_case_identifier")
    (h : forest.resolveUpper file n = some d) : forest.BroughtIn n d := by
  cases resolveUpper_route h with
  | declared parent declares same =>
    exact absurd (same ▸ Definition.file_ofNode ..).symm elsewhere
  | header parent dotted above place same =>
    exact absurd (same ▸ Definition.kind_ofNode ..) noModule
  | imported parent dotted above place found =>
    obtain ⟨_, _, _, -, -, -, rfl⟩ := resolveImport_eq_some found
    exact absurd (Definition.kind_ofNode ..) noModule
  | reference parent dotted above place last found =>
    exact broughtIn_of_resolveReference elsewhere
      (.typeName identifier parent dotted above place last) found
  | entry parent place found =>
    exact broughtIn_of_resolveExposed elsewhere (.typeName identifier parent place) found

theorem broughtIn_of_resolve {n : t.Id} {d : Definition} (elsewhere : file ≠ d.file)
    (noModule : d.kind ≠ .moduleName) (identifier : t.kind n ∈ identifierKinds)
    (h : forest.resolve file n = some d) : forest.BroughtIn n d := by
  rcases resolve_identifier_cases identifier h with ⟨lower, found⟩ | ⟨upper, found⟩ | ⟨entry, found⟩
  · exact broughtIn_of_resolveLower elsewhere lower found
  · exact broughtIn_of_resolveUpper elsewhere noModule upper found
  · exact broughtIn_of_resolveExposed elsewhere (.value entry) found

/-! ### What is brought in resolves -/

theorem resolve_of_refers {kind : SymbolKind} {n : t.Id} (refers : Refers kind n) :
    forest.resolve file n = forest.resolveReference file n kind := by
  cases refers with
  | value identifier parent place => simp [resolve, identifier, resolveLower, parent, place]
  | typeName identifier parent dotted above place last =>
    simp only [List.mem_cons, List.not_mem_nil, or_false, not_or] at place
    simp only [resolve, identifier, resolveUpper, parent, dotted, resolveSegment, above,
      Option.bind_eq_bind, Option.bind_some]
    split
    · simp_all
    · simp_all
    · simp_all
    · rw [if_pos last]

theorem resolve_of_lists {kind : SymbolKind} {n item : t.Id} (lists : Lists kind n item) :
    forest.resolve file n = forest.resolveExposed file item (t.text n) kind := by
  cases lists with
  | value identifier => simp [resolve, identifier]
  | typeName identifier parent place => simp [resolve, identifier, resolveUpper, parent, place]

theorem identifier_of_refers {kind : SymbolKind} {n : t.Id} (refers : Refers kind n) :
    t.kind n ∈ identifierKinds := by
  cases refers with
  | value identifier => simp [identifierKinds, identifier]
  | typeName identifier => simp [identifierKinds, identifier]

theorem identifier_of_lists {kind : SymbolKind} {n item : t.Id} (lists : Lists kind n item) :
    t.kind n ∈ identifierKinds := by
  cases lists with
  | value identifier => simp [identifierKinds, identifier]
  | typeName identifier => simp [identifierKinds, identifier]

theorem BroughtIn.resolve {n : t.Id} {d : Definition} (brought : forest.BroughtIn n d)
    (file : FileId) :
    t.kind n ∈ identifierKinds ∧ forest.resolve file n = some d := by
  cases brought with
  | entry lists inList ofClause isImport names declares =>
    refine ⟨identifier_of_lists lists, ?_⟩
    rw [resolve_of_lists lists]
    simp [resolveExposed, inList, ofClause, isImport, names, declares]
  | plain refers unqualified free undeclared first =>
    refine ⟨identifier_of_refers refers, ?_⟩
    have unbound :
        (if d.kind = .function then enclosingBinder (t.text n) n else none) = none := by
      split
      next value => exact free value
      next => rfl
    rw [resolve_of_refers refers]
    simp [resolveReference, unqualified, resolveUnqualified, unbound, topLevel, undeclared, first]
  | qualified refers qualified foreign first =>
    refine ⟨identifier_of_refers refers, ?_⟩
    have away : (moduleName t).any (fun own => t.text own = qualifier n) = false := by
      rw [Option.any_eq_false]
      intro own named
      simpa using foreign own named
    rw [resolve_of_refers refers]
    simp [resolveReference, qualified, resolveQualified, away, first]

/-! ### Uses elsewhere -/

theorem mem_references_elsewhere {d : Definition} (noModule : d.kind ≠ .moduleName) {site : Site}
    (elsewhere : site.file ≠ d.file) :
    site ∈ forest.references d ↔ ∃ t, forest.get? site.file = some t ∧
      ∃ n : t.Id, t.span n = site.span ∧ parentKind n ≠ some "type_annotation" ∧
        forest.BroughtIn n d := by
  rw [mem_references]
  constructor
  · rintro ⟨t, found, n, use, span⟩
    obtain ⟨identifier, resolved, -, outside⟩ := (mem_usesIn noModule).mp use
    exact ⟨t, found, n, span, outside,
      broughtIn_of_resolve elsewhere noModule identifier resolved⟩
  · rintro ⟨t, found, n, span, outside, brought⟩
    obtain ⟨identifier, resolved⟩ := brought.resolve site.file
    have away : ¬(site.file = d.file ∧ t.span n = d.span) := fun here => elsewhere here.1
    exact ⟨t, found, n, (mem_usesIn noModule).mpr ⟨identifier, resolved, away, outside⟩, span⟩

/-- A declared value or type is used in its own file only, exactly if no other file brings it in
through an import. Whether the header of its module exposes the name does not matter. -/
theorem stays_home_iff {d : Definition} (noModule : d.kind ≠ .moduleName) :
    (∀ site ∈ forest.references d, site.file = d.file) ↔
      ∀ file t, forest.get? file = some t → file ≠ d.file → ∀ n : t.Id,
        parentKind n ≠ some "type_annotation" → ¬ forest.BroughtIn n d := by
  constructor
  · intro home file t found elsewhere n outside brought
    have use : ⟨file, t.span n⟩ ∈ forest.references d :=
      (mem_references_elsewhere noModule elsewhere).mpr ⟨t, found, n, rfl, outside, brought⟩
    exact elsewhere (home _ use)
  · intro closed site use
    refine Decidable.byContradiction fun elsewhere => ?_
    obtain ⟨t, found, n, -, outside, brought⟩ :=
      (mem_references_elsewhere noModule elsewhere).mp use
    exact closed site.file t found elsewhere n outside brought

/-- A header or an import with an exposing list. -/
def withList (kind keyword name : String) (entries : List BuildCall) : List BuildCall :=
  [.openHere kind, .token keyword, .openHere "upper_case_qid",
    .leaf "upper_case_identifier" name, .close, .openHere "exposing_list",
    .token "exposing"] ++ entries ++
    [.close, .close]

/-- `A` hides its `x` and `B` exposes one. `C` imports all that both expose, and uses `x`. -/
def hiddenName : Forest := ofTexts [
  ("A.elm", "module A exposing (y)\nx = 1\ny = 2", [.openHere "file"] ++
    withList "module_declaration" "module" "A" [.leaf "exposed_value" "y"] ++
    valueCalls "x" [.leaf "number_constant_expr" "1"] ++
    valueCalls "y" [.leaf "number_constant_expr" "2"] ++ [.close]),
  ("B.elm", "module B exposing (x)\nx = 3", [.openHere "file"] ++
    withList "module_declaration" "module" "B" [.leaf "exposed_value" "x"] ++
    valueCalls "x" [.leaf "number_constant_expr" "3"] ++ [.close]),
  ("C.elm", "module C exposing (z)\nimport A exposing (..)\nimport B exposing (..)\nz = x",
    [.openHere "file"] ++
    withList "module_declaration" "module" "C" [.leaf "exposed_value" "z"] ++
    withList "import_clause" "import" "A" [.leaf "double_dot" ".."] ++
    withList "import_clause" "import" "B" [.leaf "double_dot" ".."] ++
    valueCalls "z" [.openHere "value_qid", .leaf "lower_case_identifier" "x", .close] ++
    [.close])]

/-- The hidden `x` of `A` is used in `C`, and the `x` that `B` exposes is not. -/
theorem hidden_name_used_elsewhere :
    let hidden : Definition := ⟨"A.elm", "x", .function, ⟨⟨1, 0⟩, ⟨1, 1⟩⟩⟩
    let exposed : Definition := ⟨"B.elm", "x", .function, ⟨⟨1, 0⟩, ⟨1, 1⟩⟩⟩
    (hiddenName.get? "A.elm").map
        (fun t => (topLevel "A.elm" t "x" .function, isExposed t "x" true)) =
          some (some hidden, false) ∧
      (hiddenName.get? "B.elm").map
        (fun t => (topLevel "B.elm" t "x" .function, isExposed t "x" true)) =
          some (some exposed, true) ∧
      hiddenName.references hidden = [⟨"C.elm", ⟨⟨3, 4⟩, ⟨3, 5⟩⟩⟩] ∧
      hiddenName.references exposed = [⟨"B.elm", ⟨⟨0, 19⟩, ⟨0, 20⟩⟩⟩] := by
  decide +kernel

/-- Nobody imports the `z` of `C`. -/
theorem unimported_value_stays_home :
    let d : Definition := ⟨"C.elm", "z", .function, ⟨⟨3, 0⟩, ⟨3, 1⟩⟩⟩
    d.kind ≠ .moduleName ∧ (∀ site ∈ hiddenName.references d, site.file = d.file) ∧
      ∀ file t, hiddenName.get? file = some t → file ≠ d.file → ∀ n : t.Id,
        parentKind n ≠ some "type_annotation" → ¬ hiddenName.BroughtIn n d := by
  intro d
  have home : ∀ site ∈ hiddenName.references d, site.file = d.file := by decide +kernel
  exact ⟨by decide, home, (stays_home_iff (by decide)).mp home⟩

end Forest

end ElmOverlay
