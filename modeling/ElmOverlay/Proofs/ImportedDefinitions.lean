import ElmOverlay.Proofs.ForeignUses
import ElmOverlay.Proofs.LocalEdits
import ElmOverlay.Proofs.Scopes

/-!
Definitions of other files. Whatever node of a file means something that another file declares,
the file has an import that names the module of the other one. Which of them decides follows from
the order of the look-ups: scopes and the top level of the file come before all imports, and of the
imports the first counts that offers the name. An import that covers a name but leads nowhere, or
to a module that does not declare it, is passed over.
-/
namespace ElmOverlay

namespace Elm

/-- Declared at the top level of a tree, or the name of its module. -/
def DeclaredIn (u : Tree) (d : Definition) : Prop :=
  (∃ n ∈ u.namedChildren u.root, ∃ m, declaredName d.kind n = some m ∧
    d = .ofNode d.file m d.kind) ∨
  ∃ m, moduleName u = some m ∧ d = .ofNode d.file m .moduleName

/-- A definition that an import offers, with no offer by the imports in front of it. -/
def FirstImport (t : Tree) (offers : t.Id → Definition → Prop) (d : Definition) : Prop :=
  ∃ front clause back, imports t = front ++ clause :: back ∧ offers clause d ∧
    ∀ earlier ∈ front, ∀ e, ¬ offers earlier e

theorem findSome?_imports_eq_some_iff {t : Tree} {find : t.Id → Option Definition}
    {offers : t.Id → Definition → Prop} (same : ∀ clause d, find clause = some d ↔ offers clause d)
    {d : Definition} : (imports t).findSome? find = some d ↔ FirstImport t offers d := by
  rw [List.findSome?_eq_some_iff]
  simp only [FirstImport, same, Option.eq_none_iff_forall_ne_some, ne_eq]

theorem topLevelName_eq_none {t : Tree} {name : String} {kind : SymbolKind}
    (h : topLevelName t name kind = none) {n m : t.Id} (child : n ∈ t.namedChildren t.root)
    (declared : declaredName kind n = some m) : t.text m ≠ name := by
  intro same
  have missed := List.findSome?_eq_none_iff.mp h n child
  simp [declared, same] at missed

end Elm

open Elm

namespace Forest

variable {forest : Forest} {file : FileId} {t : Tree}

/-- An import of a tree names the module of a definition, whose file is the least to declare that
module name. -/
def Mediates (forest : Forest) (t : Tree) (d : Definition) : Prop :=
  ∃ name u, ImportsModule t name ∧ forest.module? name = some (d.file, u) ∧
    (∀ file v, forest.get? file = some v → declaredModule v = some name → d.file ≤ file) ∧
    DeclaredIn u d

/-- The list of an import covers a name, and the module of the import is in the workspace and
declares the name. -/
def OffersPlain (forest : Forest) {t : Tree} (name : String) (kind : SymbolKind) (clause : t.Id)
    (d : Definition) : Prop :=
  ∃ list qid u, t.childOfKind clause "exposing_list" = some list ∧
    listExposes list name (kind = .function) = true ∧ importedModule clause = some qid ∧
    forest.module? (t.text qid) = some (d.file, u) ∧ topLevel d.file u name kind = some d

/-- An import has a qualifier, and its module is in the workspace and declares the name. -/
def OffersQualified (forest : Forest) {t : Tree} (qual name : String) (kind : SymbolKind)
    (clause : t.Id) (d : Definition) : Prop :=
  ∃ qid u, importedModule clause = some qid ∧ importQualifier clause qid = qual ∧
    forest.module? (t.text qid) = some (d.file, u) ∧ topLevel d.file u name kind = some d

/-! ### What an import offers -/

theorem importedName_eq_some_iff {qid : t.Id} {name : String} {kind : SymbolKind}
    {d : Definition} : forest.importedName qid name kind = some d ↔
      ∃ u, forest.module? (t.text qid) = some (d.file, u) ∧
        topLevel d.file u name kind = some d := by
  constructor
  · intro h
    obtain ⟨⟨home, u⟩, leads, declared⟩ := Option.bind_eq_some_iff.mp h
    obtain rfl := file_topLevel declared
    exact ⟨u, leads, declared⟩
  · rintro ⟨u, leads, declared⟩
    exact Option.bind_eq_some_iff.mpr ⟨_, leads, declared⟩

theorem exposedByImport_eq_some_iff {name : String} {kind : SymbolKind} (clause : t.Id)
    (d : Definition) : forest.exposedByImport name kind clause = some d ↔
      forest.OffersPlain name kind clause d := by
  constructor
  · intro h
    obtain ⟨list, qid, hasList, names, covers, declares⟩ := exposedByImport_eq_some h
    obtain ⟨u, leads, declared⟩ := importedName_eq_some_iff.mp declares
    exact ⟨list, qid, u, hasList, covers, names, leads, declared⟩
  · rintro ⟨list, qid, u, hasList, covers, names, leads, declared⟩
    have declares := importedName_eq_some_iff.mpr ⟨u, leads, declared⟩
    simp [exposedByImport, hasList, names, covers, declares]

theorem qualifiedByImport_eq_some_iff {qual name : String} {kind : SymbolKind} (clause : t.Id)
    (d : Definition) : forest.qualifiedByImport qual name kind clause = some d ↔
      forest.OffersQualified qual name kind clause d := by
  constructor
  · intro h
    obtain ⟨qid, names, same, declares⟩ := qualifiedByImport_eq_some h
    obtain ⟨u, leads, declared⟩ := importedName_eq_some_iff.mp declares
    exact ⟨qid, u, names, same, leads, declared⟩
  · rintro ⟨qid, u, names, same, leads, declared⟩
    have declares := importedName_eq_some_iff.mpr ⟨u, leads, declared⟩
    simp [qualifiedByImport, names, same, declares]

/-! ### Each way out of a file is an import -/

theorem mediates_of_module? {name : String} {u : Tree} {d : Definition}
    (imported : ImportsModule t name) (leads : forest.module? name = some (d.file, u))
    (declared : DeclaredIn u d) : forest.Mediates t d := by
  refine ⟨name, u, imported, leads, ?_, declared⟩
  intro file v found declares
  obtain ⟨-, -, least⟩ := module?_eq_some_iff.mp leads
  exact String.not_lt.mp fun less => least file v less found declares

theorem mediates_of_importedName {qid : t.Id} {name : String} {kind : SymbolKind}
    {d : Definition} (imported : ImportsModule t (t.text qid))
    (h : forest.importedName qid name kind = some d) : forest.Mediates t d := by
  obtain ⟨u, leads, declared⟩ := importedName_eq_some_iff.mp h
  obtain rfl := kind_topLevel declared
  obtain ⟨m, top, same⟩ := topLevel_eq_some declared
  obtain ⟨-, n, child, names⟩ := topLevelName_eq_some top
  exact mediates_of_module? imported leads (.inl ⟨n, child, m, names, same⟩)

theorem mediates_of_resolveImport {qid : t.Id} {d : Definition}
    (imported : ImportsModule t (t.text qid)) (h : forest.resolveImport qid = some d) :
    forest.Mediates t d := by
  obtain ⟨⟨home, u⟩, leads, h⟩ := Option.bind_eq_some_iff.mp h
  obtain ⟨m, named, h⟩ := Option.bind_eq_some_iff.mp h
  cases h
  exact mediates_of_module? imported leads (.inr ⟨m, named, rfl⟩)

theorem mediates_of_resolveReference {n : t.Id} {kind : SymbolKind} {d : Definition}
    (elsewhere : d.file ≠ file) (h : forest.resolveReference file n kind = some d) :
    forest.Mediates t d := by
  cases resolveReference_route h with
  | scope value bound same => exact absurd (same ▸ Definition.file_ofNode ..) elsewhere
  | ownFile found => exact absurd (file_topLevel found) elsewhere
  | openImport unqualified free undeclared first =>
    obtain ⟨clause, inside, qid, names, declares⟩ := exists_open_import first
    exact mediates_of_importedName (importsModule_of_mem_imports inside names) declares
  | qualifiedImport qualified foreign first =>
    obtain ⟨clause, inside, qid, names, declares⟩ := exists_qualified_import first
    exact mediates_of_importedName (importsModule_of_mem_imports inside names) declares

theorem mediates_of_resolveExposed {entry : t.Id} {name : String} {kind : SymbolKind}
    {d : Definition} (elsewhere : d.file ≠ file)
    (h : forest.resolveExposed file entry name kind = some d) : forest.Mediates t d := by
  cases resolveExposed_route h with
  | header found => exact absurd (file_topLevel found) elsewhere
  | importList inList ofClause isImport names declares =>
    exact mediates_of_importedName (importsModule_of_clause isImport names) declares

theorem mediates_of_resolveLower {n : t.Id} {d : Definition} (elsewhere : d.file ≠ file)
    (h : forest.resolveLower file n = some d) : forest.Mediates t d := by
  cases resolveLower_route h with
  | declared parent place found => exact absurd (file_functionDefinition found) elsewhere
  | pattern parent place same => exact absurd (same ▸ Definition.file_ofNode ..) elsewhere
  | signature parent place named same found => exact absurd (file_functionDefinition found) elsewhere
  | reference parent place found => exact mediates_of_resolveReference elsewhere found

theorem mediates_of_resolveUpper {n : t.Id} {d : Definition} (elsewhere : d.file ≠ file)
    (h : forest.resolveUpper file n = some d) : forest.Mediates t d := by
  cases resolveUpper_route h with
  | declared parent declares same => exact absurd (same ▸ Definition.file_ofNode ..) elsewhere
  | header parent dotted above place same =>
    exact absurd (same ▸ Definition.file_ofNode ..) elsewhere
  | imported parent dotted above place found =>
    exact mediates_of_resolveImport ⟨_, _, place, above, dotted, rfl⟩ found
  | reference parent dotted above place last found =>
    exact mediates_of_resolveReference elsewhere found
  | entry parent place found => exact mediates_of_resolveExposed elsewhere found

theorem mediates_of_resolve {n : t.Id} {d : Definition} (elsewhere : d.file ≠ file)
    (h : forest.resolve file n = some d) : forest.Mediates t d := by
  rcases resolve_cases h with ⟨-, entry⟩ | ⟨-, i, -, ⟨-, lower⟩ | upper⟩
  · exact mediates_of_resolveExposed elsewhere entry
  · exact mediates_of_resolveLower elsewhere lower
  · exact mediates_of_resolveUpper elsewhere upper

/-! ### Precedence -/

/-- A node that stands for a reference means what the reference means. -/
theorem resolveReference_of_head {n i : t.Id} {kind : SymbolKind} {d : Definition}
    (head : headName n = some i) (refers : Refers kind i) (h : forest.resolve file n = some d) :
    forest.resolveReference file i kind = some d := by
  rw [← resolve_of_refers refers]
  rcases resolve_cases h with ⟨entry, -⟩ | ⟨-, j, head', found⟩
  · obtain rfl : n = i := by simpa [headName, entry] using head
    cases refers with
    | value identifier => exact absurd (entry.symm.trans identifier) (by decide)
    | typeName identifier => exact absurd (entry.symm.trans identifier) (by decide)
  · obtain rfl := Option.some.inj (head.symm.trans head')
    cases refers with
    | value identifier parent place =>
      rcases found with ⟨-, lower⟩ | upper
      · simpa [resolve, identifier] using lower
      · simp [resolveUpper, parent, place] at upper
    | typeName identifier =>
      rcases found with ⟨wrong, -⟩ | upper
      · exact absurd (wrong.symm.trans identifier) (by decide)
      · simpa [resolve, identifier] using upper

/-- What decides about a reference that leads to another file. -/
structure Decided (forest : Forest) {t : Tree} (n : t.Id) (kind : SymbolKind) (d : Definition) :
    Prop where
  plain : qualifier n = "" →
    (kind = .function → ∀ scope ∈ t.ancestors n, ∀ b, ¬ Binds (t.text n) scope b) ∧
    (∀ c ∈ t.namedChildren t.root, ∀ m, declaredName kind c = some m → t.text m ≠ t.text n) ∧
    FirstImport t (forest.OffersPlain (t.text n) kind) d
  qualified : qualifier n ≠ "" →
    (∀ own, moduleName t = some own → t.text own ≠ qualifier n) ∧
    FirstImport t (forest.OffersQualified (qualifier n) (t.text n) kind) d

theorem decided_of_resolveReference {n : t.Id} {kind : SymbolKind} {d : Definition}
    (elsewhere : d.file ≠ file) (h : forest.resolveReference file n kind = some d) :
    forest.Decided n kind d := by
  cases resolveReference_route h with
  | scope value bound same => exact absurd (same ▸ Definition.file_ofNode ..) elsewhere
  | ownFile found => exact absurd (file_topLevel found) elsewhere
  | openImport unqualified free undeclared first =>
    refine ⟨fun _ => ⟨?_, ?_, ?_⟩, fun qualified => absurd unqualified qualified⟩
    · exact fun value => enclosingBinder_eq_none_iff.mp (free value)
    · exact fun c child m declared => topLevelName_eq_none undeclared child declared
    · exact (findSome?_imports_eq_some_iff exposedByImport_eq_some_iff).mp first
  | qualifiedImport qualified foreign first =>
    refine ⟨fun unqualified => absurd unqualified qualified, fun _ => ⟨foreign, ?_⟩⟩
    exact (findSome?_imports_eq_some_iff qualifiedByImport_eq_some_iff).mp first

/-- If a node means a definition of another file, an import of its file names the module of that
definition, and its file is the least that declares the module name. A plain name comes to it only
past all scopes and the top level of its own file, and a qualified one only if the qualifier is not
the module's own; then the first import decides that offers the name. So a file has no uses of a
definition whose module it does not import. -/
theorem foreign_definition_imported (forest : Forest) (d : Definition) :
    (∀ (file : FileId) (t : Tree) (n : t.Id), forest.resolve file n = some d → d.file ≠ file →
      forest.Mediates t d ∧
        ∀ i kind, headName n = some i → Refers kind i → forest.Decided i kind d) ∧
    (d.kind ≠ .moduleName → ∀ site ∈ forest.references d, site.file ≠ d.file →
      ∃ t, forest.get? site.file = some t ∧ forest.Mediates t d) := by
  constructor
  · intro file t n resolved elsewhere
    refine ⟨mediates_of_resolve elsewhere resolved, ?_⟩
    intro i kind head refers
    exact decided_of_resolveReference elsewhere (resolveReference_of_head head refers resolved)
  · intro noModule site use elsewhere
    obtain ⟨t, found, n, used, -⟩ := mem_references.mp use
    obtain ⟨-, resolved, -⟩ := (mem_usesIn noModule).mp used
    exact ⟨t, found, mediates_of_resolve elsewhere.symm resolved⟩

/-- Four imports of everything, and a use of `x`. -/
def openFile : Tree :=
  (Tree.build ("import Z exposing (..)\nimport A exposing (..)\nimport B exposing (..)\n" ++
    "import C exposing (..)\nz = x") ([.openHere "file"] ++
      (["Z", "A", "B", "C"].flatMap fun name =>
        withList "import_clause" "import" name [.leaf "double_dot" ".."]) ++
      valueCalls "z" (useCalls "x") ++ [.close])).toOption.get (by decide +kernel)

def openNode (i : Fin 35) : openFile.Id := i.cast (by decide +kernel)

/-- `A` has no `x`, but `B` and `C` do. There is no `Z`. -/
def openImports : Forest :=
  let module (name text value : String) : FileId × String × List BuildCall :=
    (name ++ ".elm", text, [.openHere "file"] ++
      withList "module_declaration" "module" name [.leaf "double_dot" ".."] ++
      valueCalls value [.leaf "number_constant_expr" "1"] ++ [.close])
  (ofTexts [module "A" "module A exposing (..)\ny = 1" "y",
    module "B" "module B exposing (..)\nx = 1" "x",
    module "C" "module C exposing (..)\nx = 1" "x"]).insert "D.elm" openFile

/-- The third import decides about `x`. -/
theorem third_import_decides :
    let d : Definition := ⟨"B.elm", "x", .function, ⟨⟨1, 0⟩, ⟨1, 1⟩⟩⟩
    let site : Site := ⟨"D.elm", ⟨⟨4, 4⟩, ⟨4, 5⟩⟩⟩
    openImports.resolve "D.elm" (openNode 34) = some d ∧ d.file ≠ "D.elm" ∧
      openImports.Mediates openFile d ∧ headName (openNode 34) = some (openNode 34) ∧
      Refers .function (openNode 34) ∧ qualifier (openNode 34) = "" ∧
      openImports.Decided (openNode 34) .function d ∧
      d.kind ≠ .moduleName ∧ site ∈ openImports.references d ∧
      ∃ t, openImports.get? site.file = some t ∧ openImports.Mediates t d := by
  intro d site
  have ⟨resolved, head, unqualified, identifier, parent, place⟩ :
      openImports.resolve "D.elm" (openNode 34) = some d ∧
      headName (openNode 34) = some (openNode 34) ∧ qualifier (openNode 34) = "" ∧
      openFile.kind (openNode 34) = "lower_case_identifier" ∧
      openFile.parent (openNode 34) = some (openNode 33) ∧
      openFile.kind (openNode 33) = "value_qid" := by
    decide +kernel
  have used : site ∈ openImports.references d := by decide +kernel
  have refers : Refers .function (openNode 34) := .value identifier parent place
  obtain ⟨mediated, home⟩ := foreign_definition_imported openImports d
  obtain ⟨mediates, decided⟩ := mediated "D.elm" openFile _ resolved (by decide)
  exact ⟨resolved, by decide, mediates, head, refers, unqualified, decided _ _ head refers,
    by decide, used, home (by decide) site used (by decide)⟩

end Forest

end ElmOverlay
