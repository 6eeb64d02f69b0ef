import ElmOverlay.Proofs.CanonicalDefinitions
import ElmOverlay.Proofs.LocalEdits
import Mathlib.Data.List.Basic

/-!
Uses of modules. A search for them compares texts: an import counts if it spells the name of the
module, and nothing is resolved. To resolve an import is a search of its own, for the first file
whose header declares the name. Both say the same of a module if no second file declares its name.
-/
namespace ElmOverlay

open Elm

/-- Of what a list yields, one element keeps what it owns. -/
theorem filter_filterMap_owner {α β : Type} [DecidableEq α] {l : List α} (distinct : l.Nodup)
    {f : α → Option β} {owner : β → Option α} (owns : ∀ a b, f a = some b → owner b = some a)
    {a : α} (listed : a ∈ l) :
    (l.filterMap f).filter (fun b => owner b = some a) = (f a).toList := by
  obtain ⟨front, back, rfl⟩ := List.append_of_mem listed
  have others (part : List α) (absent : a ∉ part) :
      (part.filterMap f).filter (fun b => owner b = some a) = [] := by
    rw [List.filter_eq_nil_iff]
    intro b inside
    obtain ⟨c, member, yields⟩ := List.mem_filterMap.mp inside
    rw [owns c b yields]
    simpa using fun same : c = a => absent (same ▸ member)
  have split := List.nodup_append.mp distinct
  have inBack : a ∉ back := (List.nodup_cons.mp split.2.1).1
  have inFront : a ∉ front := fun member => split.2.2 a member a List.mem_cons_self rfl
  rw [List.filterMap_append, List.filter_append, others front inFront, List.nil_append]
  cases yields : f a with
  | none => rw [List.filterMap_cons_none yields, others back inBack, Option.toList_none]
  | some b =>
    rw [List.filterMap_cons_some yields, List.filter_cons_of_pos (by simp [owns a b yields]),
      others back inBack, Option.toList_some]

namespace Forest

variable {forest : Forest} {file home : FileId} {t u : Tree}

/-- The module name in an import, if it resolves to a definition. -/
def importTo (forest : Forest) (d : Definition) (file : FileId) {t : Tree} (clause : t.Id) :
    Option t.Id :=
  (importedModule clause).filter fun q => forest.resolve file q = some d

/-- The imports of the workspace that resolve to a definition. -/
def importSites (forest : Forest) (d : Definition) : List Site :=
  forest.entries.flatMap fun (file, t) =>
    ((imports t).filterMap (forest.importTo d file)).map fun q => ⟨file, t.span q⟩

theorem resolve_importName {q owner : t.Id} (dotted : t.kind q = "upper_case_qid")
    (parts : t.namedChildren q ≠ []) (parent : t.parent q = some owner)
    (place : t.kind owner = "import_clause") :
    forest.resolve file q = forest.resolveImport q := by
  obtain ⟨part, same⟩ := resolve_dotted dotted parts
  rw [same]
  simp [resolveSegment, parent, place]

/-- If only one file declares the name of its module, an import that spells the name leads there,
and no other import does. -/
theorem resolveImport_eq_some_iff {name : u.Id} (found : forest.get? home = some u)
    (declares : moduleName u = some name)
    (alone : ∀ file v, forest.get? file = some v →
      declaredModule v = some (u.text name) → file = home) {q : t.Id} :
    forest.resolveImport q = some (.ofNode home name .moduleName) ↔ t.text q = u.text name := by
  constructor
  · intro h
    obtain ⟨_, v, own, -, -, text, same⟩ := resolveImport_eq_some h
    have names := congrArg Definition.name same
    rw [Definition.name_ofNode, Definition.name_ofNode] at names
    rw [names, text]
  · intro text
    have declared : declaredModule u = some (u.text name) := by rw [declaredModule, declares]; rfl
    have leads : forest.module? (t.text q) = some (home, u) := by
      rw [text, module?_eq_some_iff]
      refine ⟨found, declared, ?_⟩
      intro earlier v less entry other
      exact absurd (alone earlier v entry other ▸ less) (String.lt_irrefl home)
    simp [resolveImport, leads, declares]

/-- What an import yields, by the text of its name. -/
theorem importTo_eq_filter_text {name : u.Id} (found : forest.get? home = some u)
    (declares : moduleName u = some name)
    (alone : ∀ file v, forest.get? file = some v →
      declaredModule v = some (u.text name) → file = home)
    (parted : ∀ q : t.Id, t.kind q = "upper_case_qid" → t.namedChildren q ≠ [])
    {clause : t.Id} (inside : clause ∈ imports t) :
    forest.importTo (.ofNode home name .moduleName) file clause =
      (importedModule clause).filter fun q => t.text q = u.text name := by
  have place : t.kind clause = "import_clause" := of_decide_eq_true (List.mem_filter.mp inside).2
  cases names : importedModule clause with
  | none => rw [importTo, names, Option.filter_none, Option.filter_none]
  | some q =>
    obtain ⟨parent, -, dotted⟩ := Tree.childOfKind_eq_some names
    have leads : forest.resolve file q = forest.resolveImport q :=
      resolve_importName dotted (parted q dotted) parent place
    rw [importTo, names, Option.filter_some, Option.filter_some, leads]
    simp only [resolveImport_eq_some_iff found declares alone]

theorem parent_of_importTo {d : Definition} {clause q : t.Id}
    (h : forest.importTo d file clause = some q) : t.parent q = some clause :=
  (Tree.childOfKind_eq_some (Option.filter_eq_some_iff.mp h).1).1

/-- The uses of a module whose name no other file declares are, file by file and import by import,
the names in imports that resolve to it. An import has at most one of them, the name that it
begins with, and none if that is the name of another module. -/
theorem module_uses_resolve
    (parted : ∀ file t, forest.get? file = some t →
      ∀ q : t.Id, t.kind q = "upper_case_qid" → t.namedChildren q ≠ [])
    {name : u.Id} (found : forest.get? home = some u) (declares : moduleName u = some name)
    (alone : ∀ file v, forest.get? file = some v →
      declaredModule v = some (u.text name) → file = home) :
    let d := Definition.ofNode home name .moduleName
    forest.resolve home name = some d ∧ forest.references d = forest.importSites d ∧
      ∀ file t, forest.get? file = some t → ∀ clause ∈ imports t,
        (forest.usesIn d file t).filter (fun q => t.parent q = some clause) =
          (forest.importTo d file clause).toList ∧
        ((importedModule clause).map t.text ≠ some (u.text name) →
          forest.importTo d file clause = none) := by
  intro d
  have yields (file : FileId) (t : Tree) (entry : forest.get? file = some t) :
      ∀ clause ∈ imports t, forest.importTo d file clause =
        (importedModule clause).filter fun q => t.text q = u.text name :=
    fun _ => importTo_eq_filter_text found declares alone (parted file t entry)
  have uses (file : FileId) (t : Tree) (entry : forest.get? file = some t) :
      forest.usesIn d file t = (imports t).filterMap (forest.importTo d file) := by
    rw [usesIn, if_pos (Definition.kind_ofNode ..), Definition.name_ofNode, importsOf,
      List.filter_filterMap]
    exact (List.filterMap_congr (yields file t entry)).symm
  obtain ⟨header, hheader, hname⟩ := moduleName_eq_some declares
  obtain ⟨parent, -, dotted⟩ := Tree.childOfKind_eq_some hname
  have place := (Tree.childOfKind_eq_some hheader).2.2
  refine ⟨resolve_headerName dotted (parted home u found name dotted) parent place, ?_, ?_⟩
  · apply List.flatMap_congr
    rintro ⟨file, t⟩ entry
    exact congrArg (List.map _) (uses file t (mem_entries.mp entry))
  · intro file t entry clause inside
    constructor
    · rw [uses file t entry]
      have distinct : (imports t).Nodup :=
        ((Tree.children_nodup t.root).filter _).filter _
      exact filter_filterMap_owner distinct (fun _ _ => parent_of_importTo) inside
    · intro other
      rw [yields file t entry clause inside, Option.filter_eq_none_iff]
      intro q names
      simpa [names] using other

/-- A clause around the dotted name `A.B`. -/
def dottedClause (kind keyword : String) : List BuildCall :=
  [.openHere kind, .token keyword, .openHere "upper_case_qid", .leaf "upper_case_identifier" "A",
    .token ".", .leaf "upper_case_identifier" "B", .close, .close]

def dottedModule : Tree :=
  (Tree.build "module A.B" ([.openHere "file"] ++ dottedClause "module_declaration" "module" ++
    [.close])).toOption.get (by decide +kernel)

/-- Two imports of `A.B`, with one of `C` between them. -/
def dottedImports : Tree :=
  (Tree.build "import A.B\nimport C\nimport A.B" ([.openHere "file"] ++
    dottedClause "import_clause" "import" ++
    [.openHere "import_clause", .token "import", .openHere "upper_case_qid",
      .leaf "upper_case_identifier" "C", .close, .close] ++
    dottedClause "import_clause" "import" ++ [.close])).toOption.get (by decide +kernel)

theorem dotted_module_uses :
    let forest := (empty.insert "A.elm" dottedModule).insert "M.elm" dottedImports
    let d : Definition := ⟨"A.elm", "A.B", .moduleName, ⟨⟨0, 7⟩, ⟨0, 10⟩⟩⟩
    (∀ file t, forest.get? file = some t →
      ∀ q : t.Id, t.kind q = "upper_case_qid" → t.namedChildren q ≠ []) ∧
    (∀ file v, forest.get? file = some v → declaredModule v = some "A.B" → file = "A.elm") ∧
    forest.references d = [⟨"M.elm", ⟨⟨0, 7⟩, ⟨0, 10⟩⟩⟩, ⟨"M.elm", ⟨⟨2, 7⟩, ⟨2, 10⟩⟩⟩] ∧
    forest.references d = forest.importSites d := by
  intro forest d
  have parted : ∀ file t, forest.get? file = some t →
      ∀ q : t.Id, t.kind q = "upper_case_qid" → t.namedChildren q ≠ [] := by
    intro file t entry
    rw [get?_insert, get?_insert] at entry
    split at entry
    · cases entry
      decide +kernel
    · split at entry
      · cases entry
        decide +kernel
      · cases entry
  have alone : ∀ file v, forest.get? file = some v → declaredModule v = some "A.B" →
      file = "A.elm" := by
    intro file v entry declares
    rw [get?_insert, get?_insert] at entry
    split at entry
    · cases entry
      exact absurd declares (by decide +kernel)
    · split at entry
      next here => exact here
      next => cases entry
  obtain ⟨name, declares, text, same⟩ : ∃ name, moduleName dottedModule = some name ∧
      dottedModule.text name = "A.B" ∧ d = .ofNode "A.elm" name .moduleName := by
    decide +kernel
  have found : forest.get? "A.elm" = some dottedModule := by
    rw [get?_insert, if_neg (by decide), get?_insert, if_pos rfl]
  refine ⟨parted, alone, by decide +kernel, ?_⟩
  rw [same]
  exact (module_uses_resolve parted found declares (text ▸ alone)).2.1

end Forest

end ElmOverlay
