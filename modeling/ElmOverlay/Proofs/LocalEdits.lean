import ElmOverlay.Proofs.ReferenceSearch

/-!
Edits are local. A file looks at others only through the module names in its imports, and a module
name leads to the first file that declares it. So an edit shows only in the edited file and in
files that import a name which the edited file declares, before the edit or after it.
-/
namespace ElmOverlay

theorem findSome?_congr {α β : Type} {f g : α → Option β} {l : List α}
    (same : ∀ a ∈ l, f a = g a) : l.findSome? f = l.findSome? g := by
  induction l with
  | nil => rfl
  | cons a l ih =>
    have ⟨first, rest⟩ := List.forall_mem_cons.mp same
    rw [List.findSome?_cons, List.findSome?_cons, first, ih rest]

namespace Elm

def declaredModule (t : Tree) : Option String := (moduleName t).map t.text

/-- An import names a module, wherever in the tree the import stands. -/
def ImportsModule (t : Tree) (name : String) : Prop :=
  ∃ clause qid : t.Id, t.kind clause = "import_clause" ∧ t.parent qid = some clause ∧
    t.kind qid = "upper_case_qid" ∧ t.text qid = name

variable {t : Tree}

theorem importsModule_of_clause {clause qid : t.Id} (isImport : t.kind clause = "import_clause")
    (names : importedModule clause = some qid) : ImportsModule t (t.text qid) := by
  obtain ⟨parent, -, dotted⟩ := Tree.childOfKind_eq_some names
  exact ⟨clause, qid, isImport, parent, dotted, rfl⟩

theorem importsModule_of_mem_imports {clause qid : t.Id} (inside : clause ∈ imports t)
    (names : importedModule clause = some qid) : ImportsModule t (t.text qid) :=
  importsModule_of_clause (of_decide_eq_true (List.mem_filter.mp inside).2) names

end Elm

open Elm

namespace Forest

/-- Another tree for a file, or none any more. -/
def replace (forest : Forest) (file : FileId) : Option Tree → Forest
  | some t => forest.insert file t
  | none => forest.erase file

theorem get?_replace (forest : Forest) (file key : FileId) (edit : Option Tree) :
    (forest.replace file edit).get? key = if key = file then edit else forest.get? key := by
  cases edit with
  | none => exact get?_erase forest file key
  | some t => exact get?_insert forest file key t

/-! ### Where module names lead -/

/-- A module name leads to the least file that declares it. -/
theorem module?_eq_some_iff {forest : Forest} {name : String} {file : FileId} {t : Tree} :
    forest.module? name = some (file, t) ↔ forest.get? file = some t ∧
      declaredModule t = some name ∧ ∀ earlier u, earlier < file →
        forest.get? earlier = some u → declaredModule u ≠ some name := by
  have declares (u : Tree) : (moduleName u).any (fun n => u.text n = name) =
      decide (declaredModule u = some name) := by
    rw [Bool.eq_iff_iff]
    simp [declaredModule, Option.any_eq_true]
  rw [module?, List.find?_eq_some_iff_append]
  constructor
  · rintro ⟨found, front, back, split, before⟩
    have sorted := forest.sorted
    rw [split, List.pairwise_append, List.pairwise_cons] at sorted
    refine ⟨mem_entries.mp (by simp [split]), by simpa [declares] using found, ?_⟩
    intro earlier u less entry
    rw [← mem_entries, split, List.mem_append, List.mem_cons] at entry
    rcases entry with inFront | here | inBack
    · simpa [declares] using before _ inFront
    · cases here
      exact absurd less (String.lt_irrefl file)
    · exact absurd (String.lt_trans less (sorted.2.1.1 _ inBack)) (String.lt_irrefl earlier)
  · rintro ⟨found, named, least⟩
    obtain ⟨front, back, split⟩ := List.append_of_mem (mem_entries.mpr found)
    refine ⟨by simpa [declares] using named, front, back, split, ?_⟩
    rintro ⟨earlier, u⟩ inFront
    have sorted := forest.sorted
    rw [split, List.pairwise_append] at sorted
    have less : earlier < file := sorted.2.2 _ inFront _ List.mem_cons_self
    have other := least earlier u less (mem_entries.mp (by simp [split, inFront]))
    simpa [declares] using other

variable {forest : Forest} {g : FileId} {edit : Option Tree}

/-- An edit redirects only the module names that the edited file declared or now declares. -/
theorem module?_replace {name : String} (before : (forest.get? g).bind declaredModule ≠ some name)
    (after : edit.bind declaredModule ≠ some name) :
    (forest.replace g edit).module? name = forest.module? name := by
  -- Both forests say the same of each file: what it holds, and whether it declares the name.
  have elsewhere {file : FileId} {t : Tree} (named : declaredModule t = some name) :
      (forest.replace g edit).get? file = some t ↔ forest.get? file = some t := by
    rw [get?_replace]
    split
    next same =>
      subst same
      constructor
      · rintro rfl
        exact absurd named after
      · intro found
        exact absurd named (by simpa [found] using before)
    next => rfl
  apply Option.ext
  rintro ⟨file, t⟩
  rw [module?_eq_some_iff, module?_eq_some_iff]
  constructor
  · rintro ⟨found, named, least⟩
    refine ⟨(elsewhere named).mp found, named, ?_⟩
    intro earlier u less entry declares
    exact least earlier u less ((elsewhere declares).mpr entry) declares
  · rintro ⟨found, named, least⟩
    refine ⟨(elsewhere named).mpr found, named, ?_⟩
    intro earlier u less entry declares
    exact least earlier u less ((elsewhere declares).mp entry) declares

/-! ### Forests that agree on the imports of a file -/

/-- The module names in the imports of a tree lead to the same places in both forests. -/
def AgreeOnImports (a b : Forest) (t : Tree) : Prop :=
  ∀ name, ImportsModule t name → a.module? name = b.module? name

variable {a b : Forest} {file : FileId} {t : Tree}

theorem importedName_congr (agree : a.AgreeOnImports b t) {qid : t.Id}
    (imported : ImportsModule t (t.text qid)) (name : String) (kind : SymbolKind) :
    a.importedName qid name kind = b.importedName qid name kind := by
  rw [importedName, importedName, agree _ imported]

theorem exposedByImport_congr (agree : a.AgreeOnImports b t) (name : String) (kind : SymbolKind) :
    (imports t).findSome? (a.exposedByImport name kind) =
      (imports t).findSome? (b.exposedByImport name kind) := by
  apply findSome?_congr
  intro clause inside
  refine Option.bind_congr fun list _ => Option.bind_congr fun qid names => ?_
  rw [importedName_congr agree (importsModule_of_mem_imports inside names)]

theorem qualifiedByImport_congr (agree : a.AgreeOnImports b t) (qual name : String)
    (kind : SymbolKind) :
    (imports t).findSome? (a.qualifiedByImport qual name kind) =
      (imports t).findSome? (b.qualifiedByImport qual name kind) := by
  apply findSome?_congr
  intro clause inside
  refine Option.bind_congr fun qid names => ?_
  rw [importedName_congr agree (importsModule_of_mem_imports inside names)]

theorem resolveReference_congr (agree : a.AgreeOnImports b t) (n : t.Id) (kind : SymbolKind) :
    a.resolveReference file n kind = b.resolveReference file n kind := by
  simp only [resolveReference, resolveUnqualified, resolveQualified, exposedByImport_congr agree,
    qualifiedByImport_congr agree]

theorem resolveExposed_congr (agree : a.AgreeOnImports b t) (entry : t.Id) (name : String)
    (kind : SymbolKind) :
    a.resolveExposed file entry name kind = b.resolveExposed file entry name kind := by
  refine Option.bind_congr fun list _ => Option.bind_congr fun owner _ => ?_
  split
  next => rfl
  next isImport =>
    refine Option.bind_congr fun qid names => ?_
    exact importedName_congr agree (importsModule_of_clause isImport names) name kind
  next => rfl

theorem resolveLower_congr (agree : a.AgreeOnImports b t) (n : t.Id) :
    a.resolveLower file n = b.resolveLower file n := by
  simp only [resolveLower, resolveReference_congr agree]

theorem resolveSegment_congr (agree : a.AgreeOnImports b t) {qid : t.Id}
    (dotted : t.kind qid = "upper_case_qid") (n : t.Id) :
    a.resolveSegment file qid n = b.resolveSegment file qid n := by
  refine Option.bind_congr fun owner above => ?_
  split
  next => rfl
  next isImport =>
    have imported : ImportsModule t (t.text qid) := ⟨owner, qid, isImport, above, dotted, rfl⟩
    rw [resolveImport, resolveImport, agree _ imported]
  next => rfl
  next => simp only [resolveReference_congr agree]

theorem resolveUpper_congr (agree : a.AgreeOnImports b t) (n : t.Id) :
    a.resolveUpper file n = b.resolveUpper file n := by
  refine Option.bind_congr fun owner _ => ?_
  split
  next => rfl
  next => rfl
  next dotted => exact resolveSegment_congr agree dotted n
  next => exact resolveExposed_congr agree owner (t.text n) .typeName
  next => rfl

/-- Resolution in a file reads nothing of a forest but where its imports lead. -/
theorem resolve_congr (agree : a.AgreeOnImports b t) (n : t.Id) :
    a.resolve file n = b.resolve file n := by
  have lower : a.resolveLower (t := t) file = b.resolveLower file :=
    funext (resolveLower_congr agree)
  have upper : a.resolveUpper (t := t) file = b.resolveUpper file :=
    funext (resolveUpper_congr agree)
  have dotted : a.resolveDotted (t := t) file = b.resolveDotted file := by
    funext qid
    rw [resolveDotted, resolveDotted, upper]
  simp only [resolve, lower, upper, dotted, resolveExposed_congr agree]

theorem usesIn_congr (agree : a.AgreeOnImports b t) (d : Definition) :
    a.usesIn d file t = b.usesIn d file t := by
  have uses : a.isUse (t := t) d file = b.isUse d file := by
    funext n
    rw [isUse, isUse, resolve_congr agree]
  rw [usesIn, usesIn, uses]

/-! ### Uses outside the edited file -/

/-- A tree that imports no module name which a file declared before an edit or declares after it. -/
def Apart (forest : Forest) (g : FileId) (edit : Option Tree) (t : Tree) : Prop :=
  ∀ name, ImportsModule t name →
    (forest.get? g).bind declaredModule ≠ some name ∧ edit.bind declaredModule ≠ some name

instance (forest : Forest) (g : FileId) (edit : Option Tree) (t : Tree) :
    Decidable (forest.Apart g edit t) :=
  decidable_of_iff (∀ clause qid : t.Id, t.kind clause = "import_clause" →
      t.parent qid = some clause → t.kind qid = "upper_case_qid" →
      (forest.get? g).bind declaredModule ≠ some (t.text qid) ∧
        edit.bind declaredModule ≠ some (t.text qid)) <| by
    constructor
    · rintro apart _ ⟨clause, qid, isImport, parent, dotted, rfl⟩
      exact apart clause qid isImport parent dotted
    · intro apart clause qid isImport parent dotted
      exact apart _ ⟨clause, qid, isImport, parent, dotted, rfl⟩

theorem Apart.agree (apart : forest.Apart g edit t) :
    (forest.replace g edit).AgreeOnImports forest t := by
  intro name imported
  have ⟨before, after⟩ := apart name imported
  exact module?_replace before after

/-- The entries of other files are those of the forest without the edited one. -/
theorem filter_entries_replace {keep : FileId → Bool} (other : keep g = false) :
    ((forest.replace g edit).entries.filter fun e => keep e.1) =
      forest.entries.filter fun e => keep e.1 := by
  have erased : (forest.replace g edit).erase g = forest.erase g := by
    apply eq_of_get?
    intro file
    rw [get?_erase, get?_erase, get?_replace]
    split <;> rfl
  have passes (f : Forest) :
      (f.entries.filter fun e => keep e.1) = (f.erase g).entries.filter fun e => keep e.1 := by
    rw [erase, List.filter_filter]
    apply List.filter_congr
    intro e _
    by_cases here : e.1 = g <;> simp [here, other]
  rw [passes, erased, ← passes]

def sitesIn (forest : Forest) (d : Definition) (e : FileId × Tree) : List Site :=
  (forest.usesIn d e.1 e.2).map fun n => ⟨e.1, e.2.span n⟩

theorem filter_references (forest : Forest) (d : Definition) (keep : FileId → Bool) :
    ((forest.references d).filter fun site => keep site.file) =
      (forest.entries.filter fun e => keep e.1).flatMap (forest.sitesIn d) := by
  change (forest.entries.flatMap (forest.sitesIn d)).filter _ = _
  induction forest.entries with
  | nil => rfl
  | cons e entries ih =>
    have home : ∀ site ∈ forest.sitesIn d e, site.file = e.1 := by simp [sitesIn]
    have sites : (forest.sitesIn d e).filter (fun site => keep site.file) =
        if keep e.1 then forest.sitesIn d e else [] := by
      split
      next kept => exact List.filter_eq_self.mpr fun site use => (home site use).symm ▸ kept
      next dropped =>
        exact List.filter_eq_nil_iff.mpr fun site use => (home site use).symm ▸ dropped
    rw [List.flatMap_cons, List.filter_append, ih, sites, List.filter_cons]
    split <;> simp

/-- Files apart from an edit have the uses that they had. -/
theorem filter_references_replace (keep : FileId → Bool) (other : keep g = false)
    (apart : ∀ f t, keep f = true → forest.get? f = some t → forest.Apart g edit t)
    (d : Definition) :
    (((forest.replace g edit).references d).filter fun site => keep site.file) =
      (forest.references d).filter fun site => keep site.file := by
  rw [filter_references, filter_references, filter_entries_replace other, List.flatMap_def,
    List.flatMap_def]
  refine congrArg List.flatten (List.map_congr_left ?_)
  intro e inside
  obtain ⟨entry, kept⟩ := List.mem_filter.mp inside
  have agree := (apart e.1 e.2 kept (mem_entries.mp entry)).agree
  rw [sitesIn, sitesIn, usesIn_congr agree]

/-- An edit of one file, be it new, changed or removed, shows only in that file and where a module
name is imported which it declared before or declares now. In any other file all nodes resolve as
they did, and the uses of a definition there are the same. So a new file whose module no file
names in its imports adds its own uses and changes no others. -/
theorem edit_shows_only_in_importers (forest : Forest) (g : FileId) (edit : Option Tree) :
    (∀ f t, f ≠ g → forest.get? f = some t → forest.Apart g edit t →
      (forest.replace g edit).get? f = some t ∧
      (∀ n : t.Id, (forest.replace g edit).resolve f n = forest.resolve f n) ∧
      ∀ d, (((forest.replace g edit).references d).filter fun site => site.file = f) =
        (forest.references d).filter fun site => site.file = f) ∧
    ∀ u, forest.get? g = none →
      (∀ f t, forest.get? f = some t → ∀ name, declaredModule u = some name →
        ¬ ImportsModule t name) →
      ∀ d, (((forest.insert g u).references d).filter fun site => site.file ≠ g) =
        forest.references d := by
  constructor
  · intro f t elsewhere found apart
    refine ⟨by rw [get?_replace, if_neg elsewhere, found], resolve_congr apart.agree, ?_⟩
    intro d
    apply filter_references_replace (· = f) (by simp [elsewhere.symm])
    intro file u same entry
    obtain rfl := of_decide_eq_true same
    obtain rfl := Option.some.inj (found.symm.trans entry)
    exact apart
  · intro u new unimported d
    have apart : ∀ f t, decide (f ≠ g) = true → forest.get? f = some t →
        forest.Apart g (some u) t := by
      intro f t _ found name imported
      rw [new]
      exact ⟨by simp, fun declares => unimported f t found name declares imported⟩
    have others : ((forest.references d).filter fun site => site.file ≠ g) =
        forest.references d := by
      rw [List.filter_eq_self]
      intro site use
      obtain ⟨t, found, -⟩ := mem_references.mp use
      refine decide_eq_true ?_
      rintro rfl
      rw [new] at found
      cases found
    exact (filter_references_replace (· ≠ g) (by simp) apart d).trans others

/-- Another `x`, in a module that the files of `sharedValue` do not import. -/
def rival : Tree :=
  (Tree.build "module C exposing (x)\nx = 2" ([.openHere "file", .openHere "module_declaration",
    .token "module", .openHere "upper_case_qid", .leaf "upper_case_identifier" "C", .close,
    .openHere "exposing_list", .token "exposing", .leaf "exposed_value" "x", .close, .close] ++
    valueCalls "x" [.leaf "number_constant_expr" "2"] ++
    [.close])).toOption.get (by decide +kernel)

def importer : Tree := (sharedValue.get? "B.elm").get (by decide +kernel)

theorem rival_changes_no_uses :
    let d : Definition := ⟨"A.elm", "x", .function, ⟨⟨1, 0⟩, ⟨1, 1⟩⟩⟩
    let edited := sharedValue.replace "C.elm" (some rival)
    sharedValue.get? "B.elm" = some importer ∧ sharedValue.Apart "C.elm" (some rival) importer ∧
      ((edited.references d).filter fun site => site.file = "B.elm") =
        [⟨"B.elm", ⟨⟨0, 19⟩, ⟨0, 20⟩⟩⟩, ⟨"B.elm", ⟨⟨1, 4⟩, ⟨1, 5⟩⟩⟩] ∧
      sharedValue.get? "C.elm" = none ∧
      ((edited.references d).filter fun site => site.file ≠ "C.elm") =
        sharedValue.references d := by
  intro d edited
  have found : sharedValue.get? "B.elm" = some importer := (Option.some_get _).symm
  have apart : sharedValue.Apart "C.elm" (some rival) importer := by decide +kernel
  have new : sharedValue.get? "C.elm" = none := by decide +kernel
  have unimported : ∀ f t, sharedValue.get? f = some t → ∀ name,
      declaredModule rival = some name → ¬ ImportsModule t name := by
    have all : ∀ e ∈ sharedValue.entries, sharedValue.Apart "C.elm" (some rival) e.2 := by
      decide +kernel
    intro f t entry name declares imported
    exact (all _ (mem_entries.mpr entry) name imported).2 declares
  have ⟨same, added⟩ := edit_shows_only_in_importers sharedValue "C.elm" (some rival)
  refine ⟨found, apart, ?_, new, added rival new unimported d⟩
  rw [(same "B.elm" importer (by decide) found apart).2.2 d]
  decide +kernel

end Forest

end ElmOverlay
