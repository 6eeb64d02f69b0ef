import ElmOverlay.Lens.Discovery
import ElmOverlay.Proofs.Payload
import ElmOverlay.Proofs.PointSearch
import ElmOverlay.Proofs.Resolution
import ElmOverlay.Syntax.Builder

/-!
The subject of a reference lens. Discovery keeps a place and no node, and resolution finds a
node at that place again. In a file of the usual shape both mean one symbol: the place is the
start of a leaf, the point search ends at the leaf, and the leaf resolves to the symbol.
-/
namespace ElmOverlay

open Elm

/-- What discovery relies on at the top level of a file. Names are solid leaves, and what holds
a name begins with it. -/
structure Tree.ElmShaped (t : Tree) : Prop where
  function : ∀ n ∈ t.children t.root, ∀ name, functionName n = some name →
    Tree.SolidLeaf name ∧ (t.range name).start = (t.range n).start
  signature : ∀ n ∈ t.children t.root, ∀ name, functionName n = some name →
    ∀ a, t.prevNamed n = some a → t.kind a = "type_annotation" →
      ∃ i, t.childOfKind a "lower_case_identifier" = some i ∧ Tree.SolidLeaf i ∧
        (t.range i).start = (t.range a).start ∧ t.text i = t.text name
  typeName : ∀ n ∈ t.children t.root, ∀ name, typeName n = some name → Tree.SolidLeaf name
  moduleName : ∀ qid c, moduleName t = some qid → (t.children qid).head? = some c →
    Tree.SolidLeaf c ∧ t.named c = true ∧ t.kind c = "upper_case_identifier" ∧
      (t.range c).start = (t.range qid).start

/-- The definition whose uses a discovered lens is there to count. -/
inductive Counts (file : FileId) (t : Tree) : Placeholder → Definition → Prop where
  | function {n name : t.Id} (top : n ∈ t.children t.root) (named : functionName n = some name) :
      Counts file t (Discovery.ofName file .referenceCount true (functionAnchor n) name)
        (.ofNode file name .function)
  | typeName {n name : t.Id} (top : n ∈ t.children t.root) (named : typeName n = some name) :
      Counts file t (Discovery.ofName file .referenceCount false name name)
        (.ofNode file name .typeName)
  | moduleName {qid : t.Id} (named : moduleName t = some qid) (parts : t.children qid ≠ []) :
      Counts file t (Discovery.ofName file .referenceCount false qid qid)
        (.ofNode file qid .moduleName)

variable {file : FileId} {t : Tree} {p : Placeholder} {d : Definition}

theorem Counts.subject (counts : Counts file t p d) :
    p.file = file ∧ p.family = .referenceCount ∧ d.file = file ∧ d.name = p.subject := by
  cases counts <;> simp [Discovery.ofName]

theorem exists_counts (discovered : p ∈ Discovery.lenses file t)
    (family : p.family = .referenceCount) : ∃ d, Counts file t p d := by
  rcases List.mem_append.mp discovered with exposure | reference
  · obtain ⟨n, -, lens⟩ := List.mem_filterMap.mp exposure
    unfold Discovery.exposureLens at lens
    split at lens
    · cases lens
      cases family
    · obtain ⟨name, -, rfl⟩ := Option.map_eq_some_iff.mp lens
      cases family
  · rw [Discovery.referenceLenses, List.mem_append, List.mem_append] at reference
    rcases reference with (isType | isFunction) | isModule
    · obtain ⟨n, top, lens⟩ := List.mem_filterMap.mp isType
      obtain ⟨name, named, rfl⟩ := Option.map_eq_some_iff.mp lens
      exact ⟨_, .typeName top named⟩
    · obtain ⟨n, top, lens⟩ := List.mem_filterMap.mp isFunction
      obtain ⟨name, named, rfl⟩ := Option.map_eq_some_iff.mp lens
      exact ⟨_, .function top named⟩
    · obtain ⟨qid, found, rfl⟩ := Option.map_eq_some_iff.mp (Option.mem_toList.mp isModule)
      obtain ⟨named, parts⟩ := Option.filter_eq_some_iff.mp found
      exact ⟨_, .moduleName named (by simpa using parts)⟩

/-! ### What the leaves resolve to -/

variable {forest : Forest}

theorem functionDefinition_name {n name : t.Id} (top : n ∈ t.children t.root)
    (named : functionName n = some name) :
    functionDefinition file name = some (.ofNode file name .function) := by
  obtain ⟨-, left, hleft, hname⟩ := functionName_eq_some named
  have outermost : isTopLevel n = true := by
    rw [isTopLevel, Tree.mem_children.mp top]
    simp [Tree.parent_root]
  simp [functionDefinition, (Tree.childOfKind_eq_some hname).1,
    (Tree.childOfKind_eq_some hleft).1, outermost]

theorem resolve_functionName {n name : t.Id} (top : n ∈ t.children t.root)
    (named : functionName n = some name) :
    forest.resolve file name = some (.ofNode file name .function) := by
  obtain ⟨-, left, hleft, hname⟩ := functionName_eq_some named
  have owner := (Tree.childOfKind_eq_some hname).1
  have here := (Tree.childOfKind_eq_some hname).2.2
  have kind := (Tree.childOfKind_eq_some hleft).2.2
  simp [Forest.resolve, here, Forest.resolveLower, owner, kind,
    functionDefinition_name top named]

theorem resolve_signatureName {n name a i : t.Id} (top : n ∈ t.children t.root)
    (named : functionName n = some name) (before : t.prevNamed n = some a)
    (signature : t.kind a = "type_annotation")
    (found : t.childOfKind a "lower_case_identifier" = some i)
    (same : t.text i = t.text name) :
    forest.resolve file i = some (.ofNode file name .function) := by
  obtain ⟨owner, -, here⟩ := Tree.childOfKind_eq_some found
  have next : t.nextNamed a = some n := Tree.nextNamed_eq_some_iff_prevNamed.mpr before
  simp [Forest.resolve, here, Forest.resolveLower, owner, signature, next, named, same,
    functionDefinition_name top named]

theorem resolve_typeName {n name : t.Id} (named : typeName n = some name) :
    forest.resolve file name = some (.ofNode file name .typeName) := by
  obtain ⟨kind, found⟩ := typeName_eq_some named
  obtain ⟨owner, -, here⟩ := Tree.childOfKind_eq_some found
  rcases kind with kind | kind <;>
    simp [Forest.resolve, here, Forest.resolveUpper, owner, kind, found]

theorem resolve_modulePart {qid c : t.Id} (named : moduleName t = some qid)
    (part : t.parent c = some qid) (kind : t.kind c = "upper_case_identifier") :
    forest.resolve file c = some (.ofNode file qid .moduleName) := by
  obtain ⟨header, hheader, hqid⟩ := moduleName_eq_some named
  obtain ⟨owner, -, dotted⟩ := Tree.childOfKind_eq_some hqid
  have heads := (Tree.childOfKind_eq_some hheader).2.2
  simp [Forest.resolve, kind, Forest.resolveUpper, part, dotted, Forest.resolveSegment, owner,
    heads]

/-! ### From the place back to the leaf -/

theorem functionAnchor_cases (n : t.Id) : functionAnchor n = n ∨
    ∃ a, t.prevNamed n = some a ∧ t.kind a = "type_annotation" ∧ functionAnchor n = a := by
  unfold functionAnchor
  cases before : t.prevNamed n with
  | none => exact .inl rfl
  | some a =>
    by_cases signature : t.kind a = "type_annotation"
    · exact .inr ⟨a, rfl, signature, by simp [Option.filter, signature]⟩
    · exact .inl (by simp [Option.filter, signature])

theorem find_leaf (small : t.source.Small) (nested : t.WellNested) {anchor leaf : t.Id}
    (below : Tree.Below t.root leaf) (solid : Tree.SolidLeaf leaf)
    (named : t.named leaf = true) (same : (t.range leaf).start = (t.range anchor).start) :
    t.namedDescendantAt t.root (t.span anchor).start = some leaf := by
  have start : (t.span anchor).start = (t.span leaf).start := congrArg t.source.pointAt same.symm
  rw [start]
  exact Tree.namedDescendantAt_leaf nested small below solid named

/-- The search at the anchor of a lens ends at a node that stands for what the lens counts. -/
theorem Counts.find (counts : Counts file t p d) (forest : Forest) (small : t.source.Small)
    (nested : t.WellNested) (shaped : t.ElmShaped) :
    ∃ leaf, t.namedDescendantAt t.root p.anchor.start = some leaf ∧
      forest.resolve file leaf = some d := by
  cases counts with
  | @function n name top hname =>
    obtain ⟨-, left, hleft, found⟩ := functionName_eq_some hname
    rcases functionAnchor_cases n with anchor | ⟨a, before, signature, anchor⟩
    · obtain ⟨solid, same⟩ := shaped.function n top name hname
      have below : Tree.Below t.root name :=
        .down (Tree.mem_children.mp top) (.down (Tree.childOfKind_eq_some hleft).1
          (.down (Tree.childOfKind_eq_some found).1 (.here name)))
      rw [anchor]
      exact ⟨name, find_leaf small nested below solid (Tree.childOfKind_eq_some found).2.1 same,
        resolve_functionName top hname⟩
    · obtain ⟨i, hi, solid, same, text⟩ :=
        shaped.signature n top name hname a before signature
      obtain ⟨q, linked⟩ := Tree.prevNamed_eq_some_iff.mp before
      obtain ⟨⟨parent, -⟩, sibling, -⟩ := Tree.named_of_linked linked
      have root : q = t.root := Option.some.inj (sibling.symm.trans (Tree.mem_children.mp top))
      subst root
      have below : Tree.Below t.root i :=
        .down parent (.down (Tree.childOfKind_eq_some hi).1 (.here i))
      rw [anchor]
      exact ⟨i, find_leaf small nested below solid (Tree.childOfKind_eq_some hi).2.1 same,
        resolve_signatureName top hname before signature hi text⟩
  | @typeName n name top hname =>
    obtain ⟨-, found⟩ := typeName_eq_some hname
    obtain ⟨owner, named, -⟩ := Tree.childOfKind_eq_some found
    have below : Tree.Below t.root name :=
      .down (Tree.mem_children.mp top) (.down owner (.here name))
    exact ⟨name, find_leaf small nested below (shaped.typeName n top name hname) named rfl,
      resolve_typeName hname⟩
  | @moduleName qid hname parts =>
    obtain ⟨header, hheader, hqid⟩ := moduleName_eq_some hname
    obtain ⟨c, first⟩ := Option.isSome_iff_exists.mp (List.isSome_head?.mpr parts)
    obtain ⟨solid, named, kind, same⟩ := shaped.moduleName qid c hname first
    have part : t.parent c = some qid := Tree.mem_children.mp (List.mem_of_head? first)
    have below : Tree.Below t.root c :=
      .down (Tree.childOfKind_eq_some hheader).1
        (.down (Tree.childOfKind_eq_some hqid).1 (.down part (.here c)))
    exact ⟨c, find_leaf small nested below solid named same, resolve_modulePart hname part kind⟩

/-- The lens that shows the uses of a definition. -/
def usesLens (forest : Forest) (p : Placeholder) (d : Definition) : ResolvedLens :=
  let uses := forest.references d
  ⟨p.file, p.anchor, referenceLabel uses.length, some (.showReferences p.anchor uses p.file)⟩

theorem Counts.resolve (counts : Counts file t p d) (found : forest.get? file = some t)
    (small : t.source.Small) (nested : t.WellNested) (shaped : t.ElmShaped) (canToggle : Bool) :
    p.resolve forest canToggle = .ok (usesLens forest p d) := by
  obtain ⟨hfile, family, -, -⟩ := counts.subject
  obtain ⟨leaf, search, stands⟩ := counts.find forest small nested shaped
  have subject : p.subjectDefinition forest t = some d := by
    rw [Placeholder.subjectDefinition, search, hfile]
    exact stands
  simp [Placeholder.resolve, hfile, found, Placeholder.resolveIn, family,
    Placeholder.references, subject, usesLens]

/-- Discovery and resolution agree on the subject. A discovered reference lens belongs to one
declared symbol and resolves to the uses of that symbol, as it is or after a journey through
its payload. -/
theorem discovered_lens_resolves {forest : Forest} {file : FileId} {t : Tree}
    (found : forest.get? file = some t) (small : t.source.Small) (nested : t.WellNested)
    (shaped : t.ElmShaped) (canToggle : Bool) {p : Placeholder}
    (discovered : p ∈ Discovery.lenses file t) (family : p.family = .referenceCount) :
    ∃ d, Counts file t p d ∧ d.file = file ∧ d.name = p.subject ∧
      p.resolve forest canToggle = .ok (usesLens forest p d) ∧
      (Placeholder.ofPayload (p.toCodeLens t.source).data).bind (·.resolve forest canToggle) =
        .ok (usesLens forest p d) := by
  obtain ⟨d, counts⟩ := exists_counts discovered family
  obtain ⟨-, -, home, subject⟩ := counts.subject
  have resolved := counts.resolve found small nested shaped canToggle
  refine ⟨d, counts, home, subject, resolved, ?_⟩
  rw [Placeholder.ofPayload_toCodeLens]
  exact resolved

/-- A file with a module name, a type, and a function below its annotation. -/
def annotatedFile : Tree :=
  (Tree.build "module A exposing (..)\ntype T = T\nf : T\nf = 1" [.openHere "file",
    .openHere "module_declaration", .token "module", .openHere "upper_case_qid",
    .leaf "upper_case_identifier" "A", .close, .close,
    .openHere "type_declaration", .token "type", .leaf "upper_case_identifier" "T", .close,
    .openHere "type_annotation", .leaf "lower_case_identifier" "f", .token ":",
    .leaf "type_expression" "T", .close,
    .openHere "value_declaration", .openHere "function_declaration_left",
    .leaf "lower_case_identifier" "f", .close, .token "=", .close,
    .close]).toOption.get (by decide +kernel)

theorem wellNested_annotatedFile : annotatedFile.WellNested := by decide +kernel

theorem elmShaped_annotatedFile : annotatedFile.ElmShaped where
  function := by decide +kernel
  signature := by decide +kernel
  typeName := by decide +kernel
  moduleName := by decide +kernel

theorem annotated_function_resolves :
    let forest := Forest.empty.insert "A.elm" annotatedFile
    let p : Placeholder := ⟨.referenceCount, "A.elm", "f", true, ⟨⟨2, 0⟩, ⟨2, 5⟩⟩⟩
    forest.get? "A.elm" = some annotatedFile ∧ annotatedFile.source.Small ∧
      p ∈ Discovery.lenses "A.elm" annotatedFile ∧
      ∃ d, d.name = "f" ∧ p.resolve forest false = .ok (usesLens forest p d) := by
  intro forest p
  have found : forest.get? "A.elm" = some annotatedFile := by
    rw [Forest.get?_insert, if_pos rfl]
  have small : annotatedFile.source.Small := by
    unfold Source.Small
    decide +kernel
  have discovered : p ∈ Discovery.lenses "A.elm" annotatedFile := by decide +kernel
  obtain ⟨d, -, -, name, resolved, -⟩ := discovered_lens_resolves found small
    wellNested_annotatedFile elmShaped_annotatedFile false discovered rfl
  exact ⟨found, small, discovered, d, name, resolved⟩

end ElmOverlay
