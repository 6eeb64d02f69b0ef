import ElmOverlay.Folding
import ElmOverlay.Proofs.PreOrder

/-!
Folding by rules. A rule says what one kind of construct folds, from its own children and the
nodes beside it alone, and every node has the folds of exactly one rule. In a built tree the walk
passes the nodes in the order of their numbers and leaves out none but the root and the anonymous
ones, so the folds of the rules, node by node, are the folds of the tree.
-/
namespace ElmOverlay.Folding

open Elm

variable {t : Tree}

/-! ### Rules -/

/-- No import stands before a node. -/
def BeginsRun (n : t.Id) : Prop := ∀ m ∈ t.prevNamed n, t.kind m ≠ "import_clause"

/-- From an import along the next ones to the last before another named node. -/
inductive ImportRun : t.Id → t.Id → Prop
  | last {n : t.Id} (ends : ∀ m ∈ t.nextNamed n, t.kind m ≠ "import_clause") : ImportRun n n
  | more {n m e : t.Id} (next : t.nextNamed n = some m) (kind : t.kind m = "import_clause")
      (rest : ImportRun m e) : ImportRun n e

def LastBinding (n m : t.Id) : Prop :=
  t.kind m = "value_declaration" ∧ ∃ before after, t.namedChildren n = before ++ m :: after ∧
    ∀ c ∈ after, t.kind c ≠ "value_declaration"

def Body (n m : t.Id) : Prop :=
  (t.namedChildren n).getLast? = some m ∧
    t.kind m ∉ ["value_declaration", "type_annotation", "line_comment", "block_comment"]

/-- One row above the start of a node, or at its start in row 0. -/
def above (n : t.Id) : Point :=
  ⟨UInt32.ofNat ((t.span n).start.row.toNat - 1), (t.span n).start.column⟩

/-- The fold of the node with a property, and none if there is no such node. -/
inductive FoldOf (P : t.Id → Prop) (fold : t.Id → Fold) : List Fold → Prop
  | one {m : t.Id} (holds : P m) : FoldOf P fold [fold m]
  | none (fails : ∀ m, ¬ P m) : FoldOf P fold []

def blockKinds : List String :=
  ["case_of_expr", "case_of_branch", "type_declaration", "type_alias_declaration", "record_expr"]

def foldingKinds : List String :=
  ["import_clause", "let_in_expr", "if_else_expr", "value_declaration", "block_comment"]
    ++ blockKinds

/-- The folds of a node by the rule for its kind. -/
inductive Ruled (n : t.Id) : List Fold → Prop
  | imports {e : t.Id} (kind : t.kind n = "import_clause") (first : BeginsRun n)
      (run : ImportRun n e) : Ruled n [⟨.imports, ⟨(t.span n).start, (t.span e).stop⟩⟩]
  | laterImport (kind : t.kind n = "import_clause") (later : ¬ BeginsRun n) : Ruled n []
  | letIn {l r : List Fold} (kind : t.kind n = "let_in_expr")
      (bindings : FoldOf (LastBinding n) (fun m => ⟨.region, (t.span n).start, (t.span m).stop⟩) l)
      (body : FoldOf (Body n) (fun m => ⟨.region, above m, (t.span n).stop⟩) r) :
      Ruled n (l ++ r)
  | ifElse {condition : t.Id} {branches : List t.Id} (kind : t.kind n = "if_else_expr")
      (children : t.namedChildren n = condition :: branches) :
      Ruled n (branches.map fun b => ⟨.region, above b, (t.span b).stop⟩)
  | emptyIf (kind : t.kind n = "if_else_expr") (children : t.namedChildren n = []) : Ruled n []
  | topValue (kind : t.kind n = "value_declaration") (top : t.parent n = some t.root) :
      Ruled n [⟨.region, t.span n⟩]
  | innerValue (kind : t.kind n = "value_declaration") (inner : t.parent n ≠ some t.root) :
      Ruled n []
  | block (kind : t.kind n ∈ blockKinds) : Ruled n [⟨.region, t.span n⟩]
  | comment (kind : t.kind n = "block_comment") : Ruled n [⟨.comment, t.span n⟩]
  | other (kind : t.kind n ∉ foldingKinds) : Ruled n []

/-! ### Counts -/

theorem lastBinding_iff {n m : t.Id} : (letBindings n).getLast? = some m ↔ LastBinding n m := by
  rw [letBindings, List.getLast?_filter, List.find?_eq_some_iff_append, LastBinding]
  simp only [decide_eq_true_eq, Bool.not_eq_true', decide_eq_false_iff_not]
  apply and_congr_right
  intro _
  constructor
  · rintro ⟨after, before, children, later⟩
    refine ⟨before.reverse, after.reverse, ?_, by simpa using later⟩
    rw [← List.reverse_reverse (t.namedChildren n), children]
    simp
  · rintro ⟨before, after, children, later⟩
    refine ⟨after.reverse, before.reverse, ?_, by simpa using later⟩
    rw [children]
    simp

instance (n : t.Id) : Decidable (BeginsRun n) :=
  inferInstanceAs (Decidable (∀ m ∈ t.prevNamed n, t.kind m ≠ "import_clause"))

instance (n m : t.Id) : Decidable (LastBinding n m) := decidable_of_iff _ lastBinding_iff

instance (n m : t.Id) : Decidable (Body n m) := inferInstanceAs (Decidable (_ ∧ _))

/-- None, one or two: for the bindings and for the body. -/
def letCount (n : t.Id) : Nat :=
  (if ∃ m, LastBinding n m then 1 else 0) + (if ∃ m, Body n m then 1 else 0)

/-- A sum over the nodes of some kinds. -/
def total (kinds : List String) (count : t.Id → Nat) : List t.Id → Nat
  | [] => 0
  | n :: ns => (if t.kind n ∈ kinds then count n else 0) + total kinds count ns

/-- How many folds nodes have, construct by construct. -/
def foldCount (ns : List t.Id) : Nat :=
  total ["import_clause"] (fun n => if BeginsRun n then 1 else 0) ns +
  total ["let_in_expr"] letCount ns +
  total ["if_else_expr"] (fun n => (t.namedChildren n).length - 1) ns +
  total ["value_declaration"] (fun n => if t.parent n = some t.root then 1 else 0) ns +
  total blockKinds (fun _ => 1) ns +
  total ["block_comment"] (fun _ => 1) ns

variable (t) in
/-- The named nodes below the root, in the order of their numbers. -/
def inner : List t.Id := t.ids.filter fun n => t.named n && n ≠ t.root

/-! ### One node -/

theorem importRun_iff {n e : t.Id} : ImportRun n e ↔ importRunEnd n = e := by
  constructor
  · intro run
    induction run with
    | @last n ends =>
      cases next : t.nextNamed n with
      | none => exact importRunEnd_of_last next
      | some m =>
        have other : ¬ isImport m = true := by simpa [isImport] using ends m next
        rw [importRunEnd_eq next, if_neg other]
    | @more n m e next kind _ ih =>
      have isImport : isImport m = true := decide_eq_true kind
      rw [importRunEnd_eq next, if_pos isImport, ih]
  · rintro rfl
    induction n using importRunEnd.induct with
    | case1 n last =>
      rw [importRunEnd_of_last last]
      exact .last (by simp [last])
    | case2 n m next isImport ih =>
      rw [importRunEnd_eq next, if_pos isImport]
      exact .more next (of_decide_eq_true isImport) ih
    | case3 n m next other =>
      rw [importRunEnd_eq next, if_neg other]
      exact .last (by simpa [next, isImport] using other)

theorem beginsImportRun_iff {n : t.Id} : beginsImportRun n = true ↔ BeginsRun n := by
  unfold beginsImportRun BeginsRun
  cases t.prevNamed n <;> simp [isImport]

theorem letBody_iff {n m : t.Id} : letBody n = some m ↔ Body n m := by
  simp [letBody, letItemKinds, Body, Option.filter_eq_some_iff]

theorem lineAbove_start (n : t.Id) : (t.span n).start.lineAbove = above n := by
  unfold Point.lineAbove above
  split
  next first => rw [first]; rfl
  next later =>
    have positive : 1 ≤ (t.span n).start.row.toNat :=
      Nat.pos_of_ne_zero fun zero => later (UInt32.toNat_inj.mp zero)
    rw [UInt32.ofNat_sub positive, UInt32.ofNat_toNat]
    rfl

theorem foldOf_iff {P : t.Id → Prop} {fold : t.Id → Fold} {o : Option t.Id} {l : List Fold}
    (holds : ∀ m, o = some m ↔ P m) : FoldOf P fold l ↔ (o.map fold).toList = l := by
  cases o with
  | none =>
    have fails : ∀ m, ¬ P m := fun m h => Option.some_ne_none m ((holds m).mpr h).symm
    constructor
    · rintro (h | _)
      · exact absurd h (fails _)
      · rfl
    · rintro rfl
      exact .none fails
  | some m =>
    have found : P m := (holds m).mp rfl
    constructor
    · rintro (h | fails)
      · obtain rfl := Option.some.inj ((holds _).mpr h)
        rfl
      · exact absurd found (fails m)
    · rintro rfl
      exact .one found

theorem FoldOf.length_eq {P : t.Id → Prop} [Decidable (∃ m, P m)] {fold : t.Id → Fold}
    {l : List Fold} (folds : FoldOf P fold l) : l.length = if ∃ m, P m then 1 else 0 := by
  cases folds with
  | one holds => rw [if_pos ⟨_, holds⟩, List.length_singleton]
  | none fails => rw [if_neg (not_exists.mpr fails), List.length_nil]

/-- The kinds exclude one another, so at most one term of the sum is not zero. -/
theorem Ruled.length_eq {n : t.Id} {l : List Fold} (rule : Ruled n l) : l.length =
    (if t.kind n ∈ ["import_clause"] then if BeginsRun n then 1 else 0 else 0) +
    (if t.kind n ∈ ["let_in_expr"] then letCount n else 0) +
    (if t.kind n ∈ ["if_else_expr"] then (t.namedChildren n).length - 1 else 0) +
    (if t.kind n ∈ ["value_declaration"] then if t.parent n = some t.root then 1 else 0 else 0) +
    (if t.kind n ∈ blockKinds then 1 else 0) +
    (if t.kind n ∈ ["block_comment"] then 1 else 0) := by
  cases rule with
  | imports kind first => simp [kind, first, blockKinds]
  | laterImport kind later => simp [kind, later, blockKinds]
  | letIn kind bindings body =>
    rw [List.length_append, bindings.length_eq, body.length_eq]
    simp [kind, letCount, blockKinds]
  | ifElse kind children => simp [kind, children, blockKinds]
  | emptyIf kind children => simp [kind, children, blockKinds]
  | topValue kind top => simp [kind, top, blockKinds]
  | innerValue kind inner => simp [kind, inner, blockKinds]
  | block kind =>
    simp only [blockKinds, List.mem_cons, List.not_mem_nil, or_false] at kind
    rcases kind with kind | kind | kind | kind | kind <;> simp [kind, blockKinds]
  | comment kind => simp [kind, blockKinds]
  | other kind =>
    simp only [foldingKinds, List.mem_append, List.mem_cons, List.not_mem_nil, or_false,
      not_or] at kind
    simp [kind]

/-! ### A tree -/

theorem length_of_ruled {ns : List t.Id} {rules : t.Id → List Fold}
    (ruled : ∀ n ∈ ns, Ruled n (rules n)) : (ns.flatMap rules).length = foldCount ns := by
  induction ns with
  | nil => rfl
  | cons n ns ih =>
    have first := (ruled n List.mem_cons_self).length_eq
    have rest := ih fun m hm => ruled m (List.mem_cons_of_mem n hm)
    rw [List.flatMap_cons, List.length_append, first, rest]
    simp only [foldCount, total]
    ac_rfl

theorem flatMap_ofNode (ns : List t.Id) :
    ns.flatMap ofNode = (ns.filter isClassified).flatMap byKind := by
  induction ns with
  | nil => rfl
  | cons n ns ih =>
    rw [List.flatMap_cons, ih, ofNode, List.filter_cons]
    split
    next => rw [List.flatMap_cons]
    next => rw [List.nil_append]

section Rooted

variable (rooted : ∀ n : t.Id, t.parent n = none → n = t.root)
include rooted

theorem isTopLevel_iff {n : t.Id} : isTopLevel n = true ↔ t.parent n = some t.root := by
  unfold isTopLevel
  split
  next none => simp [none]
  next p parent =>
    rw [parent, Option.isNone_iff_eq_none, Option.some_inj]
    constructor
    · exact rooted p
    · rintro rfl
      exact Tree.parent_root

theorem byKind_of_ruled {n : t.Id} {l : List Fold} (rule : Ruled n l) : byKind n = l := by
  cases rule with
  | imports kind first run =>
    simp [byKind, kind, beginsImportRun_iff.mpr first, importRun_iff.mp run]
  | laterImport kind later => simp [byKind, kind, mt beginsImportRun_iff.mp later]
  | letIn kind bindings body =>
    rw [foldOf_iff fun _ => lastBinding_iff] at bindings
    rw [foldOf_iff fun _ => letBody_iff] at body
    simp [byKind, kind, letFolds, hangingSpan, lineAbove_start, ← bindings, ← body]
  | ifElse kind children => simp [byKind, kind, children, hangingSpan, lineAbove_start]
  | emptyIf kind children => simp [byKind, kind, children]
  | topValue kind top => simp [byKind, kind, (isTopLevel_iff rooted).mpr top]
  | innerValue kind inner => simp [byKind, kind, mt (isTopLevel_iff rooted).mp inner]
  | block kind =>
    simp only [blockKinds, List.mem_cons, List.not_mem_nil, or_false] at kind
    rcases kind with kind | kind | kind | kind | kind <;> simp [byKind, kind]
  | comment kind => simp [byKind, kind]
  | other kind =>
    unfold byKind
    split
    case h_11 => rfl
    all_goals
      next known => exact absurd (by simp [known, foldingKinds, blockKinds]) kind

theorem ruled_byKind (n : t.Id) : Ruled n (byKind n) := by
  unfold byKind
  split
  next kind =>
    split
    next first => exact .imports kind (beginsImportRun_iff.mp first) (importRun_iff.mpr rfl)
    next later => exact .laterImport kind (mt beginsImportRun_iff.mpr later)
  next kind =>
    simp only [letFolds, hangingSpan, lineAbove_start]
    exact .letIn kind ((foldOf_iff fun _ => lastBinding_iff).mpr rfl)
      ((foldOf_iff fun _ => letBody_iff).mpr rfl)
  next kind =>
    simp only [hangingSpan, lineAbove_start]
    cases children : t.namedChildren n with
    | nil => exact .emptyIf kind children
    | cons condition branches => exact .ifElse kind children
  next kind =>
    split
    next top => exact .topValue kind ((isTopLevel_iff rooted).mp top)
    next inner => exact .innerValue kind (mt (isTopLevel_iff rooted).mpr inner)
  case h_10 kind => exact .comment kind
  case h_11 => exact .other (by grind [foldingKinds, blockKinds])
  all_goals
    next kind => exact .block (by simp [blockKinds, kind])

/-- The guard of the walk keeps out no named node but the root: a parent has at least this child. -/
theorem isClassified_eq (n : t.Id) : isClassified n = (t.named n && n ≠ t.root) := by
  unfold isClassified
  congr 1
  cases parent : t.parent n with
  | none => simp [rooted n parent]
  | some p =>
    have guarded : t.hasChildren p = true := Tree.hasChildren_of_mem (Tree.mem_children.mpr parent)
    have below : n ≠ t.root := by
      rintro rfl
      cases Tree.parent_root.symm.trans parent
    simp [guarded, below]

end Rooted

/-- The folds of a built tree are those that the rules give its nodes, and there are as many as the
constructs have together. -/
theorem folds_by_rules {text : String} {calls : List BuildCall}
    (built : Tree.build text calls = .ok t) :
    folds t = (inner t).flatMap byKind ∧ (∀ (n : t.Id) l, byKind n = l ↔ Ruled n l) ∧
    (folds t).length = foldCount (inner t) := by
  have rooted := Tree.rooted_of_finish built
  have concatenated : folds t = (inner t).flatMap byKind := by
    rw [folds, Tree.walk_root_of_build built, flatMap_ofNode, inner]
    exact congrArg (·.flatMap byKind) (List.filter_congr fun n _ => isClassified_eq rooted n)
  refine ⟨concatenated, ?_, ?_⟩
  · intro n l
    constructor
    · rintro rfl
      exact ruled_byKind rooted n
    · exact byKind_of_ruled rooted
  · rw [concatenated]
    exact length_of_ruled fun n _ => ruled_byKind rooted n

/-- A `let` without bindings in a `let` with one, which chooses between two values. -/
def nestedLets : Tree :=
  (Tree.build "import A\nimport B\nf = let\n x = if a then b else c\n in let in {r | y = x}" [
    .openHere "file",
    .openHere "import_clause", .token "import", .leaf "upper_case_qid" "A", .close,
    .openHere "import_clause", .token "import", .leaf "upper_case_qid" "B", .close,
    .openHere "value_declaration", .leaf "function_declaration_left" "f", .token "=",
    .openHere "let_in_expr", .token "let",
    .openHere "value_declaration", .leaf "function_declaration_left" "x", .token "=",
    .openHere "if_else_expr", .token "if", .leaf "value_expr" "a", .token "then",
    .leaf "value_expr" "b", .token "else", .leaf "value_expr" "c", .close, .close,
    .token "in", .openHere "let_in_expr", .token "let", .token "in",
    .leaf "record_expr" "{r | y = x}", .close, .close, .close,
    .close]).toOption.get (by decide +kernel)

theorem built_nestedLets : ∃ text calls, Tree.build text calls = .ok nestedLets :=
  ⟨_, _, eq_ok_get_toOption _ _⟩

/-- The outer `let` folds twice before all that is in it, and the value in it does not fold. -/
theorem nested_lets_fold :
    (∃ n : nestedLets.Id, Ruled n [⟨.region, ⟨⟨2, 4⟩, ⟨3, 23⟩⟩⟩, ⟨.region, ⟨⟨3, 4⟩, ⟨4, 22⟩⟩⟩]) ∧
    folds nestedLets = (inner nestedLets).flatMap byKind ∧
    folds nestedLets = [⟨.imports, ⟨⟨0, 0⟩, ⟨1, 8⟩⟩⟩, ⟨.region, ⟨⟨2, 0⟩, ⟨4, 22⟩⟩⟩,
      ⟨.region, ⟨⟨2, 4⟩, ⟨3, 23⟩⟩⟩, ⟨.region, ⟨⟨3, 4⟩, ⟨4, 22⟩⟩⟩,
      ⟨.region, ⟨⟨2, 15⟩, ⟨3, 16⟩⟩⟩, ⟨.region, ⟨⟨2, 22⟩, ⟨3, 23⟩⟩⟩,
      ⟨.region, ⟨⟨3, 11⟩, ⟨4, 22⟩⟩⟩, ⟨.region, ⟨⟨4, 11⟩, ⟨4, 22⟩⟩⟩] ∧
    foldCount (inner nestedLets) = 8 := by
  obtain ⟨_, _, built⟩ := built_nestedLets
  obtain ⟨concatenated, rules, count⟩ := folds_by_rules built
  refine ⟨⟨⟨10, by decide +kernel⟩, (rules _ _).mp (by decide +kernel)⟩, concatenated, ?_, ?_⟩
  · decide +kernel
  · rw [← count]
    decide +kernel

end ElmOverlay.Folding
