import ElmOverlay.Proofs.FoldingRules

/-!
Runs of imports. A fold of imports is found from one node: a step back along the named siblings
tells that a run begins there, and steps forward find where it ends. Both go through the named
children of one parent, so what they find are the stretches of imports that cannot be made longer.
These have no node in common and leave out no import, and each has one fold.
-/
namespace ElmOverlay

namespace Tree

variable {t : Tree}

/-! ### Siblings of a node -/

theorem namedChildren_nodup (p : t.Id) : (t.namedChildren p).Nodup := (children_nodup p).filter _

/-- A node stands at one place among the named children of its parent. -/
theorem split_unique {p n : t.Id} {before after front back : List t.Id}
    (split : t.namedChildren p = before ++ n :: after)
    (again : t.namedChildren p = front ++ n :: back) : before = front ∧ after = back := by
  have distinct := namedChildren_nodup p
  rw [split, List.nodup_middle, List.nodup_cons, List.mem_append, not_or] at distinct
  obtain ⟨⟨fresh, later⟩, -⟩ := distinct
  have same := split.symm.trans again
  obtain ⟨hfront, -, hback⟩ := (List.append_cons_inj_of_notMem fresh later).mp same
  exact ⟨hfront, hback⟩

theorem parent_of_split {p n : t.Id} {before after : List t.Id}
    (split : t.namedChildren p = before ++ n :: after) : t.parent n = some p := by
  have listed : n ∈ t.namedChildren p := split ▸ by simp
  exact (mem_namedChildren.mp listed).1

theorem nextNamed_of_split {p n : t.Id} {before after : List t.Id}
    (split : t.namedChildren p = before ++ n :: after) : t.nextNamed n = after.head? := by
  ext m
  rw [nextNamed_eq_some_iff]
  constructor
  · rintro ⟨q, front, back, again⟩
    have here : t.namedChildren q = front ++ n :: (m :: back) := by simp [← again]
    cases (parent_of_split split).symm.trans (parent_of_split here)
    obtain ⟨-, rfl⟩ := split_unique split here
    rfl
  · intro first
    obtain ⟨back, rfl⟩ := List.head?_eq_some_iff.mp first
    exact ⟨p, before, back, by simp [split]⟩

theorem prevNamed_of_split {p n : t.Id} {before after : List t.Id}
    (split : t.namedChildren p = before ++ n :: after) : t.prevNamed n = before.getLast? := by
  ext m
  rw [prevNamed_eq_some_iff]
  constructor
  · rintro ⟨q, front, back, again⟩
    have here : t.namedChildren q = (front ++ [m]) ++ n :: back := by simp [← again]
    cases (parent_of_split split).symm.trans (parent_of_split here)
    obtain ⟨rfl, -⟩ := split_unique split here
    exact List.getLast?_concat
  · intro last
    obtain ⟨front, rfl⟩ := List.getLast?_eq_some_iff.mp last
    exact ⟨p, front, after, by simp [split]⟩

end Tree

namespace Folding

open Elm

variable {t : Tree}

/-- All imports of one stretch of the named children of a node, with none beside them. -/
structure WholeRun (p : t.Id) (run : List t.Id) : Prop where
  nonempty : run ≠ []
  imports : ∀ n ∈ run, t.kind n = "import_clause"
  maximal : ∃ before after, t.namedChildren p = before ++ (run ++ after) ∧
    (∀ m ∈ before.getLast?, t.kind m ≠ "import_clause") ∧
    (∀ m ∈ after.head?, t.kind m ≠ "import_clause")

/-- The fold of a run goes from the start of its first node to the end of its last. -/
inductive FoldsRun : List t.Id → Fold → Prop
  | mk {run : List t.Id} {first last : t.Id} (head : run.head? = some first)
      (tail : run.getLast? = some last) :
      FoldsRun run ⟨.imports, ⟨(t.span first).start, (t.span last).stop⟩⟩

theorem isImport_iff {n : t.Id} : isImport n = true ↔ t.kind n = "import_clause" :=
  decide_eq_true_iff

/-! ### Runs among the children of a node -/

section Split

variable {p n : t.Id} {before after run : List t.Id}
  (split : t.namedChildren p = before ++ n :: after)
include split

theorem wholeRun_of_split (kind : t.kind n = "import_clause") :
    WholeRun p (before.rtakeWhile isImport ++ n :: after.takeWhile isImport) where
  nonempty := by simp
  imports := by
    intro m hm
    rw [List.mem_append, List.mem_cons] at hm
    rcases hm with hm | rfl | hm
    · exact isImport_iff.mp (List.mem_rtakeWhile_imp hm)
    · exact kind
    · exact isImport_iff.mp (List.mem_takeWhile_imp hm)
  maximal := by
    refine ⟨before.rdropWhile isImport, after.dropWhile isImport, ?_, ?_, ?_⟩
    · calc t.namedChildren p = before ++ n :: after := split
        _ = (before.rdropWhile isImport ++ before.rtakeWhile isImport) ++
              n :: (after.takeWhile isImport ++ after.dropWhile isImport) := by
            rw [List.rdropWhile_append_rtakeWhile, List.takeWhile_append_dropWhile]
        _ = _ := by simp only [List.append_assoc, List.cons_append]
    · intro m hm
      obtain ⟨front, last⟩ := List.getLast?_eq_some_iff.mp hm
      have stops := List.rdropWhile_last_not isImport before (by simp [last])
      simp only [last, List.getLast_concat] at stops
      exact fun kind => stops (isImport_iff.mpr kind)
    · intro m hm
      have stops := List.head?_dropWhile_not isImport after
      rw [hm] at stops
      intro kind
      simp [isImport_iff.mpr kind] at stops

/-- A whole run at a node takes all imports back and forth from it. -/
theorem WholeRun.eq_of_split (whole : WholeRun p run) (member : n ∈ run) :
    run = before.rtakeWhile isImport ++ n :: after.takeWhile isImport := by
  obtain ⟨-, imports, front, back, children, first, last⟩ := whole
  obtain ⟨left, right, rfl⟩ := List.append_of_mem member
  have again : t.namedChildren p = (front ++ left) ++ n :: (right ++ back) := by simp [children]
  obtain ⟨rfl, rfl⟩ := Tree.split_unique split again
  rw [rtakeWhile_append_of_stop, takeWhile_append_of_stop]
  · exact fun m hm => isImport_iff.mpr (imports m (by simp [hm]))
  · exact fun m hm => mt isImport_iff.mp (last m hm)
  · exact fun m hm => isImport_iff.mpr (imports m (by simp [hm]))
  · exact fun m hm => mt isImport_iff.mp (first m hm)

theorem importRunEnd_of_split :
    (n :: after.takeWhile isImport).getLast? = some (importRunEnd n) := by
  induction after generalizing n before with
  | nil =>
    rw [importRunEnd_of_last (Tree.nextNamed_of_split split)]
    rfl
  | cons m after ih =>
    have next : t.nextNamed n = some m := Tree.nextNamed_of_split split
    rw [importRunEnd_eq next, List.takeWhile_cons]
    split
    next kind =>
      rw [List.getLast?_cons_cons]
      have again : t.namedChildren p = (before ++ [n]) ++ m :: after := by simp [split]
      exact ih again
    next other => rfl

end Split

namespace WholeRun

variable {p q n : t.Id} {run other : List t.Id}

theorem split_of_head (whole : WholeRun p run) (head : run.head? = some n) :
    ∃ before after rest, run = n :: rest ∧ t.namedChildren p = before ++ n :: (rest ++ after) ∧
      BeginsRun n ∧ (rest ++ after).takeWhile isImport = rest := by
  obtain ⟨-, imports, before, after, children, first, last⟩ := whole
  obtain ⟨rest, rfl⟩ := List.head?_eq_some_iff.mp head
  have split : t.namedChildren p = before ++ n :: (rest ++ after) := children
  refine ⟨before, after, rest, rfl, split, ?_, ?_⟩
  · rw [BeginsRun, Tree.prevNamed_of_split split]
    exact first
  · apply takeWhile_append_of_stop
    · exact fun m hm => isImport_iff.mpr (imports m (by simp [hm]))
    · exact fun m hm => mt isImport_iff.mp (last m hm)

theorem begins (whole : WholeRun p run) (head : run.head? = some n) : BeginsRun n := by
  obtain ⟨-, -, -, -, -, begins, -⟩ := whole.split_of_head head
  exact begins

/-- The steps forward from the first node of a run end at its last. -/
theorem getLast? (whole : WholeRun p run) (head : run.head? = some n) :
    run.getLast? = some (importRunEnd n) := by
  obtain ⟨before, after, rest, rfl, children, -, stops⟩ := whole.split_of_head head
  have last := importRunEnd_of_split children
  rwa [stops] at last

theorem mem_namedChildren (whole : WholeRun p run) (member : n ∈ run) :
    n ∈ t.namedChildren p := by
  obtain ⟨-, -, before, after, children, -⟩ := whole
  simp [children, member]

/-- No node is in two runs. -/
theorem unique (whole : WholeRun p run) (member : n ∈ run) (whole' : WholeRun q other)
    (member' : n ∈ other) : run = other := by
  have here := whole.mem_namedChildren member
  have parent := (Tree.mem_namedChildren.mp here).1
  cases parent.symm.trans (Tree.mem_namedChildren.mp (whole'.mem_namedChildren member')).1
  obtain ⟨before, after, split⟩ := List.append_of_mem here
  rw [whole.eq_of_split split member, whole'.eq_of_split split member']

end WholeRun

/-- Every import below the root is in a run, and one that begins a run is the first of it. -/
theorem exists_wholeRun (rooted : ∀ n : t.Id, t.parent n = none → n = t.root) {n : t.Id}
    (named : t.named n = true) (below : n ≠ t.root) (kind : t.kind n = "import_clause") :
    ∃ p run, WholeRun p run ∧ n ∈ run ∧ (BeginsRun n → run.head? = some n) := by
  obtain ⟨p, parent⟩ := Option.ne_none_iff_exists'.mp (mt (rooted n) below)
  obtain ⟨before, after, split⟩ := List.append_of_mem (Tree.mem_namedChildren.mpr ⟨parent, named⟩)
  refine ⟨p, _, wholeRun_of_split split kind, by simp, ?_⟩
  intro begins
  rw [BeginsRun, Tree.prevNamed_of_split split] at begins
  have alone : (before ++ []).rtakeWhile isImport = [] :=
    rtakeWhile_append_of_stop (by simp) fun m hm => mt isImport_iff.mp (begins m hm)
  rw [List.append_nil] at alone
  rw [alone]
  rfl

/-! ### Folds of runs -/

/-- The fold that is found from the first node of a run. -/
def foldFrom (n : t.Id) : Fold := ⟨.imports, ⟨(t.span n).start, (t.span (importRunEnd n)).stop⟩⟩

/-- Only the rule for imports makes folds of their sort. -/
theorem Ruled.filter_imports {n : t.Id} {l : List Fold} (rule : Ruled n l) :
    l.filter (fun f => f.kind = .imports) =
      if t.kind n = "import_clause" ∧ BeginsRun n then [foldFrom n] else [] := by
  cases rule with
  | imports kind first run =>
    obtain rfl := importRun_iff.mp run
    simp [kind, first, foldFrom]
  | laterImport kind later => simp [later]
  | letIn kind bindings body => cases bindings <;> cases body <;> simp [kind]
  | ifElse kind children => simp [kind, List.filter_map, Function.comp_def]
  | block kind =>
    have other : t.kind n ≠ "import_clause" := by
      intro same
      rw [same] at kind
      revert kind
      decide
    simp [other]
  | other kind =>
    have other : t.kind n ≠ "import_clause" := fun same => kind (by simp [same, foldingKinds])
    simp [other]
  | _ kind => simp [kind]

variable (t) in
/-- The first nodes of all runs, in the order of their numbers. -/
def runStarts : List t.Id :=
  (inner t).filter fun n => t.kind n = "import_clause" ∧ BeginsRun n

theorem mem_runStarts {n : t.Id} : n ∈ runStarts t ↔
    (t.named n = true ∧ n ≠ t.root) ∧ t.kind n = "import_clause" ∧ BeginsRun n := by
  rw [runStarts, List.mem_filter, inner, List.mem_filter]
  simp [Tree.ids]

theorem runStarts_ascend : (runStarts t).Pairwise (· < ·) :=
  ((List.pairwise_lt_finRange _).filter _).filter _

theorem WholeRun.exists_start {p : t.Id} {run : List t.Id} (whole : WholeRun p run) :
    ∃ n ∈ runStarts t, run.head? = some n := by
  obtain ⟨n, head⟩ := Option.isSome_iff_exists.mp (List.isSome_head?.mpr whole.nonempty)
  have member := List.mem_of_head? head
  obtain ⟨parent, named⟩ := Tree.mem_namedChildren.mp (whole.mem_namedChildren member)
  have below : n ≠ t.root := by
    rintro rfl
    cases Tree.parent_root.symm.trans parent
  exact ⟨n, mem_runStarts.mpr ⟨⟨named, below⟩, whole.imports n member, whole.begins head⟩, head⟩

theorem filter_flatMap_byKind (rooted : ∀ n : t.Id, t.parent n = none → n = t.root)
    (ns : List t.Id) : (ns.flatMap byKind).filter (fun f => f.kind = .imports) =
      (ns.filter fun n => t.kind n = "import_clause" ∧ BeginsRun n).map foldFrom := by
  induction ns with
  | nil => rfl
  | cons n ns ih =>
    rw [List.flatMap_cons, List.filter_append, ih, (ruled_byKind rooted n).filter_imports,
      List.filter_cons]
    by_cases first : t.kind n = "import_clause" ∧ BeginsRun n <;> simp [first]

theorem filter_folds {text : String} {calls : List BuildCall}
    (built : Tree.build text calls = .ok t) :
    (folds t).filter (fun f => f.kind = .imports) = (runStarts t).map foldFrom := by
  have rooted := Tree.rooted_of_finish built
  have classified : t.ids.filter isClassified = inner t :=
    List.filter_congr fun n _ => isClassified_eq rooted n
  rw [folds, Tree.walk_root_of_build built, flatMap_ofNode, classified,
    filter_flatMap_byKind rooted, runStarts]

/-- In a built tree the folds of imports are those of the whole runs, in the order of the first
nodes. Each import below the root is in one of the runs, and the steps along a run come to an end. -/
theorem imports_fold_by_runs {text : String} {calls : List BuildCall}
    (built : Tree.build text calls = .ok t) : ∃ runs : List (List t.Id),
      (∀ run, run ∈ runs ↔ ∃ p, WholeRun p run) ∧
      runs.Pairwise (fun a b => ∃ m ∈ a.head?, ∃ n ∈ b.head?, m < n) ∧
      List.Forall₂ FoldsRun runs ((folds t).filter fun f => f.kind = .imports) ∧
      (∀ n : t.Id, t.named n = true → n ≠ t.root → t.kind n = "import_clause" →
        ∃! run, run ∈ runs ∧ n ∈ run) ∧
      WellFounded fun m n : t.Id => t.nextNamed n = some m ∧ t.kind m = "import_clause" := by
  have rooted := Tree.rooted_of_finish built
  have found : ∀ n ∈ runStarts t, ∃ run, (∃ p, WholeRun p run) ∧ run.head? = some n := by
    intro n start
    obtain ⟨⟨named, below⟩, kind, begins⟩ := mem_runStarts.mp start
    obtain ⟨p, run, whole, -, first⟩ := exists_wholeRun rooted named below kind
    exact ⟨run, ⟨p, whole⟩, first begins⟩
  choose! runFrom whole head using found
  have listed : ∀ run, run ∈ (runStarts t).map runFrom ↔ ∃ p, WholeRun p run := by
    intro run
    constructor
    · intro member
      obtain ⟨n, start, rfl⟩ := List.mem_map.mp member
      exact whole n start
    · rintro ⟨p, given⟩
      obtain ⟨n, start, first⟩ := given.exists_start
      obtain ⟨q, chosen⟩ := whole n start
      rw [given.unique (List.mem_of_head? first) chosen (List.mem_of_head? (head n start))]
      exact List.mem_map_of_mem start
  refine ⟨(runStarts t).map runFrom, listed, ?ordered, ?folds, ?partition, ?ends⟩
  case ordered =>
    rw [List.pairwise_map]
    apply runStarts_ascend.imp_of_mem
    intro m n hm hn less
    exact ⟨m, head m hm, n, head n hn, less⟩
  case folds =>
    rw [filter_folds built, List.forall₂_map_left_iff, List.forall₂_map_right_iff,
      List.forall₂_same]
    intro n start
    obtain ⟨p, whole⟩ := whole n start
    exact .mk (head n start) (whole.getLast? (head n start))
  case partition =>
    intro n named below kind
    obtain ⟨p, run, whole, member, -⟩ := exists_wholeRun rooted named below kind
    refine ⟨run, ⟨(listed run).mpr ⟨p, whole⟩, member⟩, ?_⟩
    rintro other ⟨listed_other, member'⟩
    obtain ⟨q, whole'⟩ := (listed other).mp listed_other
    exact whole'.unique member' whole member
  case ends =>
    apply Subrelation.wf _ (measure fun n : t.Id => t.nodes.size - n.val).wf
    intro m n step
    have later : n.val < m.val := Tree.lt_nextNamed step.1
    have := m.isLt
    simp only [WellFoundedRelation.rel, InvImage]
    omega

/-- Two imports with a token between them, and two that another node keeps apart. -/
def groupedImports : Tree :=
  (Tree.build "import A; import B\n( import C )\nimport D" [.openHere "file",
    .openHere "import_clause", .token "import", .leaf "upper_case_qid" "A", .close, .token ";",
    .openHere "import_clause", .token "import", .leaf "upper_case_qid" "B", .close,
    .openHere "group", .token "(",
    .openHere "import_clause", .token "import", .leaf "upper_case_qid" "C", .close,
    .token ")", .close,
    .openHere "import_clause", .token "import", .leaf "upper_case_qid" "D", .close,
    .close]).toOption.get (by decide +kernel)

theorem built_groupedImports : ∃ text calls, Tree.build text calls = .ok groupedImports :=
  ⟨_, _, eq_ok_get_toOption _ _⟩

/-- The run in the group stands between the two runs around it. -/
theorem grouped_imports_fold : ∃ runs : List (List groupedImports.Id), runs.length = 3 ∧
    (∀ run, run ∈ runs ↔ ∃ p, WholeRun p run) ∧
    (folds groupedImports).filter (fun f => f.kind = .imports) =
      [⟨.imports, ⟨⟨0, 0⟩, ⟨0, 18⟩⟩⟩, ⟨.imports, ⟨⟨1, 2⟩, ⟨1, 10⟩⟩⟩,
        ⟨.imports, ⟨⟨2, 0⟩, ⟨2, 8⟩⟩⟩] := by
  obtain ⟨_, _, built⟩ := built_groupedImports
  obtain ⟨runs, listed, -, folded, -⟩ := imports_fold_by_runs built
  have found : (folds groupedImports).filter (fun f => f.kind = .imports) =
      [⟨.imports, ⟨⟨0, 0⟩, ⟨0, 18⟩⟩⟩, ⟨.imports, ⟨⟨1, 2⟩, ⟨1, 10⟩⟩⟩,
        ⟨.imports, ⟨⟨2, 0⟩, ⟨2, 8⟩⟩⟩] := by decide +kernel
  rw [found] at folded
  exact ⟨runs, folded.length_eq, listed, found⟩

end Folding

end ElmOverlay
