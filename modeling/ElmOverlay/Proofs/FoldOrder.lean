import ElmOverlay.Proofs.PointSearch
import ElmOverlay.Proofs.WirePositions

/-!
Folds of a tree whose ranges nest like its nodes. Each kind of construct takes the ends of its fold
from nodes of its own choice, and in each the end belongs to a node that does not end before the
fold begins. Nothing else about the constructs is needed: such a fold is ordered and lies in the
text, also on the wire, and also if it begins on the row above its first node.
-/
namespace ElmOverlay

open Elm Protocol

namespace Point

theorem lineAbove_le (p : Point) : p.lineAbove ≤ p := by
  rw [le_iff, lineAbove]
  split
  next first => simp [first]
  next later =>
    have positive : 0 < p.row.toNat := Nat.pos_of_ne_zero fun h => later (UInt32.toNat_inj.mp h)
    have above : (p.row - 1).toNat = p.row.toNat - 1 :=
      UInt32.toNat_sub_of_le p.row 1 (UInt32.le_iff_toNat_le.mpr positive)
    simp only [above]
    omega

theorem row_le {p q : Point} (ordered : p ≤ q) : p.row.toNat ≤ q.row.toNat := by
  rw [le_iff] at ordered
  omega

end Point

namespace Tree

variable {t : Tree}

theorem range_of_child (nested : t.WellNested) {n c : t.Id} (child : c ∈ t.namedChildren n) :
    (t.range n).start ≤ (t.range c).start ∧ (t.range c).stop ≤ (t.range n).stop :=
  nested.inside c n (mem_namedChildren.mp child).1

/-- A named node ends no later than the next named one beside it begins. -/
theorem stop_le_nextNamed (nested : t.WellNested) {a b : t.Id} (next : t.nextNamed a = some b) :
    (t.range a).stop ≤ (t.range b).start := by
  obtain ⟨p, neighbours⟩ := nextNamed_eq_some_iff.mp next
  have apart := ((children_apart nested p).filter t.named).sublist neighbours.sublist
  simpa using apart

end Tree

namespace Folding

variable {t : Tree}

/-- From the start of a node, or from the row above it, to the end of a node that does not end
before. -/
inductive Stretch (t : Tree) : Span → Prop
  | flush {a b : t.Id} (forward : (t.range a).start ≤ (t.range b).stop) :
      Stretch t ⟨(t.span a).start, (t.span b).stop⟩
  | hanging {a b : t.Id} (forward : (t.range a).start ≤ (t.range b).stop) :
      Stretch t (hangingSpan a (t.span b).stop)

/-! ### Constructs -/

/-- By induction along the imports: each begins where the ones before it have ended. -/
theorem start_le_importRunEnd (nested : t.WellNested) (n : t.Id) :
    (t.range n).start ≤ (t.range (importRunEnd n)).stop := by
  induction n using importRunEnd.induct with
  | case1 n last =>
    rw [importRunEnd_of_last last]
    exact nested.ordered n
  | case2 n m next isImport ih =>
    have gap := Tree.stop_le_nextNamed nested next
    rw [importRunEnd_eq next, if_pos isImport]
    exact Nat.le_trans (nested.ordered n) (Nat.le_trans gap ih)
  | case3 n m next other =>
    rw [importRunEnd_eq next, if_neg other]
    exact nested.ordered n

theorem stretch_of_mem_letFolds (nested : t.WellNested) {n : t.Id} {f : Fold}
    (fold : f ∈ letFolds n) : Stretch t f.span := by
  have order := nested.ordered
  simp only [letFolds, List.mem_append, Option.mem_toList, Option.map_eq_some_iff] at fold
  rcases fold with ⟨m, last, rfl⟩ | ⟨m, body, rfl⟩
  · have child := (List.mem_filter.mp (List.mem_of_getLast? last)).1
    have inside := Tree.range_of_child nested child
    exact .flush (Nat.le_trans inside.1 (order m))
  · have child := List.mem_of_getLast? (Option.filter_eq_some_iff.mp body).1
    have inside := Tree.range_of_child nested child
    exact .hanging (Nat.le_trans (order m) inside.2)

theorem stretch_of_mem_byKind (nested : t.WellNested) {n : t.Id} {f : Fold}
    (fold : f ∈ byKind n) : Stretch t f.span := by
  have own : Stretch t (t.span n) := .flush (nested.ordered n)
  unfold byKind at fold
  split at fold
  next =>
    split at fold
    next =>
      obtain rfl := List.mem_singleton.mp fold
      exact .flush (start_le_importRunEnd nested n)
    next => cases fold
  next => exact stretch_of_mem_letFolds nested fold
  next =>
    obtain ⟨m, -, rfl⟩ := List.mem_map.mp fold
    exact .hanging (nested.ordered m)
  next =>
    split at fold
    next =>
      obtain rfl := List.mem_singleton.mp fold
      exact own
    next => cases fold
  case h_11 => cases fold
  all_goals
    obtain rfl := List.mem_singleton.mp fold
    exact own

theorem stretch_of_mem_folds (nested : t.WellNested) {f : Fold} (fold : f ∈ folds t) :
    Stretch t f.span := by
  obtain ⟨n, -, ofNode⟩ := List.mem_flatMap.mp fold
  rw [Folding.ofNode] at ofNode
  split at ofNode
  next => exact stretch_of_mem_byKind nested ofNode
  next => cases ofNode

/-! ### Bounds -/

theorem Stretch.wellOrdered (small : t.source.Small) {span : Span} (stretch : Stretch t span) :
    span.WellOrdered := by
  cases stretch with
  | flush forward => exact Source.pointAt_le small forward (Tree.range_in_source _).2
  | hanging forward =>
    exact Point.le_trans (Point.lineAbove_le _)
      (Source.pointAt_le small forward (Tree.range_in_source _).2)

theorem Stretch.stop_row (small : t.source.Small) {span : Span} (stretch : Stretch t span) :
    span.stop.row.toNat < lineCount t.source.text := by
  cases stretch <;> exact row_pointAt_lt small (Tree.range_in_source _).2

end Folding

/-- Every fold of a well-nested tree is ordered. Its range on the wire runs between the same rows, is
ordered, and begins and ends in lines that the text has, at most at the end of the line. -/
theorem folds_in_document {t : Tree} (nested : t.WellNested) (small : t.source.Small) :
    (foldingRanges t).length = (Folding.folds t).length ∧
    ∀ (i : Nat) f, (Folding.folds t)[i]? = some f → f.span.WellOrdered ∧
      ∃ r, (foldingRanges t)[i]? = some r ∧ r.kind = f.kind ∧
        r.range.start.line = f.span.start.row ∧ r.range.stop.line = f.span.stop.row ∧
        r.range.start ≤ r.range.stop ∧
        r.range.start.InText t.source.text ∧ r.range.stop.InText t.source.text := by
  refine ⟨List.length_map _, ?_⟩
  intro i f fold
  have stretch := Folding.stretch_of_mem_folds nested (List.mem_of_getElem? fold)
  have ordered := stretch.wellOrdered small
  have stop := stretch.stop_row small
  have start := Nat.lt_of_le_of_lt (Point.row_le ordered) stop
  refine ⟨ordered, .ofFold t.source f, by rw [foldingRanges, List.getElem?_map, fold]; rfl,
    rfl, rfl, rfl, ?_⟩
  exact ⟨ofPoint_le small ordered stop, ofPoint_inText small start, ofPoint_inText small stop⟩

/-- A function whose body stands to the right of all that the row above it holds. -/
def overhangingFile : Tree :=
  (Tree.build "import A\nimport B\nf =\n let\n  x = 1\n in--ü\n         x" [.openHere "file",
    .openHere "import_clause", .token "import", .leaf "upper_case_qid" "A", .close,
    .openHere "import_clause", .token "import", .leaf "upper_case_qid" "B", .close,
    .openHere "value_declaration", .leaf "function_declaration_left" "f", .token "=",
    .openHere "let_in_expr", .token "let",
    .openHere "value_declaration", .leaf "function_declaration_left" "x", .token "=",
    .leaf "number_constant_expr" "1", .close, .token "in", .leaf "line_comment" "--ü",
    .leaf "value_expr" "x", .close, .close,
    .close]).toOption.get (by decide +kernel)

theorem wellNested_overhangingFile : overhangingFile.WellNested := by decide +kernel

/-- The fold of the body keeps its column of 9, and the row above ends after 6 units. -/
theorem overhanging_body_folds :
    overhangingFile.WellNested ∧ overhangingFile.source.Small ∧
    (Folding.folds overhangingFile)[3]? = some ⟨.region, ⟨⟨5, 9⟩, ⟨6, 10⟩⟩⟩ ∧
    ∃ r, (foldingRanges overhangingFile)[3]? = some r ∧ r.range = ⟨⟨5, 6⟩, ⟨6, 10⟩⟩ ∧
      r.range.start.InText overhangingFile.source.text := by
  have small : overhangingFile.source.Small := by
    unfold Source.Small
    decide +kernel
  have fold : (Folding.folds overhangingFile)[3]? = some ⟨.region, ⟨⟨5, 9⟩, ⟨6, 10⟩⟩⟩ := by
    decide +kernel
  have sent : (foldingRanges overhangingFile)[3]? =
      some ⟨.region, ⟨⟨5, 6⟩, ⟨6, 10⟩⟩⟩ := by decide +kernel
  obtain ⟨-, r, found, -, -, -, -, start, -⟩ :=
    (folds_in_document wellNested_overhangingFile small).2 3 _ fold
  obtain rfl := Option.some.inj (sent.symm.trans found)
  exact ⟨wellNested_overhangingFile, small, fold, _, found, rfl, start⟩

end ElmOverlay
