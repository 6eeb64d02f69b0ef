import ElmOverlay.Proofs.PreOrder
import Mathlib.Logic.Function.Iterate

/-!
Subtrees as stretches of the arena. Nodes are numbered in the order in which they are added, and
only the innermost open node gets children, so the nodes below a node are the next ones behind it,
however deep they stand. A walk that keeps the nodes to come on a stack meets them one by one, and
its stack is empty behind the last.
-/
namespace ElmOverlay

open Arena

/-- An ascending list of numbers without gaps is a range. -/
theorem eq_range'_of_dense {l : List Nat} {n : Nat} (ascends : l.Pairwise (· < ·))
    (low : ∀ i ∈ l, n ≤ i) (dense : ∀ m ∈ l, ∀ i, n ≤ i → i ≤ m → i ∈ l) :
    l = List.range' n l.length := by
  induction l generalizing n with
  | nil => rfl
  | cons a l ih =>
    obtain ⟨first, rest⟩ := List.pairwise_cons.mp ascends
    have le := low a List.mem_cons_self
    obtain rfl : n = a := by
      rcases List.mem_cons.mp (dense a List.mem_cons_self n (Nat.le_refl n) le) with same | later
      · exact same
      · have := first n later
        omega
    rw [List.length_cons, List.range'_succ]
    apply congrArg (n :: ·)
    apply ih rest first
    intro m hm i above below
    rcases List.mem_cons.mp (dense m (List.mem_cons_of_mem n hm) i (by omega) below) with same | hi
    · omega
    · exact hi

namespace Tree

variable {t : Tree}

/-! ### The nodes of a subtree -/

/-- The node itself and the nodes whose ancestor it is. -/
def subtree (n : t.Id) : List t.Id := t.ids.filter fun m => (m :: t.ancestors m).contains n

theorem below_iff {n m : t.Id} : Below n m ↔ m = n ∨ n ∈ t.ancestors m := by
  rw [mem_ancestors_iff]
  constructor
  · intro below
    rcases Nat.eq_or_lt_of_le below.le with same | less
    · exact .inl (Fin.ext same.symm)
    · exact .inr ⟨below, less⟩
  · rintro (rfl | ⟨below, -⟩)
    · exact .here m
    · exact below

theorem descendants_eq_subtree (uncrossed : Uncrossed t.nodes) (n : t.Id) :
    t.descendants n = t.subtree n := by
  have ascends : (t.subtree n).Pairwise (· < ·) := (List.pairwise_lt_finRange _).filter _
  apply List.Pairwise.eq_of_mem_iff (descendants_ascend uncrossed n) ascends
  intro m
  rw [mem_descendants_iff, below_iff]
  simp [subtree, ids, @eq_comm _ n]

/-- What stands between a node and one below it is below the node. -/
theorem Below.between (uncrossed : Uncrossed t.nodes) {n m i : t.Id} (below : Below n m)
    (low : n ≤ i) (high : i ≤ m) : Below n i := by
  rcases Nat.eq_or_lt_of_le low with same | less
  · exact Fin.ext same ▸ .here n
  · obtain ⟨q, link, le⟩ := below.parent_ge uncrossed less high
    have lower := (lt_of_parentOf t.climbs link).1
    have small : q < t.nodes.size := Nat.lt_trans lower i.isLt
    have child : t.parent i = some ⟨q, small⟩ := parent_eq_some_iff_parentOf.mpr link
    -- The parent stands between them as well, and nearer to the upper one.
    have upper : Below n ⟨q, small⟩ :=
      below.between uncrossed le (Nat.le_trans (Nat.le_of_lt lower) high)
    exact upper.trans (.down child (.here i))
termination_by i.val

theorem val_descendants (uncrossed : Uncrossed t.nodes) (n : t.Id) :
    (t.descendants n).map Fin.val = List.range' n.val (t.descendants n).length := by
  have length : ((t.descendants n).map Fin.val).length = (t.descendants n).length :=
    List.length_map _
  rw [← length]
  apply eq_range'_of_dense
  · exact List.pairwise_map.mpr (descendants_ascend uncrossed n)
  · simp only [List.mem_map, forall_exists_index, and_imp]
    rintro _ m hm rfl
    exact (mem_descendants_iff.mp hm).le
  · simp only [List.mem_map, forall_exists_index, and_imp]
    rintro _ m hm rfl i low high
    have small : i < t.nodes.size := Nat.lt_of_le_of_lt high m.isLt
    have below : Below n ⟨i, small⟩ := (mem_descendants_iff.mp hm).between uncrossed low high
    exact ⟨⟨i, small⟩, mem_descendants_iff.mpr below, rfl⟩

/-! ### Walks with a stack -/

/-- One turn of a walk: the node on top of the stack gives way to its children. -/
def turn : List t.Id → List t.Id
  | [] => []
  | n :: stack => t.children n ++ stack

/-- The stack stands for what is still to come, and a turn takes the first node from that. -/
theorem flatMap_turn (stack : List t.Id) :
    (turn stack).flatMap t.descendants = (stack.flatMap t.descendants).tail := by
  cases stack with
  | nil => rfl
  | cons n stack =>
    rw [turn, List.flatMap_append, List.flatMap_cons, descendants_eq n, List.cons_append,
      List.tail_cons]

theorem head?_flatMap_descendants (stack : List t.Id) :
    (stack.flatMap t.descendants).head? = stack.head? := by
  cases stack with
  | nil => rfl
  | cons n stack =>
    rw [List.flatMap_cons, descendants_eq n]
    rfl

theorem head?_turn_iterate (j : Nat) (stack : List t.Id) :
    (turn^[j] stack).head? = (stack.flatMap t.descendants)[j]? := by
  induction j generalizing stack with
  | zero => rw [Function.iterate_zero_apply, ← List.head?_eq_getElem?, head?_flatMap_descendants]
  | succ j ih => rw [Function.iterate_succ_apply, ih, flatMap_turn, List.getElem?_tail]

/-- The walk down from a node meets the node and the next ones behind it, as many as its subtree
has. -/
structure Contiguous (n : t.Id) : Prop where
  numbers : (t.descendants n).map Fin.val = List.range' n.val (t.subtree n).length
  members : ∀ m, m ∈ t.descendants n ↔ m = n ∨ n ∈ t.ancestors m
  stack : t.walk [n] = t.descendants n
  /-- The top of the stack turn by turn, until the stack is empty. -/
  turns : ∀ j, (turn^[j] [n]).head?.map Fin.val =
    if j < (t.subtree n).length then some (n.val + j) else none

theorem contiguous_of_uncrossed (uncrossed : Uncrossed t.nodes) (n : t.Id) : Contiguous n where
  numbers := by rw [← descendants_eq_subtree uncrossed, val_descendants uncrossed]
  members := fun m => mem_descendants_iff.trans below_iff
  stack := by rw [walk_eq, List.flatMap_singleton]
  turns := by
    intro j
    rw [head?_turn_iterate, List.flatMap_singleton, ← List.getElem?_map,
      val_descendants uncrossed, ← descendants_eq_subtree uncrossed]
    split
    next inside => rw [List.getElem?_range' inside, Nat.one_mul]
    next beyond =>
      apply List.getElem?_eq_none
      rw [List.length_range']
      omega

/-- Subtrees of a built tree are stretches of the arena, and the subtree of the root is all of
it. -/
theorem subtrees_contiguous {text : String} {calls : List BuildCall}
    (built : Tree.build text calls = .ok t) :
    (∀ n : t.Id, Contiguous n) ∧ t.descendants t.root = t.ids :=
  ⟨contiguous_of_uncrossed (uncrossed_of_build built), descendants_root_of_build built⟩

/-- A group with a group in it, between two letters. -/
def nestedGroups : List BuildCall :=
  [.openHere "file", .leaf "letter" "a", .openHere "group", .leaf "letter" "b", .openHere "group",
    .leaf "letter" "c", .close, .leaf "letter" "d", .close, .leaf "letter" "e", .close]

/-- The outer group is node 2, and its five nodes end before the last letter. -/
theorem contiguous_group : ∃ (t : Tree) (n : t.Id), Tree.build "abcde" nestedGroups = .ok t ∧
    (t.descendants n).map Fin.val = [2, 3, 4, 5, 6] ∧ t.size = 8 ∧
    (turn^[4] [n]).head?.map Fin.val = some 6 ∧ turn^[5] [n] = [] := by
  have built := eq_ok_get_toOption (Tree.build "abcde" nestedGroups) (by decide +kernel)
  generalize ht : (Tree.build "abcde" nestedGroups).toOption.get _ = t at built
  have size : t.size = 8 := by
    rw [← ht]
    decide +kernel
  have group : ∀ h : 2 < t.nodes.size, (t.subtree ⟨2, h⟩).length = 5 := by
    rw [← ht]
    decide +kernel
  have small : 2 < t.nodes.size := by
    change 2 < t.size
    omega
  have walk := (subtrees_contiguous built).1 ⟨2, small⟩
  refine ⟨t, ⟨2, small⟩, built, ?_, size, ?_, ?_⟩
  · rw [walk.numbers, group small]
    rfl
  · rw [walk.turns, group small]
    rfl
  · have done := walk.turns 5
    rw [group small] at done
    exact List.head?_eq_none_iff.mp (Option.map_eq_none_iff.mp done)

end Tree

end ElmOverlay
