import ElmOverlay.Text.Source

/-!
Nodes of a tree in one array, each with the index of its parent. A parent stands before its
children. Child lists, and links between neighbouring named children, are indices over the
parent links.
-/
namespace ElmOverlay

structure Node where
  kind : String
  named : Bool
  range : ByteRange
  parent : Option Nat
  deriving DecidableEq, Inhabited, Repr

namespace Arena

def Climbs (nodes : Array Node) : Prop :=
  ∀ i (h : i < nodes.size) (p : Nat), nodes[i].parent = some p → p < i

def parentOf (nodes : Array Node) (i : Nat) : Option Nat := nodes[i]?.bind Node.parent

def childrenOf (nodes : Array Node) (p : Nat) : List Nat :=
  (List.range nodes.size).filter fun i => parentOf nodes i = some p

/-- A table that holds for each node its children. -/
def Filed (nodes : Array Node) (lists : Array (List Nat)) : Prop :=
  lists.size = nodes.size ∧ ∀ p l, lists[p]? = some l → l = childrenOf nodes p

theorem parentOf_push (nodes : Array Node) (n : Node) (i : Nat) :
    parentOf (nodes.push n) i = if i = nodes.size then n.parent else parentOf nodes i := by
  unfold parentOf
  rw [Array.getElem?_push]
  split <;> rfl

theorem lt_of_parentOf {nodes : Array Node} (h : Climbs nodes) {i p : Nat}
    (hp : parentOf nodes i = some p) : p < i ∧ i < nodes.size := by
  obtain ⟨n, hn, hp⟩ := Option.bind_eq_some_iff.mp hp
  obtain ⟨hi, rfl⟩ := Array.getElem?_eq_some_iff.mp hn
  exact ⟨h i hi p hp, hi⟩

theorem mem_childrenOf {nodes : Array Node} {p i : Nat} :
    i ∈ childrenOf nodes p ↔ parentOf nodes i = some p := by
  rw [childrenOf, List.mem_filter, List.mem_range, decide_eq_true_iff]
  constructor
  · exact And.right
  · intro h
    obtain ⟨n, hn, -⟩ := Option.bind_eq_some_iff.mp h
    exact ⟨(Array.getElem?_eq_some_iff.mp hn).1, h⟩

theorem pairwise_childrenOf (nodes : Array Node) (p : Nat) :
    (childrenOf nodes p).Pairwise (· < ·) :=
  List.pairwise_lt_range.filter _

theorem childrenOf_push (nodes : Array Node) (n : Node) (p : Nat) :
    childrenOf (nodes.push n) p =
      childrenOf nodes p ++ if n.parent = some p then [nodes.size] else [] := by
  have hold : (List.range nodes.size).filter (fun i => parentOf (nodes.push n) i = some p) =
      childrenOf nodes p := by
    apply List.filter_congr
    intro i hi
    rw [parentOf_push, if_neg (Nat.ne_of_lt (List.mem_range.mp hi))]
  rw [childrenOf, Array.size_push, List.range_succ, List.filter_append, hold]
  by_cases h : n.parent = some p <;> simp [parentOf_push, h]

theorem childrenOf_size {nodes : Array Node} (h : Climbs nodes) :
    childrenOf nodes nodes.size = [] := by
  rw [List.eq_nil_iff_forall_not_mem]
  intro i hi
  have := lt_of_parentOf h (mem_childrenOf.mp hi)
  omega

/-! ### Sibling links -/

def isNamed (nodes : Array Node) (i : Nat) : Bool := nodes[i]?.any Node.named

def neighbours {α : Type} (l : List α) : List (α × α) := l.zip l.tail

theorem lt_of_mem_neighbours {l : List Nat} (h : l.Pairwise (· < ·)) {a b : Nat}
    (hab : (a, b) ∈ neighbours l) : a < b := by
  induction l with
  | nil => simp [neighbours] at hab
  | cons x xs ih =>
    cases xs with
    | nil => simp [neighbours] at hab
    | cons y ys =>
      have ⟨hx, hxs⟩ := List.pairwise_cons.mp h
      rw [neighbours, List.tail_cons, List.zip_cons_cons, List.mem_cons] at hab
      rcases hab with hab | hab
      · cases hab
        exact hx _ List.mem_cons_self
      · exact ih hxs hab

def namedNeighbours (nodes : Array Node) (lists : Array (List Nat)) : List (Nat × Nat) :=
  lists.toList.flatMap fun l => neighbours (l.filter (isNamed nodes))

theorem mem_namedNeighbours {nodes : Array Node} {lists : Array (List Nat)}
    (filed : Filed nodes lists) {a b : Nat} :
    (a, b) ∈ namedNeighbours nodes lists ↔
      ∃ p < nodes.size, (a, b) ∈ neighbours ((childrenOf nodes p).filter (isNamed nodes)) := by
  rw [namedNeighbours, List.mem_flatMap]
  constructor
  · rintro ⟨l, hl, hab⟩
    obtain ⟨p, hp⟩ := List.mem_iff_getElem?.mp hl
    have row : lists[p]? = some l := by simpa using hp
    rw [filed.2 p l row] at hab
    exact ⟨p, filed.1 ▸ (Array.getElem?_eq_some_iff.mp row).1, hab⟩
  · rintro ⟨p, hp, hab⟩
    have small : p < lists.size := filed.1 ▸ hp
    have row : lists[p] = childrenOf nodes p := filed.2 p _ (Array.getElem?_eq_getElem small)
    exact ⟨lists[p], by simp, row ▸ hab⟩

theorem lt_of_mem_namedNeighbours {nodes : Array Node} {lists : Array (List Nat)}
    (filed : Filed nodes lists) {a b : Nat} (h : (a, b) ∈ namedNeighbours nodes lists) :
    a < b := by
  obtain ⟨p, -, hab⟩ := (mem_namedNeighbours filed).mp h
  exact lt_of_mem_neighbours ((pairwise_childrenOf nodes p).filter _) hab

/-- A table with `b` under `a` for each pair `(a, b)`. -/
def linkTable (size : Nat) (pairs : List (Nat × Nat)) : Array (Option Nat) :=
  pairs.foldl (fun table p => table.setIfInBounds p.1 (some p.2)) (Array.replicate size none)

theorem mem_of_getElem?_linkTable {size : Nat} {pairs : List (Nat × Nat)} {a b : Nat}
    (h : (linkTable size pairs)[a]? = some (some b)) : (a, b) ∈ pairs := by
  suffices ∀ (table : Array (Option Nat)),
      (pairs.foldl (fun table p => table.setIfInBounds p.1 (some p.2)) table)[a]? =
        some (some b) → (a, b) ∈ pairs ∨ table[a]? = some (some b) by
    rcases this _ h with h | h
    · exact h
    · simp [Array.getElem?_replicate] at h
  clear h
  induction pairs with
  | nil => exact fun _ h => .inr h
  | cons p ps ih =>
    intro table h
    rcases ih _ h with h | h
    · exact .inl (List.mem_cons_of_mem _ h)
    · rw [Array.getElem?_setIfInBounds] at h
      split at h
      next he =>
        split at h
        · cases h
          subst he
          exact .inl List.mem_cons_self
        · cases h
      next => exact .inr h

end Arena

end ElmOverlay
