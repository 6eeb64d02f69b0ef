import ElmOverlay.Proofs.BuilderCalls
import ElmOverlay.Proofs.PointSearch
import Mathlib.Data.List.Sort

/-!
The order of the nodes of a built tree. Only the innermost open node gets children, so between
a node and any of its children nothing is added that stands outside the node. Walking down a
tree from its root therefore meets the nodes in the order of their numbers.
-/
namespace ElmOverlay

open Arena

/-- What stands between a node and one of its children stands below the node. -/
def Arena.Uncrossed (nodes : Array Node) : Prop :=
  ∀ i j p, p < i → i < j → parentOf nodes j = some p → ∃ q, parentOf nodes i = some q ∧ p ≤ q

namespace Draft

variable {d : Draft}

/-- The open nodes are a way up to the root, and everything behind an open node is below it. -/
structure Stacked (d : Draft) : Prop where
  descending : d.opened.Pairwise (· > ·)
  upward : ∀ i ∈ d.opened, ∀ p, parentOf d.nodes i = some p → p ∈ d.opened
  inside : ∀ p ∈ d.opened, ∀ i, p < i → i < d.nodes.size →
    ∃ q, parentOf d.nodes i = some q ∧ p ≤ q
  uncrossed : Uncrossed d.nodes

theorem stacked_start (s : Source) : Stacked (Builder.start s).toDraft where
  descending := .nil
  upward := fun _ h => (List.not_mem_nil h).elim
  inside := fun _ h => (List.not_mem_nil h).elim
  uncrossed := fun _ _ _ _ _ h => by cases h

theorem Stacked.le_head (stacked : d.Stacked) {i : Nat} (hi : i ∈ d.opened) :
    ∃ p, d.opened.head? = some p ∧ i ≤ p := by
  have descending := stacked.descending
  cases ho : d.opened with
  | nil =>
    rw [ho] at hi
    cases hi
  | cons p rest =>
    rw [ho] at hi descending
    refine ⟨p, rfl, ?_⟩
    rcases List.mem_cons.mp hi with rfl | hi
    · exact Nat.le_refl _
    · exact Nat.le_of_lt ((List.pairwise_cons.mp descending).1 i hi)

/-- The parent of an open node is open, and closing the innermost one leaves it so. -/
theorem Stacked.parent_mem_rest (stacked : d.Stacked) (climbs : Climbs d.nodes) {i j p : Nat}
    {rest : List Nat} (opened : d.opened = i :: rest) (hj : j ∈ d.opened)
    (hp : parentOf d.nodes j = some p) : p ∈ rest := by
  obtain ⟨q, top, le⟩ := stacked.le_head hj
  have lower := (lt_of_parentOf climbs hp).1
  have listed := stacked.upward j hj p hp
  rw [opened] at top listed
  cases top
  rcases List.mem_cons.mp listed with rfl | listed
  · omega
  · exact listed

theorem mem_opened_append_iff {n : Node} {derived opens : Bool} {i : Nat} :
    i ∈ (d.append n derived opens).opened ↔ opens = true ∧ i = d.nodes.size ∨ i ∈ d.opened := by
  cases opens <;> simp [Draft.append]

theorem mem_opened_of_append {n : Node} {derived opens : Bool} {i : Nat}
    (old : i ≠ d.nodes.size) (hi : i ∈ (d.append n derived opens).opened) : i ∈ d.opened := by
  rcases mem_opened_append_iff.mp hi with ⟨-, new⟩ | hi
  · exact absurd new old
  · exact hi

theorem Stacked.append (stacked : d.Stacked) (climbs : Climbs d.nodes)
    (lt : ∀ i ∈ d.opened, i < d.nodes.size) {n : Node} {derived opens : Bool}
    (parent : n.parent = d.opened.head?) : (d.append n derived opens).Stacked where
  descending := by
    simp only [Draft.append]
    split
    · exact List.pairwise_cons.mpr ⟨lt, stacked.descending⟩
    · exact stacked.descending
  upward := by
    intro i hi p hp
    rw [mem_opened_append_iff]
    simp only [Draft.append, parentOf_push] at hp
    split at hp
    next new =>
      rw [parent] at hp
      exact .inr (List.mem_of_head? hp)
    next old => exact .inr (stacked.upward i (mem_opened_of_append old hi) p hp)
  inside := by
    intro p hp i low high
    simp only [Draft.append, parentOf_push, Array.size_push] at high ⊢
    have earlier : p ∈ d.opened := mem_opened_of_append (by omega) hp
    split
    next new =>
      obtain ⟨q, top, le⟩ := stacked.le_head earlier
      exact ⟨q, parent.trans top, le⟩
    next old => exact stacked.inside p earlier i low (by omega)
  uncrossed := by
    intro i j p low high hp
    simp only [Draft.append, parentOf_push] at hp ⊢
    split at hp
    next new =>
      have listed : p ∈ d.opened := List.mem_of_head? (parent ▸ hp)
      rw [if_neg (by omega)]
      exact stacked.inside p listed i low (by omega)
    next old =>
      have small : j < d.nodes.size := (lt_of_parentOf climbs hp).2
      rw [if_neg (by omega)]
      exact stacked.uncrossed i j p low high hp

theorem Stacked.pop (stacked : d.Stacked) {i : Nat} {rest : List Nat}
    (climbs : Climbs d.nodes) (opened : d.opened = i :: rest) :
    Stacked { d with opened := rest } where
  descending := (List.pairwise_cons.mp (opened ▸ stacked.descending)).2
  upward := by
    intro j hj p hp
    have listed : j ∈ d.opened := opened ▸ List.mem_cons_of_mem i hj
    exact stacked.parent_mem_rest climbs opened listed hp
  inside := fun p hp => stacked.inside p (opened ▸ List.mem_cons_of_mem i hp)
  uncrossed := stacked.uncrossed

theorem Stacked.setRange (stacked : d.Stacked) (i : Nat) (r : ByteRange) :
    Stacked { d with nodes := setRange d.nodes i r } where
  descending := stacked.descending
  upward := by simpa only [parentOf_setRange] using stacked.upward
  inside := by simpa only [parentOf_setRange, size_setRange] using stacked.inside
  uncrossed := by simpa only [Uncrossed, parentOf_setRange] using stacked.uncrossed

theorem Stacked.takes (s : d.Sound) (stacked : d.Stacked) {c : BuildCall} {d' : Draft}
    (takes : d.Takes c d') : d'.Stacked := by
  rcases takes.adds_or_closes with ⟨n, derived, opens, cursor, parent, rfl⟩ |
    ⟨i, rest, opened, rfl | ⟨cursor, rfl⟩⟩
  · have moved : Stacked { d with cursor := cursor } := { stacked with }
    exact moved.append s.climbs s.opened_lt parent
  · exact (stacked.pop s.climbs opened).setRange i _
  · exact { stacked.pop s.climbs opened with }

end Draft

/-! ### Built trees -/

namespace Tree

variable {t : Tree}

theorem uncrossed_of_build {text : String} {calls : List BuildCall}
    (built : Tree.build text calls = .ok t) : Uncrossed t.nodes := by
  obtain ⟨d, -, stacked, -, nodes, -⟩ := Tree.exists_draft (motive := fun _ d => d.Stacked)
    (Draft.stacked_start _)
    (fun _ _ _ _ s _ takes stacked => stacked.takes s takes) built
  rw [nodes]
  exact stacked.uncrossed

theorem Below.le {n m : t.Id} (below : Below n m) : n ≤ m := by
  induction below with
  | here n => exact Nat.le_refl _
  | down child _ ih => exact Nat.le_trans (Nat.le_of_lt (parent_lt child)) ih

theorem Below.trans {n m k : t.Id} (upper : Below n m) (lower : Below m k) : Below n k := by
  induction upper with
  | here n => exact lower
  | down child _ ih => exact .down child (ih lower)

theorem below_of_mem_descendants {n m : t.Id} (h : m ∈ t.descendants n) : Below n m := by
  rw [descendants_eq, List.mem_cons, List.mem_flatMap] at h
  rcases h with same | ⟨c, child, inside⟩
  · exact same ▸ .here n
  · have : n.val < c.val := lt_of_mem_children child
    exact .down (mem_children.mp child) (below_of_mem_descendants inside)
termination_by t.nodes.size - n.val

theorem mem_descendants_iff {n m : t.Id} : m ∈ t.descendants n ↔ Below n m := by
  constructor
  · exact below_of_mem_descendants
  · intro below
    induction below with
    | here n =>
      rw [descendants_eq]
      exact List.mem_cons_self
    | @down n c m child _ ih =>
      rw [descendants_eq]
      exact List.mem_cons_of_mem n (List.mem_flatMap.mpr ⟨c, mem_children.mpr child, ih⟩)

theorem below_root (rooted : ∀ n : t.Id, t.parent n = none → n = t.root) (n : t.Id) :
    Below t.root n := by
  cases hp : t.parent n with
  | none =>
    rw [rooted n hp]
    exact .here _
  | some p =>
    have : p.val < n.val := parent_lt hp
    exact (below_root rooted p).trans (.down hp (.here n))
termination_by n.val

theorem mem_ancestors {n a : t.Id} :
    a ∈ t.ancestors n ↔ ∃ p, t.parent n = some p ∧ (a = p ∨ a ∈ t.ancestors p) := by
  rw [ancestors]
  split
  next rootless => simp [rootless]
  next p parent => simp [parent]

theorem parent_mem_ancestors {n c a : t.Id} (child : t.parent c = some a)
    (h : c ∈ t.ancestors n) : a ∈ t.ancestors n := by
  obtain ⟨p, parent, above⟩ := mem_ancestors.mp h
  have : p.val < n.val := parent_lt parent
  refine mem_ancestors.mpr ⟨p, parent, .inr ?_⟩
  rcases above with rfl | above
  · exact mem_ancestors.mpr ⟨a, child, .inl rfl⟩
  · exact parent_mem_ancestors child above
termination_by n.val

theorem below_of_mem_ancestors {n a : t.Id} (h : a ∈ t.ancestors n) : Below a n ∧ a < n := by
  obtain ⟨p, parent, above⟩ := mem_ancestors.mp h
  have lower : p.val < n.val := parent_lt parent
  have step : Below p n := .down parent (.here n)
  rcases above with rfl | above
  · exact ⟨step, lower⟩
  · obtain ⟨below, less⟩ := below_of_mem_ancestors above
    exact ⟨below.trans step, Nat.lt_trans less lower⟩
termination_by n.val

/-- The ancestors of a node are those that it stands below. -/
theorem mem_ancestors_iff {n a : t.Id} : a ∈ t.ancestors n ↔ Below a n ∧ a < n := by
  constructor
  · exact below_of_mem_ancestors
  · rintro ⟨below, proper⟩
    induction below with
    | here n => exact absurd proper (Nat.lt_irrefl n.val)
    | @down a c n child rest ih =>
      rcases Nat.lt_or_eq_of_le rest.le with less | same
      · exact parent_mem_ancestors child (ih less)
      · obtain rfl := Fin.ext same
        exact mem_ancestors.mpr ⟨a, child, .inl rfl⟩

/-- The ancestors of a node are listed from the nearest to the root. -/
theorem ancestors_descend (n : t.Id) : (t.ancestors n).Pairwise (· > ·) := by
  rw [ancestors]
  split
  next => exact .nil
  next p parent =>
    have : p.val < n.val := parent_lt parent
    refine List.pairwise_cons.mpr ⟨?_, ancestors_descend p⟩
    intro a above
    exact (mem_ancestors_iff.mp above).2
termination_by n.val

/-- What stands between a node and one below it is below the node as well. -/
theorem Below.parent_ge (uncrossed : Uncrossed t.nodes) {n m : t.Id} (below : Below n m)
    {i : Nat} (low : n.val < i) (high : i ≤ m.val) :
    ∃ q, parentOf t.nodes i = some q ∧ n.val ≤ q := by
  induction below with
  | here n => omega
  | @down n c m child rest ih =>
    have lower : n.val < c.val := parent_lt child
    have link := parent_eq_some_iff_parentOf.mp child
    rcases Nat.lt_trichotomy i c.val with before | same | behind
    · exact uncrossed i c.val n.val low before link
    · exact ⟨n.val, same ▸ link, Nat.le_refl _⟩
    · obtain ⟨q, hq, le⟩ := ih behind high
      exact ⟨q, hq, by omega⟩

/-- All that is below a node stands in front of its next sibling. -/
theorem Below.lt_sibling (uncrossed : Uncrossed t.nodes) {p a b m : t.Id}
    (ha : t.parent a = some p) (hb : t.parent b = some p) (before : a < b) (below : Below a m) :
    m < b := by
  apply Nat.lt_of_not_le
  intro beyond
  obtain ⟨q, hq, le⟩ := below.parent_ge uncrossed before beyond
  have same := (parent_eq_some_iff_parentOf.mp hb).symm.trans hq
  have lower : p.val < a.val := parent_lt ha
  cases same
  omega

theorem descendants_ascend (uncrossed : Uncrossed t.nodes) (n : t.Id) :
    (t.descendants n).Pairwise (· < ·) := by
  rw [descendants_eq, List.pairwise_cons, List.pairwise_flatMap]
  refine ⟨?_, ?_, ?_⟩
  · intro m hm
    obtain ⟨c, child, below⟩ := List.mem_flatMap.mp hm
    exact Nat.lt_of_lt_of_le (lt_of_mem_children child) (mem_descendants_iff.mp below).le
  · intro c child
    have : n.val < c.val := lt_of_mem_children child
    exact descendants_ascend uncrossed c
  · apply (children_ascend n).imp_of_mem
    intro a b ha hb before m hm k hk
    have passed := (mem_descendants_iff.mp hm).lt_sibling uncrossed (mem_children.mp ha)
      (mem_children.mp hb) before
    exact Nat.lt_of_lt_of_le passed (mem_descendants_iff.mp hk).le
termination_by t.nodes.size - n.val

/-- Of two nodes on the walk down from a node, the later one stands below the earlier one or begins
where that has ended. -/
theorem descendants_below_or_apart (nested : t.WellNested) (n : t.Id) :
    (t.descendants n).Pairwise fun a b =>
      (∃ c ∈ t.children a, Below c b) ∨ (t.range a).stop ≤ (t.range b).start := by
  rw [descendants_eq, List.pairwise_cons, List.pairwise_flatMap]
  refine ⟨?_, ?_, ?_⟩
  · intro m hm
    obtain ⟨c, child, below⟩ := List.mem_flatMap.mp hm
    exact .inl ⟨c, child, mem_descendants_iff.mp below⟩
  · intro c child
    have : n.val < c.val := lt_of_mem_children child
    exact descendants_below_or_apart nested c
  · apply (children_apart nested n).imp
    intro a b apart m hm k hk
    have left := range_of_below nested (mem_descendants_iff.mp hm)
    have right := range_of_below nested (mem_descendants_iff.mp hk)
    exact .inr (Nat.le_trans left.2 (Nat.le_trans apart right.1))
termination_by t.nodes.size - n.val

/-- Walking down a built tree meets its nodes in the order of their numbers. -/
theorem descendants_root_of_build {text : String} {calls : List BuildCall}
    (built : Tree.build text calls = .ok t) : t.descendants t.root = t.ids := by
  apply List.Pairwise.eq_of_mem_iff (r := (· < ·))
  · exact descendants_ascend (uncrossed_of_build built) t.root
  · exact List.pairwise_lt_finRange _
  · intro n
    simp only [mem_descendants_iff, below_root (rooted_of_finish built) n, ids, List.mem_finRange]

theorem walk_root_of_build {text : String} {calls : List BuildCall}
    (built : Tree.build text calls = .ok t) : t.walk [t.root] = t.ids := by
  rw [walk_eq, List.flatMap_singleton, descendants_root_of_build built]

end Tree

end ElmOverlay
