import ElmOverlay.Proofs.PreOrder

/-!
Ranges of trees that are built by text. The cursor only moves forward, every node is placed at
or behind it, and a node that closes covers its children. So nodes nest, neighbours do not
overlap, and every end lies between two characters.
-/
namespace ElmOverlay

open Arena

namespace Arena

variable {nodes : Array Node} {p c : Nat}

theorem first_le_child {first : Nat} (head : (childrenOf nodes p).head? = some first)
    (child : parentOf nodes c = some p) : first ≤ c := by
  have ascending := pairwise_childrenOf nodes p
  have listed := mem_childrenOf.mpr child
  obtain ⟨rest, split⟩ := List.head?_eq_some_iff.mp head
  rw [split] at ascending listed
  rcases List.mem_cons.mp listed with rfl | later
  · exact Nat.le_refl _
  · exact Nat.le_of_lt ((List.pairwise_cons.mp ascending).1 c later)

theorem child_le_last {last : Nat} (tail : (childrenOf nodes p).getLast? = some last)
    (child : parentOf nodes c = some p) : c ≤ last := by
  have ascending := pairwise_childrenOf nodes p
  have listed := mem_childrenOf.mpr child
  obtain ⟨front, split⟩ := List.getLast?_eq_some_iff.mp tail
  rw [split] at ascending listed
  rcases List.mem_append.mp listed with earlier | last_one
  · exact Nat.le_of_lt ((List.pairwise_append.mp ascending).2.2 c earlier last (by simp))
  · exact Nat.le_of_eq (List.mem_singleton.mp last_one)

end Arena

namespace Draft

variable {d : Draft}

/-- What calls that give no range keep about ranges. The range of an open node is the place of
the cursor when it was opened. -/
structure LaidOut (d : Draft) : Prop where
  ordered : ∀ i, (rangeOf d.nodes i).start ≤ (rangeOf d.nodes i).stop
  behind : ∀ i p, parentOf d.nodes i = some p → (rangeOf d.nodes i).stop ≤ d.cursor
  since : ∀ i ∈ d.opened, (rangeOf d.nodes i).start ≤ d.cursor
  from_start : ∀ i p, parentOf d.nodes i = some p →
    (rangeOf d.nodes p).start ≤ (rangeOf d.nodes i).start
  to_stop : ∀ i p, parentOf d.nodes i = some p → p ∉ d.opened →
    (rangeOf d.nodes i).stop ≤ (rangeOf d.nodes p).stop
  apart : ∀ a b p, parentOf d.nodes a = some p → parentOf d.nodes b = some p → a < b →
    (rangeOf d.nodes a).stop ≤ (rangeOf d.nodes b).start
  whole : ∀ i, d.source.OnBoundary (rangeOf d.nodes i).start ∧
    d.source.OnBoundary (rangeOf d.nodes i).stop
  whole_cursor : d.source.OnBoundary d.cursor
  underived : ∀ i ∈ d.opened, d.derived[i]? = some true

theorem laidOut_start (s : Source) : LaidOut (Builder.start s).toDraft where
  ordered := fun _ => Nat.le_refl _
  behind := fun _ _ h => by cases h
  since := fun _ h => (List.not_mem_nil h).elim
  from_start := fun _ _ h => by cases h
  to_stop := fun _ _ h => by cases h
  apart := fun _ _ _ h => by cases h
  whole := fun _ => ⟨Source.onBoundary_zero, Source.onBoundary_zero⟩
  whole_cursor := Source.onBoundary_zero
  underived := fun _ h => (List.not_mem_nil h).elim

/-! ### Adding a node -/

theorem LaidOut.append (laid : d.LaidOut) (s : d.Sound) {n : Node} {cursor : Nat}
    {derived opens : Bool} (parent : n.parent = d.opened.head?) (later : d.cursor ≤ n.range.start)
    (forward : n.range.start ≤ n.range.stop) (passed : n.range.stop ≤ cursor)
    (whole : d.source.OnBoundary n.range.start ∧ d.source.OnBoundary n.range.stop)
    (whole_cursor : d.source.OnBoundary cursor) (derives : opens = true → derived = true) :
    (Draft.append { d with cursor := cursor } n derived opens).LaidOut where
  ordered := by
    intro i
    simp only [Draft.append, rangeOf_push]
    split
    · exact forward
    · exact laid.ordered i
  behind := by
    intro i p hp
    simp only [Draft.append, parentOf_push, rangeOf_push] at hp ⊢
    split at hp
    next new =>
      rw [if_pos new]
      exact passed
    next old =>
      rw [if_neg old]
      have := laid.behind i p hp
      omega
  since := by
    intro i hi
    simp only [Draft.append, rangeOf_push]
    split
    next new => omega
    next old =>
      have := laid.since i (mem_opened_of_append (d := { d with cursor := cursor }) old hi)
      omega
  from_start := by
    intro i p hp
    simp only [Draft.append, parentOf_push, rangeOf_push] at hp ⊢
    split at hp
    next new =>
      have listed : p ∈ d.opened := List.mem_of_head? (parent ▸ hp)
      have := s.opened_lt p listed
      have := laid.since p listed
      rw [if_neg (by omega), if_pos new]
      omega
    next old =>
      have := lt_of_parentOf s.climbs hp
      rw [if_neg (by omega), if_neg old]
      exact laid.from_start i p hp
  to_stop := by
    intro i p hp closed
    have unlisted : p ∉ d.opened := fun listed => closed (mem_opened_append_iff.mpr (.inr listed))
    simp only [Draft.append, parentOf_push, rangeOf_push] at hp ⊢
    split at hp
    next new => exact absurd (List.mem_of_head? (parent ▸ hp)) unlisted
    next old =>
      have := lt_of_parentOf s.climbs hp
      rw [if_neg old, if_neg (by omega)]
      exact laid.to_stop i p hp unlisted
  apart := by
    intro a b p ha hb before
    simp only [Draft.append, parentOf_push, rangeOf_push] at ha hb ⊢
    have old : a ≠ d.nodes.size := by
      intro new
      rw [if_neg (by omega)] at hb
      have := lt_of_parentOf s.climbs hb
      omega
    rw [if_neg old] at ha ⊢
    split at hb
    next new =>
      rw [if_pos new]
      have := laid.behind a p ha
      omega
    next old =>
      rw [if_neg old]
      exact laid.apart a b p ha hb before
  whole := by
    intro i
    simp only [Draft.append, rangeOf_push]
    split
    · exact whole
    · exact laid.whole i
  whole_cursor := whole_cursor
  underived := by
    intro i hi
    simp only [Draft.append, Array.getElem?_push, s.derived_size]
    split
    next new =>
      rcases mem_opened_append_iff.mp hi with ⟨opened, -⟩ | listed
      · rw [derives opened]
      · have := s.opened_lt i listed
        omega
    next old =>
      exact laid.underived i (mem_opened_of_append (d := { d with cursor := cursor }) old hi)

/-! ### Closing a node -/

variable {i : Nat}

theorem hull_of_root (root : d.root = some i) : d.hull i = ⟨0, d.source.size⟩ := by
  rw [hull, if_pos root]

theorem hull_of_children (inner : d.root ≠ some i) {first last : Nat}
    (head : (childrenOf d.nodes i).head? = some first)
    (tail : (childrenOf d.nodes i).getLast? = some last) :
    d.hull i = ⟨(rangeOf d.nodes first).start, (rangeOf d.nodes last).stop⟩ := by
  rw [hull, if_neg inner, head, tail]

theorem hull_of_childless (inner : d.root ≠ some i) (childless : childrenOf d.nodes i = []) :
    d.hull i = ⟨d.cursor, d.cursor⟩ := by
  rw [hull, if_neg inner, childless]
  rfl

/-- Whether a node is the root, has children or has none is all that its hull depends on. -/
theorem hull_cases (d : Draft) (i : Nat) : d.root = some i ∨ d.root ≠ some i ∧
    (childrenOf d.nodes i = [] ∨ ∃ first last, (childrenOf d.nodes i).head? = some first ∧
      (childrenOf d.nodes i).getLast? = some last) := by
  by_cases root : d.root = some i
  · exact .inl root
  · refine .inr ⟨root, ?_⟩
    cases children : childrenOf d.nodes i with
    | nil => exact .inl rfl
    | cons first rest => exact .inr ⟨first, _, rfl, List.getLast?_eq_some_getLast (by simp)⟩

theorem parent_of_head? {first : Nat} (head : (childrenOf d.nodes i).head? = some first) :
    parentOf d.nodes first = some i :=
  mem_childrenOf.mp (List.mem_of_head? head)

theorem parent_of_getLast? {last : Nat} (tail : (childrenOf d.nodes i).getLast? = some last) :
    parentOf d.nodes last = some i :=
  mem_childrenOf.mp (List.mem_of_getLast? tail)

theorem LaidOut.hull_covers (laid : d.LaidOut) (s : d.Sound) {c : Nat}
    (child : parentOf d.nodes c = some i) :
    (d.hull i).start ≤ (rangeOf d.nodes c).start ∧
      (rangeOf d.nodes c).stop ≤ (d.hull i).stop := by
  rcases hull_cases d i with root | ⟨inner, childless | ⟨first, last, head, tail⟩⟩
  · rw [hull_of_root root]
    exact ⟨Nat.zero_le _, Nat.le_trans (laid.behind c i child) s.cursor_le⟩
  · exact absurd (mem_childrenOf.mpr child) (childless ▸ List.not_mem_nil)
  · rw [hull_of_children inner head tail]
    constructor
    · rcases Nat.eq_or_lt_of_le (first_le_child head child) with rfl | before
      · exact Nat.le_refl _
      · exact Nat.le_trans (laid.ordered first)
          (laid.apart first c i (parent_of_head? head) child before)
    · rcases Nat.eq_or_lt_of_le (child_le_last tail child) with rfl | before
      · exact Nat.le_refl _
      · exact Nat.le_trans (laid.apart c last i child (parent_of_getLast? tail) before)
          (laid.ordered last)

/-- A node that closes below the root stays between where it was opened and the cursor. -/
theorem LaidOut.hull_bounds (laid : d.LaidOut) (opened : i ∈ d.opened)
    (inner : d.root ≠ some i) :
    (rangeOf d.nodes i).start ≤ (d.hull i).start ∧ (d.hull i).stop ≤ d.cursor := by
  rcases hull_cases d i with root | ⟨-, childless | ⟨first, last, head, tail⟩⟩
  · exact absurd root inner
  · rw [hull_of_childless inner childless]
    exact ⟨laid.since i opened, Nat.le_refl _⟩
  · rw [hull_of_children inner head tail]
    exact ⟨laid.from_start first i (parent_of_head? head),
      laid.behind last i (parent_of_getLast? tail)⟩

theorem LaidOut.hull_ordered (laid : d.LaidOut) (s : d.Sound) :
    (d.hull i).start ≤ (d.hull i).stop := by
  rcases hull_cases d i with root | ⟨inner, childless | ⟨first, last, head, tail⟩⟩
  · rw [hull_of_root root]
    exact Nat.zero_le _
  · rw [hull_of_childless inner childless]
  · have ⟨low, high⟩ := laid.hull_covers s (parent_of_head? head)
    have := laid.ordered first
    omega

theorem LaidOut.hull_whole (laid : d.LaidOut) :
    d.source.OnBoundary (d.hull i).start ∧ d.source.OnBoundary (d.hull i).stop := by
  rcases hull_cases d i with root | ⟨inner, childless | ⟨first, last, head, tail⟩⟩
  · rw [hull_of_root root]
    exact ⟨Source.onBoundary_zero, Source.onBoundary_size⟩
  · rw [hull_of_childless inner childless]
    exact ⟨laid.whole_cursor, laid.whole_cursor⟩
  · rw [hull_of_children inner head tail]
    exact ⟨(laid.whole first).1, (laid.whole last).2⟩

/-- The root has no parent. -/
theorem root_ne_of_parentOf (s : d.Sound) {p : Nat} (h : parentOf d.nodes i = some p) :
    d.root ≠ some i := by
  intro root
  have := s.root_eq
  have := lt_of_parentOf s.climbs h
  grind

theorem LaidOut.close (laid : d.LaidOut) (s : d.Sound) (stacked : d.Stacked) {rest : List Nat}
    (opened : d.opened = i :: rest) :
    LaidOut { d with opened := rest, nodes := setRange d.nodes i (d.hull i) } := by
  have listed : i ∈ d.opened := opened ▸ List.mem_cons_self
  have kept : ∀ j ∈ rest, j ∈ d.opened := fun j hj => opened ▸ List.mem_cons_of_mem i hj
  have above : ∀ j ∈ rest, j < i := by
    have descending := stacked.descending
    rw [opened] at descending
    exact (List.pairwise_cons.mp descending).1
  have small := s.opened_lt i listed
  refine ⟨?ordered, ?behind, ?since, ?from_start, ?to_stop, ?apart, ?whole, laid.whole_cursor,
    fun j hj => laid.underived j (kept j hj)⟩
  all_goals simp only [parentOf_setRange, rangeOf_setRange small]
  case ordered =>
    intro j
    split
    · exact laid.hull_ordered s
    · exact laid.ordered j
  case behind =>
    intro j p hp
    split
    next same =>
      subst same
      exact (laid.hull_bounds listed (root_ne_of_parentOf s hp)).2
    next => exact laid.behind j p hp
  case since =>
    intro j hj
    rw [if_neg (Nat.ne_of_gt (above j hj))]
    exact laid.since j (kept j hj)
  case from_start =>
    intro j p hp
    have lower := (lt_of_parentOf s.climbs hp).1
    have start := laid.from_start j p hp
    by_cases closed : i = j
    · subst closed
      have := (laid.hull_bounds listed (root_ne_of_parentOf s hp)).1
      rw [if_pos rfl, if_neg (by omega)]
      omega
    · rw [if_neg closed]
      split
      next same =>
        subst same
        exact (laid.hull_covers s hp).1
      next => exact start
  case to_stop =>
    intro j p hp shut
    have lower := (lt_of_parentOf s.climbs hp).1
    by_cases closed : i = j
    · -- The parent of what closes is still open.
      subst closed
      exact absurd (stacked.parent_mem_rest s.climbs opened listed hp) shut
    · rw [if_neg closed]
      split
      next same =>
        subst same
        exact (laid.hull_covers s hp).2
      next other =>
        apply laid.to_stop j p hp
        rw [opened]
        intro still
        rcases List.mem_cons.mp still with same | still
        · exact other same.symm
        · exact shut still
  case apart =>
    intro a b p ha hb before
    have lower := (lt_of_parentOf s.climbs ha).1
    have neighbours := laid.apart a b p ha hb before
    have other : i ≠ a := by
      intro same
      subst same
      -- Nothing behind an open node stands beside it.
      obtain ⟨q, hq, le⟩ := stacked.inside i listed b before (lt_of_parentOf s.climbs hb).2
      rw [hb] at hq
      cases hq
      omega
    rw [if_neg other]
    split
    next same =>
      subst same
      have := (laid.hull_bounds listed (root_ne_of_parentOf s hb)).1
      omega
    next => exact neighbours
  case whole =>
    intro j
    split
    · exact laid.hull_whole
    · exact laid.whole j

/-! ### Calls without a range -/

theorem LaidOut.derived_of_closed (laid : d.LaidOut) {rest : List Nat}
    (opened : d.opened = i :: rest) : d.derived[i]? ≠ some false := by
  rw [laid.underived i (opened ▸ List.mem_cons_self)]
  simp

theorem LaidOut.append_found (laid : d.LaidOut) (s : d.Sound) {text : String} {start : Nat}
    (found : d.source.find? text d.cursor = some start) (kind : String) (named : Bool) :
    (Draft.append { d with cursor := start + text.utf8ByteSize }
      ⟨kind, named, ⟨start, start + text.utf8ByteSize⟩, d.opened.head?⟩ false false).LaidOut := by
  have ends := Source.onBoundary_of_find? laid.whole_cursor found
  have later := (Source.find?_bounds found).1
  exact laid.append s rfl later (Nat.le_add_right _ _) (Nat.le_refl _) ends ends.2 (by simp)

theorem LaidOut.takes (laid : d.LaidOut) (s : d.Sound) (stacked : d.Stacked) {c : BuildCall}
    (unplaced : c.range? = none) {d' : Draft} (takes : d.Takes c d') : d'.LaidOut := by
  cases takes with
  | openHere room =>
    have here := laid.whole_cursor
    exact laid.append s rfl (Nat.le_refl _) (Nat.le_refl _) (Nat.le_refl _) ⟨here, here⟩ here
      (fun _ => rfl)
  | openAt fits room => cases unplaced
  | leafAt fits room => cases unplaced
  | leaf whole found room => exact laid.append_found s found ..
  | token whole found room => exact laid.append_found s found ..
  | closeDerived opened derived => exact laid.close s stacked opened
  | closeGiven opened given => exact (laid.derived_of_closed opened given).elim

end Draft

end ElmOverlay
