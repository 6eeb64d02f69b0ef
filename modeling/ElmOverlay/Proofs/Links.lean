import ElmOverlay.Syntax.Builder

/-!
Links of a built tree. Parents, child lists and sibling links are three views of one order:
a child list holds exactly the nodes with that parent, and the sibling links run through the
named children of one parent and nowhere else.
-/
namespace ElmOverlay

namespace Arena

theorem mem_neighbours_iff {α : Type} {l : List α} {a b : α} :
    (a, b) ∈ neighbours l ↔ [a, b] <:+: l := by
  induction l with
  | nil => simp [neighbours]
  | cons x xs ih =>
    cases xs with
    | nil =>
      simp only [neighbours, List.tail_cons, List.zip_nil_right, List.not_mem_nil, false_iff]
      intro inside
      have := inside.length_le
      simp at this
    | cons y ys =>
      rw [neighbours, List.tail_cons, List.zip_cons_cons, List.mem_cons, List.infix_cons_iff,
        List.cons_prefix_cons, List.cons_prefix_cons, ← ih, Prod.mk.injEq]
      simp [neighbours]

theorem mem_of_mem_neighbours {α : Type} {l : List α} {a b : α} (h : (a, b) ∈ neighbours l) :
    a ∈ l ∧ b ∈ l :=
  have ⟨left, right⟩ := List.of_mem_zip h
  ⟨left, List.mem_of_mem_tail right⟩

theorem neighbours_map {α β : Type} (f : α → β) (l : List α) :
    neighbours (l.map f) = (neighbours l).map (Prod.map f f) := by
  rw [neighbours, neighbours, ← List.map_tail, List.zip_map]

theorem neighbours_right_unique {α : Type} {l : List α} (distinct : l.Nodup) {a b c : α}
    (hb : (a, b) ∈ neighbours l) (hc : (a, c) ∈ neighbours l) : b = c := by
  induction l with
  | nil => cases hb
  | cons x xs ih =>
    cases xs with
    | nil => simp [neighbours] at hb
    | cons y ys =>
      obtain ⟨fresh, distinct⟩ := List.nodup_cons.mp distinct
      rw [neighbours, List.tail_cons, List.zip_cons_cons, List.mem_cons] at hb hc
      rcases hb with hb | hb <;> rcases hc with hc | hc
      · cases hb; cases hc; rfl
      · cases hb; exact absurd (mem_of_mem_neighbours hc).1 fresh
      · cases hc; exact absurd (mem_of_mem_neighbours hb).1 fresh
      · exact ih distinct hb hc

theorem neighbours_left_unique {α : Type} {l : List α} (distinct : l.Nodup) {a b c : α}
    (hb : (b, a) ∈ neighbours l) (hc : (c, a) ∈ neighbours l) : b = c := by
  induction l with
  | nil => cases hb
  | cons x xs ih =>
    cases xs with
    | nil => simp [neighbours] at hb
    | cons y ys =>
      obtain ⟨-, distinct⟩ := List.nodup_cons.mp distinct
      have fresh := (List.nodup_cons.mp distinct).1
      rw [neighbours, List.tail_cons, List.zip_cons_cons, List.mem_cons] at hb hc
      rcases hb with hb | hb <;> rcases hc with hc | hc
      · cases hb; cases hc; rfl
      · cases hb; exact absurd (List.of_mem_zip hc).2 fresh
      · cases hc; exact absurd (List.of_mem_zip hb).2 fresh
      · exact ih distinct hb hc

/-- A later pair may overwrite an earlier one, but a linked place stays linked. -/
theorem linked_of_mem {size : Nat} {pairs : List (Nat × Nat)} {a b : Nat} (small : a < size)
    (h : (a, b) ∈ pairs) : ∃ c, (linkTable size pairs)[a]? = some (some c) := by
  suffices ∀ table : Array (Option Nat), a < table.size →
      ((∃ b, (a, b) ∈ pairs) ∨ ∃ c, table[a]? = some (some c)) →
      ∃ c, (pairs.foldl (fun table p => table.setIfInBounds p.1 (some p.2)) table)[a]? =
        some (some c) from
    this _ (by simpa using small) (.inl ⟨b, h⟩)
  clear h
  induction pairs with
  | nil =>
    rintro table - (⟨b, h⟩ | found)
    · cases h
    · exact found
  | cons p ps ih =>
    intro table inside found
    refine ih _ (by simpa using inside) ?_
    by_cases here : p.1 = a
    · exact .inr ⟨p.2, by simp [here, inside]⟩
    · rcases found with ⟨b, h⟩ | ⟨c, h⟩
      · rcases List.mem_cons.mp h with rfl | h
        · exact absurd rfl here
        · exact .inl ⟨b, h⟩
      · exact .inr ⟨c, by simpa [Array.getElem?_setIfInBounds, here] using h⟩

/-- If no place has two partners, the table holds exactly the pairs. -/
theorem linkTable_eq_some_iff {size : Nat} {pairs : List (Nat × Nat)}
    (single : ∀ a b c, (a, b) ∈ pairs → (a, c) ∈ pairs → b = c) {a b : Nat} (small : a < size) :
    (linkTable size pairs)[a]?.getD none = some b ↔ (a, b) ∈ pairs := by
  rw [Option.getD_eq_iff]
  constructor
  · rintro (h | ⟨-, h⟩)
    · exact mem_of_getElem?_linkTable h
    · cases h
  · intro h
    obtain ⟨c, hc⟩ := linked_of_mem small h
    have same : c = b := single a c b (mem_of_getElem?_linkTable hc) h
    exact .inl (same ▸ hc)

end Arena

namespace Tree

open Arena

variable {t : Tree}

theorem map_val_children (p : t.Id) : (t.children p).map Fin.val = childrenOf t.nodes p.val := by
  have small : ∀ i ∈ childrenOf t.nodes p.val, i < t.nodes.size := fun i hi =>
    (lt_of_parentOf t.climbs (mem_childrenOf.mp hi)).2
  rw [children, getElem?_childLists, Option.getD_some]
  revert small
  induction childrenOf t.nodes p.val with
  | nil => exact fun _ => rfl
  | cons i is ih =>
    intro small
    have here := small i List.mem_cons_self
    have rest := ih fun j hj => small j (List.mem_cons_of_mem i hj)
    simp [id?, here, rest]

theorem children_ascend (p : t.Id) : (t.children p).Pairwise (· < ·) := by
  have ascend := pairwise_childrenOf t.nodes p.val
  rw [← map_val_children, List.pairwise_map] at ascend
  exact ascend

theorem children_nodup (p : t.Id) : (t.children p).Nodup :=
  (children_ascend p).imp fun h => Fin.ne_of_lt h

theorem map_val_namedChildren (p : t.Id) :
    (t.namedChildren p).map Fin.val =
      (childrenOf t.nodes p.val).filter (isNamed t.nodes) := by
  rw [← map_val_children, List.filter_map, namedChildren]
  congr 1
  apply List.filter_congr
  intro n _
  simp [isNamed, named, node]

theorem mem_namedChildren {p n : t.Id} :
    n ∈ t.namedChildren p ↔ t.parent n = some p ∧ t.named n = true := by
  rw [namedChildren, List.mem_filter, mem_children]

theorem childOfKind_eq_some {n c : t.Id} {kind : String} (h : t.childOfKind n kind = some c) :
    t.parent c = some n ∧ t.named c = true ∧ t.kind c = kind := by
  obtain ⟨parent, named⟩ := mem_namedChildren.mp (List.mem_of_find?_eq_some h)
  exact ⟨parent, named, by simpa using List.find?_some h⟩

theorem mem_namedNeighbours_iff {a b : t.Id} :
    (a.val, b.val) ∈ namedNeighbours t.nodes t.childLists ↔
      ∃ p, [a, b] <:+: t.namedChildren p := by
  have listed (p : t.Id) : [a, b] <:+: t.namedChildren p ↔
      (a.val, b.val) ∈ neighbours ((childrenOf t.nodes p.val).filter (isNamed t.nodes)) := by
    rw [← map_val_namedChildren, ← mem_neighbours_iff, neighbours_map, List.mem_map]
    constructor
    · exact fun h => ⟨(a, b), h, rfl⟩
    · rintro ⟨⟨c, d⟩, h, same⟩
      obtain ⟨hc, hd⟩ := Prod.mk.inj same
      rwa [Fin.ext hc, Fin.ext hd] at h
  rw [mem_namedNeighbours t.filed]
  constructor
  · rintro ⟨p, small, hab⟩
    exact ⟨⟨p, small⟩, (listed ⟨p, small⟩).mpr hab⟩
  · rintro ⟨p, hab⟩
    exact ⟨p.val, p.isLt, (listed p).mp hab⟩

theorem namedNeighbours_right_unique {a b c : Nat}
    (hb : (a, b) ∈ namedNeighbours t.nodes t.childLists)
    (hc : (a, c) ∈ namedNeighbours t.nodes t.childLists) : b = c := by
  obtain ⟨p, -, hb⟩ := (mem_namedNeighbours t.filed).mp hb
  obtain ⟨q, -, hc⟩ := (mem_namedNeighbours t.filed).mp hc
  have hp := mem_childrenOf.mp (List.mem_filter.mp (mem_of_mem_neighbours hb).1).1
  have hq := mem_childrenOf.mp (List.mem_filter.mp (mem_of_mem_neighbours hc).1).1
  have same : p = q := Option.some.inj (hp.symm.trans hq)
  subst same
  exact neighbours_right_unique (((pairwise_childrenOf t.nodes p).filter _).imp Nat.ne_of_lt) hb hc

theorem namedNeighbours_left_unique {a b c : Nat}
    (hb : (b, a) ∈ namedNeighbours t.nodes t.childLists)
    (hc : (c, a) ∈ namedNeighbours t.nodes t.childLists) : b = c := by
  obtain ⟨p, -, hb⟩ := (mem_namedNeighbours t.filed).mp hb
  obtain ⟨q, -, hc⟩ := (mem_namedNeighbours t.filed).mp hc
  have hp := mem_childrenOf.mp (List.mem_filter.mp (mem_of_mem_neighbours hb).2).1
  have hq := mem_childrenOf.mp (List.mem_filter.mp (mem_of_mem_neighbours hc).2).1
  have same : p = q := Option.some.inj (hp.symm.trans hq)
  subst same
  exact neighbours_left_unique (((pairwise_childrenOf t.nodes p).filter _).imp Nat.ne_of_lt) hb hc

theorem nextNamed_eq_some_iff {a b : t.Id} :
    t.nextNamed a = some b ↔ ∃ p, [a, b] <:+: t.namedChildren p := by
  have single : ∀ a b c, (a, b) ∈ namedNeighbours t.nodes t.childLists →
      (a, c) ∈ namedNeighbours t.nodes t.childLists → b = c :=
    fun _ _ _ => namedNeighbours_right_unique
  rw [← mem_namedNeighbours_iff, ← linkTable_eq_some_iff single a.isLt, nextNamed,
    t.nextLinks_eq, Option.bind_eq_some_iff]
  simp [id?_eq_some]

theorem prevNamed_eq_some_iff {a b : t.Id} :
    t.prevNamed b = some a ↔ ∃ p, [a, b] <:+: t.namedChildren p := by
  have swapped (a b : Nat) : (b, a) ∈ (namedNeighbours t.nodes t.childLists).map Prod.swap ↔
      (a, b) ∈ namedNeighbours t.nodes t.childLists := by
    rw [List.mem_map]
    constructor
    · rintro ⟨⟨c, d⟩, h, same⟩
      cases same
      exact h
    · exact fun h => ⟨(a, b), h, rfl⟩
  have single : ∀ b a c, (b, a) ∈ (namedNeighbours t.nodes t.childLists).map Prod.swap →
      (b, c) ∈ (namedNeighbours t.nodes t.childLists).map Prod.swap → a = c := by
    intro b a c ha hc
    exact namedNeighbours_left_unique ((swapped a b).mp ha) ((swapped c b).mp hc)
  rw [← mem_namedNeighbours_iff, ← swapped, ← linkTable_eq_some_iff single b.isLt, prevNamed,
    t.prevLinks_eq, Option.bind_eq_some_iff]
  simp [id?_eq_some]

theorem named_of_linked {a b p : t.Id} (h : [a, b] <:+: t.namedChildren p) :
    (t.parent a = some p ∧ t.named a = true) ∧ (t.parent b = some p ∧ t.named b = true) := by
  have ha : a ∈ t.namedChildren p := h.subset (by simp)
  have hb : b ∈ t.namedChildren p := h.subset (by simp)
  exact ⟨mem_namedChildren.mp ha, mem_namedChildren.mp hb⟩

theorem nextNamed_eq_some_iff_prevNamed {a b : t.Id} :
    t.nextNamed a = some b ↔ t.prevNamed b = some a := by
  rw [nextNamed_eq_some_iff, prevNamed_eq_some_iff]

theorem links_eq_none {n : t.Id} (h : t.named n = false ∨ t.parent n = none) :
    t.nextNamed n = none ∧ t.prevNamed n = none := by
  constructor
  · rw [Option.eq_none_iff_forall_ne_some]
    intro m next
    obtain ⟨p, hp⟩ := nextNamed_eq_some_iff.mp next
    have ⟨parent, named⟩ := (named_of_linked hp).1
    rcases h with h | h
    · rw [h] at named; cases named
    · rw [h] at parent; cases parent
  · rw [Option.eq_none_iff_forall_ne_some]
    intro m prev
    obtain ⟨p, hp⟩ := prevNamed_eq_some_iff.mp prev
    have ⟨parent, named⟩ := (named_of_linked hp).2
    rcases h with h | h
    · rw [h] at named; cases named
    · rw [h] at parent; cases parent

theorem parent_root : t.parent t.root = none := by
  rw [Option.eq_none_iff_forall_ne_some]
  intro p hp
  have below := parent_lt hp
  exact absurd below (Nat.not_lt_zero p.val)

/-- What the parent links, the child lists and the sibling links of a tree say together. -/
structure Linked (t : Tree) : Prop where
  root_first : t.root.val = 0
  orphan_iff : ∀ n : t.Id, t.parent n = none ↔ n = t.root
  parent_before : ∀ n p : t.Id, t.parent n = some p → p < n
  child_iff : ∀ p c : t.Id, c ∈ t.children p ↔ t.parent c = some p
  ascending : ∀ p : t.Id, (t.children p).Pairwise (· < ·)
  listed_once : ∀ c : t.Id, c ≠ t.root →
    ∃ p, (t.children p).count c = 1 ∧ ∀ q, q ≠ p → (t.children q).count c = 0
  next_iff : ∀ a b : t.Id, t.nextNamed a = some b ↔ ∃ p, [a, b] <:+: t.namedChildren p
  prev_iff : ∀ a b : t.Id, t.prevNamed b = some a ↔ ∃ p, [a, b] <:+: t.namedChildren p
  unlinked : ∀ n : t.Id, t.named n = false ∨ n = t.root →
    t.nextNamed n = none ∧ t.prevNamed n = none

/-- A tree is linked as soon as only its root has no parent. -/
theorem linked_of_rooted (rooted : ∀ n : t.Id, t.parent n = none → n = t.root) : t.Linked where
  root_first := rfl
  orphan_iff n := ⟨rooted n, fun h => h ▸ parent_root⟩
  parent_before _ _ := parent_lt
  child_iff _ _ := mem_children
  ascending := children_ascend
  listed_once := by
    intro c other
    cases hp : t.parent c with
    | none => exact absurd (rooted c hp) other
    | some p =>
      refine ⟨p, ?_, ?_⟩
      · rw [(children_nodup p).count, if_pos (mem_children.mpr hp)]
      · intro q different
        apply List.count_eq_zero_of_not_mem
        intro listed
        have parent := mem_children.mp listed
        exact different (Option.some.inj (parent.symm.trans hp))
  next_iff _ _ := nextNamed_eq_some_iff
  prev_iff _ _ := prevNamed_eq_some_iff
  unlinked := by
    rintro n (anonymous | rfl)
    · exact links_eq_none (.inl anonymous)
    · exact links_eq_none (.inr parent_root)

end Tree

/-! ### Built trees -/

theorem eq_ok_get_toOption {ε α : Type} (result : Except ε α)
    (done : result.toOption.isSome = true) : result = .ok (result.toOption.get done) := by
  cases result with
  | error e => cases done
  | ok a => rfl

namespace Builder

theorem finish_eq_ok {b : Builder} {t : Tree} (h : b.finish = .ok t) :
    t.source = b.source ∧ t.nodes = b.nodes ∧ b.root = some t.root.val := by
  unfold finish at h
  split at h
  · cases h
  · cases h
  · cases h
  next i _ _ root =>
    cases h
    have first := b.sound.root_eq
    have some_node := nonempty_of_root root
    rw [if_neg (Nat.ne_of_gt some_node)] at first
    exact ⟨rfl, rfl, first⟩

end Builder

namespace Tree

theorem rooted_of_finish {b : Builder} {t : Tree} (h : b.finish = .ok t) (n : t.Id)
    (orphan : t.parent n = none) : n = t.root := by
  obtain ⟨-, nodes, -⟩ := Builder.finish_eq_ok h
  by_cases first : n.val = 0
  · exact Fin.ext first
  · have parent := b.sound.rooted n.val (Nat.pos_of_ne_zero first) (nodes ▸ n.isLt)
    rw [← nodes] at parent
    obtain ⟨p, hp⟩ := Option.ne_none_iff_exists'.mp parent
    have small : p < t.nodes.size :=
      Nat.lt_trans (Arena.lt_of_parentOf t.climbs hp).1 n.isLt
    have found : t.parent n = some ⟨p, small⟩ := parent_eq_some_iff_parentOf.mpr hp
    rw [orphan] at found
    cases found

/-- Whatever the calls were, a tree that they build is linked, and its root is the node that
was added first. -/
theorem linked_of_build {text : String} {calls : List BuildCall} {t : Tree}
    (built : Tree.build text calls = .ok t) :
    t.Linked ∧ ((Builder.start (Source.ofString text)).run calls).root = some t.root.val :=
  ⟨linked_of_rooted (rooted_of_finish built), (Builder.finish_eq_ok built).2.2⟩

theorem linked_declaration : ∃ t, Tree.build "x = 1" [.openHere "file",
      .openAt "value_declaration" true ⟨0, 5⟩, .leaf "lower_case_identifier" "x", .token "=",
      .leaf "number_constant_expr" "1", .close, .close] = .ok t ∧ t.Linked := by
  generalize hb : Tree.build _ _ = result
  have done : result.toOption.isSome = true := by
    rw [← hb]
    decide +kernel
  cases result with
  | error e => cases done
  | ok t => exact ⟨t, rfl, (linked_of_build hb).1⟩

end Tree

end ElmOverlay
