import ElmOverlay.Proofs.PreOrder

/-!
Building a tree once more. A walk down a built tree that adds each node with its range, and
closes each node that has children behind them, makes the same tree again. Nodes are numbered
by their calls, and the walk meets them in the order of their numbers, so the nodes that the
walk has added are at every moment the first nodes of the tree.
-/
namespace ElmOverlay

open Arena

namespace Tree

variable {t : Tree}

/-- The calls of a walk through a subtree. -/
def replay (n : t.Id) : List BuildCall :=
  if t.children n = [] then [.leafAt (t.kind n) (t.named n) (t.range n)]
  else
    .openAt (t.kind n) (t.named n) (t.range n) ::
      ((t.children n).attach.flatMap fun c => replay c.val) ++ [.close]
termination_by t.nodes.size - n.val
decreasing_by
  have : n.val < c.val.val := lt_of_mem_children c.property
  have := c.val.isLt
  omega

theorem replay_of_childless {n : t.Id} (childless : t.children n = []) :
    t.replay n = [.leafAt (t.kind n) (t.named n) (t.range n)] := by
  rw [replay, if_pos childless]

theorem replay_of_children {n : t.Id} (some_child : t.children n ≠ []) :
    t.replay n = .openAt (t.kind n) (t.named n) (t.range n) ::
      ((t.children n).flatMap t.replay ++ [.close]) := by
  have plain : ((t.children n).attach.flatMap fun c => t.replay c.val) =
      (t.children n).flatMap t.replay := by
    rw [← List.flatMap_map, List.attach_map_subtype_val]
  rw [replay, if_neg some_child, plain, List.cons_append]

end Tree

/-! ### Trees with the same nodes -/

theorem Arena.Filed.unique {nodes : Array Node} {a b : Array (List Nat)} (ha : Filed nodes a)
    (hb : Filed nodes b) : a = b := by
  apply Array.ext (ha.1.trans hb.1.symm)
  intro i hia hib
  rw [ha.2 i _ (Array.getElem?_eq_getElem hia), hb.2 i _ (Array.getElem?_eq_getElem hib)]

theorem Tree.eq_of_nodes {t u : Tree} (source : t.source = u.source) (nodes : t.nodes = u.nodes) :
    t = u := by
  obtain ⟨source, nodes, lists, next, prev, _, _, _, filed, rfl, rfl⟩ := t
  obtain ⟨source', nodes', lists', next', prev', _, _, _, filed', rfl, rfl⟩ := u
  dsimp only at source nodes
  subst source nodes
  obtain rfl := filed.unique filed'
  rfl

/-! ### Copies -/

/-- A draft with the first `k` nodes of a tree, all with ranges given, and an open `path`. -/
structure Copies (t : Tree) (k : Nat) (path : List Nat) (d : Draft) : Prop where
  source : d.source = t.source
  nodes : d.nodes.toList = t.nodes.toList.take k
  given : ∀ b ∈ d.derived, b = false
  fine : d.error = none
  opened : d.opened = path

namespace Copies

variable {t : Tree} {d : Draft} {path : List Nat}

theorem room {n : t.Id} (copies : Copies t n.val path d) (s : d.Sound)
    (rooted : ∀ n : t.Id, t.parent n = none → n = t.root)
    (parent : (t.node n).parent = path.head?) : d.Room := by
  intro top
  have orphan : t.parent n = none := by
    rw [Tree.parent, parent, ← copies.opened, top]
    rfl
  have empty : d.nodes.toList = [] := by
    rw [copies.nodes, rooted n orphan]
    rfl
  rw [s.root_eq, if_pos (by simpa using empty)]

theorem append {n : t.Id} (copies : Copies t n.val path d)
    (parent : (t.node n).parent = path.head?) (opens : Bool) :
    Copies t (n.val + 1) (if opens then n.val :: path else path)
      (d.append ⟨t.kind n, t.named n, t.range n, d.opened.head?⟩ false opens) where
  source := copies.source
  nodes := by
    have same : (⟨t.kind n, t.named n, t.range n, d.opened.head?⟩ : Node) = t.node n := by
      rw [copies.opened, ← parent]
      rfl
    have next : t.nodes.toList[n.val]? = some (t.node n) := by
      rw [Array.getElem?_toList, Array.getElem?_eq_getElem n.isLt]
      rfl
    rw [same, Draft.append, Array.toList_push, copies.nodes, List.take_add_one, next]
    rfl
  given := by
    intro b hb
    rcases Array.mem_push.mp hb with hb | rfl
    · exact copies.given b hb
    · rfl
  fine := copies.fine
  opened := by
    have size : d.nodes.size = n.val := by
      have below := n.isLt
      rw [← Array.length_toList, copies.nodes, List.length_take, Array.length_toList]
      omega
    simp only [Draft.append, size, copies.opened]

theorem moved {k : Nat} (copies : Copies t k path d) (cursor : Nat) :
    Copies t k path { d with cursor := cursor } :=
  { copies with }

section Add

variable {n : t.Id} (copies : Copies t n.val path d) (s : d.Sound)
  (rooted : ∀ n : t.Id, t.parent n = none → n = t.root)
  (parent : (t.node n).parent = path.head?) (ordered : (t.range n).start ≤ (t.range n).stop)
include copies

theorem fits (ordered : (t.range n).start ≤ (t.range n).stop) : d.Fits (t.range n) :=
  ⟨ordered, copies.source ▸ (Tree.range_in_source n).2⟩

include rooted parent ordered

theorem leafAt : Copies t (n.val + 1) path
    (d.call s (.leafAt (t.kind n) (t.named n) (t.range n))) := by
  rw [Draft.call_leafAt s copies.fine (copies.room s rooted parent) (copies.fits ordered)]
  exact (copies.moved _).append parent false

theorem openAt : Copies t (n.val + 1) (n.val :: path)
    (d.call s (.openAt (t.kind n) (t.named n) (t.range n))) := by
  rw [Draft.call_openAt s copies.fine (copies.room s rooted parent) (copies.fits ordered)]
  exact (copies.moved _).append parent true

end Add

/-- Closing moves the cursor and no range. -/
theorem close {k i : Nat} (copies : Copies t k (i :: path) d) (s : d.Sound) :
    Copies t k path (d.call s .close) := by
  rw [Draft.call_close s copies.opened, if_neg]
  · exact { copies with opened := rfl }
  · intro derived
    cases copies.given true (Array.mem_of_getElem? derived)

end Copies

namespace Tree

variable {t : Tree}

/-- The induction is on the number of nodes that are left, so it goes down into the children
of a node as well as on to its siblings. -/
theorem copies_replay (rooted : ∀ n : t.Id, t.parent n = none → n = t.root)
    (ordered : ∀ n : t.Id, (t.range n).start ≤ (t.range n).stop) (count : Nat)
    {k : Nat} {path : List Nat} {siblings : List t.Id}
    (numbered : (siblings.flatMap t.descendants).map Fin.val = List.range' k count)
    (parents : ∀ n ∈ siblings, (t.node n).parent = path.head?) {b : Builder}
    (copies : Copies t k path b.toDraft) :
    Copies t (k + count) path (b.run (siblings.flatMap t.replay)).toDraft := by
  induction count using Nat.strongRecOn generalizing k path siblings b with
  | ind count ih =>
    cases siblings with
    | nil =>
      obtain rfl : 0 = count := by simpa using congrArg List.length numbered
      exact copies
    | cons n rest =>
      have ⟨parent, parents⟩ := List.forall_mem_cons.mp parents
      rw [List.flatMap_cons, List.map_append] at numbered
      obtain ⟨m, le, first, later⟩ := List.range'_eq_append_iff.mp numbered.symm
      rw [Nat.mul_one] at later
      rw [descendants_eq, List.map_cons] at first
      obtain ⟨rfl, pos, inner⟩ := List.range'_eq_cons_iff.mp first.symm
      have here : Copies t (n.val + m) path (b.run (t.replay n)).toDraft := by
        by_cases childless : t.children n = []
        · have alone : m - 1 = 0 := by
            simpa [childless] using (congrArg List.length inner).symm
          rw [replay_of_childless childless, show m = 1 by omega]
          exact copies.leafAt b.sound rooted parent (ordered n)
        · have opened := copies.openAt b.sound rooted parent (ordered n)
          have below : ∀ c ∈ t.children n, (t.node c).parent = (n.val :: path).head? :=
            fun c child => parent_eq_some.mp (mem_children.mp child)
          have filled := ih (m - 1) (by omega) inner below
            (b := b.call (.openAt (t.kind n) (t.named n) (t.range n))) opened
          rw [Nat.add_assoc, Nat.add_sub_cancel' pos] at filled
          rw [replay_of_children childless, ← List.cons_append, Builder.run_append]
          exact filled.close (Builder.sound _)
      rw [List.flatMap_cons, Builder.run_append]
      have done := ih (count - m) (by omega) later parents here
      rw [Nat.add_assoc, Nat.add_sub_cancel' le] at done
      exact done

theorem parent_node_root : (t.node t.root).parent = none := by
  rw [Option.eq_none_iff_forall_ne_some]
  intro p hp
  exact Nat.not_lt_zero p (t.climbs 0 t.nonempty p hp)

/-- A built tree whose ranges all begin before they end is built again by the walk down from
its root, and no call of the walk fails. -/
theorem build_replay {text : String} {calls : List BuildCall} {t : Tree}
    (built : Tree.build text calls = .ok t)
    (ordered : ∀ n : t.Id, (t.range n).start ≤ (t.range n).stop) :
    (∀ front, front <+: t.replay t.root →
        ((Builder.start t.source).run front).error = none) ∧
      ((Builder.start t.source).run (t.replay t.root)).finish = .ok t := by
  have start : Copies t 0 [] (Builder.start t.source).toDraft :=
    ⟨rfl, rfl, fun b hb => (Array.not_mem_empty b hb).elim, rfl, rfl⟩
  have numbered : ([t.root].flatMap t.descendants).map Fin.val = List.range' 0 t.nodes.size := by
    rw [List.flatMap_singleton, descendants_root_of_build built, ids, List.map_coe_finRange_eq_range,
      List.range_eq_range']
  have copies := copies_replay (rooted_of_finish built) ordered t.nodes.size numbered
    (fun n hn => by rw [List.mem_singleton.mp hn]; exact parent_node_root) start
  rw [List.flatMap_singleton] at copies
  constructor
  · rintro front ⟨back, whole⟩
    apply Builder.error_eq_none_of_append
    rw [whole]
    exact copies.fine
  · have all := copies.nodes
    rw [Nat.zero_add, List.take_of_length_le (by simp)] at all
    have nodes := Array.toList_inj.mp all
    have root := (Builder.sound _).root_eq.trans (if_neg (nodes ▸ Nat.ne_of_gt t.nonempty))
    obtain ⟨u, done⟩ := Builder.finish_of_closed copies.fine copies.opened root
    obtain ⟨source, same, -⟩ := Builder.finish_eq_ok done
    rw [done, eq_of_nodes (source.trans copies.source) (same.trans nodes)]

/-- Found leaves, a leaf with a given range and an open node that stays empty. -/
theorem build_replay_pair : ∃ t, Tree.build "a = 1" [.openHere "file", .openAt "pair" true ⟨0, 5⟩,
      .leaf "name" "a", .token "=", .openHere "gap", .close, .leafAt "value" true ⟨4, 5⟩,
      .close, .close] = .ok t ∧
      (∀ front, front <+: t.replay t.root →
        ((Builder.start t.source).run front).error = none) ∧
      ((Builder.start t.source).run (t.replay t.root)).finish = .ok t := by
  generalize hb : Tree.build _ _ = result
  have ordered : result.toOption.any
      (fun t => decide (∀ n : t.Id, (t.range n).start ≤ (t.range n).stop)) = true := by
    rw [← hb]
    decide +kernel
  cases result with
  | error e => cases ordered
  | ok t => exact ⟨t, rfl, build_replay hb (of_decide_eq_true ordered)⟩

end Tree

end ElmOverlay
