import ElmOverlay.Proofs.Layout

/-!
Trees that are built by text. Node `i` comes from the call that was the `i`-th to add a node.
A node added for a text covers that text, and one that was opened covers its children from
the first to the last, or the whole source if it is the root. Ranges nest, and read in order
the leaves never go back.
-/
namespace ElmOverlay

open Arena

/-- The calls that add a node. -/
def additions (calls : List BuildCall) : List BuildCall := calls.filter fun c => c.kind?.isSome

namespace Draft

variable {d : Draft} {i : Nat} {c : BuildCall} {calls : List BuildCall}

/-- What node `i` shows of the call `c` that added it. -/
structure Holds (d : Draft) (i : Nat) (c : BuildCall) : Prop where
  kind : c.kind? = some (kindOf d.nodes i)
  text : ∀ text, c.text? = some text →
    i ∉ d.opened ∧ d.source.slice? (rangeOf d.nodes i) = some text
  hull : c.text? = none → i ∉ d.opened → d.root = some i ∨ childrenOf d.nodes i ≠ [] →
    rangeOf d.nodes i = d.hull i

structure Recorded (calls : List BuildCall) (d : Draft) : Prop where
  count : (additions calls).length = d.nodes.size
  holds : ∀ i c, (additions calls)[i]? = some c → d.Holds i c

/-- The hull of a node that is the root or has children follows from its children alone. -/
theorem hull_congr {e : Draft} (root : e.root = some i ↔ d.root = some i)
    (source : e.source = d.source) (children : childrenOf e.nodes i = childrenOf d.nodes i)
    (ranges : ∀ c, parentOf d.nodes c = some i → rangeOf e.nodes c = rangeOf d.nodes c)
    (shown : d.root = some i ∨ childrenOf d.nodes i ≠ []) : e.hull i = d.hull i := by
  rcases hull_cases d i with top | ⟨inner, childless | ⟨first, last, head, tail⟩⟩
  · rw [hull_of_root top, hull_of_root (root.mpr top), source]
  · rcases shown with top | some_child
    · exact absurd top inner
    · exact absurd childless some_child
  · have inner' : e.root ≠ some i := fun top => inner (root.mp top)
    rw [hull_of_children inner head tail,
      hull_of_children inner' (children ▸ head) (children ▸ tail),
      ranges first (parent_of_head? head), ranges last (parent_of_getLast? tail)]

/-! ### Adding a node -/

section Append

variable {n : Node} {cursor : Nat} {derived opens : Bool}

theorem root_append (s : d.Sound) (some_node : 0 < d.nodes.size) :
    (Draft.append { d with cursor := cursor } n derived opens).root = d.root := by
  rw [Draft.append, s.root_eq, if_neg (Nat.ne_of_gt some_node)]
  rfl

theorem childrenOf_append (parent : n.parent = d.opened.head?) (closed : i ∉ d.opened) :
    childrenOf (Draft.append { d with cursor := cursor } n derived opens).nodes i =
      childrenOf d.nodes i := by
  have elsewhere : n.parent ≠ some i := fun here =>
    closed (List.mem_of_head? (parent.symm.trans here))
  simp [Draft.append, childrenOf_push, elsewhere]

theorem hull_append (s : d.Sound) (small : i < d.nodes.size) (parent : n.parent = d.opened.head?)
    (closed : i ∉ d.opened) (shown : d.root = some i ∨ childrenOf d.nodes i ≠ []) :
    (Draft.append { d with cursor := cursor } n derived opens).hull i = d.hull i := by
  refine hull_congr ?_ rfl (childrenOf_append parent closed) ?_ shown
  · rw [root_append s (Nat.zero_lt_of_lt small)]
  · intro c child
    have old := (lt_of_parentOf s.climbs child).2
    simp only [Draft.append, rangeOf_push, if_neg (Nat.ne_of_lt old)]

theorem Holds.append (held : d.Holds i c) (s : d.Sound) (small : i < d.nodes.size)
    (parent : n.parent = d.opened.head?) :
    (Draft.append { d with cursor := cursor } n derived opens).Holds i c := by
  have old : i ≠ d.nodes.size := Nat.ne_of_lt small
  have opened : i ∈ (Draft.append { d with cursor := cursor } n derived opens).opened ↔
      i ∈ d.opened := by
    rw [mem_opened_append_iff]
    simp [old]
  have range : rangeOf (Draft.append { d with cursor := cursor } n derived opens).nodes i =
      rangeOf d.nodes i := by
    simp only [Draft.append, rangeOf_push, if_neg old]
  refine ⟨?kind, ?text, ?hull⟩
  case kind =>
    simp only [Draft.append, kindOf_push, if_neg old]
    exact held.kind
  case text =>
    intro text looks
    rw [range, opened]
    exact held.text text looks
  case hull =>
    intro unfound closed shown
    rw [opened] at closed
    rw [root_append s (Nat.zero_lt_of_lt small), childrenOf_append parent closed] at shown
    rw [range, hull_append s small parent closed shown]
    exact held.hull unfound closed shown

end Append

theorem Recorded.add (recorded : Recorded calls d) (s : d.Sound) (adds : c.kind?.isSome = true)
    {n : Node} {cursor : Nat} {derived opens : Bool} (parent : n.parent = d.opened.head?)
    (new : (Draft.append { d with cursor := cursor } n derived opens).Holds d.nodes.size c) :
    Recorded (calls ++ [c]) (Draft.append { d with cursor := cursor } n derived opens) := by
  have longer : additions (calls ++ [c]) = additions calls ++ [c] := by
    simp [additions, adds]
  refine ⟨?_, ?_⟩
  · rw [longer, List.length_append, recorded.count]
    simp [Draft.append]
  · intro i b hb
    rw [longer, List.getElem?_append, recorded.count] at hb
    split at hb
    next small => exact (recorded.holds i b hb).append s small parent
    next beyond =>
      have last := (List.getElem?_eq_some_iff.mp hb).1
      rw [List.length_singleton] at last
      obtain rfl : i = d.nodes.size := by omega
      rw [Nat.sub_self] at hb
      cases hb
      exact new

theorem holds_found (s : d.Sound) {kind text : String} {named : Bool} {start : Nat}
    (adds : c.kind? = some kind) (looks : c.text? = some text)
    (found : d.source.find? text d.cursor = some start) :
    (Draft.append { d with cursor := start + text.utf8ByteSize }
      ⟨kind, named, ⟨start, start + text.utf8ByteSize⟩, d.opened.head?⟩ false false).Holds
        d.nodes.size c := by
  refine ⟨?_, ?_, ?_⟩
  · simp [Draft.append, kindOf_push, adds]
  · intro other same
    rw [looks] at same
    cases same
    constructor
    · exact fun listed => Nat.lt_irrefl _ (s.opened_lt _ listed)
    · simp only [Draft.append, rangeOf_push]
      exact Source.slice?_of_find? found
  · intro unfound
    rw [looks] at unfound
    cases unfound

/-! ### Closing a node -/

theorem Holds.close (held : d.Holds i c) (s : d.Sound) (stacked : d.Stacked) {j : Nat}
    {rest : List Nat} (opened : d.opened = j :: rest) :
    Holds { d with opened := rest, nodes := setRange d.nodes j (d.hull j) } i c := by
  have small : j < d.nodes.size := s.opened_lt j (opened ▸ List.mem_cons_self)
  refine ⟨?kind, ?text, ?hull⟩
  case kind =>
    rw [kindOf_setRange]
    exact held.kind
  case text =>
    intro text looks
    have ⟨closed, same⟩ := held.text text looks
    rw [opened, List.mem_cons, not_or] at closed
    rw [rangeOf_setRange small, if_neg (Ne.symm closed.1)]
    exact ⟨closed.2, same⟩
  case hull =>
    intro unfound closed shown
    rw [childrenOf_setRange] at shown
    have kept (k : Nat) (child : parentOf d.nodes k = some i) :
        rangeOf (setRange d.nodes j (d.hull j)) k = rangeOf d.nodes k := by
      rw [rangeOf_setRange small, if_neg]
      rintro rfl
      have listed : j ∈ d.opened := opened ▸ List.mem_cons_self
      exact closed (stacked.parent_mem_rest s.climbs opened listed child)
    have same : Draft.hull { d with opened := rest, nodes := setRange d.nodes j (d.hull j) } i =
        d.hull i :=
      hull_congr (d := d) Iff.rfl rfl (childrenOf_setRange d.nodes j _ i) kept shown
    rw [same, rangeOf_setRange small]
    split
    next here => rw [here]
    next other =>
      apply held.hull unfound _ shown
      rw [opened, List.mem_cons, not_or]
      exact ⟨fun here => other here.symm, closed⟩

/-- What calls without a range keep, about the order of nodes, ranges and calls. -/
structure Located (calls : List BuildCall) (d : Draft) : Prop where
  stacked : d.Stacked
  laid : d.LaidOut
  recorded : d.Recorded calls

theorem located_start (s : Source) : Located [] (Builder.start s).toDraft :=
  ⟨stacked_start s, laidOut_start s, rfl, by simp [additions]⟩

theorem Located.recorded_takes (kept : d.Located calls) (s : d.Sound)
    (unplaced : c.range? = none) {d' : Draft} (takes : d.Takes c d') :
    Recorded (calls ++ [c]) d' := by
  have ⟨stacked, laid, recorded⟩ := kept
  cases takes with
  | @openHere kind room =>
    apply recorded.add s rfl rfl
    refine ⟨?_, ?_, ?_⟩
    · simp [Draft.append, kindOf_push, BuildCall.kind?]
    · rintro text ⟨⟩
    · intro _ closed
      exact absurd List.mem_cons_self closed
  | openAt fits room => cases unplaced
  | leafAt fits room => cases unplaced
  | leaf whole found room => exact recorded.add s rfl rfl (holds_found s rfl rfl found)
  | token whole found room => exact recorded.add s rfl rfl (holds_found s rfl rfl found)
  | closeDerived opened derived =>
    have same : additions (calls ++ [.close]) = additions calls := by
      simp [additions, BuildCall.kind?]
    refine ⟨?_, ?_⟩
    · rw [same, recorded.count, size_setRange]
    · intro i c hc
      rw [same] at hc
      exact (recorded.holds i c hc).close s stacked opened
  | closeGiven opened given => exact (laid.derived_of_closed opened given).elim

theorem Located.takes (kept : d.Located calls) (s : d.Sound) (unplaced : c.range? = none)
    {d' : Draft} (takes : d.Takes c d') : Located (calls ++ [c]) d' :=
  ⟨kept.stacked.takes s takes, kept.laid.takes s kept.stacked unplaced takes,
    kept.recorded_takes s unplaced takes⟩

end Draft

/-- What calls without a range keep, each with all that such calls keep anyway, holds after a run
without failure. -/
theorem Builder.located_after_run {s : Source} {motive : List BuildCall → Draft → Prop}
    (first : motive [] (start s).toDraft)
    (step : ∀ calls c d d', d.Sound → d.Located calls → c.range? = none → d.Takes c d' →
      motive calls d → motive (calls ++ [c]) d')
    {calls : List BuildCall} (fine : ((start s).run calls).error = none)
    (unplaced : ∀ c ∈ calls, c.range? = none) : ((start s).run calls).source = s ∧
      ((start s).run calls).Located calls ∧ motive calls ((start s).run calls).toDraft := by
  obtain ⟨source, kept⟩ := holds_after_run
    (motive := fun calls d => (∀ c ∈ calls, c.range? = none) → d.Located calls ∧ motive calls d)
    (fun _ => ⟨Draft.located_start s, first⟩)
    (by
      intro calls c d d' sound _ takes kept unplaced
      obtain ⟨located, held⟩ := kept fun b hb => unplaced b (List.mem_append_left _ hb)
      have here : c.range? = none := unplaced c (by simp)
      exact ⟨located.takes sound here takes, step calls c d d' sound located here takes held⟩)
    fine
  exact ⟨source, kept unplaced⟩

/-! ### Trees -/

namespace Tree

variable {t : Tree}

/-- A leaf ends before every node behind it begins. -/
theorem descendants_in_order (nested : t.WellNested) (n : t.Id) :
    (t.descendants n).Pairwise fun a b =>
      t.children a = [] → (t.range a).stop ≤ (t.range b).start := by
  apply (descendants_below_or_apart nested n).imp
  rintro a b (⟨c, child, -⟩ | apart) childless
  · rw [childless] at child
    cases child
  · exact apart

/-- What a tree shows of calls that give no range. -/
structure Follows (t : Tree) (calls : List BuildCall) : Prop where
  nested : t.WellNested
  inside : ∀ n : t.Id, (t.range n).stop ≤ t.source.size
  whole : ∀ n : t.Id, t.source.OnBoundary (t.range n).start ∧
    t.source.OnBoundary (t.range n).stop
  count : (additions calls).length = t.size
  kind : ∀ (n : t.Id) c, (additions calls)[n.val]? = some c → c.kind? = some (t.kind n)
  text : ∀ (n : t.Id) c text, (additions calls)[n.val]? = some c → c.text? = some text →
    t.text n = text
  hull : ∀ (n : t.Id) kind, (additions calls)[n.val]? = some (.openHere kind) → n ≠ t.root →
    ∀ first last, (t.children n).head? = some first → (t.children n).getLast? = some last →
      t.range n = ⟨(t.range first).start, (t.range last).stop⟩
  root : ∀ kind, (additions calls)[0]? = some (.openHere kind) →
    t.range t.root = ⟨0, t.source.size⟩
  in_order : ∀ a b : t.Id, a < b → t.children a = [] → (t.range a).stop ≤ (t.range b).start

section

variable {nodes : Array Node} (same : t.nodes = nodes)
include same

theorem range_eq_rangeOf (n : t.Id) : t.range n = rangeOf nodes n.val := by
  subst same
  exact (rangeOf_eq_getElem n.isLt).symm

theorem kind_eq_kindOf (n : t.Id) : t.kind n = kindOf nodes n.val := by
  subst same
  rw [kindOf, Array.getElem?_eq_getElem n.isLt]
  rfl

theorem parentOf_of_parent {n p : t.Id} (h : t.parent n = some p) :
    parentOf nodes n.val = some p.val := by
  subst same
  exact parent_eq_some_iff_parentOf.mp h

theorem val_children (n : t.Id) : (t.children n).map Fin.val = childrenOf nodes n.val := by
  subst same
  exact map_val_children n

end

theorem wellNested_of_laidOut {d : Draft} (laid : d.LaidOut) (closed : d.opened = [])
    (nodes : t.nodes = d.nodes) : t.WellNested where
  ordered := by
    intro n
    rw [range_eq_rangeOf nodes]
    exact laid.ordered n.val
  inside := by
    intro n p hp
    have link := parentOf_of_parent nodes hp
    rw [range_eq_rangeOf nodes, range_eq_rangeOf nodes]
    exact ⟨laid.from_start n.val p.val link,
      laid.to_stop n.val p.val link (closed ▸ List.not_mem_nil)⟩
  apart := by
    intro p a b neighbours
    have before : a < b := by
      have ascending := (children_ascend p).sublist neighbours.sublist
      exact (List.pairwise_cons.mp ascending).1 b List.mem_cons_self
    have ha := mem_children.mp (neighbours.subset List.mem_cons_self)
    have hb := mem_children.mp (neighbours.subset (List.mem_cons_of_mem a List.mem_cons_self))
    rw [range_eq_rangeOf nodes, range_eq_rangeOf nodes]
    exact laid.apart a.val b.val p.val (parentOf_of_parent nodes ha) (parentOf_of_parent nodes hb)
      before

theorem exists_located {text : String} {calls : List BuildCall}
    (built : Tree.build text calls = .ok t) (unplaced : ∀ c ∈ calls, c.range? = none) :
    ∃ d : Draft, d.Sound ∧ d.Located calls ∧ d.opened = [] ∧ t.nodes = d.nodes ∧
      t.source = d.source ∧ d.source = Source.ofString text := by
  obtain ⟨source, nodes, -⟩ := Builder.finish_eq_ok built
  obtain ⟨fine, closed⟩ := Builder.fine_of_finish built
  obtain ⟨same, located, -⟩ := Builder.located_after_run (motive := fun _ _ => True) trivial
    (fun _ _ _ _ _ _ _ _ _ => trivial) fine unplaced
  exact ⟨_, Builder.sound _, located, closed, nodes, source, same⟩

/-- An opened node below the root reaches from its first child to its last. -/
theorem range_of_opened {d : Draft} (closed : d.opened = []) (nodes : t.nodes = d.nodes)
    {n : t.Id} {kind : String} (held : d.Holds n.val (.openHere kind))
    (inner : d.root ≠ some n.val) {first last : t.Id} (head : (t.children n).head? = some first)
    (tail : (t.children n).getLast? = some last) :
    t.range n = ⟨(t.range first).start, (t.range last).stop⟩ := by
  have head' : (childrenOf d.nodes n.val).head? = some first.val := by
    rw [← val_children nodes, List.head?_map, head]
    rfl
  have tail' : (childrenOf d.nodes n.val).getLast? = some last.val := by
    rw [← val_children nodes, List.getLast?_map, tail]
    rfl
  have some_child : childrenOf d.nodes n.val ≠ [] := by
    intro childless
    rw [childless] at head'
    cases head'
  rw [range_eq_rangeOf nodes, range_eq_rangeOf nodes, range_eq_rangeOf nodes,
    held.hull rfl (closed ▸ List.not_mem_nil) (.inr some_child),
    Draft.hull_of_children inner head' tail']

/-- Calls that give no range build a tree that follows them. -/
theorem follows_of_build {text : String} {calls : List BuildCall}
    (built : Tree.build text calls = .ok t) (unplaced : ∀ c ∈ calls, c.range? = none) :
    t.source = Source.ofString text ∧ t.Follows calls := by
  obtain ⟨d, s, ⟨-, laid, recorded⟩, closed, nodes, source, same⟩ := exists_located built unplaced
  have nested := wellNested_of_laidOut laid closed nodes
  have top : d.root = some t.root.val := by
    rw [s.root_eq, if_neg (nodes ▸ Nat.ne_of_gt t.nonempty)]
    rfl
  refine ⟨source.trans same, nested, ?inside, ?whole, ?count, ?kind, ?text, ?hull, ?root, ?in_order⟩
  case inside => exact fun n => (range_in_source n).2
  case whole =>
    intro n
    rw [source, range_eq_rangeOf nodes]
    exact laid.whole n.val
  case count => rw [recorded.count, size, nodes]
  case kind =>
    intro n c hc
    rw [kind_eq_kindOf nodes]
    exact (recorded.holds n.val c hc).kind
  case text =>
    intro n c text hc looks
    have shown := ((recorded.holds n.val c hc).text text looks).2
    rw [Tree.text, source, range_eq_rangeOf nodes, shown]
    rfl
  case hull =>
    intro n kind hc inner first last
    apply range_of_opened closed nodes (recorded.holds n.val _ hc)
    intro here
    exact inner (Fin.ext (Option.some.inj (here.symm.trans top)))
  case root =>
    intro kind hc
    have held := recorded.holds t.root.val _ hc
    rw [range_eq_rangeOf nodes, source,
      held.hull rfl (closed ▸ List.not_mem_nil) (.inl top), Draft.hull_of_root top]
  case in_order =>
    intro a b before
    have walk := descendants_in_order nested t.root
    rw [descendants_root_of_build built, ids] at walk
    have pair := List.pairwise_iff_getElem.mp walk a.val b.val (by simp) (by simp) before
    simpa using pair

/-- An empty node between two leaves, in a text with a character of two bytes. -/
theorem follows_list : ∃ t, Tree.build "é [ 1 ]" [.openHere "file", .leaf "name" "é",
      .openHere "list", .token "[", .openHere "gap", .close, .leaf "item" "1", .token "]",
      .close, .close] = .ok t ∧ t.source = Source.ofString "é [ 1 ]" ∧
      t.Follows [.openHere "file", .leaf "name" "é", .openHere "list", .token "[",
        .openHere "gap", .close, .leaf "item" "1", .token "]", .close, .close] := by
  generalize hb : Tree.build _ _ = result
  have done : result.toOption.isSome = true := by
    rw [← hb]
    decide +kernel
  cases result with
  | error e => cases done
  | ok t => exact ⟨t, rfl, follows_of_build hb (by decide)⟩

end Tree

end ElmOverlay
