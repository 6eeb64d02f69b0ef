import ElmOverlay.Proofs.Links
import ElmOverlay.Proofs.Points

/-!
Point search in a tree whose spans nest like its nodes. The way of a search goes down to a child at
each step, and its answer is the last named node on it. At each level at most one child goes on past
a point, so a node that does so stands on the way, and the search cannot turn off to a sibling that
ends at the point. It ends at a leaf that is not empty if it looks for its start.
-/
namespace ElmOverlay.Tree

/-- The ranges of a tree nest like its nodes, and those of neighbours do not overlap. -/
structure WellNested (t : Tree) : Prop where
  ordered : ∀ n : t.Id, (t.range n).start ≤ (t.range n).stop
  inside : ∀ n p : t.Id, t.parent n = some p →
    (t.range p).start ≤ (t.range n).start ∧ (t.range n).stop ≤ (t.range p).stop
  apart : ∀ p a b : t.Id, [a, b] <:+: t.children p → (t.range a).stop ≤ (t.range b).start

/-- Neighbours are looked up in the list of children, since there are many more triples of nodes. -/
instance (t : Tree) : Decidable t.WellNested :=
  decidable_of_iff ((∀ n : t.Id, (t.range n).start ≤ (t.range n).stop) ∧
      (∀ n p : t.Id, t.parent n = some p →
        (t.range p).start ≤ (t.range n).start ∧ (t.range n).stop ≤ (t.range p).stop) ∧
      ∀ p : t.Id, (Arena.neighbours (t.children p)).all fun pair =>
        (t.range pair.1).stop ≤ (t.range pair.2).start) <| by
    simp only [List.all_eq_true, decide_eq_true_eq, Prod.forall, Arena.mem_neighbours_iff]
    exact ⟨fun ⟨ordered, inside, apart⟩ => ⟨ordered, inside, apart⟩,
      fun ⟨ordered, inside, apart⟩ => ⟨ordered, inside, apart⟩⟩

/-- The spans of a tree nest like its nodes, and those of neighbours do not overlap. -/
structure SpansNest (t : Tree) : Prop where
  ordered : ∀ n : t.Id, (t.span n).WellOrdered
  inside : ∀ n p : t.Id, t.parent n = some p →
    (t.span p).start ≤ (t.span n).start ∧ (t.span n).stop ≤ (t.span p).stop
  apart : ∀ p a b : t.Id, [a, b] <:+: t.children p → (t.span a).stop ≤ (t.span b).start

/-- `m` is `n` or stands below it. -/
inductive Below {t : Tree} : t.Id → t.Id → Prop where
  | here (n : t.Id) : Below n n
  | down {n c m : t.Id} (child : t.parent c = some n) (rest : Below c m) : Below n m

/-- A node without children that is not empty. -/
structure SolidLeaf {t : Tree} (n : t.Id) : Prop where
  childless : t.children n = []
  solid : (t.range n).start < (t.range n).stop

instance {t : Tree} (n : t.Id) : Decidable (SolidLeaf n) :=
  decidable_of_iff (t.children n = [] ∧ (t.range n).start < (t.range n).stop)
    ⟨fun ⟨a, b⟩ => ⟨a, b⟩, fun ⟨a, b⟩ => ⟨a, b⟩⟩

variable {t : Tree}

theorem pairwise_of_neighbours {α : Type} {R : α → α → Prop} {l : List α}
    (trans : ∀ a b c, R a b → R b c → R a c) (step : ∀ a b, [a, b] <:+: l → R a b) :
    l.Pairwise R := by
  induction l with
  | nil => exact .nil
  | cons x xs ih =>
    have rest := ih fun a b h => step a b (List.infix_cons h)
    refine List.pairwise_cons.mpr ⟨?_, rest⟩
    cases xs with
    | nil => simp
    | cons y ys =>
      have first : R x y := step x y ⟨[], ys, rfl⟩
      intro z hz
      rcases List.mem_cons.mp hz with rfl | hz
      · exact first
      · exact trans x y z first ((List.pairwise_cons.mp rest).1 z hz)

theorem range_in_source (n : t.Id) : t.source.Covers (t.range n) :=
  t.inSource _ (Array.getElem_mem n.isLt)

theorem children_apart (nested : t.WellNested) (p : t.Id) :
    (t.children p).Pairwise fun a b => (t.range a).stop ≤ (t.range b).start := by
  apply pairwise_of_neighbours
  · intro a b c ab bc
    exact Nat.le_trans ab (Nat.le_trans (nested.ordered b) bc)
  · exact nested.apart p

theorem range_of_below (nested : t.WellNested) {n m : t.Id} (below : Below n m) :
    (t.range n).start ≤ (t.range m).start ∧ (t.range m).stop ≤ (t.range n).stop := by
  induction below with
  | here n => exact ⟨Nat.le_refl _, Nat.le_refl _⟩
  | down child _ ih =>
    have outer := nested.inside _ _ child
    exact ⟨Nat.le_trans outer.1 ih.1, Nat.le_trans ih.2 outer.2⟩

theorem WellNested.spansNest (nested : t.WellNested) (small : t.source.Small) : t.SpansNest where
  ordered n := Source.pointAt_le small (nested.ordered n) (range_in_source n).2
  inside n p child := by
    have outer := nested.inside n p child
    constructor
    · exact Source.pointAt_le small outer.1 (range_in_source n).1
    · exact Source.pointAt_le small outer.2 (range_in_source p).2
  apart p a b neighbours :=
    Source.pointAt_le small (nested.apart p a b neighbours) (range_in_source b).1

theorem span_of_below (nested : t.SpansNest) {n m : t.Id} (below : Below n m) :
    (t.span n).start ≤ (t.span m).start ∧ (t.span m).stop ≤ (t.span n).stop := by
  induction below with
  | here n => exact ⟨Point.le_refl _, Point.le_refl _⟩
  | down child _ ih =>
    have outer := nested.inside _ _ child
    exact ⟨Point.le_trans outer.1 ih.1, Point.le_trans ih.2 outer.2⟩

/-! ### Steps -/

theorem of_childAt {n c : t.Id} {p : Point} (h : t.childAt n p = some c) :
    t.parent c = some n ∧ (t.span c).Contains p := by
  rw [childAt, Option.or_eq_some_iff] at h
  rcases h with past | ⟨-, ends⟩
  · obtain ⟨from_start, before_stop⟩ : (t.span c).start ≤ p ∧ p < (t.span c).stop := by
      simpa using List.find?_some past
    exact ⟨mem_children.mp (List.mem_of_find?_eq_some past), from_start,
      Point.le_of_lt before_stop⟩
  · have inside : (t.span c).Contains p := by simpa using List.find?_some ends
    exact ⟨mem_children.mp (List.mem_of_find?_eq_some ends), inside⟩

theorem childAt_eq_none {n : t.Id} (childless : t.children n = []) (p : Point) :
    t.childAt n p = none := by
  simp [childAt, childless]

/-- A child that goes on past a point is where the search goes. -/
theorem childAt_eq_some (nested : t.SpansNest) {n c : t.Id} (child : t.parent c = some n)
    {p : Point} (from_start : (t.span c).start ≤ p) (before_stop : p < (t.span c).stop) :
    t.childAt n p = some c := by
  obtain ⟨before, after, split⟩ := List.append_of_mem (mem_children.mpr child)
  have apart : (t.children n).Pairwise fun a b => (t.span a).stop ≤ (t.span b).start := by
    apply pairwise_of_neighbours
    · intro a b c ab bc
      exact Point.le_trans ab (Point.le_trans (nested.ordered b) bc)
    · exact nested.apart n
  rw [split] at apart
  have earlier := (List.pairwise_append.mp apart).2.2
  have found : ((t.children n).find? fun c => (t.span c).start ≤ p ∧ p < (t.span c).stop) =
      some c := by
    rw [List.find?_eq_some_iff_append]
    refine ⟨by simp [from_start, before_stop], before, after, split, ?_⟩
    intro a ha
    have passed : ¬ p < (t.span a).stop := fun going =>
      Point.le_trans (earlier a ha c List.mem_cons_self) from_start going
    simp [passed]
  rw [childAt, found, Option.some_or]

/-! ### Ways -/

/-- The way of a search for a point leads from one node to another. -/
inductive Leads {t : Tree} (p : Point) : t.Id → t.Id → Prop where
  | here (n : t.Id) : Leads p n n
  | step {n c m : t.Id} (next : t.childAt n p = some c) (rest : Leads p c m) : Leads p n m

theorem Leads.descends {p : Point} {n m : t.Id} (leads : Leads p n m) : Below n m := by
  induction leads with
  | here n => exact .here n
  | step next _ ih => exact .down (of_childAt next).1 ih

theorem Leads.contains {p : Point} {n m : t.Id} (leads : Leads p n m)
    (inside : (t.span n).Contains p) : (t.span m).Contains p := by
  induction leads with
  | here n => exact inside
  | step next _ ih => exact ih (of_childAt next).2

theorem Leads.trans {p : Point} {n m k : t.Id} (upper : Leads p n m) (lower : Leads p m k) :
    Leads p n k := by
  induction upper with
  | here n => exact lower
  | step next _ ih => exact .step next (ih lower)

/-- A search has one way only. -/
theorem Leads.fork {p : Point} {n a b : t.Id} (ha : Leads p n a) (hb : Leads p n b) :
    Leads p a b ∨ Leads p b a := by
  induction ha with
  | here n => exact .inl hb
  | @step n c a next rest ih =>
    cases hb with
    | here => exact .inr (.step next rest)
    | step next' rest' =>
      obtain rfl := Option.some.inj (next.symm.trans next')
      exact ih rest'

/-- The way of a search ends, since it goes to greater nodes. -/
theorem exists_end (p : Point) (n : t.Id) : ∃ e, Leads p n e ∧ t.childAt e p = none := by
  cases next : t.childAt n p with
  | none => exact ⟨n, .here n, next⟩
  | some c =>
    have : n.val < c.val := lt_childAt next
    obtain ⟨e, leads, last⟩ := exists_end p c
    exact ⟨e, .step next leads, last⟩
termination_by t.nodes.size - n.val

/-- A node that goes on past a point stands on the way to it. -/
theorem leads_of_below (nested : t.SpansNest) {n m : t.Id} (below : Below n m) {p : Point}
    (from_start : (t.span m).start ≤ p) (before_stop : p < (t.span m).stop) : Leads p n m := by
  induction below with
  | here n => exact .here n
  | @down n c m child rest ih =>
    have outer := span_of_below nested rest
    have next := childAt_eq_some nested child (Point.le_trans outer.1 from_start)
      (Point.lt_of_lt_of_le before_stop outer.2)
    exact .step next (ih from_start before_stop)

/-! ### Answers -/

/-- The last named node on the way of a search. -/
structure LastNamed {t : Tree} (p : Point) (n r : t.Id) : Prop where
  leads : Leads p n r
  named : t.named r = true
  last : ∀ m, Leads p r m → t.named m = true → m = r

theorem LastNamed.unique {p : Point} {n r s : t.Id} (hr : LastNamed p n r)
    (hs : LastNamed p n s) : r = s := by
  rcases hr.leads.fork hs.leads with further | further
  · exact (hr.last s further hs.named).symm
  · exact hs.last r further hr.named

/-- A search that has come to a node answers with the last named node from there on, and if there is
none, with the one that it has brought along. The induction is on the way. -/
theorem lastNamedTowards_cases (p : Point) (best : Option t.Id) (n : t.Id) :
    (∃ r, LastNamed p n r ∧
      t.lastNamedTowards p (if t.named n then some n else best) n = some r) ∨
    (∀ m, Leads p n m → t.named m = false) ∧
      t.lastNamedTowards p (if t.named n then some n else best) n = best := by
  -- The node itself answers as soon as there is nothing named further on.
  have arrived (further : ∀ m, Leads p n m → t.named m = true → m = n) :
      (∃ r, LastNamed p n r ∧ (if t.named n then some n else best) = some r) ∨
      (∀ m, Leads p n m → t.named m = false) ∧
        (if t.named n then some n else best) = best := by
    by_cases named : t.named n = true
    · exact .inl ⟨n, ⟨.here n, named, further⟩, if_pos named⟩
    · refine .inr ⟨?_, if_neg named⟩
      intro m leads
      exact Bool.eq_false_iff.mpr fun isNamed => named (further m leads isNamed ▸ isNamed)
  rw [lastNamedTowards]
  split
  next stop =>
    apply arrived
    intro m leads _
    cases leads with
    | here => rfl
    | step next => cases stop.symm.trans next
  next c next =>
    have : n.val < c.val := lt_childAt next
    rcases lastNamedTowards_cases p (if t.named n then some n else best) c with
      ⟨r, ⟨leads, named, last⟩, answer⟩ | ⟨unnamed, answer⟩
    · exact .inl ⟨r, ⟨.step next leads, named, last⟩, answer⟩
    · rw [answer]
      apply arrived
      intro m leads named
      cases leads with
      | here => rfl
      | step next' rest =>
        obtain rfl := Option.some.inj (next.symm.trans next')
        exact absurd named (by simp [unnamed m rest])
termination_by t.nodes.size - n.val

theorem namedDescendantAt_eq_some_iff {n r : t.Id} {p : Point} :
    t.namedDescendantAt n p = some r ↔ (t.span n).Contains p ∧ LastNamed p n r := by
  rw [namedDescendantAt]
  split
  next inside =>
    rw [and_iff_right inside]
    rcases lastNamedTowards_cases p none n with ⟨s, last, answer⟩ | ⟨unnamed, answer⟩
    · rw [answer, Option.some.injEq]
      constructor
      · rintro rfl
        exact last
      · exact last.unique
    · rw [answer]
      constructor
      · rintro ⟨⟩
      · intro last
        exact absurd last.named (by simp [unnamed r last.leads])
  next outside => simp [outside]

theorem exists_lastNamed {n : t.Id} (named : t.named n = true) (p : Point) :
    ∃ r, LastNamed p n r := by
  rcases lastNamedTowards_cases p none n with ⟨r, last, -⟩ | ⟨unnamed, -⟩
  · exact ⟨r, last⟩
  · exact absurd named (by simp [unnamed n (.here n)])

/-- A search from above for the start of such a leaf finds it, if it is named. -/
theorem namedDescendantAt_leaf (nested : t.WellNested) (small : t.source.Small)
    {n leaf : t.Id} (below : Below n leaf) (solid : SolidLeaf leaf)
    (named : t.named leaf = true) :
    t.namedDescendantAt n (t.span leaf).start = some leaf := by
  have spans := nested.spansNest small
  have before_stop : (t.span leaf).start < (t.span leaf).stop :=
    Source.pointAt_lt small solid.solid (range_in_source leaf).2
  have outer := span_of_below spans below
  rw [namedDescendantAt_eq_some_iff]
  refine ⟨⟨outer.1, Point.le_of_lt (Point.lt_of_lt_of_le before_stop outer.2)⟩,
    leads_of_below spans below (Point.le_refl _) before_stop, named, ?_⟩
  intro m leads _
  cases leads with
  | here => rfl
  | step next => cases (childAt_eq_none solid.childless _).symm.trans next

/-- A point search ends. It has no answer if its node does not contain the point, and has one if the
node does and is named. An answer is a named node at or below that node and contains the point. It
never leaves a node that goes on past the point for a sibling of the node: the answer is such a node,
or stands above it or below it, and if the node is named, not above. -/
theorem search_ends_innermost (nested : t.SpansNest) (v : t.Id) (p : Point) :
    (∃ e, Leads p v e ∧ t.childAt e p = none) ∧
    (¬ (t.span v).Contains p → t.namedDescendantAt v p = none) ∧
    (t.named v = true → (t.span v).Contains p → ∃ r, t.namedDescendantAt v p = some r) ∧
    (∀ r, t.namedDescendantAt v p = some r →
      t.named r = true ∧ Below v r ∧ (t.span r).Contains p) ∧
    ∀ m, Below v m → (t.span m).start ≤ p → p < (t.span m).stop →
      (∀ r, t.namedDescendantAt v p = some r → Below m r ∨ Below r m) ∧
      (t.named m = true → ∃ r, t.namedDescendantAt v p = some r ∧ Below m r) := by
  refine ⟨exists_end p v, ?_, ?_, ?_, ?_⟩
  · exact fun outside => if_neg outside
  · intro named inside
    obtain ⟨r, last⟩ := exists_lastNamed named p
    exact ⟨r, namedDescendantAt_eq_some_iff.mpr ⟨inside, last⟩⟩
  · intro r answer
    obtain ⟨inside, last⟩ := namedDescendantAt_eq_some_iff.mp answer
    exact ⟨last.named, last.leads.descends, last.leads.contains inside⟩
  · intro m below from_start before_stop
    have leads := leads_of_below nested below from_start before_stop
    constructor
    · intro r answer
      obtain ⟨-, last⟩ := namedDescendantAt_eq_some_iff.mp answer
      exact (leads.fork last.leads).imp Leads.descends Leads.descends
    · intro named
      have outer := span_of_below nested below
      have inside : (t.span v).Contains p := ⟨Point.le_trans outer.1 from_start,
        Point.le_of_lt (Point.lt_of_lt_of_le before_stop outer.2)⟩
      obtain ⟨r, last⟩ := exists_lastNamed named p
      have further : LastNamed p v r := ⟨leads.trans last.leads, last.named, last.last⟩
      exact ⟨r, namedDescendantAt_eq_some_iff.mpr ⟨inside, further⟩, last.leads.descends⟩

/-- Two letters that touch, in an anonymous group. -/
def touchingFile : Tree :=
  (Tree.build "ab c" [.openHere "file", .openAt "group" false ⟨0, 2⟩, .leaf "letter" "a",
    .leaf "letter" "b", .close, .leaf "letter" "c", .close]).toOption.get (by decide +kernel)

def touchingNode (i : Fin 5) : touchingFile.Id := i.cast (by decide +kernel)

/-- At the point between them a search goes on to the second letter, which the first one touches. -/
theorem search_between_letters :
    let p : Point := ⟨0, 1⟩
    touchingFile.SpansNest ∧ Below touchingFile.root (touchingNode 3) ∧
      (touchingFile.span (touchingNode 3)).start ≤ p ∧
      p < (touchingFile.span (touchingNode 3)).stop ∧
      (touchingFile.span (touchingNode 2)).Contains p ∧
      ∃ r, touchingFile.namedDescendantAt touchingFile.root p = some r ∧
        Below (touchingNode 3) r := by
  intro p
  have small : touchingFile.source.Small := by
    unfold Source.Small
    decide +kernel
  have spans : touchingFile.SpansNest :=
    WellNested.spansNest (by decide +kernel) small
  have ⟨outer, inner, from_start, before_stop, touched, named⟩ :
      touchingFile.parent (touchingNode 1) = some touchingFile.root ∧
      touchingFile.parent (touchingNode 3) = some (touchingNode 1) ∧
      (touchingFile.span (touchingNode 3)).start ≤ p ∧
      p < (touchingFile.span (touchingNode 3)).stop ∧
      (touchingFile.span (touchingNode 2)).Contains p ∧
      touchingFile.named (touchingNode 3) = true := by
    decide +kernel
  have below : Below touchingFile.root (touchingNode 3) := .down outer (.down inner (.here _))
  obtain ⟨-, -, -, -, past⟩ := search_ends_innermost spans touchingFile.root p
  exact ⟨spans, below, from_start, before_stop, touched,
    (past _ below from_start before_stop).2 named⟩

end ElmOverlay.Tree
