import ElmOverlay.Syntax.Arena

/-!
A syntax tree: the nodes in pre-order over a source text. Indices are the public identity of
nodes. Walks up end because indices fall, and walks down and along end because they rise.
-/
namespace ElmOverlay

open Arena

structure Tree where
  source : Source
  nodes : Array Node
  childLists : Array (List Nat)
  nextLinks : Array (Option Nat) := linkTable nodes.size (namedNeighbours nodes childLists)
  prevLinks : Array (Option Nat) :=
    linkTable nodes.size ((namedNeighbours nodes childLists).map Prod.swap)
  nonempty : 0 < nodes.size
  climbs : Climbs nodes
  inSource : ∀ n ∈ nodes, source.Covers n.range
  filed : Filed nodes childLists
  nextLinks_eq : nextLinks = linkTable nodes.size (namedNeighbours nodes childLists) := by rfl
  prevLinks_eq : prevLinks =
    linkTable nodes.size ((namedNeighbours nodes childLists).map Prod.swap) := by rfl

namespace Tree

abbrev Id (t : Tree) : Type := Fin t.nodes.size

variable (t : Tree)

def size : Nat := t.nodes.size

def root : t.Id := ⟨0, t.nonempty⟩

def ids : List t.Id := List.finRange t.nodes.size

def id? (n : Nat) : Option t.Id := if h : n < t.nodes.size then some ⟨n, h⟩ else none

variable {t}

def node (n : t.Id) : Node := t.nodes[n]
def kind (n : t.Id) : String := (t.node n).kind
def named (n : t.Id) : Bool := (t.node n).named
def range (n : t.Id) : ByteRange := (t.node n).range
def span (n : t.Id) : Span := t.source.spanOf (t.range n)

/-- The text a node covers; empty if its range is reversed or cuts a character. -/
def text (n : t.Id) : String := (t.source.slice? (t.range n)).getD ""

def parent (n : t.Id) : Option t.Id := (t.node n).parent.bind t.id?

def children (n : t.Id) : List t.Id := (t.childLists[n.val]?.getD []).filterMap t.id?

theorem id?_eq_some {i : Nat} {n : t.Id} : t.id? i = some n ↔ i = n.val := by
  unfold id?
  split
  next h => simp [Fin.ext_iff]
  next h =>
    simp only [reduceCtorEq, false_iff]
    exact fun e => h (e ▸ n.isLt)

theorem parent_eq_some {n p : t.Id} : t.parent n = some p ↔ (t.node n).parent = some p.val := by
  simp [parent, Option.bind_eq_some_iff, id?_eq_some]

theorem parent_lt {n p : t.Id} (h : t.parent n = some p) : p < n :=
  t.climbs n.val n.isLt p.val (parent_eq_some.mp h)

theorem getElem?_childLists (n : t.Id) :
    t.childLists[n.val]? = some (childrenOf t.nodes n.val) := by
  have h : n.val < t.childLists.size := Nat.lt_of_lt_of_eq n.isLt t.filed.1.symm
  rw [Array.getElem?_eq_getElem h]
  exact congrArg some (t.filed.2 n.val _ (Array.getElem?_eq_getElem h))

theorem parent_eq_some_iff_parentOf {n p : t.Id} :
    t.parent n = some p ↔ parentOf t.nodes n.val = some p.val := by
  rw [parent_eq_some, parentOf, Array.getElem?_eq_getElem n.isLt]
  rfl

theorem mem_children {n c : t.Id} : c ∈ t.children n ↔ t.parent c = some n := by
  rw [children, getElem?_childLists, parent_eq_some_iff_parentOf, ← mem_childrenOf]
  simp [List.mem_filterMap, id?_eq_some]

theorem lt_of_mem_children {n c : t.Id} (h : c ∈ t.children n) : n < c :=
  parent_lt (mem_children.mp h)

def hasChildren (n : t.Id) : Bool := t.childLists[n.val]?.any fun l => !l.isEmpty

theorem hasChildren_of_mem {n c : t.Id} (h : c ∈ t.children n) : t.hasChildren n = true := by
  rw [mem_children, parent_eq_some_iff_parentOf, ← mem_childrenOf] at h
  rw [hasChildren, getElem?_childLists, Option.any_some, Bool.not_eq_true',
    List.isEmpty_eq_false_iff]
  exact List.ne_nil_of_mem h

def namedChildren (n : t.Id) : List t.Id := (t.children n).filter t.named

def childOfKind (n : t.Id) (kind : String) : Option t.Id :=
  (t.namedChildren n).find? fun c => t.kind c = kind

def nextNamed (n : t.Id) : Option t.Id := (t.nextLinks[n.val]?.getD none).bind t.id?

def prevNamed (n : t.Id) : Option t.Id := (t.prevLinks[n.val]?.getD none).bind t.id?

theorem lt_nextNamed {n m : t.Id} (h : t.nextNamed n = some m) : n < m := by
  obtain ⟨i, hi, hm⟩ := Option.bind_eq_some_iff.mp h
  rw [id?_eq_some] at hm
  subst hm
  rw [t.nextLinks_eq, Option.getD_eq_iff] at hi
  rcases hi with hi | ⟨-, hi⟩
  · exact lt_of_mem_namedNeighbours t.filed (mem_of_getElem?_linkTable hi)
  · cases hi

def ancestors (n : t.Id) : List t.Id :=
  match _h : t.parent n with
  | none => []
  | some p => p :: ancestors p
termination_by n.val
decreasing_by exact parent_lt _h

/-- The nodes of a subtree in pre-order, in front of `rest`. -/
def descendantsOnto (n : t.Id) (rest : List t.Id) : List t.Id :=
  n :: (t.children n).attach.foldr (fun c acc => descendantsOnto c.val acc) rest
termination_by t.nodes.size - n.val
decreasing_by
  have : n.val < c.val.val := lt_of_mem_children c.property
  have := c.val.isLt
  omega

/-- The subtree of a node in pre-order, the node first. -/
def descendants (n : t.Id) : List t.Id := descendantsOnto n []

theorem descendantsOnto_eq (n : t.Id) (rest : List t.Id) :
    t.descendantsOnto n rest = t.descendants n ++ rest := by
  suffices ∀ (cs : List { c // c ∈ t.children n }) (rest : List t.Id),
      cs.foldr (fun c acc => t.descendantsOnto c.val acc) rest =
        cs.foldr (fun c acc => t.descendantsOnto c.val acc) [] ++ rest by
    rw [descendants, descendantsOnto, descendantsOnto, this, List.cons_append]
  intro cs
  induction cs with
  | nil => exact fun _ => rfl
  | cons c cs ih =>
    intro rest
    have : n.val < c.val.val := lt_of_mem_children c.property
    have := c.val.isLt
    rw [List.foldr_cons, List.foldr_cons, descendantsOnto_eq, ih, descendantsOnto_eq c.val]
    simp
termination_by t.nodes.size - n.val

theorem descendants_eq (n : t.Id) :
    t.descendants n = n :: (t.children n).flatMap t.descendants := by
  suffices ∀ cs : List { c // c ∈ t.children n },
      cs.foldr (fun c acc => t.descendantsOnto c.val acc) [] =
        (cs.map Subtype.val).flatMap t.descendants by
    rw [descendants, descendantsOnto, this, List.attach_map_subtype_val]
  intro cs
  induction cs with
  | nil => rfl
  | cons c cs ih => rw [List.foldr_cons, descendantsOnto_eq, ih, List.map_cons, List.flatMap_cons]

/-- Takes nodes off a stack, the top first, and leaves their children on it in their place. -/
def walk : List t.Id → List t.Id
  | [] => []
  | n :: stack => n :: walk (t.children n ++ stack)
termination_by stack => (stack.flatMap t.descendants).length
decreasing_by
  rw [List.flatMap_append, List.flatMap_cons, descendants_eq n, List.cons_append, List.length_cons]
  exact Nat.lt_succ_self _

theorem walk_eq (stack : List t.Id) : t.walk stack = stack.flatMap t.descendants := by
  induction stack using walk.induct with
  | case1 => rw [walk, List.flatMap_nil]
  | case2 n stack ih =>
    rw [walk, ih, List.flatMap_append, List.flatMap_cons, descendants_eq n, List.cons_append]

/-- The child a point search goes to: one that goes on past the point, or else one that
ends at it. -/
def childAt (n : t.Id) (p : Point) : Option t.Id :=
  ((t.children n).find? fun c => (t.span c).start ≤ p ∧ p < (t.span c).stop).or
    ((t.children n).find? fun c => (t.span c).Contains p)

theorem lt_childAt {n c : t.Id} {p : Point} (h : t.childAt n p = some c) : n < c := by
  rw [childAt, Option.or_eq_some_iff] at h
  rcases h with h | ⟨-, h⟩ <;> exact lt_of_mem_children (List.mem_of_find?_eq_some h)

/-- Descends towards a point and answers the last named node met, `best` if there is none. -/
def lastNamedTowards (p : Point) (best : Option t.Id) (n : t.Id) : Option t.Id :=
  match _h : t.childAt n p with
  | none => best
  | some c => lastNamedTowards p (if t.named c then some c else best) c
termination_by t.nodes.size - n.val
decreasing_by
  have : n.val < c.val := lt_childAt _h
  have := c.isLt
  omega

/-- The innermost named node at a point inside a subtree; none if the point is outside. -/
def namedDescendantAt (n : t.Id) (p : Point) : Option t.Id :=
  if (t.span n).Contains p then lastNamedTowards p (if t.named n then some n else none) n
  else none

/-- A node for a reader: its kind and span. -/
def describe (n : t.Id) : String := t.kind n ++ " [" ++ toString (t.span n) ++ "]"

end Tree

end ElmOverlay
