import ElmOverlay.Syntax.Tree
import ElmOverlay.Text.Quoted

/-!
Building a tree by calls in source order. Leaves are found by their text at or after a cursor
that only moves forward, or are given a byte range; interior nodes open and close around
them. An interior node without a given range covers its children, and the root the whole
source. The first failure is kept and answered at the end. Calls after it still run, but add
no node.
-/
namespace ElmOverlay

inductive BuildError where
  | textNotFound (text kind : String) (offset : Nat)
  | cursorInsideCharacter (offset : Nat)
  | invalidSpan (kind : String) (range : ByteRange) (sourceSize : Nat)
  | unbalancedClose
  | multipleRoots (kind : String)
  | unclosedNode (kind : String)
  | emptyTree
  deriving DecidableEq, Repr

def BuildError.message : BuildError → String
  | textNotFound text kind offset =>
    "Text " ++ Quoted.quote text ++ " for " ++ kind ++ " not found after byte " ++
      toString offset
  | cursorInsideCharacter offset =>
    "byte " ++ toString offset ++ " lies inside a character"
  | invalidSpan kind range sourceSize =>
    "Invalid span " ++ toString range.start ++ ".." ++ toString range.stop ++ " for " ++ kind ++
      " (source is " ++ toString sourceSize ++ " bytes)"
  | unbalancedClose => "close() called without a matching open()"
  | multipleRoots kind => "Tree already has a root; cannot add " ++ kind ++ " at the top level"
  | unclosedNode kind => "Node " ++ kind ++ " was never closed"
  | emptyTree => "Tree has no nodes"

inductive BuildCall where
  | openHere (kind : String)
  | openAt (kind : String) (named : Bool) (range : ByteRange)
  | leaf (kind text : String)
  | token (text : String)
  | leafAt (kind : String) (named : Bool) (range : ByteRange)
  | close
  deriving DecidableEq, Repr

/-- What a builder holds between calls. Nodes are numbered in the order of their calls, and an
interior node is open until it is closed. -/
structure Draft where
  source : Source
  nodes : Array Node := #[]
  /-- The children of each node so far, latest first. -/
  below : Array (List Nat) := #[]
  /-- Whether the range of a node is derived when it closes. -/
  derived : Array Bool := #[]
  /-- Innermost first. -/
  opened : List Nat := []
  root : Option Nat := none
  cursor : Nat := 0
  /-- The first failure. -/
  error : Option BuildError := none

namespace Draft

open Arena

/-- What every run of calls keeps. Numbers of open nodes are numbers of nodes, children are
filed under their parents, and only node 0 has no parent. -/
structure Sound (d : Draft) : Prop where
  climbs : Climbs d.nodes
  rooted : ∀ i, 0 < i → i < d.nodes.size → parentOf d.nodes i ≠ none
  root_eq : d.root = if d.nodes.size = 0 then none else some 0
  filed : Filed d.nodes (d.below.map List.reverse)
  derived_size : d.derived.size = d.nodes.size
  opened_lt : ∀ i ∈ d.opened, i < d.nodes.size
  cursor_le : d.cursor ≤ d.source.size
  inSource : ∀ n ∈ d.nodes, d.source.Covers n.range

/-! ### Adding nodes -/

def fail (d : Draft) (e : BuildError) : Draft := { d with error := d.error.or (some e) }

def advance (d : Draft) (offset : Nat) : Draft := { d with cursor := max d.cursor offset }

def fileUnder (parent : Option Nat) (i : Nat) (below : Array (List Nat)) : Array (List Nat) :=
  match parent with
  | none => below
  | some p => below.modify p (i :: ·)

/-- Adds a node behind the others. The first one is the root. -/
def append (d : Draft) (n : Node) (derived opens : Bool) : Draft :=
  let i := d.nodes.size
  { d with
    nodes := d.nodes.push n
    below := (fileUnder n.parent i d.below).push []
    derived := d.derived.push derived
    opened := if opens then i :: d.opened else d.opened
    root := d.root.or (some i) }

def push (d : Draft) (kind : String) (named : Bool) (range : ByteRange)
    (derived opens : Bool) : Draft :=
  if d.error.isSome then d
  else
    match d.opened, d.root with
    | p :: _, _ => d.append ⟨kind, named, range, some p⟩ derived opens
    | [], none => d.append ⟨kind, named, range, none⟩ derived opens
    | [], some _ => d.fail (.multipleRoots kind)

def openHere (d : Draft) (kind : String) : Draft :=
  d.push kind true ⟨d.cursor, d.cursor⟩ true true

def Fits (d : Draft) (r : ByteRange) : Prop := r.start ≤ r.stop ∧ r.stop ≤ d.source.size

instance (d : Draft) (r : ByteRange) : Decidable (d.Fits r) :=
  inferInstanceAs (Decidable (_ ∧ _))

def openAt (d : Draft) (kind : String) (named : Bool) (r : ByteRange) : Draft :=
  if d.Fits r then (d.advance r.start).push kind named r false true
  else d.fail (.invalidSpan kind r d.source.size)

def leafAt (d : Draft) (kind : String) (named : Bool) (r : ByteRange) : Draft :=
  if d.Fits r then (d.advance r.stop).push kind named r false false
  else d.fail (.invalidSpan kind r d.source.size)

/-- Adds a leaf at the first place at or after the cursor where its text stands. -/
def addFound (d : Draft) (kind : String) (named : Bool) (text : String) : Draft :=
  if d.error.isSome then d
  else if d.source.OnBoundary d.cursor then
    match d.source.find? text d.cursor with
    | none => d.fail (.textNotFound text kind d.cursor)
    | some start =>
      let stop := start + text.utf8ByteSize
      { d with cursor := stop }.push kind named ⟨start, stop⟩ false false
  else d.fail (.cursorInsideCharacter d.cursor)

/-! ### Closing nodes -/

theorem Sound.below_size {d : Draft} (s : d.Sound) : d.below.size = d.nodes.size := by
  have := s.filed.1
  simpa using this

theorem Sound.lt_of_mem_below {d : Draft} (s : d.Sound) {i c : Nat} {h : i < d.below.size}
    (hc : c ∈ d.below[i]) : c < d.nodes.size := by
  have hl : d.below[i].reverse = childrenOf d.nodes i := by
    apply s.filed.2
    simp [h]
  have hp : c ∈ childrenOf d.nodes i := by
    rw [← hl]
    exact List.mem_reverse.mpr hc
  exact (lt_of_parentOf s.climbs (mem_childrenOf.mp hp)).2

/-- The range of an interior node that was given none: from its first child to its last, the
cursor if it has no child, and the whole source for the root. -/
def derivedRange (d : Draft) (s : d.Sound) (i : Nat) (h : i < d.nodes.size) : ByteRange :=
  have hi : i < d.below.size := Nat.lt_of_lt_of_eq h s.below_size.symm
  if d.root = some i then ⟨0, d.source.size⟩
  else
    match hf : d.below[i].getLast?, hl : d.below[i].head? with
    | some first, some last =>
      have hfirst : first < d.nodes.size := s.lt_of_mem_below (List.mem_of_getLast? hf)
      have hlast : last < d.nodes.size := s.lt_of_mem_below (List.mem_of_head? hl)
      ⟨d.nodes[first].range.start, d.nodes[last].range.stop⟩
    | _, _ => ⟨d.cursor, d.cursor⟩

def setRange (nodes : Array Node) (i : Nat) (r : ByteRange) : Array Node :=
  nodes.modify i fun n => { n with range := r }

def close (d : Draft) (s : d.Sound) : Draft :=
  match ho : d.opened with
  | [] => d.fail .unbalancedClose
  | i :: rest =>
    have hi : i < d.nodes.size := s.opened_lt i (ho ▸ List.mem_cons_self)
    have hd : i < d.derived.size := Nat.lt_of_lt_of_eq hi s.derived_size.symm
    if d.derived[i] then
      let r := d.derivedRange s i hi
      { d with opened := rest, nodes := setRange d.nodes i r }
    else { d with opened := rest }.advance d.nodes[i].range.stop

def call (d : Draft) (s : d.Sound) : BuildCall → Draft
  | .openHere kind => d.openHere kind
  | .openAt kind named r => d.openAt kind named r
  | .leaf kind text => d.addFound kind true text
  | .token text => d.addFound text false text
  | .leafAt kind named r => d.leafAt kind named r
  | .close => d.close s

/-! ### Every call keeps a draft sound -/

theorem filed_append {nodes : Array Node} {below : Array (List Nat)} {n : Node}
    (climbs : Climbs nodes) (filed : Filed nodes (below.map List.reverse))
    (inside : ∀ p, n.parent = some p → p < nodes.size) :
    Filed (nodes.push n)
      (((fileUnder n.parent nodes.size below).push []).map List.reverse) := by
  obtain ⟨size, lists⟩ := filed
  have bsize : below.size = nodes.size := by simpa using size
  have fsize : (fileUnder n.parent nodes.size below).size = below.size := by
    unfold fileUnder
    split <;> simp
  refine ⟨by simp [fsize, bsize], ?_⟩
  intro p l hl
  simp only [Array.getElem?_map, Array.getElem?_push, fsize, bsize] at hl
  rw [childrenOf_push]
  by_cases last : p = nodes.size
  · subst last
    have other : n.parent ≠ some nodes.size := fun h => Nat.lt_irrefl _ (inside _ h)
    rw [if_pos rfl] at hl
    rw [childrenOf_size climbs, if_neg other]
    cases hl
    rfl
  · rw [if_neg last] at hl
    obtain ⟨m, hm, rfl⟩ := Option.map_eq_some_iff.mp hl
    unfold fileUnder at hm
    split at hm
    next none =>
      have eq := lists p m.reverse (by simp [hm])
      simp [none, eq]
    next q hq =>
      rw [Array.getElem?_modify] at hm
      by_cases same : q = p
      · subst same
        rw [if_pos rfl] at hm
        obtain ⟨old, hold, rfl⟩ := Option.map_eq_some_iff.mp hm
        have eq := lists q old.reverse (by simp [hold])
        simp [hq, eq]
      · rw [if_neg same] at hm
        have eq := lists p m.reverse (by simp [hm])
        simp [hq, same, eq]

theorem Sound.append {d : Draft} (s : d.Sound) {n : Node} {derived opens : Bool}
    (inside : ∀ p, n.parent = some p → p < d.nodes.size)
    (first : n.parent = none → d.nodes.size = 0) (covers : d.source.Covers n.range) :
    (d.append n derived opens).Sound where
  climbs := by
    intro i hi p hp
    simp only [Draft.append, Array.getElem_push] at hi hp
    split at hp
    next old => exact s.climbs i old p hp
    next new =>
      have := inside p hp
      omega
  rooted := by
    intro i pos hi
    simp only [Draft.append, Array.size_push] at hi ⊢
    rw [parentOf_push]
    split
    next new => exact fun none => by have := first none; omega
    next old => exact s.rooted i pos (by omega)
  root_eq := by
    simp only [Draft.append, Array.size_push, s.root_eq]
    by_cases empty : d.nodes.size = 0 <;> simp [empty]
  filed := filed_append s.climbs s.filed inside
  derived_size := by simp [Draft.append, s.derived_size]
  opened_lt := by
    intro i hi
    simp only [Draft.append, Array.size_push] at hi ⊢
    split at hi
    · rcases List.mem_cons.mp hi with rfl | hi
      · exact Nat.lt_succ_self _
      · exact Nat.lt_succ_of_lt (s.opened_lt i hi)
    · exact Nat.lt_succ_of_lt (s.opened_lt i hi)
  cursor_le := s.cursor_le
  inSource := by
    intro m hm
    simp only [Draft.append, Array.mem_push] at hm ⊢
    rcases hm with hm | rfl
    · exact s.inSource m hm
    · exact covers

theorem Sound.fail {d : Draft} (s : d.Sound) (e : BuildError) : (d.fail e).Sound :=
  { s with }

theorem Sound.advance {d : Draft} (s : d.Sound) {offset : Nat} (le : offset ≤ d.source.size) :
    (d.advance offset).Sound :=
  { s with cursor_le := Nat.max_le.mpr ⟨s.cursor_le, le⟩ }

theorem Sound.push {d : Draft} (s : d.Sound) {kind : String} {named : Bool} {range : ByteRange}
    {derived opens : Bool} (covers : d.source.Covers range) :
    (d.push kind named range derived opens).Sound := by
  unfold Draft.push
  split
  · exact s
  · split
    next _ _ p rest ho =>
      apply s.append _ _ covers
      · rintro q ⟨⟩
        exact s.opened_lt p (ho ▸ List.mem_cons_self)
      · rintro ⟨⟩
    next _ _ _ hr =>
      apply s.append _ _ covers
      · rintro q ⟨⟩
      · intro _
        by_cases empty : d.nodes.size = 0
        · exact empty
        · have root := s.root_eq
          rw [hr, if_neg empty] at root
          cases root
    next => exact s.fail _

theorem Sound.addFound {d : Draft} (s : d.Sound) (kind : String) (named : Bool)
    (text : String) : (d.addFound kind named text).Sound := by
  unfold Draft.addFound
  split
  · exact s
  · split
    · split
      · exact s.fail _
      next start found =>
        have covers := Source.covers_of_find? found
        have moved : { d with cursor := start + text.utf8ByteSize }.Sound :=
          { s with cursor_le := covers.2 }
        exact moved.push covers
    · exact s.fail _

theorem parentOf_setRange (nodes : Array Node) (i : Nat) (r : ByteRange) (j : Nat) :
    parentOf (setRange nodes i r) j = parentOf nodes j := by
  rw [parentOf, setRange, Array.getElem?_modify]
  split
  · cases h : nodes[j]? <;> simp [parentOf, h]
  · rfl

theorem size_setRange (nodes : Array Node) (i : Nat) (r : ByteRange) :
    (setRange nodes i r).size = nodes.size := by simp [setRange]

theorem childrenOf_setRange (nodes : Array Node) (i : Nat) (r : ByteRange) (p : Nat) :
    childrenOf (setRange nodes i r) p = childrenOf nodes p := by
  simp only [childrenOf, size_setRange, parentOf_setRange]

theorem Sound.setRange {d : Draft} (s : d.Sound) (i : Nat) {r : ByteRange}
    (covers : d.source.Covers r) : { d with nodes := setRange d.nodes i r }.Sound where
  climbs := by
    intro j hj p hp
    have parent : parentOf (Draft.setRange d.nodes i r) j = some p := by
      rw [parentOf, Array.getElem?_eq_getElem hj]
      exact hp
    rw [parentOf_setRange] at parent
    exact (lt_of_parentOf s.climbs parent).1
  rooted := by
    intro j pos hj
    rw [parentOf_setRange]
    exact s.rooted j pos (by simpa [size_setRange] using hj)
  root_eq := by
    rw [size_setRange]
    exact s.root_eq
  filed := by
    refine ⟨by simpa [size_setRange] using s.filed.1, ?_⟩
    intro p l hl
    rw [childrenOf_setRange]
    exact s.filed.2 p l hl
  derived_size := by simpa [size_setRange] using s.derived_size
  opened_lt := by simpa [size_setRange] using s.opened_lt
  cursor_le := s.cursor_le
  inSource := by
    intro n hn
    obtain ⟨j, hj, rfl⟩ := Array.mem_iff_getElem.mp hn
    simp only [Draft.setRange, Array.getElem_modify]
    split
    · exact covers
    · exact s.inSource _ (Array.getElem_mem _)

theorem Sound.covers_derivedRange {d : Draft} (s : d.Sound) {i : Nat} (h : i < d.nodes.size) :
    d.source.Covers (d.derivedRange s i h) := by
  unfold derivedRange
  dsimp only
  split
  · exact ⟨Nat.zero_le _, Nat.le_refl _⟩
  · split
    · exact ⟨(s.inSource _ (Array.getElem_mem _)).1, (s.inSource _ (Array.getElem_mem _)).2⟩
    · exact ⟨s.cursor_le, s.cursor_le⟩

theorem Sound.dropOpened {d : Draft} (s : d.Sound) {rest : List Nat}
    (sub : ∀ i ∈ rest, i ∈ d.opened) : { d with opened := rest }.Sound :=
  { s with opened_lt := fun i hi => s.opened_lt i (sub i hi) }

theorem Sound.close {d : Draft} (s : d.Sound) : (d.close s).Sound := by
  unfold Draft.close
  split
  · exact s.fail _
  next i rest ho =>
    have kept : { d with opened := rest }.Sound :=
      s.dropOpened fun j hj => ho ▸ List.mem_cons_of_mem i hj
    dsimp only
    split
    · exact kept.setRange i (s.covers_derivedRange _)
    · exact kept.advance (s.inSource _ (Array.getElem_mem _)).2

theorem Sound.call {d : Draft} (s : d.Sound) (c : BuildCall) : (d.call s c).Sound := by
  cases c with
  | openHere kind => exact s.push ⟨s.cursor_le, s.cursor_le⟩
  | openAt kind named r =>
    simp only [Draft.call, openAt]
    split
    next fits =>
      have start_le : r.start ≤ d.source.size := Nat.le_trans fits.1 fits.2
      exact (s.advance start_le).push ⟨start_le, fits.2⟩
    next => exact s.fail _
  | leaf kind text => exact s.addFound kind true text
  | token text => exact s.addFound text false text
  | leafAt kind named r =>
    simp only [Draft.call, leafAt]
    split
    next fits => exact (s.advance fits.2).push ⟨Nat.le_trans fits.1 fits.2, fits.2⟩
    next => exact s.fail _
  | close => exact s.close

end Draft

structure Builder extends Draft where
  sound : toDraft.Sound

namespace Builder

def start (source : Source) : Builder where
  source := source
  sound := {
    climbs := fun _ h => absurd h (Nat.not_lt_zero _)
    rooted := fun _ _ h => absurd h (Nat.not_lt_zero _)
    root_eq := rfl
    filed := by simp [Arena.Filed]
    derived_size := rfl
    opened_lt := by simp
    cursor_le := Nat.zero_le _
    inSource := by simp }

def call (b : Builder) (c : BuildCall) : Builder := ⟨b.toDraft.call b.sound c, b.sound.call c⟩

def run (b : Builder) (calls : List BuildCall) : Builder := calls.foldl call b

theorem nonempty_of_root {b : Builder} {i : Nat} (h : b.root = some i) : 0 < b.nodes.size := by
  have root := b.sound.root_eq
  rw [h] at root
  split at root
  · cases root
  · omega

/-- The tree, unless a call failed, a node is still open, or there is no node. -/
def finish (b : Builder) : Except BuildError Tree :=
  match b.error, ho : b.opened, hr : b.root with
  | some e, _, _ => .error e
  | none, i :: _, _ =>
    have hi : i < b.nodes.size := b.sound.opened_lt i (ho ▸ List.mem_cons_self)
    .error (.unclosedNode b.nodes[i].kind)
  | none, [], none => .error .emptyTree
  | none, [], some _ =>
    .ok {
      source := b.source
      nodes := b.nodes
      childLists := b.below.map List.reverse
      nonempty := nonempty_of_root hr
      climbs := b.sound.climbs
      inSource := b.sound.inSource
      filed := b.sound.filed }

end Builder

def Tree.build (text : String) (calls : List BuildCall) : Except BuildError Tree :=
  ((Builder.start (Source.ofString text)).run calls).finish

end ElmOverlay
