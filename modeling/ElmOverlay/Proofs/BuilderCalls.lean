import ElmOverlay.Proofs.Links
import ElmOverlay.Proofs.Occurrences
import Mathlib.Data.List.Induction

/-!
What one call of a builder does. A call is refused, and then the refusal is the failure that
stays, or it is taken, and then it adds one node behind the others or closes the innermost
open one. What the calls say by themselves, without nodes, is enough to tell which: the open
nodes, whether there is a root, and the cursor.
-/
namespace ElmOverlay

open Arena

namespace BuildCall

/-- The kind of the node that a call adds. -/
def kind? : BuildCall → Option String
  | openHere kind | openAt kind _ _ | leaf kind _ | leafAt kind _ _ => some kind
  | token text => some text
  | close => none

def range? : BuildCall → Option ByteRange
  | openAt _ _ r | leafAt _ _ r => some r
  | openHere _ | leaf _ _ | token _ | close => none

/-- The text that a call looks for. -/
def text? : BuildCall → Option String
  | leaf _ text | token text => some text
  | openHere _ | openAt _ _ _ | leafAt _ _ _ | close => none

end BuildCall

/-! ### What the calls say -/

/-- The open nodes, innermost first, each with its kind and with the end it was given, if it
was given a range. -/
structure Outline where
  opened : List (String × Option Nat) := []
  rooted : Bool := false
  cursor : Nat := 0

namespace Outline

/-- Why a call fails. A given range is looked at before anything else, and a text before the
place among the nodes. -/
inductive Refuses (s : Source) (o : Outline) (c : BuildCall) : BuildError → Prop where
  | invalidSpan {kind : String} {r : ByteRange} (adds : c.kind? = some kind)
      (given : c.range? = some r) (wrong : r.stop < r.start ∨ s.size < r.stop) :
      Refuses s o c (.invalidSpan kind r s.size)
  | cursorInsideCharacter {text : String} (looks : c.text? = some text)
      (cut : ¬ s.OnBoundary o.cursor) : Refuses s o c (.cursorInsideCharacter o.cursor)
  | textNotFound {kind text : String} (adds : c.kind? = some kind)
      (looks : c.text? = some text) (whole : s.OnBoundary o.cursor)
      (absent : ∀ i, o.cursor ≤ i → ¬ OccursAt text.toByteArray s.bytes i) :
      Refuses s o c (.textNotFound text kind o.cursor)
  | multipleRoots {kind : String} (adds : c.kind? = some kind)
      (fits : ∀ r, c.range? = some r → r.start ≤ r.stop ∧ r.stop ≤ s.size)
      (found : ∀ text, c.text? = some text → s.OnBoundary o.cursor ∧
        ∃ i, o.cursor ≤ i ∧ OccursAt text.toByteArray s.bytes i)
      (top : o.opened = []) (rooted : o.rooted = true) : Refuses s o c (.multipleRoots kind)
  | unbalancedClose (closes : c = .close) (top : o.opened = []) :
      Refuses s o c .unbalancedClose

/-- Behind a text that was found. -/
def behind (s : Source) (o : Outline) (text : String) : Outline :=
  { o with
    rooted := true
    cursor := ((s.find? text o.cursor).map (· + text.utf8ByteSize)).getD o.cursor }

/-- Behind a call that was not refused. -/
def after (s : Source) (o : Outline) : BuildCall → Outline
  | .openHere kind => { o with opened := (kind, none) :: o.opened, rooted := true }
  | .openAt kind _ r =>
    ⟨(kind, some r.stop) :: o.opened, true, max o.cursor r.start⟩
  | .leaf _ text | .token text => o.behind s text
  | .leafAt _ _ r => { o with rooted := true, cursor := max o.cursor r.stop }
  | .close =>
    match o.opened with
    | [] => o
    | (_, none) :: rest => { o with opened := rest }
    | (_, some stop) :: rest => { o with opened := rest, cursor := max o.cursor stop }

end Outline

namespace Draft

variable {d : Draft}

/-! ### Failures stay -/

theorem error_push_of_failed {e : BuildError} (failed : d.error = some e) (kind : String)
    (named : Bool) (r : ByteRange) (derived opens : Bool) :
    (d.push kind named r derived opens).error = some e := by
  simp [push, failed]

theorem error_fail_of_failed {e : BuildError} (failed : d.error = some e) (later : BuildError) :
    (d.fail later).error = some e := by
  simp [fail, failed]

/-- Calls after a failure may still move the cursor and close nodes, but not change it. -/
theorem error_call_of_failed (s : d.Sound) {e : BuildError} (failed : d.error = some e)
    (c : BuildCall) : (d.call s c).error = some e := by
  cases c with
  | openHere kind => exact error_push_of_failed failed ..
  | openAt kind named r =>
    simp only [call, openAt]
    split
    · exact error_push_of_failed (d := d.advance r.start) failed ..
    · exact error_fail_of_failed failed _
  | leaf kind text => simp [call, addFound, failed]
  | token text => simp [call, addFound, failed]
  | leafAt kind named r =>
    simp only [call, leafAt]
    split
    · exact error_push_of_failed (d := d.advance r.stop) failed ..
    · exact error_fail_of_failed failed _
  | close =>
    simp only [call, close]
    split
    · exact error_fail_of_failed failed _
    · split
      · exact failed
      · exact failed

end Draft

/-! ### Calls that are taken -/

namespace Arena

def rangeOf (nodes : Array Node) (i : Nat) : ByteRange := (nodes[i]?.map Node.range).getD default

def kindOf (nodes : Array Node) (i : Nat) : String := (nodes[i]?.map Node.kind).getD ""

variable {nodes : Array Node} {i : Nat}

theorem rangeOf_eq_getElem (h : i < nodes.size) : rangeOf nodes i = nodes[i].range := by
  rw [rangeOf, Array.getElem?_eq_getElem h]
  rfl

theorem rangeOf_push (nodes : Array Node) (n : Node) (i : Nat) :
    rangeOf (nodes.push n) i = if i = nodes.size then n.range else rangeOf nodes i := by
  rw [rangeOf, Array.getElem?_push]
  split <;> rfl

theorem kindOf_push (nodes : Array Node) (n : Node) (i : Nat) :
    kindOf (nodes.push n) i = if i = nodes.size then n.kind else kindOf nodes i := by
  rw [kindOf, Array.getElem?_push]
  split <;> rfl

end Arena

namespace Draft

theorem rangeOf_setRange {nodes : Array Node} {i : Nat} (h : i < nodes.size) (r : ByteRange)
    (j : Nat) : rangeOf (setRange nodes i r) j = if i = j then r else rangeOf nodes j := by
  rw [rangeOf, setRange, Array.getElem?_modify]
  split
  next same =>
    subst same
    rw [Array.getElem?_eq_getElem h]
    rfl
  next => rfl

theorem kindOf_setRange (nodes : Array Node) (i : Nat) (r : ByteRange) (j : Nat) :
    kindOf (setRange nodes i r) j = kindOf nodes j := by
  rw [kindOf, setRange, Array.getElem?_modify]
  split
  · cases h : nodes[j]? <;> simp [kindOf, h]
  · rfl

/-- The range that closing gives to a node that was given none. -/
def hull (d : Draft) (i : Nat) : ByteRange :=
  if d.root = some i then ⟨0, d.source.size⟩
  else
    match (childrenOf d.nodes i).head?, (childrenOf d.nodes i).getLast? with
    | some first, some last => ⟨(rangeOf d.nodes first).start, (rangeOf d.nodes last).stop⟩
    | _, _ => ⟨d.cursor, d.cursor⟩

/-- There is a place for one more node: in an open node, or at the top of an empty tree. -/
def Room (d : Draft) : Prop := d.opened = [] → d.root = none

/-- What a call does that is not refused. -/
inductive Takes (d : Draft) : BuildCall → Draft → Prop where
  | openHere {kind : String} (room : d.Room) : Takes d (.openHere kind)
      (d.append ⟨kind, true, ⟨d.cursor, d.cursor⟩, d.opened.head?⟩ true true)
  | openAt {kind : String} {named : Bool} {r : ByteRange} (fits : d.Fits r) (room : d.Room) :
      Takes d (.openAt kind named r)
        ((d.advance r.start).append ⟨kind, named, r, d.opened.head?⟩ false true)
  | leaf {kind text : String} {start : Nat} (whole : d.source.OnBoundary d.cursor)
      (found : d.source.find? text d.cursor = some start) (room : d.Room) :
      Takes d (.leaf kind text)
        (Draft.append { d with cursor := start + text.utf8ByteSize }
          ⟨kind, true, ⟨start, start + text.utf8ByteSize⟩, d.opened.head?⟩ false false)
  | token {text : String} {start : Nat} (whole : d.source.OnBoundary d.cursor)
      (found : d.source.find? text d.cursor = some start) (room : d.Room) :
      Takes d (.token text)
        (Draft.append { d with cursor := start + text.utf8ByteSize }
          ⟨text, false, ⟨start, start + text.utf8ByteSize⟩, d.opened.head?⟩ false false)
  | leafAt {kind : String} {named : Bool} {r : ByteRange} (fits : d.Fits r) (room : d.Room) :
      Takes d (.leafAt kind named r)
        ((d.advance r.stop).append ⟨kind, named, r, d.opened.head?⟩ false false)
  | closeDerived {i : Nat} {rest : List Nat} (opened : d.opened = i :: rest)
      (derived : d.derived[i]? = some true) :
      Takes d .close { d with opened := rest, nodes := setRange d.nodes i (d.hull i) }
  | closeGiven {i : Nat} {rest : List Nat} (opened : d.opened = i :: rest)
      (given : d.derived[i]? = some false) :
      Takes d .close (Draft.advance { d with opened := rest } (rangeOf d.nodes i).stop)

variable {d : Draft}

theorem reverse_below (s : d.Sound) {i : Nat} (h : i < d.below.size) :
    d.below[i].reverse = childrenOf d.nodes i := by
  apply s.filed.2
  simp [h]

theorem derivedRange_eq_hull (s : d.Sound) {i : Nat} (h : i < d.nodes.size) :
    d.derivedRange s i h = d.hull i := by
  have children := reverse_below s (Nat.lt_of_lt_of_eq h s.below_size.symm)
  unfold derivedRange hull
  rw [← children, List.head?_reverse, List.getLast?_reverse]
  dsimp only
  split
  · rfl
  · split
    next first last hf hl =>
      rw [← rangeOf_eq_getElem (s.lt_of_mem_below (List.mem_of_getLast? hf)),
        ← rangeOf_eq_getElem (s.lt_of_mem_below (List.mem_of_head? hl)), hf, hl]
    next none =>
      split
      next first last hf hl => exact absurd hl (none first last hf)
      next => rfl

theorem push_eq_append (fine : d.error = none) (room : d.Room) (kind : String) (named : Bool)
    (r : ByteRange) (derived opens : Bool) : d.push kind named r derived opens =
      d.append ⟨kind, named, r, d.opened.head?⟩ derived opens := by
  unfold push
  rw [fine]
  cases ho : d.opened with
  | nil => simp [room ho]
  | cons p rest => simp

theorem push_eq_fail (fine : d.error = none) (full : ¬ d.Room) (kind : String) (named : Bool)
    (r : ByteRange) (derived opens : Bool) :
    d.push kind named r derived opens = d.fail (.multipleRoots kind) := by
  unfold Room at full
  rw [Classical.not_imp] at full
  obtain ⟨top, rooted⟩ := full
  obtain ⟨i, hi⟩ := Option.ne_none_iff_exists'.mp rooted
  simp [push, fine, top, hi]

theorem error_push_of_full (fine : d.error = none) (full : ¬ d.Room) (kind : String)
    (named : Bool) (r : ByteRange) (derived opens : Bool) :
    (d.push kind named r derived opens).error = some (.multipleRoots kind) := by
  rw [push_eq_fail fine full, fail, fine]
  rfl

theorem addFound_eq_push (fine : d.error = none) {text : String} {start : Nat}
    (whole : d.source.OnBoundary d.cursor) (found : d.source.find? text d.cursor = some start)
    (kind : String) (named : Bool) : d.addFound kind named text =
      Draft.push { d with cursor := start + text.utf8ByteSize } kind named
        ⟨start, start + text.utf8ByteSize⟩ false false := by
  simp [addFound, fine, whole, found]

/-! ### What a draft shows of its calls -/

/-- Where a node ends that was given a range. -/
def givenStop (nodes : Array Node) (derived : Array Bool) (i : Nat) : Option Nat :=
  if derived[i]? = some false then some (rangeOf nodes i).stop else none

def outline (d : Draft) : Outline :=
  ⟨d.opened.map fun i => (kindOf d.nodes i, givenStop d.nodes d.derived i), d.root.isSome,
    d.cursor⟩

theorem not_room_iff : ¬ d.Room ↔ d.outline.opened = [] ∧ d.outline.rooted = true := by
  simp [Room, outline, Option.isSome_iff_ne_none]

theorem find?_isSome_iff {s : Source} {text : String} {cursor : Nat} :
    (∃ start, s.find? text cursor = some start) ↔
      ∃ i, cursor ≤ i ∧ OccursAt text.toByteArray s.bytes i := by
  constructor
  · rintro ⟨start, found⟩
    obtain ⟨later, occurs, -⟩ := findFrom_eq_some found
    exact ⟨start, later, occurs⟩
  · rintro ⟨i, later, occurs⟩
    apply Option.ne_none_iff_exists'.mp
    intro missing
    exact findFrom_eq_none_iff.mp missing i later occurs

theorem error_fail (fine : d.error = none) (e : BuildError) : (d.fail e).error = some e := by
  rw [fail, fine]
  rfl

theorem call_of_text (s : d.Sound) {c : BuildCall} {text : String} (looks : c.text? = some text) :
    ∃ kind named, c.kind? = some kind ∧ d.call s c = d.addFound kind named text := by
  cases c with
  | leaf kind _ =>
    cases looks
    exact ⟨kind, true, rfl, rfl⟩
  | token _ =>
    cases looks
    exact ⟨text, false, rfl, rfl⟩
  | _ => cases looks

theorem call_of_range (s : d.Sound) {c : BuildCall} {kind : String} {r : ByteRange}
    (adds : c.kind? = some kind) (given : c.range? = some r) :
    ∃ offset named opens, d.call s c =
      if d.Fits r then (d.advance offset).push kind named r false opens
      else d.fail (.invalidSpan kind r d.source.size) := by
  cases c with
  | openAt _ named _ =>
    cases adds
    cases given
    exact ⟨r.start, named, true, rfl⟩
  | leafAt _ named _ =>
    cases adds
    cases given
    exact ⟨r.stop, named, false, rfl⟩
  | _ => cases given

theorem call_of_kind (s : d.Sound) {c : BuildCall} {kind : String} (adds : c.kind? = some kind)
    (unfound : c.text? = none) (unplaced : c.range? = none) : d.call s c = d.openHere kind := by
  cases c with
  | openHere _ =>
    cases adds
    rfl
  | openAt _ _ _ | leafAt _ _ _ => cases unplaced
  | leaf _ _ | token _ => cases unfound
  | close => cases adds

theorem error_call_of_full (s : d.Sound) (fine : d.error = none) (full : ¬ d.Room)
    {c : BuildCall} {kind : String} (adds : c.kind? = some kind)
    (fits : ∀ r, c.range? = some r → d.Fits r)
    (found : ∀ text, c.text? = some text → d.source.OnBoundary d.cursor ∧
      ∃ start, d.source.find? text d.cursor = some start) :
    (d.call s c).error = some (.multipleRoots kind) := by
  cases looks : c.text? with
  | some text =>
    obtain ⟨whole, start, at_start⟩ := found text looks
    obtain ⟨kind', named, adds', same⟩ := call_of_text s looks
    cases adds.symm.trans adds'
    rw [same, addFound_eq_push fine whole at_start]
    exact error_push_of_full (d := { d with cursor := start + text.utf8ByteSize }) fine full ..
  | none =>
    cases given : c.range? with
    | some r =>
      obtain ⟨offset, named, opens, same⟩ := call_of_range s adds given
      rw [same, if_pos (fits r given)]
      exact error_push_of_full (d := d.advance offset) fine full ..
    | none =>
      rw [call_of_kind s adds looks given]
      exact error_push_of_full fine full ..

/-- What is refused fails for the reason it is refused for. -/
theorem error_call_of_refused (s : d.Sound) (fine : d.error = none) {c : BuildCall}
    {e : BuildError} (refused : d.outline.Refuses d.source c e) :
    (d.call s c).error = some e := by
  cases refused with
  | @invalidSpan kind r adds given wrong =>
    have outside : ¬ d.Fits r := by
      intro fits
      rw [Fits] at fits
      omega
    obtain ⟨offset, named, opens, same⟩ := call_of_range s adds given
    rw [same, if_neg outside]
    exact error_fail fine _
  | @cursorInsideCharacter text looks cut =>
    have cut : ¬ d.source.OnBoundary d.cursor := cut
    obtain ⟨kind, named, -, same⟩ := call_of_text s looks
    rw [same, addFound, if_neg (by simp [fine]), if_neg cut]
    exact error_fail fine _
  | @textNotFound kind text adds looks whole absent =>
    have whole : d.source.OnBoundary d.cursor := whole
    have missing : d.source.find? text d.cursor = none := findFrom_eq_none_iff.mpr absent
    obtain ⟨kind', named, adds', same⟩ := call_of_text s looks
    cases adds.symm.trans adds'
    rw [same, addFound, if_neg (by simp [fine]), if_pos whole, missing]
    exact error_fail fine _
  | @multipleRoots kind adds fits found top rooted =>
    refine error_call_of_full s fine (not_room_iff.mpr ⟨top, rooted⟩) adds fits ?_
    intro text looks
    obtain ⟨whole, occurs⟩ := found text looks
    exact ⟨whole, find?_isSome_iff.mpr occurs⟩
  | unbalancedClose closes top =>
    subst closes
    have top : d.opened = [] := List.map_eq_nil_iff.mp top
    simp only [call, close]
    split
    · exact error_fail fine _
    next _ _ ho => rw [top] at ho; cases ho

/-! ### Equations of the calls that are taken -/

theorem call_openAt (s : d.Sound) (fine : d.error = none) (room : d.Room) {r : ByteRange}
    (fits : d.Fits r) (kind : String) (named : Bool) : d.call s (.openAt kind named r) =
      (d.advance r.start).append ⟨kind, named, r, d.opened.head?⟩ false true := by
  rw [call, openAt, if_pos fits]
  exact push_eq_append (d := d.advance r.start) fine room ..

theorem call_leafAt (s : d.Sound) (fine : d.error = none) (room : d.Room) {r : ByteRange}
    (fits : d.Fits r) (kind : String) (named : Bool) : d.call s (.leafAt kind named r) =
      (d.advance r.stop).append ⟨kind, named, r, d.opened.head?⟩ false false := by
  rw [call, leafAt, if_pos fits]
  exact push_eq_append (d := d.advance r.stop) fine room ..

theorem call_close (s : d.Sound) {i : Nat} {rest : List Nat} (opened : d.opened = i :: rest) :
    d.call s .close =
      if d.derived[i]? = some true then
        { d with opened := rest, nodes := setRange d.nodes i (d.hull i) }
      else Draft.advance { d with opened := rest } (rangeOf d.nodes i).stop := by
  simp only [call, close]
  split
  next none => rw [opened] at none; cases none
  next j tail here =>
    rw [opened] at here
    cases here
    have small : i < d.nodes.size := s.opened_lt i (opened ▸ List.mem_cons_self)
    have row : i < d.derived.size := Nat.lt_of_lt_of_eq small s.derived_size.symm
    rw [derivedRange_eq_hull s small, rangeOf_eq_getElem small, Array.getElem?_eq_getElem row]
    simp only [Option.some.injEq]

section Accepted

variable {c : BuildCall} (accepted : ∀ e, ¬ d.outline.Refuses d.source c e)
include accepted

theorem fits_of_accepted {r : ByteRange} {kind : String} (adds : c.kind? = some kind)
    (given : c.range? = some r) : d.Fits r := by
  apply Classical.byContradiction
  intro outside
  have wrong : r.stop < r.start ∨ d.source.size < r.stop := by
    rw [Fits] at outside
    omega
  exact accepted _ (.invalidSpan adds given wrong)

theorem found_of_accepted {text kind : String} (adds : c.kind? = some kind)
    (looks : c.text? = some text) : d.source.OnBoundary d.cursor ∧
      ∃ start, d.source.find? text d.cursor = some start := by
  have whole : d.source.OnBoundary d.cursor := by
    apply Classical.byContradiction
    intro cut
    exact accepted _ (.cursorInsideCharacter looks cut)
  refine ⟨whole, Option.ne_none_iff_exists'.mp ?_⟩
  intro missing
  exact accepted _ (.textNotFound adds looks whole (findFrom_eq_none_iff.mp missing))

theorem room_of_accepted {kind : String} (adds : c.kind? = some kind) : d.Room := by
  apply Classical.byContradiction
  intro full
  obtain ⟨top, rooted⟩ := not_room_iff.mp full
  refine accepted _ (.multipleRoots adds ?_ ?_ top rooted)
  · intro r given
    exact fits_of_accepted accepted adds given
  · intro text looks
    obtain ⟨whole, found⟩ := found_of_accepted accepted adds looks
    exact ⟨whole, find?_isSome_iff.mp found⟩

/-- What is not refused is taken. -/
theorem takes_of_accepted (s : d.Sound) (fine : d.error = none) : d.Takes c (d.call s c) := by
  cases c with
  | openHere kind =>
    have room := room_of_accepted accepted rfl
    rw [call, openHere, push_eq_append fine room]
    exact .openHere room
  | openAt kind named r =>
    have room := room_of_accepted accepted rfl
    have fits := fits_of_accepted accepted rfl rfl
    rw [call_openAt s fine room fits]
    exact .openAt fits room
  | leaf kind text =>
    have room := room_of_accepted accepted rfl
    obtain ⟨whole, start, found⟩ := found_of_accepted accepted rfl rfl
    rw [call, addFound_eq_push fine whole found,
      push_eq_append (d := { d with cursor := start + text.utf8ByteSize }) fine room]
    exact .leaf whole found room
  | token text =>
    have room := room_of_accepted accepted rfl
    obtain ⟨whole, start, found⟩ := found_of_accepted accepted rfl rfl
    rw [call, addFound_eq_push fine whole found,
      push_eq_append (d := { d with cursor := start + text.utf8ByteSize }) fine room]
    exact .token whole found room
  | leafAt kind named r =>
    have room := room_of_accepted accepted rfl
    have fits := fits_of_accepted accepted rfl rfl
    rw [call_leafAt s fine room fits]
    exact .leafAt fits room
  | close =>
    cases opened : d.opened with
    | nil => exact absurd (.unbalancedClose rfl (by simp [outline, opened])) (accepted _)
    | cons i rest =>
      have small : i < d.nodes.size := s.opened_lt i (opened ▸ List.mem_cons_self)
      have row : i < d.derived.size := Nat.lt_of_lt_of_eq small s.derived_size.symm
      rw [call_close s opened]
      split
      next derived => exact .closeDerived opened derived
      next given =>
        rw [Array.getElem?_eq_getElem row] at given
        exact .closeGiven opened (by rw [Array.getElem?_eq_getElem row]; simpa using given)

end Accepted

theorem Takes.source {c : BuildCall} {d' : Draft} (takes : d.Takes c d') :
    d'.source = d.source := by
  cases takes <;> rfl

theorem Takes.error {c : BuildCall} {d' : Draft} (takes : d.Takes c d') :
    d'.error = d.error := by
  cases takes <;> rfl

/-- Whatever the call, a node is added under the innermost open one or that one is closed. -/
theorem Takes.adds_or_closes {c : BuildCall} {d' : Draft} (takes : d.Takes c d') :
    (∃ n derived opens cursor, n.parent = d.opened.head? ∧
      d' = Draft.append { d with cursor := cursor } n derived opens) ∨
    ∃ i rest, d.opened = i :: rest ∧
      (d' = { d with opened := rest, nodes := setRange d.nodes i (d.hull i) } ∨
        ∃ cursor, d' = { d with opened := rest, cursor := cursor }) := by
  cases takes with
  | closeDerived opened _ => exact .inr ⟨_, _, opened, .inl rfl⟩
  | closeGiven opened _ => exact .inr ⟨_, _, opened, .inr ⟨_, rfl⟩⟩
  | _ => exact .inl ⟨_, _, _, _, rfl, rfl⟩

/-- A call that leaves no failure was taken. -/
theorem takes_of_error_eq_none (s : d.Sound) {c : BuildCall} (fine : (d.call s c).error = none) :
    d.error = none ∧ d.Takes c (d.call s c) := by
  have before : d.error = none := by
    cases he : d.error with
    | none => rfl
    | some e =>
      rw [error_call_of_failed s he] at fine
      cases fine
  refine ⟨before, takes_of_accepted ?_ s before⟩
  intro e refused
  rw [error_call_of_refused s before refused] at fine
  cases fine

theorem outline_append (lt : ∀ i ∈ d.opened, i < d.nodes.size)
    (size : d.derived.size = d.nodes.size) (n : Node) (derived opens : Bool) :
    (d.append n derived opens).outline =
      ⟨if opens then (n.kind, if derived then none else some n.range.stop) :: d.outline.opened
        else d.outline.opened, true, d.cursor⟩ := by
  have old : (d.opened.map fun i => (kindOf (d.nodes.push n) i,
      givenStop (d.nodes.push n) (d.derived.push derived) i)) = d.outline.opened := by
    apply List.map_congr_left
    intro i hi
    have small := Nat.ne_of_lt (lt i hi)
    simp [givenStop, Array.getElem?_push, kindOf_push, rangeOf_push, size, small]
  have new : givenStop (d.nodes.push n) (d.derived.push derived) d.nodes.size =
      if derived then none else some n.range.stop := by
    cases derived <;> simp [givenStop, rangeOf_push, ← size]
  have kind : kindOf (d.nodes.push n) d.nodes.size = n.kind := by simp [kindOf_push]
  rw [outline, append]
  cases opens <;> simp [old, new, kind]

/-- What a call that is taken shows depends on what was shown before it. -/
theorem outline_of_takes (s : d.Sound) {c : BuildCall} {d' : Draft} (takes : d.Takes c d') :
    d'.outline = d.outline.after d.source c := by
  cases takes with
  | openHere room => exact outline_append s.opened_lt s.derived_size ..
  | @openAt kind named r fits room =>
    exact outline_append (d := d.advance r.start) s.opened_lt s.derived_size ..
  | @leaf kind text start whole found room =>
    rw [outline_append (d := { d with cursor := start + text.utf8ByteSize }) s.opened_lt
      s.derived_size, Outline.after, Outline.behind]
    simp [outline, found]
  | @token text start whole found room =>
    rw [outline_append (d := { d with cursor := start + text.utf8ByteSize }) s.opened_lt
      s.derived_size, Outline.after, Outline.behind]
    simp [outline, found]
  | @leafAt kind named r fits room =>
    exact outline_append (d := d.advance r.stop) s.opened_lt s.derived_size ..
  | @closeDerived i rest opened derived =>
    -- The range that changes is one that the outline does not show.
    have small : i < d.nodes.size := s.opened_lt i (opened ▸ List.mem_cons_self)
    have kept (j : Nat) : givenStop (setRange d.nodes i (d.hull i)) d.derived j =
        givenStop d.nodes d.derived j := by
      unfold givenStop
      rw [rangeOf_setRange small]
      by_cases here : i = j
      · subst here
        simp [derived]
      · simp [here]
    have hidden : givenStop d.nodes d.derived i = none := by simp [givenStop, derived]
    simp [outline, opened, Outline.after, hidden, kept, kindOf_setRange]
  | @closeGiven i rest opened given =>
    have shown : givenStop d.nodes d.derived i = some (rangeOf d.nodes i).stop := by
      simp [givenStop, given]
    simp [outline, opened, Outline.after, shown, advance]

end Draft

/-! ### Runs -/

namespace Builder

open Draft

theorem run_append (b : Builder) (front back : List BuildCall) :
    b.run (front ++ back) = (b.run front).run back := by
  simp [run]

theorem error_run_of_failed {b : Builder} {e : BuildError} (failed : b.error = some e)
    (calls : List BuildCall) : (b.run calls).error = some e := by
  induction calls generalizing b with
  | nil => exact failed
  | cons c rest ih => exact ih (error_call_of_failed b.sound failed c)

theorem error_eq_none_of_append {b : Builder} {front back : List BuildCall}
    (fine : (b.run (front ++ back)).error = none) : (b.run front).error = none := by
  cases failed : (b.run front).error with
  | none => rfl
  | some e =>
    rw [run_append, error_run_of_failed failed] at fine
    cases fine

/-- What holds at the start and is kept by every call that is taken holds after a run without
failure. -/
theorem holds_after_run {s : Source} {motive : List BuildCall → Draft → Prop}
    (first : motive [] (start s).toDraft)
    (step : ∀ calls c d d', d.Sound → d.source = s → d.Takes c d' → motive calls d →
      motive (calls ++ [c]) d')
    {calls : List BuildCall} (fine : ((start s).run calls).error = none) :
    ((start s).run calls).source = s ∧ motive calls ((start s).run calls).toDraft := by
  induction calls using List.reverseRecOn with
  | nil => exact ⟨rfl, first⟩
  | append_singleton calls c ih =>
    have ⟨source, held⟩ := ih (error_eq_none_of_append fine)
    rw [run_append] at fine ⊢
    generalize (start s).run calls = b at fine source held
    have takes := (takes_of_error_eq_none b.sound fine).2
    exact ⟨takes.source.trans source, step calls c _ _ b.sound source takes held⟩

/-! ### The answer at the end -/

variable {b : Builder}

theorem finish_of_failed {e : BuildError} (failed : b.error = some e) : b.finish = .error e := by
  unfold finish
  split <;> simp_all

theorem finish_of_opened (fine : b.error = none) {i : Nat} {rest : List Nat}
    (opened : b.opened = i :: rest) :
    b.finish = .error (.unclosedNode (Arena.kindOf b.nodes i)) := by
  have small : i < b.nodes.size := b.sound.opened_lt i (opened ▸ List.mem_cons_self)
  unfold finish
  split <;> simp_all [Arena.kindOf]

theorem finish_of_rootless (fine : b.error = none) (closed : b.opened = [])
    (rootless : b.root = none) : b.finish = .error .emptyTree := by
  unfold finish
  split <;> simp_all

theorem finish_of_closed (fine : b.error = none) (closed : b.opened = []) {i : Nat}
    (root : b.root = some i) : ∃ t, b.finish = .ok t := by
  unfold finish
  split <;> simp_all

theorem fine_of_finish {t : Tree} (done : b.finish = .ok t) :
    b.error = none ∧ b.opened = [] := by
  unfold finish at done
  split at done <;> simp_all

end Builder

/-- A built tree holds the nodes of a run without failure that left no node open. -/
theorem Tree.exists_draft {text : String} {motive : List BuildCall → Draft → Prop}
    (first : motive [] (Builder.start (Source.ofString text)).toDraft)
    (step : ∀ calls c d d', d.Sound → d.source = Source.ofString text → d.Takes c d' →
      motive calls d → motive (calls ++ [c]) d')
    {calls : List BuildCall} {t : Tree} (built : Tree.build text calls = .ok t) :
    ∃ d : Draft, d.Sound ∧ motive calls d ∧ d.opened = [] ∧ t.nodes = d.nodes ∧
      t.source = d.source ∧ d.source = Source.ofString text := by
  obtain ⟨source, nodes, -⟩ := Builder.finish_eq_ok built
  obtain ⟨fine, closed⟩ := Builder.fine_of_finish built
  obtain ⟨same, held⟩ := Builder.holds_after_run first step fine
  exact ⟨_, Builder.sound _, held, closed, nodes, source, same⟩

end ElmOverlay
