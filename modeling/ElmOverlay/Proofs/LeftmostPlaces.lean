import ElmOverlay.Proofs.LocatedTrees
import ElmOverlay.Proofs.Refusals
import Mathlib.Data.List.Chain
import Mathlib.Data.List.Forall2

/-!
Where the texts of calls are placed. Every text is taken at the first place behind the one before
it. No places for the same texts are earlier at any of them, so looking no further than the first
place never costs a later text its place: if the texts fit into the source in their order, they are
found, and if not, the first text is reported that does not fit behind the others.
-/
namespace ElmOverlay

/-! ### Places of texts -/

/-- The texts that calls look for, in order. -/
def texts (calls : List BuildCall) : List String := calls.filterMap BuildCall.text?

/-- What a text covers at an offset. -/
def stretch (text : String) (offset : Nat) : ByteRange := ⟨offset, offset + text.utf8ByteSize⟩

/-- Every text stands at its offset, and none begins before the one before it ends. -/
def Places (s : Source) (parts : List String) (offsets : List Nat) : Prop :=
  List.Forall₂ (fun text offset => OccursAt text.toByteArray s.bytes offset) parts offsets ∧
    (List.zipWith stretch parts offsets).IsChain fun a b => a.stop ≤ b.start

/-- Places that no others come before, at any of the texts. -/
def Leftmost (s : Source) (parts : List String) (offsets : List Nat) : Prop :=
  Places s parts offsets ∧ ∀ others, Places s parts others → List.Forall₂ (· ≤ ·) offsets others

/-- Where the last text ends. -/
def endOf (parts : List String) (offsets : List Nat) : Nat :=
  ((List.zipWith stretch parts offsets).getLast?.map ByteRange.stop).getD 0

theorem forall₂_concat_iff {α β : Type} {r : α → β → Prop} {front : List α} {a : α} {bs : List β} :
    List.Forall₂ r (front ++ [a]) bs ↔
      ∃ front' b, bs = front' ++ [b] ∧ List.Forall₂ r front front' ∧ r a b := by
  constructor
  · intro related
    have backwards := List.forall₂_reverse_iff.mpr related
    rw [List.reverse_concat, List.forall₂_cons_left_iff] at backwards
    obtain ⟨b, rest, last, others, split⟩ := backwards
    refine ⟨rest.reverse, b, ?_, ?_, last⟩
    · rw [← List.reverse_reverse bs, split, List.reverse_cons]
    · rw [← List.forall₂_reverse_iff, List.reverse_reverse]
      exact others
  · rintro ⟨front', b, rfl, others, last⟩
    exact List.rel_append others (.cons last .nil)

section Places

variable {s : Source} {parts : List String} {part : String} {offsets : List Nat} {offset : Nat}

theorem zipWith_stretch_concat (same : parts.length = offsets.length) :
    List.zipWith stretch (parts ++ [part]) (offsets ++ [offset]) =
      List.zipWith stretch parts offsets ++ [stretch part offset] :=
  List.zipWith_append same

theorem endOf_concat (same : parts.length = offsets.length) :
    endOf (parts ++ [part]) (offsets ++ [offset]) = offset + part.utf8ByteSize := by
  rw [endOf, zipWith_stretch_concat same, List.getLast?_concat]
  rfl

theorem endOf_le_iff : endOf parts offsets ≤ offset ↔
    ∀ r ∈ (List.zipWith stretch parts offsets).getLast?, r.stop ≤ offset := by
  rw [endOf]
  cases (List.zipWith stretch parts offsets).getLast? <;> simp

/-- One text more is placed behind the others. -/
theorem places_concat_iff : Places s (parts ++ [part]) offsets ↔
    ∃ front offset, offsets = front ++ [offset] ∧ Places s parts front ∧
      OccursAt part.toByteArray s.bytes offset ∧ endOf parts front ≤ offset := by
  constructor
  · rintro ⟨occur, ordered⟩
    obtain ⟨front, offset, rfl, occur, last⟩ := forall₂_concat_iff.mp occur
    rw [zipWith_stretch_concat occur.length_eq, List.isChain_append] at ordered
    refine ⟨front, offset, rfl, ⟨occur, ordered.1⟩, last, endOf_le_iff.mpr ?_⟩
    exact fun r hr => ordered.2.2 r hr _ rfl
  · rintro ⟨front, offset, rfl, ⟨occur, ordered⟩, last, behind⟩
    refine ⟨List.rel_append occur (.cons last .nil), ?_⟩
    rw [zipWith_stretch_concat occur.length_eq, List.isChain_append]
    refine ⟨ordered, List.isChain_singleton _, ?_⟩
    intro r hr r' hr'
    cases hr'
    exact endOf_le_iff.mp behind r hr

theorem places_nil_iff : Places s [] offsets ↔ offsets = [] := by
  rw [Places, List.forall₂_nil_left_iff, List.zipWith_nil_left]
  simp

theorem Places.exists_front {more : List String} (placed : Places s (parts ++ more) offsets) :
    ∃ front, Places s parts front := by
  induction more using List.reverseRecOn generalizing offsets with
  | nil => exact ⟨offsets, by simpa using placed⟩
  | append_singleton more part ih =>
    rw [← List.append_assoc] at placed
    obtain ⟨front, -, -, placed, -⟩ := places_concat_iff.mp placed
    exact ih placed

theorem endOf_mono {others : List Nat} (same : parts.length = offsets.length)
    (le : List.Forall₂ (· ≤ ·) offsets others) : endOf parts offsets ≤ endOf parts others := by
  rcases List.eq_nil_or_concat' parts with rfl | ⟨front, part, rfl⟩
  · exact Nat.le_refl _
  · rcases List.eq_nil_or_concat' offsets with rfl | ⟨offsets, offset, rfl⟩
    · simp at same
    · obtain ⟨others, other, rfl, le, last⟩ := forall₂_concat_iff.mp le
      have same : front.length = offsets.length := by simpa using same
      rw [endOf_concat same, endOf_concat (same.trans le.length_eq)]
      exact Nat.add_le_add_right last _

theorem leftmost_nil : Leftmost s [] [] :=
  ⟨places_nil_iff.mpr rfl, fun others placed => by rw [places_nil_iff.mp placed]; exact .nil⟩

/-- The first place behind the leftmost places is the leftmost for one text more. -/
theorem Leftmost.concat (first : Leftmost s parts offsets)
    (found : s.find? part (endOf parts offsets) = some offset) :
    Leftmost s (parts ++ [part]) (offsets ++ [offset]) := by
  obtain ⟨placed, least⟩ := first
  obtain ⟨behind, occurs, none_before⟩ := findFrom_eq_some found
  refine ⟨places_concat_iff.mpr ⟨offsets, offset, rfl, placed, occurs, behind⟩, ?_⟩
  intro others placed'
  obtain ⟨front, other, rfl, placed', occurs', behind'⟩ := places_concat_iff.mp placed'
  have earlier := least front placed'
  refine List.rel_append earlier (.cons ?_ .nil)
  -- Other places end no earlier, so what follows them was looked at in the search.
  have reached := Nat.le_trans (endOf_mono placed.1.length_eq earlier) behind'
  exact Nat.not_lt.mp fun before => none_before other reached before occurs'

theorem Leftmost.not_places (first : Leftmost s parts offsets)
    (missing : ∀ i, endOf parts offsets ≤ i → ¬ OccursAt part.toByteArray s.bytes i)
    (others : List Nat) : ¬ Places s (parts ++ [part]) others := by
  intro placed
  obtain ⟨front, other, -, placed, occurs, behind⟩ := places_concat_iff.mp placed
  have reached := Nat.le_trans (endOf_mono first.1.1.length_eq (first.2 front placed)) behind
  exact missing other reached occurs

end Places

/-! ### Brackets -/

/-- Calls whose brackets describe one tree: a text, or a node that is opened, given any number of
trees and closed. -/
inductive OneTree : List BuildCall → Prop where
  | found {c : BuildCall} {text : String} (looks : c.text? = some text) : OneTree [c]
  | node {kind : String} {inner : List (List BuildCall)} (each : ∀ cs ∈ inner, OneTree cs) :
      OneTree (.openHere kind :: inner.flatten ++ [.close])

theorem OneTree.unplaced {calls : List BuildCall} (one : OneTree calls) :
    ∀ c ∈ calls, c.range? = none := by
  induction one with
  | @found c text looks =>
    intro b hb
    obtain rfl := List.mem_singleton.mp hb
    cases b <;> first | rfl | cases looks
  | node each ih =>
    intro c hc
    simp only [List.cons_append, List.mem_cons, List.mem_append, List.mem_flatten,
      List.not_mem_nil, or_false] at hc
    rcases hc with rfl | ⟨cs, hcs, hc⟩ | rfl
    · rfl
    · exact ih cs hcs c hc
    · rfl

namespace Outline

variable {s : Source} {o : Outline} {c : BuildCall} {calls front back : List BuildCall}

/-- There is a place for one more node. -/
def Room (o : Outline) : Prop := o.opened = [] → o.rooted = false

/-- A call finds a place for its node, or an open node to close. -/
structure Fits (o : Outline) (c : BuildCall) : Prop where
  adds : c.kind?.isSome = true → o.Room
  closes : c = .close → o.opened ≠ []

/-- Every call fits behind those before it. -/
def AllFit (s : Source) : Outline → List BuildCall → Prop
  | _, [] => True
  | o, c :: calls => o.Fits c ∧ AllFit s (o.after s c) calls

theorem allFit_append : AllFit s o (front ++ back) ↔
    AllFit s o front ∧ AllFit s (front.foldl (after s) o) back := by
  induction front generalizing o with
  | nil => simp [AllFit]
  | cons c front ih => simp [AllFit, ih, and_assoc]

/-- Calls that fit, leave the same nodes open and leave a root. -/
structure Nests (s : Source) (o : Outline) (calls : List BuildCall) : Prop where
  fit : AllFit s o calls
  opened : (calls.foldl (after s) o).opened = o.opened
  rooted : (calls.foldl (after s) o).rooted = true

theorem nests_flatten {inner : List (List BuildCall)}
    (each : ∀ cs ∈ inner, ∀ o : Outline, o.Room → Nests s o cs) (some_open : o.opened ≠ [])
    (rooted : o.rooted = true) : Nests s o inner.flatten := by
  induction inner generalizing o with
  | nil => exact ⟨trivial, rfl, rooted⟩
  | cons cs inner ih =>
    obtain ⟨first, later⟩ := List.forall_mem_cons.mp each
    have front := first o fun top => absurd top some_open
    have back := ih later (front.opened.trans_ne some_open) front.rooted
    rw [List.flatten_cons]
    refine ⟨allFit_append.mpr ⟨front.fit, back.fit⟩, ?_, ?_⟩
    · rw [List.foldl_append, back.opened, front.opened]
    · rw [List.foldl_append, back.rooted]

theorem after_close {kind : String} {rest : List (String × Option Nat)}
    (opened : o.opened = (kind, none) :: rest) :
    o.after s .close = { o with opened := rest } := by
  simp [after, opened]

/-- The calls of one tree fit wherever there is room for a node. -/
theorem nests_of_oneTree (one : OneTree calls) (room : o.Room) : Nests s o calls := by
  induction one generalizing o with
  | @found c text looks =>
    have after : o.after s c = o.behind s text := by
      cases c with
      | leaf | token =>
        cases looks
        rw [Outline.after]
      | _ => cases looks
    have solid : c ≠ .close := by
      rintro rfl
      cases looks
    refine ⟨⟨⟨fun _ => room, fun closes => absurd closes solid⟩, trivial⟩, ?_, ?_⟩
    · rw [List.foldl_cons, after]
      rfl
    · rw [List.foldl_cons, after]
      rfl
  | @node kind inner each ih =>
    have row := nests_flatten (o := o.after s (.openHere kind)) (fun cs hcs o => ih cs hcs)
      (List.cons_ne_nil _ _) rfl
    have last := after_close (s := s) row.opened
    rw [List.cons_append]
    have opens : o.Fits (.openHere kind) := ⟨fun _ => room, fun closes => by cases closes⟩
    have closes : (inner.flatten.foldl (after s) (o.after s (.openHere kind))).Fits .close :=
      ⟨fun adds => absurd adds Bool.false_ne_true,
        fun _ => row.opened.trans_ne (List.cons_ne_nil _ _)⟩
    refine ⟨⟨opens, allFit_append.mpr ⟨row.fit, closes, trivial⟩⟩, ?_, ?_⟩
    · rw [List.foldl_cons, List.foldl_append, List.foldl_cons, last]
      rfl
    · rw [List.foldl_cons, List.foldl_append, List.foldl_cons, last]
      exact row.rooted

theorem fits_of_oneTree {before later : List BuildCall} (one : OneTree (before ++ c :: later)) :
    (ofCalls s before).Fits c :=
  (allFit_append.mp (nests_of_oneTree one fun _ => rfl).fit).2.1

end Outline

/-! ### Ranges of texts -/

open Arena

/-- The ranges of the nodes that were added for a text, in order. -/
def textRanges (nodes : Array Node) (calls : List BuildCall) : List ByteRange :=
  (List.range nodes.size).filterMap fun i =>
    ((additions calls)[i]?.bind BuildCall.text?).map fun _ => rangeOf nodes i

namespace Draft

variable {d d' : Draft} {c : BuildCall} {calls : List BuildCall} {offsets : List Nat}

theorem textRanges_push {nodes : Array Node} (count : (additions calls).length = nodes.size)
    (adds : c.kind?.isSome = true) (n : Node) : textRanges (nodes.push n) (calls ++ [c]) =
      textRanges nodes calls ++ (c.text?.map fun _ => n.range).toList := by
  have longer : additions (calls ++ [c]) = additions calls ++ [c] := by simp [additions, adds]
  have old : (List.range nodes.size).filterMap (fun i =>
      ((additions calls ++ [c])[i]?.bind BuildCall.text?).map fun _ => rangeOf (nodes.push n) i) =
      textRanges nodes calls := by
    apply List.filterMap_congr
    intro i hi
    have small := List.mem_range.mp hi
    rw [List.getElem?_append_left (by omega), rangeOf_push, if_neg (by omega)]
  have new : (additions calls ++ [c])[nodes.size]? = some c := by
    rw [List.getElem?_append_right (by omega), count, Nat.sub_self]
    rfl
  rw [textRanges, longer, Array.size_push, List.range_succ, List.filterMap_append, old]
  cases looks : c.text? <;> simp [rangeOf_push, new, looks]

theorem textRanges_setRange {nodes : Array Node} {j : Nat} (small : j < nodes.size)
    (unfound : (additions calls)[j]?.bind BuildCall.text? = none) (r : ByteRange) :
    textRanges (setRange nodes j r) calls = textRanges nodes calls := by
  rw [textRanges, size_setRange]
  apply List.filterMap_congr
  intro i _
  rw [rangeOf_setRange small]
  split
  next same =>
    rw [← same, unfound]
    rfl
  next => rfl

/-- The nodes of texts stand at the leftmost places, and the next text is looked for behind them. -/
structure Placed (calls : List BuildCall) (offsets : List Nat) (d : Draft) : Prop where
  leftmost : Leftmost d.source (texts calls) offsets
  ranges : textRanges d.nodes calls = List.zipWith stretch (texts calls) offsets
  cursor : d.cursor = endOf (texts calls) offsets

theorem placed_start (s : Source) : Placed [] [] (Builder.start s).toDraft :=
  ⟨leftmost_nil, rfl, rfl⟩

theorem Placed.kept (placed : d.Placed calls offsets) (unfound : c.text? = none)
    (source : d'.source = d.source)
    (ranges : textRanges d'.nodes (calls ++ [c]) = textRanges d.nodes calls)
    (cursor : d'.cursor = d.cursor) : d'.Placed (calls ++ [c]) offsets := by
  have same : texts (calls ++ [c]) = texts calls := by simp [texts, unfound]
  refine ⟨?_, ?_, ?_⟩
  · rw [source, same]
    exact placed.leftmost
  · rw [ranges, same, placed.ranges]
  · rw [cursor, same, placed.cursor]

theorem Placed.found (placed : d.Placed calls offsets)
    (count : (additions calls).length = d.nodes.size) {kind text : String} {named : Bool}
    {start : Nat} (adds : c.kind? = some kind) (looks : c.text? = some text)
    (at_start : d.source.find? text d.cursor = some start) :
    Placed (calls ++ [c]) (offsets ++ [start])
      (Draft.append { d with cursor := start + text.utf8ByteSize }
        ⟨kind, named, ⟨start, start + text.utf8ByteSize⟩, d.opened.head?⟩ false false) := by
  have same := placed.leftmost.1.1.length_eq
  have longer : texts (calls ++ [c]) = texts calls ++ [text] := by simp [texts, looks]
  refine ⟨?_, ?_, ?_⟩
  · rw [longer]
    exact placed.leftmost.concat (placed.cursor ▸ at_start)
  · rw [longer, zipWith_stretch_concat same, ← placed.ranges, append,
      textRanges_push count (by rw [adds]; rfl), looks]
    rfl
  · rw [longer, endOf_concat same]
    rfl

theorem Placed.takes (placed : d.Placed calls offsets) (located : d.Located calls) (s : d.Sound)
    (unplaced : c.range? = none) (takes : d.Takes c d') :
    ∃ offsets', d'.Placed (calls ++ [c]) offsets' := by
  obtain ⟨-, laid, recorded⟩ := located
  cases takes with
  | openHere room =>
    refine ⟨offsets, placed.kept rfl rfl ?_ rfl⟩
    rw [append, textRanges_push recorded.count rfl]
    exact List.append_nil _
  | openAt fits room => cases unplaced
  | leafAt fits room => cases unplaced
  | leaf whole found room => exact ⟨_, placed.found recorded.count rfl rfl found⟩
  | token whole found room => exact ⟨_, placed.found recorded.count rfl rfl found⟩
  | @closeDerived i rest opened derived =>
    have listed : i ∈ d.opened := opened ▸ List.mem_cons_self
    have same : additions (calls ++ [.close]) = additions calls := by
      simp [additions, BuildCall.kind?]
    -- The node that closes is not that of a text, since those are never open.
    have unfound : (additions calls)[i]?.bind BuildCall.text? = none := by
      refine Option.eq_none_iff_forall_ne_some.mpr fun text found => ?_
      obtain ⟨b, hb, looks⟩ := Option.bind_eq_some_iff.mp found
      exact ((recorded.holds i b hb).text text looks).1 listed
    refine ⟨offsets, placed.kept rfl rfl ?_ rfl⟩
    rw [← textRanges_setRange (s.opened_lt i listed) unfound, textRanges, textRanges, same]
  | closeGiven opened given => exact (laid.derived_of_closed opened given).elim

end Draft

/-! ### Runs -/

variable {s : Source} {calls : List BuildCall} {offsets : List Nat} {e : BuildError}

/-- A run without failure has placed its texts leftmost. -/
theorem placed_of_fine (fine : ((Builder.start s).run calls).error = none)
    (unplaced : ∀ c ∈ calls, c.range? = none) :
    ((Builder.start s).run calls).source = s ∧ ((Builder.start s).run calls).Located calls ∧
      ∃ offsets, ((Builder.start s).run calls).Placed calls offsets := by
  apply Builder.located_after_run (motive := fun calls d => ∃ offsets, d.Placed calls offsets)
    ⟨[], Draft.placed_start s⟩ _ fine unplaced
  rintro calls c d d' sound located here takes ⟨offsets, placed⟩
  exact placed.takes located sound here takes

/-- The first text that does not fit behind those before it, and where it was looked for. -/
inductive FirstUnplaced (s : Source) (calls : List BuildCall) : BuildError → Prop where
  | intro {before later : List BuildCall} {c : BuildCall} {kind part : String}
      {offsets : List Nat} (split : calls = before ++ c :: later) (adds : c.kind? = some kind)
      (looks : c.text? = some part) (leftmost : Leftmost s (texts before) offsets)
      (unplaced : ∀ others, ¬ Places s (texts before ++ [part]) others) :
      FirstUnplaced s calls (.textNotFound part kind (endOf (texts before) offsets))

theorem FirstUnplaced.not_places (first : FirstUnplaced s calls e) (offsets : List Nat) :
    ¬ Places s (texts calls) offsets := by
  cases first with
  | @intro before later c kind part _ split _ looks _ unplaced =>
    intro placed
    have parts : texts calls = texts before ++ [part] ++ texts later := by
      simp [split, texts, looks]
    rw [parts] at placed
    obtain ⟨front, placed⟩ := placed.exists_front
    exact unplaced front placed

open Outline

/-- Accepted calls place their texts leftmost and go on behind the last of them. -/
theorem leftmost_of_accepts (accepted : Accepts s calls)
    (unplaced : ∀ c ∈ calls, c.range? = none) : ∃ offsets,
      Leftmost s (texts calls) offsets ∧ (ofCalls s calls).cursor = endOf (texts calls) offsets ∧
        s.OnBoundary (ofCalls s calls).cursor := by
  obtain ⟨fine, source, shown⟩ := Builder.run_of_accepts accepted
  obtain ⟨-, located, offsets, placed⟩ := placed_of_fine fine unplaced
  have leftmost := placed.leftmost
  have whole := located.laid.whole_cursor
  have cursor : ((Builder.start s).run calls).cursor = (ofCalls s calls).cursor :=
    congrArg Outline.cursor shown
  rw [source] at leftmost whole
  rw [cursor] at whole
  exact ⟨offsets, leftmost, cursor.symm.trans placed.cursor, whole⟩

/-- With the brackets of one tree, only a text can be missing. -/
theorem firstUnplaced_of_flaw (one : OneTree calls) (flaw : Flaw s calls e) :
    FirstUnplaced s calls e := by
  have nests := nests_of_oneTree (s := s) (o := {}) one fun _ => rfl
  cases flaw with
  | @refused before later c e split accepted first =>
    have unplaced := one.unplaced
    subst split
    have fits := fits_of_oneTree (s := s) one
    have here : c.range? = none := unplaced c (by simp)
    obtain ⟨offsets, leftmost, ends, whole⟩ :=
      leftmost_of_accepts accepted fun b hb => unplaced b (List.mem_append_left _ hb)
    cases first with
    | invalidSpan adds given wrong => cases here.symm.trans given
    | cursorInsideCharacter looks cut => exact absurd whole cut
    | textNotFound adds looks _ absent =>
      rw [ends] at absent ⊢
      exact .intro rfl adds looks leftmost (leftmost.not_places absent)
    | multipleRoots adds _ found top rooted =>
      have room := fits.adds (by rw [adds]; rfl) top
      cases room.symm.trans rooted
    | unbalancedClose closes top => exact absurd top (fits.closes closes)
  | unclosed accepted innermost =>
    have opened : (ofCalls s calls).opened = [] := nests.opened
    cases opened.symm.trans innermost
  | empty accepted closed rootless =>
    have rooted : (ofCalls s calls).rooted = true := nests.rooted
    cases rooted.symm.trans rootless

theorem leftmost_of_build {text : String} {t : Tree} (one : OneTree calls)
    (built : Tree.build text calls = .ok t) :
    ∃ offsets, Leftmost (Source.ofString text) (texts calls) offsets ∧
      textRanges t.nodes calls = List.zipWith stretch (texts calls) offsets := by
  obtain ⟨-, nodes, -⟩ := Builder.finish_eq_ok built
  obtain ⟨source, -, offsets, placed⟩ :=
    placed_of_fine (Builder.fine_of_finish built).1 one.unplaced
  refine ⟨offsets, ?_, ?_⟩
  · have leftmost := placed.leftmost
    rw [source] at leftmost
    exact leftmost
  · rw [nodes, placed.ranges]

/-- Calls with the brackets of one tree build it exactly if there are places for their texts, one
behind the other. Then every text has the first place it has in any such row of places, and
otherwise the first text is reported that does not fit behind the others. -/
theorem texts_placed_leftmost {calls : List BuildCall} (one : OneTree calls) (text : String) :
    ((∃ t, Tree.build text calls = .ok t) ↔
      ∃ offsets, Places (Source.ofString text) (texts calls) offsets) ∧
    (∀ t, Tree.build text calls = .ok t →
      ∃ offsets, Leftmost (Source.ofString text) (texts calls) offsets ∧
        textRanges t.nodes calls = List.zipWith stretch (texts calls) offsets) ∧
    ((∀ offsets, ¬ Places (Source.ofString text) (texts calls) offsets) →
      ∃ e, FirstUnplaced (Source.ofString text) calls e ∧ Tree.build text calls = .error e) := by
  have ends : (∃ e, FirstUnplaced (Source.ofString text) calls e ∧
      Tree.build text calls = .error e) ∨ ∃ t, Tree.build text calls = .ok t := by
    rcases flaw_or_accepts (Source.ofString text) calls with ⟨e, flaw⟩ | ⟨accepted, closed, rooted⟩
    · exact .inl ⟨e, firstUnplaced_of_flaw one flaw, build_of_flaw flaw⟩
    · exact .inr (build_of_accepts accepted closed rooted)
  have succeeds (t : Tree) (built : Tree.build text calls = .ok t) := leftmost_of_build one built
  refine ⟨⟨?_, ?_⟩, succeeds, ?_⟩
  · rintro ⟨t, built⟩
    obtain ⟨offsets, ⟨placed, -⟩, -⟩ := succeeds t built
    exact ⟨offsets, placed⟩
  · rintro ⟨offsets, placed⟩
    rcases ends with ⟨e, first, -⟩ | built
    · exact absurd placed (first.not_places offsets)
    · exact built
  · intro none
    rcases ends with failed | ⟨t, built⟩
    · exact failed
    · obtain ⟨offsets, ⟨placed, -⟩, -⟩ := succeeds t built
      exact absurd placed (none offsets)

/-- A text is placed behind the one before it, even if it stands within that one too. A text that
only stands across two others is missing behind them. -/
theorem overlapping_texts_placed :
    let placed : List BuildCall :=
      [.openHere "file", .leaf "name" "ab", .token "b", .token "", .close]
    let missed : List BuildCall :=
      [.openHere "file", .leaf "name" "ab", .token "ab", .token "ba", .close]
    (∃ t, Tree.build "abab" placed = .ok t) ∧
      Leftmost (Source.ofString "abab") ["ab", "b", ""] [0, 3, 4] ∧
      FirstUnplaced (Source.ofString "abab") missed (.textNotFound "ba" "ba" 4) := by
  intro placed missed
  have one : ∀ a b c, OneTree [.openHere "file", .leaf "name" a, .token b, .token c, .close] := by
    intro a b c
    change OneTree (.openHere "file" ::
      [[.leaf "name" a], [.token b], [.token c]].flatten ++ [.close])
    refine .node fun cs hcs => ?_
    simp only [List.mem_cons, List.not_mem_nil, or_false] at hcs
    rcases hcs with rfl | rfl | rfl <;> exact .found rfl
  have built := eq_ok_get_toOption (Tree.build "abab" placed) (by decide +kernel)
  have failed : (match Tree.build "abab" missed with | .ok _ => none | .error e => some e) =
      some (.textNotFound "ba" "ba" 4) := by decide +kernel
  obtain ⟨-, leftmost, -⟩ := texts_placed_leftmost (one "ab" "b" "") "abab"
  obtain ⟨exactly, -, missing⟩ := texts_placed_leftmost (one "ab" "ab" "ba") "abab"
  refine ⟨⟨_, built⟩, ?leftmost, ?missing⟩
  case leftmost =>
    obtain ⟨offsets, first, ranges⟩ := leftmost _ built
    have shown : [⟨0, 2⟩, ⟨3, 4⟩, ⟨4, 4⟩] = List.zipWith stretch ["ab", "b", ""] offsets := by
      refine Eq.trans ?_ ranges
      decide +kernel
    have three := first.1.1.length_eq
    match offsets, three with
    | [a, b, c], _ =>
      simp only [List.zipWith_cons_cons, stretch, List.cons.injEq, ByteRange.mk.injEq] at shown
      obtain ⟨⟨rfl, -⟩, ⟨rfl, -⟩, ⟨rfl, -⟩, -⟩ := shown
      exact first
  case missing =>
    have none : ∀ offsets, ¬ Places (Source.ofString "abab") (texts missed) offsets := by
      intro offsets places
      obtain ⟨t, built⟩ := exactly.mpr ⟨offsets, places⟩
      rw [built] at failed
      cases failed
    obtain ⟨e, first, error⟩ := missing none
    rw [error] at failed
    cases failed
    exact first

end ElmOverlay
