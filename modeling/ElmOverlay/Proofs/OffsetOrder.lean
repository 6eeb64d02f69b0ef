import ElmOverlay.Proofs.PointSearch

/-!
Bytes and points are two measures of one order. The search for a point finds for every offset of a
source the line that holds it, and counts what stands before it. Offsets compare like their points,
so nodes lie in each other, behind each other and across each other in points just as they do in
bytes, also where a range runs backwards.
-/
namespace ElmOverlay

/-- A point counts the newlines before an offset, and the bytes behind the last of them. -/
structure Point.Counts (p : Point) (s : Source) (offset : Nat) : Prop where
  row : p.row.toNat = (s.bytes.data.toList.take offset).count newlineByte
  column : ∃ start, OpensAt (s.bytes.data.toList.take offset) start ∧
    p.column.toNat = offset - start

namespace Source

variable {s : Source} {b : Nat}

theorem counts_pointAt (small : s.Small) (inside : b ≤ s.size) : (s.pointAt b).Counts s b := by
  have length : (s.bytes.data.toList.take b).length = b := by
    rw [List.length_take]
    exact Nat.min_eq_left inside
  obtain ⟨whole, start, -, count, line, point⟩ := exists_openLine (s.bytes.data.toList.take b)
  have lines : whole.length ≤ b := by
    rw [count]
    exact Nat.le_trans List.count_le_length (Nat.le_of_eq length)
  rw [Small] at small
  rw [pointAt_eq inside, ← s.bytes_eq, point, length]
  constructor
  · rw [← count]
    exact UInt32.toNat_ofNat_of_lt' (by omega)
  · exact ⟨start, line, UInt32.toNat_ofNat_of_lt' (by omega)⟩

end Source

namespace Tree

/-- Nodes compare by their spans as they do by their ranges. -/
structure SpansFollow (t : Tree) : Prop where
  wellOrdered : ∀ n : t.Id, (t.span n).WellOrdered ↔ (t.range n).start ≤ (t.range n).stop
  contains : ∀ (n : t.Id) (b : Nat), b ≤ t.source.size →
    ((t.span n).Contains (t.source.pointAt b) ↔ (t.range n).start ≤ b ∧ b ≤ (t.range n).stop)
  inside : ∀ n m : t.Id,
    (t.span m).start ≤ (t.span n).start ∧ (t.span n).stop ≤ (t.span m).stop ↔
      (t.range m).start ≤ (t.range n).start ∧ (t.range n).stop ≤ (t.range m).stop
  apart : ∀ n m : t.Id,
    (t.span n).stop ≤ (t.span m).start ↔ (t.range n).stop ≤ (t.range m).start
  earlier : ∀ n m : t.Id,
    (t.span n).start < (t.span m).start ↔ (t.range n).start < (t.range m).start
  nested : t.SpansNest ↔ t.WellNested

variable {t : Tree}

theorem spansFollow_of_small (small : t.source.Small) : t.SpansFollow := by
  have start (n : t.Id) := (range_in_source n).1
  have stop (n : t.Id) := (range_in_source n).2
  have ordered (n : t.Id) := Source.pointAt_le_iff small (start n) (stop n)
  have outer (n m : t.Id) := Source.pointAt_le_iff small (start m) (start n)
  have inner (n m : t.Id) := Source.pointAt_le_iff small (stop n) (stop m)
  have apart (n m : t.Id) := Source.pointAt_le_iff small (stop n) (start m)
  refine {
    wellOrdered := ordered
    contains := fun n b inside => and_congr (Source.pointAt_le_iff small (start n) inside)
      (Source.pointAt_le_iff small inside (stop n))
    inside := fun n m => and_congr (outer n m) (inner n m)
    apart := apart
    earlier := fun n m => Source.pointAt_lt_iff small (start n) (start m)
    nested := ⟨fun spans => ?_, fun nested => nested.spansNest small⟩ }
  exact {
    ordered := fun n => (ordered n).mp (spans.ordered n)
    inside := fun n p child =>
      have lies := spans.inside n p child
      ⟨(outer n p).mp lies.1, (inner n p).mp lies.2⟩
    apart := fun p a b neighbours => (apart a b).mp (spans.apart p a b neighbours) }

end Tree

/-- Every offset of a source has a point, which counts what stands before it, and offsets compare
like their points. So do the nodes of every tree over the source. -/
theorem points_follow_offsets {s : Source} (small : s.Small) :
    (∀ b ≤ s.size, s.pointAt? b = some (s.pointAt b) ∧ (s.pointAt b).Counts s b) ∧
      (∀ a b, a ≤ s.size → b ≤ s.size → (a < b ↔ s.pointAt a < s.pointAt b)) ∧
      ∀ t : Tree, t.source = s → t.SpansFollow := by
  refine ⟨?_, ?_, ?_⟩
  · intro b inside
    have found := Source.pointAt?_eq inside
    rw [Source.pointAt, found]
    exact ⟨rfl, Source.pointAt_eq inside ▸ Source.counts_pointAt small inside⟩
  · exact fun a b ha hb => (Source.pointAt_lt_iff small ha hb).symm
  · rintro t rfl
    exact Tree.spansFollow_of_small small

/-- A group whose children are given backwards, over three lines of which one is empty. -/
def crossedFile : Tree :=
  (Tree.build "a\n\nbc" [.openHere "file", .openHere "group", .leafAt "letter" true ⟨3, 4⟩,
    .leafAt "letter" true ⟨0, 1⟩, .close, .close]).toOption.get (by decide +kernel)

def crossedNode (i : Fin 4) : crossedFile.Id := i.cast (by decide +kernel)

/-- The points on both newlines, behind them and at the end of the text. Over these the group ends
before it begins. -/
theorem points_follow_crossed :
    let s := crossedFile.source
    (List.range 6).map s.pointAt = [⟨0, 0⟩, ⟨0, 1⟩, ⟨1, 0⟩, ⟨2, 0⟩, ⟨2, 1⟩, ⟨2, 2⟩] ∧
      (⟨2, 0⟩ : Point).Counts s 3 ∧ (⟨0, 1⟩ : Point) < ⟨1, 0⟩ ∧
      ¬ (crossedFile.span (crossedNode 1)).WellOrdered ∧ ¬ crossedFile.SpansNest := by
  intro s
  have points : (List.range 6).map s.pointAt =
      [⟨0, 0⟩, ⟨0, 1⟩, ⟨1, 0⟩, ⟨2, 0⟩, ⟨2, 1⟩, ⟨2, 2⟩] := by decide +kernel
  have small : s.Small := by
    unfold Source.Small
    decide +kernel
  have size : s.size = 5 := by decide +kernel
  obtain ⟨counts, order, nodes⟩ := points_follow_offsets small
  have follow := nodes crossedFile rfl
  have backwards : ¬ (crossedFile.range (crossedNode 1)).start ≤
      (crossedFile.range (crossedNode 1)).stop := by decide +kernel
  have here : s.pointAt 1 = ⟨0, 1⟩ ∧ s.pointAt 2 = ⟨1, 0⟩ ∧ s.pointAt 3 = ⟨2, 0⟩ := by decide +kernel
  refine ⟨points, ?_, ?_, ?_, ?_⟩
  · exact here.2.2 ▸ (counts 3 (by omega)).2
  · have before := (order 1 2 (by omega) (by omega)).mp (by omega)
    rwa [here.1, here.2.1] at before
  · exact fun ordered => backwards ((follow.wellOrdered _).mp ordered)
  · exact fun nest => backwards ((follow.nested.mp nest).ordered _)

end ElmOverlay
