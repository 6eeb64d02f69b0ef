/-!
Places in a text as editors count them: a row and a column in bytes, both from zero and
both 32-bit words. Points are ordered row by row. A span runs between two points; nothing
forces its start to come first, so well-orderedness is a predicate of its own.
-/
namespace ElmOverlay

structure Point where
  row : UInt32
  column : UInt32
  deriving DecidableEq, Inhabited, Repr

namespace Point

def Before (p q : Point) : Prop := p.row < q.row ∨ (p.row = q.row ∧ p.column < q.column)

instance (p q : Point) : Decidable (Before p q) :=
  inferInstanceAs (Decidable (p.row < q.row ∨ (p.row = q.row ∧ p.column < q.column)))

instance : LT Point := ⟨Before⟩
instance : LE Point := ⟨fun p q => ¬ q < p⟩

instance (p q : Point) : Decidable (p < q) := inferInstanceAs (Decidable (Before p q))
instance (p q : Point) : Decidable (p ≤ q) := inferInstanceAs (Decidable (¬ q < p))

instance : Ord Point :=
  ⟨fun p q => if p < q then .lt else if q < p then .gt else .eq⟩

/-- The same column one row up; row 0 stays where it is. -/
def lineAbove (p : Point) : Point :=
  ⟨if p.row = 0 then 0 else p.row - 1, p.column⟩

protected def toString (p : Point) : String :=
  toString p.row.toNat ++ ":" ++ toString p.column.toNat

instance : ToString Point := ⟨Point.toString⟩

end Point

structure Span where
  start : Point
  stop : Point
  deriving DecidableEq, Inhabited, Repr

namespace Span

def WellOrdered (s : Span) : Prop := s.start ≤ s.stop

instance (s : Span) : Decidable s.WellOrdered := inferInstanceAs (Decidable (s.start ≤ s.stop))

/-- Both ends belong to the span. -/
def Contains (s : Span) (p : Point) : Prop := s.start ≤ p ∧ p ≤ s.stop

instance (s : Span) (p : Point) : Decidable (s.Contains p) :=
  inferInstanceAs (Decidable (s.start ≤ p ∧ p ≤ s.stop))

protected def toString (s : Span) : String := toString s.start ++ "-" ++ toString s.stop

instance : ToString Span := ⟨Span.toString⟩

end Span

end ElmOverlay
