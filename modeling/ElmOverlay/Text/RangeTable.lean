import ElmOverlay.Text.Halving
import ElmOverlay.Text.Split

/-!
Tables over code points. They are written in words parted by blanks, numbers in base 16: `A`
is one code point and `A-B` all from `A` to `B`. The ranges of a table ascend and are
disjoint, so look-up halves the table.
-/
namespace ElmOverlay

/-- Values on ranges of code points, each given by its first and last one. -/
structure RangeTable (α : Type) where
  ranges : Array (Nat × Nat × α)

abbrev CodePointSet := RangeTable Unit

namespace RangeTable

/-- A number in base 16 with capital digits. -/
def hexNumber (cs : List Char) : Nat :=
  cs.foldl (fun n c => n * 16 + if c ≤ '9' then c.toNat - 48 else c.toNat - 55) 0

def words (lines : List String) : List (List Char) :=
  lines.flatMap fun line => splitOn (· = ' ') line.toList

def range (word : List Char) : Nat × Nat :=
  match splitOn (· = '-') word with
  | [first, last] => (hexNumber first, hexNumber last)
  | _ => (hexNumber word, hexNumber word)

variable {α : Type}

/-- The ranges of the words, all with one value. -/
def entries (value : α) (lines : List String) : List (Nat × Nat × α) :=
  (words lines).map fun word => ((range word).1, (range word).2, value)

def ofEntries (entries : List (Nat × Nat × α)) : RangeTable α :=
  ⟨(entries.mergeSort fun a b => a.1 ≤ b.1).toArray⟩

def get? (table : RangeTable α) (c : Char) : Option α :=
  match table.ranges[partitionPoint table.ranges (·.1 ≤ c.toNat) - 1]? with
  | some (first, last, value) =>
    if first ≤ c.toNat ∧ c.toNat ≤ last then some value else none
  | none => none

theorem mem_ranges_of_get? {table : RangeTable α} {c : Char} {value : α}
    (h : table.get? c = some value) :
    ∃ first last, (first, last, value) ∈ table.ranges ∧ first ≤ c.toNat ∧ c.toNat ≤ last := by
  unfold get? at h
  split at h
  next first last v found =>
    split at h
    next bounds =>
      obtain rfl := Option.some.inj h
      exact ⟨first, last, Array.mem_of_getElem? found, bounds⟩
    next => simp at h
  next => simp at h

def contains (set : CodePointSet) (c : Char) : Bool := (set.get? c).isSome

end RangeTable

def CodePointSet.ofWords (lines : List String) : CodePointSet :=
  .ofEntries (RangeTable.entries () lines)

end ElmOverlay
