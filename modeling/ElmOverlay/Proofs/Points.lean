import ElmOverlay.Text.Source
import Mathlib.Data.List.Induction

/-!
Points and byte offsets are ordered alike. The point that is looked up in the table of lines is the
one that is reached byte by byte. Rows and columns are 32-bit words, so the order is kept in texts
that are shorter than the words count.
-/
namespace ElmOverlay

/-! ### Points byte by byte -/

/-- The point behind a byte that stands at `p`. -/
def Point.next (p : Point) (byte : UInt8) : Point :=
  if byte = newlineByte then ⟨p.row + 1, 0⟩ else ⟨p.row, p.column + 1⟩

/-- The point behind a run of bytes. -/
def pointAfter (bytes : List UInt8) : Point := bytes.foldl Point.next ⟨0, 0⟩

/-! ### The table of lines -/

/-- The offsets at which the lines of a run of bytes begin. -/
def startsOf (bytes : List UInt8) : List Nat := (bytes.foldl StartScan.step {}).starts.toList

theorem toList_lineStarts (bytes : Array UInt8) :
    (lineStarts bytes).toList = startsOf bytes.toList := by
  rw [lineStarts, ← Array.foldl_toList]
  rfl

theorem offset_foldl_step (bytes : List UInt8) (s : StartScan) :
    (bytes.foldl StartScan.step s).offset = s.offset + bytes.length := by
  induction bytes generalizing s with
  | nil => rfl
  | cons b bytes ih =>
    rw [List.foldl_cons, ih, List.length_cons, Nat.add_comm bytes.length, ← Nat.add_assoc]
    rfl

theorem startsOf_concat (bytes : List UInt8) (b : UInt8) : startsOf (bytes ++ [b]) =
    startsOf bytes ++ if b = newlineByte then [bytes.length + 1] else [] := by
  have offset := offset_foldl_step bytes {}
  rw [startsOf, startsOf, List.foldl_append]
  generalize bytes.foldl StartScan.step {} = s at offset
  have here : s.offset = bytes.length := offset.trans (Nat.zero_add _)
  by_cases newline : b = newlineByte <;> simp [StartScan.step, newline, here]

/-- Later bytes only add starts that lie behind them. -/
theorem startsOf_append (front back : List UInt8) :
    ∃ later, startsOf (front ++ back) = startsOf front ++ later ∧ ∀ x ∈ later, front.length < x := by
  induction back using List.reverseRecOn with
  | nil => exact ⟨[], by simp, by simp⟩
  | append_singleton back b ih =>
    obtain ⟨later, split, above⟩ := ih
    rw [← List.append_assoc, startsOf_concat, split]
    by_cases newline : b = newlineByte
    · refine ⟨later ++ [(front ++ back).length + 1], by simp [newline], ?_⟩
      intro x hx
      rcases List.mem_append.mp hx with hx | hx
      · exact above x hx
      · rw [List.mem_singleton.mp hx, List.length_append]
        omega
    · exact ⟨later, by simp [newline], above⟩

theorem le_of_mem_startsOf {bytes : List UInt8} {x : Nat} (h : x ∈ startsOf bytes) :
    x ≤ bytes.length := by
  induction bytes using List.reverseRecOn with
  | nil =>
    obtain rfl : x = 0 := List.mem_singleton.mp h
    exact Nat.le_refl _
  | append_singleton bytes b ih =>
    rw [startsOf_concat] at h
    rw [List.length_append, List.length_singleton]
    rcases List.mem_append.mp h with old | new
    · exact Nat.le_succ_of_le (ih old)
    · split at new
      · exact Nat.le_of_eq (List.mem_singleton.mp new)
      · cases new

/-- The line that a run of bytes leaves open begins at `start`: behind its last newline, or at its
first byte if it has none. -/
structure OpensAt (bytes : List UInt8) (start : Nat) : Prop where
  le : start ≤ bytes.length
  opens : start = 0 ∨ bytes[start - 1]? = some newlineByte
  unbroken : newlineByte ∉ bytes.drop start

/-- The last start in the table is that of the open line, and the point behind the bytes counts
from there. -/
theorem exists_openLine (bytes : List UInt8) : ∃ whole start, startsOf bytes = whole ++ [start] ∧
    whole.length = bytes.count newlineByte ∧ OpensAt bytes start ∧
    pointAfter bytes = ⟨UInt32.ofNat whole.length, UInt32.ofNat (bytes.length - start)⟩ := by
  induction bytes using List.reverseRecOn with
  | nil => exact ⟨[], 0, rfl, rfl, ⟨Nat.le_refl _, .inl rfl, List.not_mem_nil⟩, rfl⟩
  | append_singleton bytes b ih =>
    obtain ⟨whole, start, starts, count, line, point⟩ := ih
    have next : pointAfter (bytes ++ [b]) = (pointAfter bytes).next b := by simp [pointAfter]
    rw [startsOf_concat, starts, next, point, List.count_append]
    by_cases newline : b = newlineByte
    · subst newline
      refine ⟨whole ++ [start], bytes.length + 1, by simp, by simp [count], ?_, ?_⟩
      · exact ⟨by simp, .inr (by simp), by simp⟩
      · simp [Point.next, UInt32.ofNat_add]
    · refine ⟨whole, start, by simp [newline], by simp [newline, count], ?_, ?_⟩
      · have le := line.le
        refine ⟨by simp; omega, line.opens.imp_right fun behind => ?_, ?_⟩
        · have early := (List.getElem?_eq_some_iff.mp behind).choose
          rw [List.getElem?_append_left early, behind]
        · rw [List.drop_append_of_le_length le]
          simp [line.unbroken, Ne.symm newline]
      · have le := line.le
        rw [Point.next, if_neg newline, List.length_append, List.length_singleton,
          Nat.sub_add_comm le, UInt32.ofNat_add]
        rfl

/-- A text whose points fit into words. -/
def Source.Small (s : Source) : Prop := s.size < UInt32.size

namespace Point

theorem lt_iff {p q : Point} : p < q ↔ p.row.toNat < q.row.toNat ∨
    p.row.toNat = q.row.toNat ∧ p.column.toNat < q.column.toNat := by
  change p.row < q.row ∨ _ ↔ _
  rw [UInt32.lt_iff_toNat_lt, UInt32.lt_iff_toNat_lt, ← UInt32.toNat_inj]

theorem le_iff {p q : Point} : p ≤ q ↔ p.row.toNat < q.row.toNat ∨
    p.row.toNat = q.row.toNat ∧ p.column.toNat ≤ q.column.toNat := by
  change ¬ q < p ↔ _
  rw [lt_iff]
  omega

theorem lt_of_lt_of_le {p q r : Point} (h : p < q) (k : q ≤ r) : p < r := by
  rw [lt_iff] at *
  rw [le_iff] at k
  omega

theorem lt_of_le_of_lt {p q r : Point} (h : p ≤ q) (k : q < r) : p < r := by
  rw [lt_iff] at *
  rw [le_iff] at h
  omega

theorem le_of_lt {p q : Point} (h : p < q) : p ≤ q := by
  rw [lt_iff] at h
  rw [le_iff]
  omega

theorem le_refl (p : Point) : p ≤ p := by
  rw [le_iff]
  omega

theorem le_trans {p q r : Point} (h : p ≤ q) (k : q ≤ r) : p ≤ r := by
  rw [le_iff] at *
  omega

/-- What a point counts: at most the bytes before it. -/
def total (p : Point) : Nat := p.row.toNat + p.column.toNat

theorem next_after (p : Point) (byte : UInt8) (room : p.total + 1 < UInt32.size) :
    p < p.next byte ∧ (p.next byte).total ≤ p.total + 1 := by
  unfold total at room
  unfold next total
  split
  · have row : (p.row + 1).toNat = p.row.toNat + 1 := by
      rw [UInt32.toNat_add, UInt32.toNat_one, Nat.mod_eq_of_lt]
      exact Nat.lt_of_le_of_lt (by omega) room
    rw [lt_iff, row]
    simp
  · have column : (p.column + 1).toNat = p.column.toNat + 1 := by
      rw [UInt32.toNat_add, UInt32.toNat_one, Nat.mod_eq_of_lt]
      exact Nat.lt_of_le_of_lt (by omega) room
    rw [lt_iff, column]
    simp
    omega

theorem foldl_next_after (bytes : List UInt8) (p : Point)
    (room : p.total + bytes.length < UInt32.size) :
    (bytes ≠ [] → p < bytes.foldl next p) ∧
      (bytes.foldl next p).total ≤ p.total + bytes.length := by
  induction bytes generalizing p with
  | nil => exact ⟨fun h => absurd rfl h, Nat.le_refl _⟩
  | cons b bs ih =>
    rw [List.length_cons] at room
    have ⟨later, small⟩ := next_after p b (by omega)
    have ⟨rest, bound⟩ := ih (p.next b) (by omega)
    rw [List.foldl_cons, List.length_cons]
    refine ⟨fun _ => ?_, by omega⟩
    cases bs with
    | nil => exact later
    | cons c cs => exact lt_of_lt_of_le later (le_of_lt (rest (by simp)))

end Point

theorem total_pointAfter (bytes : List UInt8) (room : bytes.length < UInt32.size) :
    (pointAfter bytes).total ≤ bytes.length := by
  have bound := (Point.foldl_next_after bytes ⟨0, 0⟩ (by simpa [Point.total] using room)).2
  simpa [pointAfter, Point.total] using bound

theorem pointAfter_lt_append (front back : List UInt8) (some_byte : back ≠ [])
    (room : (front ++ back).length < UInt32.size) :
    pointAfter front < pointAfter (front ++ back) := by
  rw [List.length_append] at room
  have bound := total_pointAfter front (by omega)
  rw [pointAfter, pointAfter, List.foldl_append]
  exact (Point.foldl_next_after back (pointAfter front) (by omega)).1 some_byte

namespace Source

variable {s : Source}

/-- The search finds one line more than have ended before an offset. The last of them has a start,
from which the point that is reached byte by byte counts. -/
theorem exists_line {offset : Nat} (inside : offset ≤ s.size) :
    ∃ row start, partitionPoint s.lineStarts (· ≤ offset) = row + 1 ∧
      s.lineStarts[row]? = some start ∧ start ≤ offset ∧
      pointAfter (s.text.toByteArray.data.toList.take offset) =
        ⟨UInt32.ofNat row, UInt32.ofNat (offset - start)⟩ := by
  rw [size, s.bytes_eq] at inside
  generalize hbytes : s.text.toByteArray.data.toList = bytes
  have length : (bytes.take offset).length = offset := by
    rw [List.length_take, ← hbytes]
    exact Nat.min_eq_left inside
  obtain ⟨later, starts, above⟩ := startsOf_append (bytes.take offset) (bytes.drop offset)
  obtain ⟨whole, start, open_line, -, line, point⟩ := exists_openLine (bytes.take offset)
  have table : s.lineStarts.toList = whole ++ [start] ++ later := by
    rw [s.lineStarts_eq, toList_lineStarts, hbytes, ← open_line, ← starts, List.take_append_drop]
  have le := line.le
  rw [length] at le point
  refine ⟨whole.length, start, ?_, ?_, le, point⟩
  · rw [partitionPoint_eq table]
    · simp
    · intro x hx
      rw [← open_line] at hx
      simpa [length] using le_of_mem_startsOf hx
    · intro x hx
      simpa [length] using above x hx
  · rw [← Array.getElem?_toList, table]
    simp

/-- The search for the line of an offset in the text does not fail, and counts to the point that is
reached byte by byte. -/
theorem pointAt?_eq {offset : Nat} (inside : offset ≤ s.size) :
    s.pointAt? offset = some (pointAfter (s.text.toByteArray.data.toList.take offset)) := by
  obtain ⟨row, start, found, begins, le, point⟩ := exists_line inside
  simp [pointAt?, found, begins, le, point, Nat.toUInt32]

theorem pointAt_eq {offset : Nat} (inside : offset ≤ s.size) :
    s.pointAt offset = pointAfter (s.text.toByteArray.data.toList.take offset) := by
  rw [pointAt, pointAt?_eq inside]
  rfl

theorem pointAt_lt (small : s.Small) {a b : Nat} (h : a < b) (inside : b ≤ s.size) :
    s.pointAt a < s.pointAt b := by
  rw [pointAt_eq (Nat.le_trans (Nat.le_of_lt h) inside), pointAt_eq inside]
  rw [Small] at small
  rw [size, s.bytes_eq] at inside small
  generalize hbytes : s.text.toByteArray.data.toList = bytes
  have length : bytes.length = s.text.toByteArray.size := by
    rw [← hbytes]
    rfl
  have split : bytes.take b = bytes.take a ++ (bytes.take b).drop a := by
    conv => lhs; rw [← List.take_append_drop a (bytes.take b)]
    rw [List.take_take, Nat.min_eq_left (Nat.le_of_lt h)]
  rw [split]
  apply pointAfter_lt_append
  · apply List.ne_nil_of_length_pos
    rw [List.length_drop, List.length_take]
    omega
  · rw [← split, List.length_take]
    omega

theorem pointAt_le (small : s.Small) {a b : Nat} (h : a ≤ b) (inside : b ≤ s.size) :
    s.pointAt a ≤ s.pointAt b := by
  rcases Nat.eq_or_lt_of_le h with same | less
  · subst same
    exact Point.le_refl _
  · exact Point.le_of_lt (pointAt_lt small less inside)

theorem pointAt_lt_iff (small : s.Small) {a b : Nat} (ha : a ≤ s.size) (hb : b ≤ s.size) :
    s.pointAt a < s.pointAt b ↔ a < b := by
  constructor
  · intro less
    apply Nat.lt_of_not_le
    intro le
    exact pointAt_le small le ha less
  · exact fun less => pointAt_lt small less hb

theorem pointAt_le_iff (small : s.Small) {a b : Nat} (ha : a ≤ s.size) (hb : b ≤ s.size) :
    s.pointAt a ≤ s.pointAt b ↔ a ≤ b := by
  rw [← Nat.not_lt, ← pointAt_lt_iff small hb ha]
  rfl

end Source

end ElmOverlay
