import ElmOverlay.Proofs.WirePositions

/-!
Positions as the protocol means them. The line of a position counts the newlines before it and the
character counts the code units behind the last of them. The point of an offset between two
characters gives exactly that position, which the editor reads back as the offset. On a row of the
text the code units grow with the column, whatever the column counts, and stop at the end of the
row.
-/
namespace ElmOverlay

/-! ### Characters behind the last newline -/

/-- Whole lines end in a newline, if there are any. -/
theorem eq_newline_of_getLast? {whole : List (List Char)} {c : Char}
    (last : (joinLines whole []).getLast? = some c) : c = '\n' := by
  induction whole with
  | nil => cases last
  | cons line whole ih =>
    change (line ++ '\n' :: joinLines whole []).getLast? = some c at last
    rw [List.getLast?_append_cons] at last
    cases rest : joinLines whole [] with
    | nil =>
      rw [rest] at last
      exact (Option.some.inj last).symm
    | cons d cs =>
      rw [rest, List.getLast?_cons_cons, ← rest] at last
      exact ih last

theorem rtakeWhile_joinLines (whole : List (List Char)) {rest : List Char}
    (open_line : '\n' ∉ rest) : (joinLines whole rest).rtakeWhile (· ≠ '\n') = rest := by
  rw [← List.nil_append rest, ← joinLines_append, rtakeWhile_append_of_stop, List.nil_append]
  · intro c hc
    exact decide_eq_true fun newline => open_line (newline ▸ hc)
  · intro c last
    simpa using eq_newline_of_getLast? last

theorem count_joinLines {whole : List (List Char)} (clean : ∀ line ∈ whole, '\n' ∉ line)
    {rest : List Char} (open_line : '\n' ∉ rest) :
    (joinLines whole rest).count '\n' = whole.length := by
  induction whole with
  | nil => exact List.count_eq_zero_of_not_mem open_line
  | cons line whole ih =>
    have clean := List.forall_mem_cons.mp clean
    change (line ++ '\n' :: joinLines whole rest).count '\n' = whole.length + 1
    rw [List.count_append, List.count_cons_self, ih clean.2,
      List.count_eq_zero_of_not_mem clean.1, Nat.zero_add]

/-! ### Columns within a character -/

theorem utf16Before_of_reached {front back : List Char} {c : Char} {column : Nat}
    (after : byteLength front < column) (within : column ≤ byteLength front + c.utf8Size) :
    utf16Before column (front ++ c :: back) = utf16Length (front ++ [c]) := by
  induction front generalizing column with
  | nil =>
    rw [byteLength] at after within
    rw [List.nil_append, utf16Before, if_neg (by omega), show column - c.utf8Size = 0 by omega]
    cases back <;> rfl
  | cons d front ih =>
    rw [byteLength] at after within
    rw [List.cons_append, utf16Before, if_neg (by omega), ih (by omega) (by omega),
      List.cons_append, utf16Length]

namespace Protocol

/-! ### Places of offsets -/

/-- The place of an offset as the protocol counts it: newlines before it, and code units behind
the last of them. -/
def Position.Marks (p : Position) (s : Source) (offset : Nat) : Prop :=
  ∃ front back, s.text.toList = front ++ back ∧ byteLength front = offset ∧
    p.line.toNat = front.count '\n' ∧
    p.character.toNat = utf16Length (front.rtakeWhile (· ≠ '\n'))

/-- The offset that the editor reads from a position. -/
def Position.offset? (p : Position) (s : Source) : Option Nat :=
  (p.rest? s.text.toList).map fun rest => s.size - byteLength rest

instance : LT Position := ⟨fun p q => p.line < q.line ∨ p.line = q.line ∧ p.character < q.character⟩

theorem Position.lt_of_le_of_ne {p q : Position} (le : p ≤ q) (ne : p ≠ q) : p < q := by
  rcases le with line | ⟨line, character⟩
  · exact .inl line
  · refine .inr ⟨line, ?_⟩
    apply UInt32.lt_of_le_of_ne character
    intro same
    apply ne
    rw [Position.mk.injEq]
    exact ⟨line, same⟩

variable {s : Source}

theorem exists_front {offset : Nat} (boundary : s.OnBoundary offset) :
    ∃ front back, s.text.toList = front ++ back ∧ byteLength front = offset := by
  obtain ⟨front, back, split, rfl⟩ := exists_split boundary
  exact ⟨front.toList, back.toList, by rw [split, String.toList_append], byteLength_toList front⟩

theorem ofPoint_marks (small : s.Small) {offset : Nat} (boundary : s.OnBoundary offset) :
    (Position.ofPoint s (s.pointAt offset)).Marks s offset ∧
      (Position.ofPoint s (s.pointAt offset)).offset? s = some offset := by
  obtain ⟨front, back, split, rfl⟩ := exists_front boundary
  constructor
  · obtain ⟨whole, rest, rfl, clean, open_line⟩ := exists_joinLines front
    obtain ⟨line, character⟩ := ofPoint_joinLines small clean open_line split
    refine ⟨_, back, split, rfl, ?_, ?_⟩
    · rw [line, count_joinLines clean open_line]
    · rw [character, rtakeWhile_joinLines whole open_line]
  · rw [Position.offset?, rest?_ofPoint small split, Option.map_some, s.size_eq, split,
      byteLength_append, Nat.add_sub_cancel]

theorem ofPoint_lt (small : s.Small) {a b : Nat} (ha : s.OnBoundary a) (hb : s.OnBoundary b)
    (before : a < b) :
    Position.ofPoint s (s.pointAt a) < Position.ofPoint s (s.pointAt b) := by
  have inside : b ≤ s.size := by
    obtain ⟨front, back, split, rfl⟩ := exists_front hb
    rw [s.size_eq, split, byteLength_append]
    exact Nat.le_add_right _ _
  apply Position.lt_of_le_of_ne
  · exact ofPoint_le small (Source.pointAt_le small (Nat.le_of_lt before) inside)
      (row_pointAt_lt small inside)
  · intro same
    have first := (ofPoint_marks small ha).2
    rw [same, (ofPoint_marks small hb).2] at first
    exact Nat.ne_of_gt before (Option.some.inj first)

/-! ### Columns of a row -/

/-- The columns of a row of the text count the code units of the characters that begin before
them. -/
structure CountsUnits (s : Source) (row : UInt32) (line : List Char) : Prop where
  mono : ∀ c d : UInt32, c ≤ d → s.utf16Column ⟨row, c⟩ ≤ s.utf16Column ⟨row, d⟩
  bounded : ∀ c : UInt32, (s.utf16Column ⟨row, c⟩).toNat ≤ utf16Length line
  /-- A column within a character or right behind it counts the whole character. -/
  whole : ∀ (front back : List Char) (ch : Char) (c : UInt32), line = front ++ ch :: back →
    byteLength front < c.toNat → c.toNat ≤ byteLength front + ch.utf8Size →
    (s.utf16Column ⟨row, c⟩).toNat = utf16Length (front ++ [ch])

theorem countsUnits_of_row (small : s.Small) {row : UInt32} {line : List Char}
    (found : (splitOn (· = '\n') s.text.toList)[row.toNat]? = some line) :
    CountsUnits s row line where
  mono c d le := by
    rw [UInt32.le_iff_toNat_le, toNat_utf16Column small found, toNat_utf16Column small found]
    exact utf16Before_mono (UInt32.le_iff_toNat_le.mp le) line
  bounded c := by
    rw [toNat_utf16Column small found]
    exact utf16Before_le _ line
  whole front back ch c split after within := by
    rw [toNat_utf16Column small found, split]
    exact utf16Before_of_reached after within

/-- Positions on the wire are faithful. Those of offsets on character boundaries count what the
protocol counts, lead back to the offsets and ascend with them, and on every row of the text all
columns count whole characters of that row. -/
theorem positions_faithful (small : s.Small) :
    (∀ b, s.OnBoundary b →
      (Position.ofPoint s (s.pointAt b)).Marks s b ∧
      (Position.ofPoint s (s.pointAt b)).offset? s = some b) ∧
    (∀ a b, s.OnBoundary a → s.OnBoundary b → a < b →
      Position.ofPoint s (s.pointAt a) < Position.ofPoint s (s.pointAt b)) ∧
    ∀ (row : UInt32) (line : List Char),
      (splitOn (· = '\n') s.text.toList)[row.toNat]? = some line → CountsUnits s row line :=
  ⟨fun _ boundary => ofPoint_marks small boundary,
    fun _ _ ha hb before => ofPoint_lt small ha hb before,
    fun _ _ found => countsUnits_of_row small found⟩

/-- A character of two units in the second row: behind it the column is 2, and so it is within. -/
theorem positions_behind_pair :
    let s := Source.ofString "a\n😀é"
    Position.ofPoint s (s.pointAt 6) = ⟨1, 2⟩ ∧ (⟨1, 2⟩ : Position).Marks s 6 ∧
      (⟨1, 2⟩ : Position).offset? s = some 6 ∧
      Position.ofPoint s (s.pointAt 2) < ⟨1, 2⟩ ∧ (s.utf16Column ⟨1, 3⟩).toNat = 2 := by
  intro s
  have small : s.Small := by
    unfold Source.Small
    decide +kernel
  have here : Position.ofPoint s (s.pointAt 6) = ⟨1, 2⟩ := by decide +kernel
  have first : s.OnBoundary 2 := by decide +kernel
  have second : s.OnBoundary 6 := by decide +kernel
  obtain ⟨places, ascend, columns⟩ := positions_faithful small
  obtain ⟨marks, back⟩ := places 6 second
  have earlier := ascend 2 6 first second (by decide)
  rw [here] at marks back earlier
  have row : (splitOn (· = '\n') s.text.toList)[(1 : UInt32).toNat]? = some ['😀', 'é'] := by
    decide +kernel
  refine ⟨here, marks, back, earlier, ?_⟩
  exact (columns 1 _ row).whole [] ['é'] '😀' 3 rfl (by decide) (by decide)

end Protocol

end ElmOverlay
