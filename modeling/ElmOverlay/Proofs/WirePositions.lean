import ElmOverlay.Proofs.EditorPositions

/-!
Points of a text on their way to the editor. Conversion keeps the order of points, and the position
of a point whose row the text has lies in that line or at its end. The column of the point need not
have been measured on that line: whatever it counts, only characters of the line are counted for it.
-/
namespace ElmOverlay

/-! ### Rows -/

theorem row_foldl_next (bytes : List UInt8) (p : Point) :
    (bytes.foldl Point.next p).row = p.row + UInt32.ofNat (bytes.count newlineByte) := by
  induction bytes generalizing p with
  | nil => simp
  | cons b bytes ih =>
    rw [List.foldl_cons, ih, List.count_cons]
    unfold Point.next
    by_cases newline : b = newlineByte
    · simp [newline, UInt32.ofNat_add, UInt32.add_assoc, UInt32.add_comm 1]
    · simp [newline]

theorem count_newlineByte (cs : List Char) :
    (cs.flatMap String.utf8EncodeChar).count newlineByte = cs.count '\n' := by
  induction cs with
  | nil => rfl
  | cons c cs ih =>
    rw [List.flatMap_cons, List.count_append, ih, List.count_cons]
    by_cases newline : c = '\n'
    · subst newline
      have byte : (String.utf8EncodeChar '\n').count newlineByte = 1 := by decide
      rw [byte, if_pos (by simp), Nat.add_comm]
    · rw [List.count_eq_zero_of_not_mem (newlineByte_not_mem newline), if_neg (by simp [newline]),
        Nat.zero_add, Nat.add_zero]

def lineCount (text : String) : Nat := (splitOn (· = '\n') text.toList).length

theorem lineCount_eq (text : String) :
    lineCount text = text.toByteArray.data.toList.count newlineByte + 1 := by
  rw [lineCount, length_splitOn, toList_toByteArray, count_newlineByte]
  rfl

/-- The row of a point counts the newlines before it, and the text has one line more than it has
newlines. -/
theorem row_pointAt_lt {s : Source} (small : s.Small) {offset : Nat} (inside : offset ≤ s.size) :
    (s.pointAt offset).row.toNat < lineCount s.text := by
  have before : (s.text.toByteArray.data.toList.take offset).count newlineByte ≤
      s.text.toByteArray.data.toList.count newlineByte :=
    (List.take_sublist _ _).count_le newlineByte
  have length : s.text.toByteArray.data.toList.count newlineByte ≤ s.size := by
    rw [Source.size, s.bytes_eq]
    exact List.count_le_length
  rw [Source.Small] at small
  rw [Source.pointAt_eq inside, pointAfter, row_foldl_next, lineCount_eq]
  simp only [UInt32.zero_add]
  rw [UInt32.toNat_ofNat_of_lt' (by omega)]
  omega

/-! ### Columns -/

theorem utf16Before_le (column : Nat) (line : List Char) :
    utf16Before column line ≤ utf16Length line := by
  induction line generalizing column with
  | nil => exact Nat.le_refl _
  | cons c line ih =>
    rw [utf16Before, utf16Length]
    split
    · exact Nat.zero_le _
    · exact Nat.add_le_add_left (ih _) _

theorem utf16Before_mono {column later : Nat} (h : column ≤ later) (line : List Char) :
    utf16Before column line ≤ utf16Before later line := by
  induction line generalizing column later with
  | nil => exact Nat.le_refl _
  | cons c line ih =>
    rw [utf16Before, utf16Before]
    split
    · exact Nat.zero_le _
    · rw [if_neg (by omega)]
      exact Nat.add_le_add_left (ih (by omega)) _

theorem byteLength_le_of_mem_splitOn {isSeparator : Char → Bool} {cs line : List Char}
    (piece : line ∈ splitOn isSeparator cs) : byteLength line ≤ byteLength cs := by
  induction cs generalizing line with
  | nil =>
    obtain rfl : line = [] := by simpa [splitOn] using piece
    exact Nat.le_refl _
  | cons c cs ih =>
    obtain ⟨first, rest, pieces⟩ := List.exists_cons_of_ne_nil (splitOn_ne_nil isSeparator cs)
    rw [pieces] at ih
    have whole := ih (List.mem_cons_self (a := first))
    simp only [splitOn, pieces, List.headD_cons, List.tail_cons] at piece
    rw [byteLength]
    split at piece
    · rcases List.mem_cons.mp piece with rfl | piece
      · exact Nat.zero_le _
      · exact Nat.le_trans (ih piece) (Nat.le_add_left _ _)
    · rcases List.mem_cons.mp piece with rfl | later
      · exact Nat.add_le_add_left whole _
      · exact Nat.le_trans (ih (List.mem_cons_of_mem _ later)) (Nat.le_add_left _ _)

namespace Protocol

/-- A position in a line of a text, or at the end of one. -/
def Position.InText (p : Position) (text : String) : Prop :=
  ∃ line, (splitOn (· = '\n') text.toList)[p.line.toNat]? = some line ∧
    p.character.toNat ≤ utf16Length line

/-- Positions are ordered line by line. -/
instance : LE Position := ⟨fun p q => p.line < q.line ∨ p.line = q.line ∧ p.character ≤ q.character⟩

variable {s : Source} {p q : Point}

/-- On a row that the text has, a column counts units of that line, and they fit into 32 bits. -/
theorem toNat_utf16Column (small : s.Small) {line : List Char}
    (row : (splitOn (· = '\n') s.text.toList)[p.row.toNat]? = some line) :
    (s.utf16Column p).toNat = utf16Before p.column.toNat line := by
  have short := byteLength_le_of_mem_splitOn (List.mem_of_getElem? row)
  have units := Nat.le_trans (utf16Before_le p.column.toNat line) (utf16Length_le line)
  rw [Source.Small, s.size_eq] at small
  have found : s.lines[p.row.toNat]? = some line := by
    rw [s.lines_eq, ← Array.getElem?_toList, toList_splitLines, row]
  rw [Source.utf16Column, found]
  exact UInt32.toNat_ofNat_of_lt' (by omega)

theorem ofPoint_inText (small : s.Small) (row : p.row.toNat < lineCount s.text) :
    (Position.ofPoint s p).InText s.text := by
  have line := List.getElem?_eq_getElem row
  refine ⟨_, line, ?_⟩
  rw [Position.ofPoint, toNat_utf16Column small line]
  exact utf16Before_le _ _

theorem ofPoint_le (small : s.Small) (ordered : p ≤ q) (row : q.row.toNat < lineCount s.text) :
    Position.ofPoint s p ≤ Position.ofPoint s q := by
  rcases Point.le_iff.mp ordered with earlier | ⟨same, column⟩
  · exact .inl (UInt32.lt_iff_toNat_lt.mpr earlier)
  · obtain ⟨line, found⟩ : ∃ line,
        (splitOn (· = '\n') s.text.toList)[q.row.toNat]? = some line :=
      ⟨_, List.getElem?_eq_getElem row⟩
    refine .inr ⟨UInt32.toNat_inj.mp same, ?_⟩
    rw [UInt32.le_iff_toNat_le, Position.ofPoint, Position.ofPoint, toNat_utf16Column small found,
      toNat_utf16Column small (same ▸ found)]
    exact utf16Before_mono column line

end Protocol

end ElmOverlay
