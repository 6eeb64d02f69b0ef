import ElmOverlay.Proofs.Lines
import ElmOverlay.Protocol.Range

/-!
Places as the editor reads them. The editor knows lines and UTF-16 code units and no bytes. The
position that stands for an offset on a character boundary leads it back to that offset, so a
range selects in the editor what it covers in the source.
-/
namespace ElmOverlay

/-! ### What the editor reads -/

/-- The characters from the start of a line on. -/
def fromLine : Nat → List Char → Option (List Char)
  | 0, cs => some cs
  | _ + 1, [] => none
  | n + 1, c :: cs => if c = '\n' then fromLine n cs else fromLine (n + 1) cs

/-- The characters of a line behind so many code units, and all that follows the line. Nothing,
if the line is shorter or the units end within a character. -/
def fromUnit : Nat → List Char → Option (List Char)
  | 0, cs => some cs
  | _ + 1, [] => none
  | n + 1, c :: cs =>
    if c = '\n' ∨ n + 1 < utf16Width c then none else fromUnit (n + 1 - utf16Width c) cs

namespace Protocol

def Position.rest? (p : Position) (cs : List Char) : Option (List Char) :=
  (fromLine p.line.toNat cs).bind (fromUnit p.character.toNat)

end Protocol

theorem fromLine_succ {line : List Char} (clean : '\n' ∉ line) (n : Nat) (cs : List Char) :
    fromLine (n + 1) (line ++ '\n' :: cs) = fromLine n cs := by
  induction line with
  | nil => simp [fromLine]
  | cons c line ih =>
    rw [List.mem_cons, not_or] at clean
    obtain ⟨other, clean⟩ := clean
    rw [List.cons_append, fromLine, if_neg (Ne.symm other), ih clean]

theorem fromLine_joinLines {whole : List (List Char)} (clean : ∀ line ∈ whole, '\n' ∉ line)
    (rest : List Char) : fromLine whole.length (joinLines whole rest) = some rest := by
  induction whole with
  | nil => simp [joinLines, fromLine]
  | cons line whole ih =>
    have clean := List.forall_mem_cons.mp clean
    rw [List.length_cons, joinLines, List.foldr_cons, fromLine_succ clean.1]
    exact ih clean.2

theorem fromUnit_utf16Length {line : List Char} (clean : '\n' ∉ line) (more : List Char) :
    fromUnit (utf16Length line) (line ++ more) = some more := by
  induction line with
  | nil => cases more <;> rfl
  | cons c line ih =>
    rw [List.mem_cons, not_or] at clean
    have width := (utf16Width_le c).1
    obtain ⟨n, sum⟩ : ∃ n, utf16Length (c :: line) = n + 1 :=
      ⟨utf16Length (c :: line) - 1, by rw [utf16Length]; omega⟩
    have rest : n + 1 - utf16Width c = utf16Length line := by
      rw [← sum]
      simp [utf16Length]
    have fits : ¬ (c = '\n' ∨ n + 1 < utf16Width c) := by
      rw [← sum]
      simp [utf16Length, Ne.symm clean.1]
    rw [sum, List.cons_append, fromUnit, if_neg fits, rest, ih clean.2]

/-! ### From an offset to a position and back -/

variable {s : Source}

theorem Source.size_eq (s : Source) : s.size = byteLength s.text.toList := by
  rw [← length_flatMap_utf8EncodeChar, ← toList_toByteArray, Source.size, s.bytes_eq]
  rfl

/-- The position behind some whole lines and the start of one more counts the lines and the code
units of the start. -/
theorem ofPoint_joinLines (small : s.Small) {whole : List (List Char)} {rest back : List Char}
    (clean : ∀ line ∈ whole, '\n' ∉ line) (open_line : '\n' ∉ rest)
    (split : s.text.toList = joinLines whole rest ++ back) :
    let p := Protocol.Position.ofPoint s (s.pointAt (byteLength (joinLines whole rest)))
    p.line.toNat = whole.length ∧ p.character.toNat = utf16Length rest := by
  intro p
  have size : s.size = byteLength (joinLines whole rest) + byteLength back := by
    rw [Source.size_eq, split, byteLength_append]
  have bound := length_joinLines_le whole rest
  have units := utf16Length_le rest
  rw [Source.Small] at small
  have point : s.pointAt (byteLength (joinLines whole rest)) =
      ⟨UInt32.ofNat whole.length, UInt32.ofNat (byteLength rest)⟩ := by
    rw [Source.pointAt_eq (by omega), toList_toByteArray, split, List.flatMap_append,
      ← length_flatMap_utf8EncodeChar, List.take_left, pointAfter,
      foldl_next_joinLines clean open_line]
    simp
  have row : (UInt32.ofNat whole.length).toNat = whole.length :=
    UInt32.toNat_ofNat_of_lt' (by omega)
  have column : (UInt32.ofNat (byteLength rest)).toNat = byteLength rest :=
    UInt32.toNat_ofNat_of_lt' (by omega)
  have line : s.lines[whole.length]? = some (rest ++ back.takeWhile (· ≠ '\n')) := by
    have before : ∀ c ∈ rest, decide (c ≠ '\n') = true := by
      intro c hc
      exact decide_eq_true fun newline => open_line (newline ▸ hc)
    rw [s.lines_eq, split, joinLines_append, getElem?_splitLines clean,
      List.takeWhile_append_of_pos before]
  have character : (s.utf16Column ⟨UInt32.ofNat whole.length,
      UInt32.ofNat (byteLength rest)⟩).toNat = utf16Length rest := by
    rw [Source.utf16Column, row, line]
    change (utf16Before (UInt32.ofNat (byteLength rest)).toNat _).toUInt32.toNat = _
    rw [column, utf16Before_byteLength]
    exact UInt32.toNat_ofNat_of_lt' (by omega)
  simp only [p, point, Protocol.Position.ofPoint]
  exact ⟨row, character⟩

/-- The position behind some characters, as the editor reads it: exactly the characters that
follow them are left. -/
theorem rest?_ofPoint (small : s.Small) {front back : List Char}
    (split : s.text.toList = front ++ back) :
    (Protocol.Position.ofPoint s (s.pointAt (byteLength front))).rest? s.text.toList =
      some back := by
  obtain ⟨whole, rest, rfl, clean, open_line⟩ := exists_joinLines front
  obtain ⟨line, character⟩ := ofPoint_joinLines small clean open_line split
  rw [Protocol.Position.rest?, line, character, split, joinLines_append,
    fromLine_joinLines clean, Option.bind_some, fromUnit_utf16Length open_line]

theorem slice?_eq_some {r : ByteRange} {part : String} : s.slice? r = some part ↔
    s.text.toByteArray.extract r.start r.stop = part.toByteArray := by
  rw [Source.slice?, s.bytes_eq, String.fromUTF8?]
  constructor
  · intro h
    split at h
    · cases h
      rfl
    · cases h
  · intro h
    rw [dif_pos (h ▸ part.isValidUTF8), Option.some.injEq, ← String.toByteArray_inj]
    exact h

/-- Between two characters a text falls into two. -/
theorem exists_split {offset : Nat} (boundary : s.OnBoundary offset) :
    ∃ front back : String, s.text = front ++ back ∧ offset = front.toByteArray.size := by
  obtain ⟨front, back, split, here⟩ := String.Pos.Raw.isValid_iff_exists_append.mp
    (String.Pos.Raw.isValid_eq_true_iff.mp boundary)
  exact ⟨front, back, split, congrArg String.Pos.Raw.byteIdx here⟩

end ElmOverlay
