import ElmOverlay.Proofs.Points
import ElmOverlay.Text.Split
import Mathlib.Data.List.DropRight

/-!
The lines of a text in three measures. A run of characters is some whole lines and the start of
one more. The row of the point behind it counts the lines, the column counts the bytes of the
start, and the line table has the start in the place of the row.
-/
namespace ElmOverlay

/-! ### Stretches of a list -/

section Stretch

variable {α : Type} {p : α → Bool} {front back : List α}

theorem takeWhile_append_of_stop (all : ∀ x ∈ front, p x = true)
    (stop : ∀ x ∈ back.head?, ¬ p x = true) : (front ++ back).takeWhile p = front := by
  rw [List.takeWhile_append_of_pos all]
  cases back with
  | nil => simp
  | cons x back => simp [stop x rfl]

theorem rtakeWhile_append_of_stop (all : ∀ x ∈ back, p x = true)
    (stop : ∀ x ∈ front.getLast?, ¬ p x = true) : (front ++ back).rtakeWhile p = back := by
  rw [List.rtakeWhile, List.reverse_append, takeWhile_append_of_stop, List.reverse_reverse]
  · simpa using all
  · simpa using stop

end Stretch

/-! ### Whole lines -/

/-- Whole lines and then the start of one more. -/
def joinLines (whole : List (List Char)) (rest : List Char) : List Char :=
  whole.foldr (fun line cs => line ++ '\n' :: cs) rest

theorem joinLines_append (whole : List (List Char)) (rest more : List Char) :
    joinLines whole rest ++ more = joinLines whole (rest ++ more) := by
  induction whole with
  | nil => rfl
  | cons line whole ih =>
    rw [joinLines, List.foldr_cons, List.append_assoc, List.cons_append]
    exact congrArg (line ++ '\n' :: ·) ih

/-- Every run of characters is some whole lines and the start of one more. -/
theorem exists_joinLines (cs : List Char) : ∃ whole rest, cs = joinLines whole rest ∧
    (∀ line ∈ whole, '\n' ∉ line) ∧ '\n' ∉ rest := by
  induction cs with
  | nil => exact ⟨[], [], rfl, by simp, by simp⟩
  | cons c cs ih =>
    obtain ⟨whole, rest, rfl, lines, open_line⟩ := ih
    by_cases newline : c = '\n'
    · subst newline
      refine ⟨[] :: whole, rest, rfl, ?_, open_line⟩
      simpa using lines
    · have first : ∀ line : List Char, '\n' ∉ line → '\n' ∉ c :: line := by
        intro line clean
        simp [clean, Ne.symm newline]
      cases whole with
      | nil => exact ⟨[], c :: rest, rfl, by simp, first rest open_line⟩
      | cons line whole =>
        have clean := List.forall_mem_cons.mp lines
        refine ⟨(c :: line) :: whole, rest, rfl, ?_, open_line⟩
        exact List.forall_mem_cons.mpr ⟨first line clean.1, clean.2⟩

theorem toList_splitLines (cs : List Char) :
    (splitLines cs).toList = splitOn (· = '\n') cs := by
  suffices ∀ s : LineScan, ((cs.foldl LineScan.step s).done.push
      (cs.foldl LineScan.step s).current.reverse).toList =
        s.done.toList ++ (s.current.reverse ++ (splitOn (· = '\n') cs).headD []) ::
          (splitOn (· = '\n') cs).tail by
    obtain ⟨line, lines, pieces⟩ := List.exists_cons_of_ne_nil (splitOn_ne_nil (· = '\n') cs)
    rw [splitLines, this {}, pieces]
    rfl
  induction cs with
  | nil => simp [splitOn]
  | cons c cs ih =>
    intro s
    obtain ⟨line, lines, pieces⟩ := List.exists_cons_of_ne_nil (splitOn_ne_nil (· = '\n') cs)
    rw [List.foldl_cons, ih]
    by_cases newline : c = '\n' <;> simp [LineScan.step, splitOn, newline, pieces]

theorem splitOn_line {line : List Char} (clean : '\n' ∉ line) (cs : List Char) :
    splitOn (· = '\n') (line ++ '\n' :: cs) = line :: splitOn (· = '\n') cs := by
  induction line with
  | nil => simp [splitOn]
  | cons c line ih =>
    rw [List.mem_cons, not_or] at clean
    simp [splitOn, ih clean.2, Ne.symm clean.1]

theorem splitOn_joinLines {whole : List (List Char)} (clean : ∀ line ∈ whole, '\n' ∉ line)
    (rest : List Char) :
    splitOn (· = '\n') (joinLines whole rest) = whole ++ splitOn (· = '\n') rest := by
  induction whole with
  | nil => rfl
  | cons line whole ih =>
    have clean := List.forall_mem_cons.mp clean
    rw [joinLines, List.foldr_cons, splitOn_line clean.1, List.cons_append]
    exact congrArg (line :: ·) (ih clean.2)

theorem head?_splitOn (cs : List Char) :
    (splitOn (· = '\n') cs).head? = some (cs.takeWhile (· ≠ '\n')) := by
  induction cs with
  | nil => rfl
  | cons c cs ih =>
    obtain ⟨line, lines, pieces⟩ := List.exists_cons_of_ne_nil (splitOn_ne_nil (· = '\n') cs)
    rw [pieces] at ih
    by_cases newline : c = '\n'
    · simp [splitOn, newline]
    · have first := Option.some.inj ih
      simp [splitOn, newline, pieces, first]

theorem getElem?_splitLines {whole : List (List Char)} (clean : ∀ line ∈ whole, '\n' ∉ line)
    (rest : List Char) : (splitLines (joinLines whole rest))[whole.length]? =
      some (rest.takeWhile (· ≠ '\n')) := by
  rw [← Array.getElem?_toList, toList_splitLines, splitOn_joinLines clean,
    List.getElem?_append_right (Nat.le_refl _), Nat.sub_self, ← List.head?_eq_getElem?,
    head?_splitOn]

/-! ### Bytes and code units -/

def byteLength : List Char → Nat
  | [] => 0
  | c :: cs => c.utf8Size + byteLength cs

def utf16Length : List Char → Nat
  | [] => 0
  | c :: cs => utf16Width c + utf16Length cs

theorem length_flatMap_utf8EncodeChar (cs : List Char) :
    (cs.flatMap String.utf8EncodeChar).length = byteLength cs := by
  induction cs with
  | nil => rfl
  | cons c cs ih =>
    rw [List.flatMap_cons, List.length_append, String.length_utf8EncodeChar, ih, byteLength]

theorem utf16Width_le (c : Char) : 0 < utf16Width c ∧ utf16Width c ≤ c.utf8Size := by
  unfold utf16Width Char.utf8Size Char.toNat
  simp only [UInt32.le_iff_toNat_le]
  split <;> grind

theorem utf16Length_le (cs : List Char) : utf16Length cs ≤ byteLength cs := by
  induction cs with
  | nil => exact Nat.le_refl _
  | cons c cs ih =>
    have width := (utf16Width_le c).2
    rw [utf16Length, byteLength]
    omega

theorem utf16Before_byteLength (line more : List Char) :
    utf16Before (byteLength line) (line ++ more) = utf16Length line := by
  induction line with
  | nil => cases more <;> rfl
  | cons c line ih =>
    have solid : 0 < c.utf8Size := Char.utf8Size_pos c
    rw [byteLength, utf16Length, List.cons_append, utf16Before, if_neg (by omega),
      Nat.add_sub_cancel_left, ih]

theorem toList_toByteArray (text : String) :
    text.toByteArray.data.toList = text.toList.flatMap String.utf8EncodeChar := by
  rw [← String.utf8Encode_toList, List.utf8Encode]
  simp

theorem byteLength_append (front back : List Char) :
    byteLength (front ++ back) = byteLength front + byteLength back := by
  induction front with
  | nil => simp [byteLength]
  | cons c front ih => rw [List.cons_append, byteLength, byteLength, ih, Nat.add_assoc]

theorem byteLength_toList (text : String) : byteLength text.toList = text.toByteArray.size := by
  rw [← length_flatMap_utf8EncodeChar, ← toList_toByteArray]
  rfl

theorem length_joinLines_le (whole : List (List Char)) (rest : List Char) :
    whole.length + byteLength rest ≤ byteLength (joinLines whole rest) := by
  induction whole with
  | nil => simp [joinLines]
  | cons line whole ih =>
    have solid : 0 < Char.utf8Size '\n' := Char.utf8Size_pos '\n'
    change _ ≤ byteLength (line ++ '\n' :: joinLines whole rest)
    rw [byteLength_append, byteLength, List.length_cons]
    omega

/-! ### Points -/

theorem newlineByte_not_mem {c : Char} (other : c ≠ '\n') :
    newlineByte ∉ String.utf8EncodeChar c := by
  have code : c.val.toNat ≠ 10 := by
    intro h
    exact other (Char.toNat_inj.mp h)
  have byte : ∀ n : Nat, n % 256 ≠ 10 → ¬ newlineByte = UInt8.ofNat n := by
    intro n hn same
    have := congrArg UInt8.toNat same
    rw [UInt8.toNat_ofNat'] at this
    exact hn this.symm
  rw [String.utf8EncodeChar]
  generalize c.val.toNat = v at code
  split
  · rw [List.mem_singleton]
    exact byte v (by omega)
  split
  · simp only [List.mem_cons, List.not_mem_nil, or_false, not_or]
    exact ⟨byte _ (by omega), byte _ (by omega)⟩
  split
  · simp only [List.mem_cons, List.not_mem_nil, or_false, not_or]
    exact ⟨byte _ (by omega), byte _ (by omega), byte _ (by omega)⟩
  · simp only [List.mem_cons, List.not_mem_nil, or_false, not_or]
    exact ⟨byte _ (by omega), byte _ (by omega), byte _ (by omega), byte _ (by omega)⟩

theorem newlineByte_not_mem_flatMap {line : List Char} (clean : '\n' ∉ line) :
    newlineByte ∉ line.flatMap String.utf8EncodeChar := by
  intro mem
  obtain ⟨c, hc, byte⟩ := List.mem_flatMap.mp mem
  exact newlineByte_not_mem (fun newline => clean (newline ▸ hc)) byte

theorem foldl_next_row {bytes : List UInt8} (clean : newlineByte ∉ bytes) (p : Point) :
    bytes.foldl Point.next p = ⟨p.row, p.column + UInt32.ofNat bytes.length⟩ := by
  induction bytes generalizing p with
  | nil => simp
  | cons b bytes ih =>
    rw [List.mem_cons, not_or] at clean
    rw [List.foldl_cons, ih clean.2, Point.next, if_neg (Ne.symm clean.1), List.length_cons]
    simp [UInt32.ofNat_add, UInt32.add_assoc, UInt32.add_comm 1]

theorem foldl_next_joinLines {whole : List (List Char)} (clean : ∀ line ∈ whole, '\n' ∉ line)
    {rest : List Char} (open_line : '\n' ∉ rest) (row : UInt32) :
    ((joinLines whole rest).flatMap String.utf8EncodeChar).foldl Point.next ⟨row, 0⟩ =
      ⟨row + UInt32.ofNat whole.length, UInt32.ofNat (byteLength rest)⟩ := by
  induction whole generalizing row with
  | nil =>
    rw [joinLines, List.foldr_nil, foldl_next_row (newlineByte_not_mem_flatMap open_line),
      length_flatMap_utf8EncodeChar]
    simp
  | cons line whole ih =>
    have clean := List.forall_mem_cons.mp clean
    have newline : String.utf8EncodeChar '\n' = [newlineByte] := by decide
    rw [joinLines, List.foldr_cons, List.flatMap_append, List.foldl_append,
      foldl_next_row (newlineByte_not_mem_flatMap clean.1), List.flatMap_cons, newline,
      List.singleton_append, List.foldl_cons, Point.next, if_pos rfl, List.length_cons]
    rw [show row + UInt32.ofNat (whole.length + 1) = row + 1 + UInt32.ofNat whole.length by
      simp [UInt32.ofNat_add, UInt32.add_assoc, UInt32.add_comm 1]]
    exact ih clean.2 (row + 1)

end ElmOverlay
