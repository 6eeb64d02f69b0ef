import ElmOverlay.Proofs.EditorPositions

/-!
Looking for a text. A search finds the least place from the cursor on at which the text stands
byte by byte. A text is a row of whole characters, so a search that starts between two
characters ends between two.
-/
namespace ElmOverlay

variable {part whole : ByteArray} {offset : Nat}

theorem agreeFrom_iff (fits : offset + part.size ≤ whole.size) (i : Nat) :
    agreeFrom part whole offset i = true ↔
      ∀ j (h : j < part.size), i ≤ j → part[j] = whole[offset + j] := by
  induction i using agreeFrom.induct part whole offset with
  | case1 i inPart inWhole ih =>
    rw [agreeFrom, dif_pos inPart, dif_pos inWhole, Bool.and_eq_true, beq_iff_eq, ih]
    constructor
    · intro ⟨first, rest⟩ j h low
      rcases Nat.eq_or_lt_of_le low with rfl | above
      · exact first
      · exact rest j h above
    · intro all
      exact ⟨all i inPart (Nat.le_refl i), fun j h low => all j h (by omega)⟩
  | case2 i inPart beyond => omega
  | case3 i done =>
    rw [agreeFrom, dif_neg done]
    simp only [true_iff]
    intro j h low
    omega

/-- A text stands at a place where the stretch of its length is that text. -/
theorem occursAt_iff : OccursAt part whole offset ↔
    offset + part.size ≤ whole.size ∧ whole.extract offset (offset + part.size) = part := by
  constructor
  · rintro ⟨front, back, rfl, rfl⟩
    constructor
    · rw [ByteArray.size_append, ByteArray.size_append]
      omega
    · have inner := ByteArray.extract_append_size_add' (a := front) (b := part ++ back) (i := 0)
        (j := part.size) rfl
      rw [Nat.add_zero] at inner
      rw [ByteArray.append_assoc, inner]
      exact ByteArray.extract_append_eq_left rfl
  · rintro ⟨fits, same⟩
    refine ⟨whole.extract 0 offset, whole.extract (offset + part.size) whole.size, ?_, ?_⟩
    · calc whole
          = whole.extract 0 whole.size := ByteArray.extract_zero_size.symm
        _ = whole.extract 0 (offset + part.size) ++
              whole.extract (offset + part.size) whole.size :=
            ByteArray.extract_eq_extract_append_extract _ (Nat.zero_le _) fits
        _ = whole.extract 0 offset ++ whole.extract offset (offset + part.size) ++
              whole.extract (offset + part.size) whole.size := by
            rw [← ByteArray.extract_eq_extract_append_extract offset (Nat.zero_le _)
              (Nat.le_add_right _ _)]
        _ = whole.extract 0 offset ++ part ++ whole.extract (offset + part.size) whole.size := by
            rw [same]
    · rw [ByteArray.size_extract]
      omega

theorem agreeFrom_zero_iff (fits : offset + part.size ≤ whole.size) :
    agreeFrom part whole offset 0 = true ↔ OccursAt part whole offset := by
  rw [agreeFrom_iff fits, occursAt_iff]
  constructor
  · intro all
    refine ⟨fits, ByteArray.ext_getElem ?_ ?_⟩
    · rw [ByteArray.size_extract]
      omega
    · intro j _ h
      rw [ByteArray.getElem_extract]
      exact (all j h (Nat.zero_le j)).symm
  · rintro ⟨-, same⟩ j h -
    have shorter : j < (whole.extract offset (offset + part.size)).size := by
      rw [ByteArray.size_extract]
      omega
    rw [← ByteArray.getElem_extract (h := shorter)]
    simp only [same]

theorem findFrom_eq_some {found : Nat} (h : findFrom part whole offset = some found) :
    offset ≤ found ∧ OccursAt part whole found ∧
      ∀ i, offset ≤ i → i < found → ¬ OccursAt part whole i := by
  induction offset using findFrom.induct part whole with
  | case1 offset fits agree =>
    rw [findFrom, if_pos fits, if_pos agree] at h
    cases h
    exact ⟨Nat.le_refl _, (agreeFrom_zero_iff fits).mp agree, fun i low high => by omega⟩
  | case2 offset fits differ ih =>
    rw [findFrom, if_pos fits, if_neg differ] at h
    obtain ⟨later, occurs, least⟩ := ih h
    refine ⟨by omega, occurs, ?_⟩
    intro i low high
    rcases Nat.eq_or_lt_of_le low with rfl | above
    · exact fun here => differ ((agreeFrom_zero_iff fits).mpr here)
    · exact least i above high
  | case3 offset beyond =>
    rw [findFrom, if_neg beyond] at h
    cases h

theorem findFrom_eq_none_iff : findFrom part whole offset = none ↔
    ∀ i, offset ≤ i → ¬ OccursAt part whole i := by
  constructor
  · intro missing
    induction offset using findFrom.induct part whole with
    | case1 offset fits agree =>
      rw [findFrom, if_pos fits, if_pos agree] at missing
      cases missing
    | case2 offset fits differ ih =>
      rw [findFrom, if_pos fits, if_neg differ] at missing
      intro i low occurs
      rcases Nat.eq_or_lt_of_le low with rfl | above
      · exact differ ((agreeFrom_zero_iff fits).mpr occurs)
      · exact ih missing i above occurs
    | case3 offset beyond =>
      intro i low occurs
      have inside := (occursAt_iff.mp occurs).1
      omega
  · intro absent
    cases found : findFrom part whole offset with
    | none => rfl
    | some i =>
      obtain ⟨low, occurs, -⟩ := findFrom_eq_some found
      exact absurd occurs (absent i low)

namespace Source

variable {s : Source} {text : String} {cursor start : Nat}

theorem onBoundary_zero : s.OnBoundary 0 := by simp [OnBoundary]

theorem onBoundary_size : s.OnBoundary s.size := by
  rw [size, s.bytes_eq]
  exact String.Pos.Raw.isValid_eq_true_iff.mpr s.text.endPos.isValid

theorem slice?_of_find? (found : s.find? text cursor = some start) :
    s.slice? ⟨start, start + text.utf8ByteSize⟩ = some text := by
  rw [slice?_eq_some, ← s.bytes_eq]
  exact (occursAt_iff.mp (findFrom_eq_some found).2.1).2

theorem find?_bounds (found : s.find? text cursor = some start) :
    cursor ≤ start ∧ start + text.utf8ByteSize ≤ s.size :=
  le_of_findFrom found

/-- A search for nothing ends where it starts, and any other text is found between whole
characters. -/
theorem onBoundary_of_find? (whole : s.OnBoundary cursor)
    (found : s.find? text cursor = some start) :
    s.OnBoundary start ∧ s.OnBoundary (start + text.utf8ByteSize) := by
  have bounds := find?_bounds found
  have valid : (s.text.toByteArray.extract start (start + text.utf8ByteSize)).IsValidUTF8 := by
    rw [slice?_eq_some.mp (slice?_of_find? found)]
    exact text.isValidUTF8
  have inside : start + text.utf8ByteSize ≤ s.text.toByteArray.size := s.bytes_eq ▸ bounds.2
  rcases (String.Pos.Raw.isValidUTF8_extract_iff ⟨start⟩ ⟨start + text.utf8ByteSize⟩
    (by simp only [String.Pos.Raw.le_iff]; omega) inside).mp valid with same | ⟨low, high⟩
  · have empty : text.utf8ByteSize = 0 := by
      have := congrArg String.Pos.Raw.byteIdx same
      simp only at this
      omega
    have nothing : text.toByteArray = ByteArray.empty := ByteArray.size_eq_zero_iff.mp empty
    have here : OccursAt text.toByteArray s.bytes cursor := by
      rw [occursAt_iff, nothing, ByteArray.size_empty, Nat.add_zero, ByteArray.extract_same]
      exact ⟨by rw [size] at bounds; omega, rfl⟩
    have least := (findFrom_eq_some found).2.2 cursor (Nat.le_refl cursor)
    obtain rfl : start = cursor :=
      Nat.le_antisymm (Nat.not_lt.mp fun later => least later here) bounds.1
    rw [empty, Nat.add_zero]
    exact ⟨whole, whole⟩
  · exact ⟨String.Pos.Raw.isValid_eq_true_iff.mpr low, String.Pos.Raw.isValid_eq_true_iff.mpr high⟩

end Source

end ElmOverlay
