import ElmOverlay.Lens.Resolved

/-!
The payload of a lens. What a placeholder writes it also reads, whatever range and command the
lens around it has.
-/
namespace ElmOverlay

namespace Json

theorem word?_ofWord (w : UInt32) : (ofWord w).word? = some w := by
  have small : (w.toNat : Int) < UInt32.size := by exact_mod_cast w.toNat_lt
  have nonneg : (0 : Int) ≤ w.toNat := Int.natCast_nonneg _
  rw [ofWord, word?, if_pos ⟨nonneg, small⟩]
  simp

theorem lookup_first (name : String) (v : Json) (rest : List (String × Json)) :
    lookup ((name, v) :: rest) name = some v := by
  simp [lookup]

theorem lookup_later {name other : String} (v : Json) (rest : List (String × Json))
    (different : other ≠ name) : lookup ((other, v) :: rest) name = lookup rest name := by
  simp [lookup, different]

end Json

theorem LensFamily.ofJson?_name (f : LensFamily) : ofJson? (.str f.name) = some f := by
  cases f <;> rfl

theorem Point.ofJson?_fields {p : Point} {row column : Json} (hrow : row.word? = some p.row)
    (hcolumn : column.word? = some p.column) :
    ofJson? (.obj [("row", row), ("column", column)]) = some p := by
  have first := Json.lookup_first "row" row [("column", column)]
  have second : Json.lookup [("row", row), ("column", column)] "column" = some column := by
    rw [Json.lookup_later _ _ (by decide), Json.lookup_first]
  simp [ofJson?, Json.field?, first, second, hrow, hcolumn]

theorem Point.ofJson?_toJson (p : Point) : ofJson? p.toJson = some p :=
  ofJson?_fields (Json.word?_ofWord p.row) (Json.word?_ofWord p.column)

theorem Span.ofJson?_fields {s : Span} {start stop : Json}
    (hstart : Point.ofJson? start = some s.start) (hstop : Point.ofJson? stop = some s.stop) :
    ofJson? (.obj [("start", start), ("end", stop)]) = some s := by
  have first := Json.lookup_first "start" start [("end", stop)]
  have second : Json.lookup [("start", start), ("end", stop)] "end" = some stop := by
    rw [Json.lookup_later _ _ (by decide), Json.lookup_first]
  simp [ofJson?, Json.field?, first, second, hstart, hstop]

theorem Span.ofJson?_toJson (s : Span) : ofJson? s.toJson = some s :=
  ofJson?_fields (Point.ofJson?_toJson s.start) (Point.ofJson?_toJson s.stop)

namespace Placeholder

theorem ofJson?_fields {p : Placeholder} {anchor : Json}
    (hanchor : Span.ofJson? anchor = some p.anchor) :
    ofJson? (.obj [("family", .str p.family.name), ("fileId", .str p.file),
      ("subjectName", .str p.subject), ("isCallable", .bool p.callable),
      ("anchor", anchor)]) = some p := by
  simp [ofJson?, Json.field?, Json.lookup, Json.str?, Json.bool?, LensFamily.ofJson?_name,
    hanchor]

theorem ofJson?_toJson (p : Placeholder) : ofJson? p.toJson = some p :=
  ofJson?_fields (Span.ofJson?_toJson p.anchor)

theorem ofPayload_toCodeLens (p : Placeholder) (s : Source) :
    ofPayload (p.toCodeLens s).data = .ok p := by
  rw [toCodeLens, ofPayload, ofJson?_toJson]

end Placeholder

end ElmOverlay
