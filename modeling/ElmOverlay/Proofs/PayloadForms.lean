import ElmOverlay.Proofs.Payload

/-!
The payloads that read as a placeholder. Words are whole numbers of 32 bits, points and spans
are objects or arrays of two, and a family is named by a string or by the only field of an
object that holds nothing: null or an empty object. Fields come in any order and other fields
do not count. Nothing else is read, and what is written is one of these forms.
-/
namespace ElmOverlay

inductive LensFamily.Encodes : Json → LensFamily → Prop where
  | name (f : LensFamily) : Encodes (.str f.name) f
  | overNull (f : LensFamily) : Encodes (.obj [(f.name, .null)]) f
  | overEmpty (f : LensFamily) : Encodes (.obj [(f.name, .obj [])]) f

inductive Point.Encodes : Json → Point → Prop where
  | pair (p : Point) : Encodes (.arr [.int p.row.toNat, .int p.column.toNat]) p
  | fields {fields : List (String × Json)} {p : Point}
      (row : Json.lookup fields "row" = some (.int p.row.toNat))
      (column : Json.lookup fields "column" = some (.int p.column.toNat)) :
      Encodes (.obj fields) p

inductive Span.Encodes : Json → Span → Prop where
  | pair {a b : Json} {s : Span} (start : Point.Encodes a s.start)
      (stop : Point.Encodes b s.stop) : Encodes (.arr [a, b]) s
  | fields {fields : List (String × Json)} {a b : Json} {s : Span}
      (hasStart : Json.lookup fields "start" = some a) (start : Point.Encodes a s.start)
      (hasStop : Json.lookup fields "end" = some b) (stop : Point.Encodes b s.stop) :
      Encodes (.obj fields) s

inductive Placeholder.Encodes : Json → Placeholder → Prop where
  | fields {fields : List (String × Json)} {family anchor : Json} {p : Placeholder}
      (hasFamily : Json.lookup fields "family" = some family)
      (isFamily : LensFamily.Encodes family p.family)
      (file : Json.lookup fields "fileId" = some (.str p.file))
      (subject : Json.lookup fields "subjectName" = some (.str p.subject))
      (callable : Json.lookup fields "isCallable" = some (.bool p.callable))
      (hasAnchor : Json.lookup fields "anchor" = some anchor)
      (isAnchor : Span.Encodes anchor p.anchor) : Encodes (.obj fields) p

/-! ### Leaves -/

theorem Json.word?_eq_some_iff {v : Json} {w : UInt32} :
    v.word? = some w ↔ v = .int w.toNat := by
  constructor
  · intro h
    cases v with
    | int i =>
      rw [word?] at h
      split at h
      next small =>
        cases h
        obtain ⟨n, rfl⟩ := Int.eq_ofNat_of_zero_le small.1
        have room : n < UInt32.size := by exact_mod_cast small.2
        have same : n.toUInt32.toNat = n := UInt32.toNat_ofNat_of_lt' room
        rw [Int.toNat_natCast, same]
      next => cases h
    | _ => cases h
  · intro h
    subst h
    exact word?_ofWord w

theorem Json.str?_eq_some_iff {v : Json} {s : String} : v.str? = some s ↔ v = .str s := by
  cases v <;> simp [str?]

theorem Json.bool?_eq_some_iff {v : Json} {b : Bool} : v.bool? = some b ↔ v = .bool b := by
  cases v <;> simp [bool?]

theorem LensFamily.ofName?_eq_some_iff {s : String} {f : LensFamily} :
    ofName? s = some f ↔ s = f.name := by
  constructor
  · intro h
    unfold ofName? at h
    split at h
    · cases h
      rfl
    · cases h
      rfl
    · cases h
  · rintro rfl
    cases f <;> rfl

theorem LensFamily.ofJson?_eq_some_iff {v : Json} {f : LensFamily} :
    ofJson? v = some f ↔ Encodes v f := by
  constructor
  · intro h
    unfold ofJson? at h
    split at h
    · rw [ofName?_eq_some_iff.mp h]
      exact .name f
    · rw [ofName?_eq_some_iff.mp h]
      exact .overNull f
    · rw [ofName?_eq_some_iff.mp h]
      exact .overEmpty f
    · cases h
  · rintro (_ | _ | _) <;> exact ofName?_eq_some_iff.mpr rfl

/-! ### Points and spans -/

theorem Point.ofJson?_eq_some_iff {v : Json} {p : Point} : ofJson? v = some p ↔ Encodes v p := by
  constructor
  · intro h
    unfold ofJson? at h
    split at h
    next row column =>
      simp only [Option.bind_eq_bind, Option.bind_eq_some_iff, Option.pure_def,
        Option.some.injEq] at h
      obtain ⟨r, hr, c, hc, rfl⟩ := h
      rw [Json.word?_eq_some_iff] at hr hc
      rw [hr, hc]
      exact .pair ⟨r, c⟩
    next fields =>
      simp only [Option.bind_eq_bind, Option.bind_eq_some_iff, Option.pure_def,
        Option.some.injEq] at h
      obtain ⟨row, hasRow, column, hasColumn, r, hr, c, hc, rfl⟩ := h
      rw [Json.word?_eq_some_iff] at hr hc
      subst hr hc
      exact .fields hasRow hasColumn
    next => cases h
  · intro h
    have hr : (Json.int p.row.toNat).word? = some p.row := Json.word?_eq_some_iff.mpr rfl
    have hc : (Json.int p.column.toNat).word? = some p.column := Json.word?_eq_some_iff.mpr rfl
    cases h with
    | pair => simp [ofJson?, hr, hc]
    | fields row column =>
      rw [ofJson?, Json.field?, Json.field?, row, column, Option.bind_eq_bind, Option.bind_some,
        Option.bind_eq_bind, Option.bind_some, hr, hc]
      rfl

theorem Span.ofJson?_eq_some_iff {v : Json} {s : Span} : ofJson? v = some s ↔ Encodes v s := by
  constructor
  · intro h
    unfold ofJson? at h
    split at h
    next a b =>
      simp only [Option.bind_eq_bind, Option.bind_eq_some_iff, Option.pure_def,
        Option.some.injEq] at h
      obtain ⟨start, hstart, stop, hstop, rfl⟩ := h
      exact .pair (Point.ofJson?_eq_some_iff.mp hstart) (Point.ofJson?_eq_some_iff.mp hstop)
    next fields =>
      simp only [Option.bind_eq_bind, Option.bind_eq_some_iff, Option.pure_def,
        Option.some.injEq] at h
      obtain ⟨a, hasStart, b, hasStop, start, hstart, stop, hstop, rfl⟩ := h
      exact .fields hasStart (Point.ofJson?_eq_some_iff.mp hstart) hasStop
        (Point.ofJson?_eq_some_iff.mp hstop)
    next => cases h
  · intro h
    cases h with
    | pair start stop =>
      simp [ofJson?, Point.ofJson?_eq_some_iff.mpr start, Point.ofJson?_eq_some_iff.mpr stop]
    | fields hasStart start hasStop stop =>
      simp [ofJson?, Json.field?, hasStart, hasStop, Point.ofJson?_eq_some_iff.mpr start,
        Point.ofJson?_eq_some_iff.mpr stop]

/-! ### Placeholders -/

namespace Placeholder

theorem ofJson?_eq_some_iff {v : Json} {p : Placeholder} : ofJson? v = some p ↔ Encodes v p := by
  constructor
  · intro h
    cases v with
    | obj fields =>
      simp only [ofJson?, Json.field?, Option.bind_eq_bind, Option.bind_eq_some_iff,
        Option.pure_def, Option.some.injEq] at h
      obtain ⟨a, hasFamily, family, isFamily, b, hasFile, file, isFile, c, hasSubject, subject,
        isSubject, d, hasCallable, callable, isCallable, e, hasAnchor, anchor, isAnchor, rfl⟩ := h
      rw [Json.str?_eq_some_iff] at isFile isSubject
      rw [Json.bool?_eq_some_iff] at isCallable
      subst isFile isSubject isCallable
      exact .fields hasFamily (LensFamily.ofJson?_eq_some_iff.mp isFamily) hasFile hasSubject
        hasCallable hasAnchor (Span.ofJson?_eq_some_iff.mp isAnchor)
    | _ => cases h
  · intro h
    cases h with
    | fields hasFamily isFamily file subject callable hasAnchor isAnchor =>
      simp [ofJson?, Json.field?, hasFamily, LensFamily.ofJson?_eq_some_iff.mpr isFamily, file,
        subject, callable, Json.str?, Json.bool?, hasAnchor, Span.ofJson?_eq_some_iff.mpr isAnchor]

theorem ofPayload_eq_ok_iff {v : Json} {p : Placeholder} :
    ofPayload (some v) = .ok p ↔ Encodes v p := by
  rw [← ofJson?_eq_some_iff, ofPayload]
  cases ofJson? v <;> simp

theorem ofPayload_eq_malformed_iff {v : Json} :
    ofPayload (some v) = .error .malformedPayload ↔ ∀ p, ¬ Encodes v p := by
  simp only [← ofJson?_eq_some_iff, ofPayload]
  cases ofJson? v <;> simp

/-- The payload of a placeholder reads back from any lens that carries it. A payload is read
exactly if it has one of the forms above, and is malformed otherwise. What is written has the
plain form of objects and strings, whatever form it was read from. -/
theorem payload_forms (p : Placeholder) (s : Source) (range : Protocol.Range)
    (command : Option Protocol.Command) (v : Json) :
    ofPayload { p.toCodeLens s with range := range, command := command }.data = .ok p ∧
      (ofPayload (some v) = .ok p ↔ Encodes v p) ∧
      (ofPayload (some v) = .error .malformedPayload ↔ ∀ q, ¬ Encodes v q) ∧
      ofPayload none = .error .missingPayload ∧
      (p.toCodeLens s).data = some (.obj [("family", .str p.family.name), ("fileId", .str p.file),
        ("subjectName", .str p.subject), ("isCallable", .bool p.callable),
        ("anchor", .obj [
          ("start", .obj [("row", .int p.anchor.start.row.toNat),
            ("column", .int p.anchor.start.column.toNat)]),
          ("end", .obj [("row", .int p.anchor.stop.row.toNat),
            ("column", .int p.anchor.stop.column.toNat)])])]) :=
  ⟨ofPayload_toCodeLens p s, ofPayload_eq_ok_iff, ofPayload_eq_malformed_iff, rfl, rfl⟩

/-- Null is not the only nothing that a family object may hold. -/
theorem family_over_empty_object :
    ¬ ∀ v p, ofPayload (some v) = .ok p →
      v.field? "family" = some (.str p.family.name) ∨
        v.field? "family" = some (.obj [(p.family.name, .null)]) := by
  intro strict
  let anchor : Json := .obj [("start", .obj [("row", .int 0), ("column", .int 0)]),
    ("end", .obj [("row", .int 0), ("column", .int 1)])]
  let v : Json := .obj [("family", .obj [("exposure", .obj [])]), ("fileId", .str "A.elm"),
    ("subjectName", .str "x"), ("isCallable", .bool true), ("anchor", anchor)]
  have read : ofPayload (some v) =
      .ok ⟨.exposure, "A.elm", "x", true, ⟨⟨0, 0⟩, ⟨0, 1⟩⟩⟩ := by
    apply ofPayload_eq_ok_iff.mpr
    exact .fields rfl (.overEmpty .exposure) rfl rfl rfl rfl
      (.fields rfl (.fields rfl rfl) rfl (.fields rfl rfl))
  rcases strict v _ read with same | same <;> cases same

end Placeholder

end ElmOverlay
