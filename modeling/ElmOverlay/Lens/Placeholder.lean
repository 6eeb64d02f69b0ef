import ElmOverlay.Json
import ElmOverlay.Workspace.Forest

/-!
A discovered lens before it is resolved: what it will show, of which name, and where. The
editor keeps it as a JSON payload and sends it back later, perhaps after the file has changed,
so it holds a name and a place and no nodes. Reading accepts more than writing produces:
spans and points also as arrays, the family also as an object of one field, unknown fields,
and fields in any order.
-/
namespace ElmOverlay

inductive LensFamily where
  /-- Whether the module exposes the name. -/
  | exposure
  /-- How often the name is used. -/
  | referenceCount
  deriving DecidableEq, Repr

structure Placeholder where
  family : LensFamily
  file : FileId
  subject : String
  callable : Bool
  anchor : Span
  deriving DecidableEq, Repr

inductive LensError where
  | missingTree (file : FileId)
  | missingPayload
  | malformedPayload
  deriving DecidableEq, Repr

namespace LensFamily

def name : LensFamily → String
  | exposure => "exposure"
  | referenceCount => "referenceCount"

def ofName? : String → Option LensFamily
  | "exposure" => some exposure
  | "referenceCount" => some referenceCount
  | _ => none

/-- A family by name, or as an object whose one field has the name and holds nothing. -/
def ofJson? : Json → Option LensFamily
  | .str s => ofName? s
  | .obj [(s, .null)] | .obj [(s, .obj [])] => ofName? s
  | _ => none

end LensFamily

def Point.toJson (p : Point) : Json :=
  .obj [("row", .ofWord p.row), ("column", .ofWord p.column)]

def Span.toJson (s : Span) : Json := .obj [("start", s.start.toJson), ("end", s.stop.toJson)]

def Point.ofJson? (v : Json) : Option Point :=
  match v with
  | .arr [row, column] => return ⟨← row.word?, ← column.word?⟩
  | .obj _ => do
    let row ← v.field? "row"
    let column ← v.field? "column"
    return ⟨← row.word?, ← column.word?⟩
  | _ => none

def Span.ofJson? (v : Json) : Option Span :=
  match v with
  | .arr [start, stop] => return ⟨← Point.ofJson? start, ← Point.ofJson? stop⟩
  | .obj _ => do
    let start ← v.field? "start"
    let stop ← v.field? "end"
    return ⟨← Point.ofJson? start, ← Point.ofJson? stop⟩
  | _ => none

namespace Placeholder

def toJson (p : Placeholder) : Json :=
  .obj [("family", .str p.family.name), ("fileId", .str p.file),
    ("subjectName", .str p.subject), ("isCallable", .bool p.callable),
    ("anchor", p.anchor.toJson)]

def ofJson? (v : Json) : Option Placeholder := do
  let family ← LensFamily.ofJson? (← v.field? "family")
  let file ← (← v.field? "fileId").str?
  let subject ← (← v.field? "subjectName").str?
  let callable ← (← v.field? "isCallable").bool?
  let anchor ← Span.ofJson? (← v.field? "anchor")
  return { family, file, subject, callable, anchor }

/-- Reads the payload of a lens that came back. -/
def ofPayload : Option Json → Except LensError Placeholder
  | none => .error .missingPayload
  | some v =>
    match ofJson? v with
    | none => .error .malformedPayload
    | some p => .ok p

end Placeholder

def LensError.message : LensError → String
  | .missingTree file => "No syntax tree for " ++ file ++ ", although a lens was discovered in it"
  | .missingPayload => "Code lens carries no payload"
  | .malformedPayload => "Code lens payload is malformed"

end ElmOverlay
