import ElmOverlay.Folding
import ElmOverlay.Json

/-!
Places as the editor protocol counts them: lines, and columns in UTF-16 code units. A span is
converted with the tree that it was measured in.
-/
namespace ElmOverlay.Protocol

structure Position where
  line : UInt32
  character : UInt32
  deriving DecidableEq, Inhabited, Repr

structure Range where
  start : Position
  stop : Position
  deriving DecidableEq, Inhabited, Repr

def Position.ofPoint (s : Source) (p : Point) : Position := ⟨p.row, s.utf16Column p⟩

def Range.ofSpan (s : Source) (span : Span) : Range :=
  ⟨.ofPoint s span.start, .ofPoint s span.stop⟩

/-- Byte columns as they are, for a span whose text is not at hand. -/
def Range.ofBytes (span : Span) : Range :=
  ⟨⟨span.start.row, span.start.column⟩, ⟨span.stop.row, span.stop.column⟩⟩

structure FoldingRange where
  kind : FoldKind
  range : Range
  deriving DecidableEq, Repr

def FoldingRange.ofFold (s : Source) (f : Fold) : FoldingRange := ⟨f.kind, .ofSpan s f.span⟩

def foldingRanges (t : Tree) : List FoldingRange := (Folding.folds t).map (.ofFold t.source)

/-! ### JSON forms -/

def Position.toJson (p : Position) : Json :=
  .obj [("line", .ofWord p.line), ("character", .ofWord p.character)]

def Range.toJson (r : Range) : Json :=
  .obj [("start", r.start.toJson), ("end", r.stop.toJson)]

def foldKindName : FoldKind → String
  | .imports => "imports"
  | .region => "region"
  | .comment => "comment"

def FoldingRange.toJson (f : FoldingRange) : Json :=
  .obj [("startLine", .ofWord f.range.start.line),
    ("startCharacter", .ofWord f.range.start.character),
    ("endLine", .ofWord f.range.stop.line),
    ("endCharacter", .ofWord f.range.stop.character),
    ("kind", .str (foldKindName f.kind))]

end ElmOverlay.Protocol
