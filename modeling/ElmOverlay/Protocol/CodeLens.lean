import ElmOverlay.Protocol.Range
import ElmOverlay.Url
import ElmOverlay.Workspace.References

/-!
Lenses and commands as the editor protocol has them, and places in other files.
-/
namespace ElmOverlay.Protocol

structure Location where
  uri : String
  range : Range
  deriving DecidableEq, Repr

structure Command where
  title : String
  id : String
  arguments : Option (List Json)
  deriving Repr

structure CodeLens where
  range : Range
  command : Option Command
  data : Option Json
  deriving Repr

/-- A span in a file, by the file's tree; in bytes if it has none. -/
def fileRange (forest : Forest) (file : FileId) (span : Span) : Range :=
  match forest.get? file with
  | none => .ofBytes span
  | some t => .ofSpan t.source span

def fileLocation (forest : Forest) (file : FileId) (span : Span) : Option Location :=
  (Url.parse? file).map fun url => ⟨toString url, fileRange forest file span⟩

def siteLocation (forest : Forest) (site : Site) : Option Location :=
  fileLocation forest site.file site.span

/-! ### JSON forms -/

def Location.toJson (l : Location) : Json :=
  .obj [("uri", .str l.uri), ("range", l.range.toJson)]

def optionalField (name : String) (v : Option Json) : List (String × Json) :=
  (v.map fun v => (name, v)).toList

def Command.toJson (c : Command) : Json :=
  .obj ([("title", .str c.title), ("command", .str c.id)] ++
    optionalField "arguments" (c.arguments.map .arr))

def CodeLens.toJson (l : CodeLens) : Json :=
  .obj ([("range", l.range.toJson)] ++ optionalField "command" (l.command.map Command.toJson) ++
    optionalField "data" l.data)

end ElmOverlay.Protocol
