import ElmOverlay.Lens.Placeholder
import ElmOverlay.Protocol.CodeLens

/-!
Resolving a lens against the workspace as it is now. Everything is looked up afresh: an
exposure lens by its name in the module header, a reference count by the node at its anchor.
-/
namespace ElmOverlay

inductive LensAction where
  | showReferences (anchor : Span) (references : List Site) (file : FileId)
  | expose (file : FileId) (name : String)
  | unexpose (file : FileId) (name : String)
  deriving DecidableEq, Repr

/-- A lens ready to show. Without an action it is a label. -/
structure ResolvedLens where
  file : FileId
  anchor : Span
  title : String
  action : Option LensAction
  deriving DecidableEq, Repr

/-- Only exactly one is singular. -/
def referenceLabel (count : Nat) : String :=
  if count = 1 then "1 reference" else toString count ++ " references"

def exposureLabel (exposed : Bool) : String := if exposed then "exposed" else "local"

namespace Placeholder

variable (p : Placeholder) (forest : Forest)

def subjectDefinition (t : Tree) : Option Definition :=
  (t.namedDescendantAt t.root p.anchor.start).bind (forest.resolve p.file)

def references (t : Tree) : List Site :=
  ((p.subjectDefinition forest t).map forest.references).getD []

def toggle (exposed : Bool) : LensAction :=
  if exposed then .unexpose p.file p.subject else .expose p.file p.subject

def resolveIn (t : Tree) (canToggle : Bool) : ResolvedLens :=
  match p.family with
  | .exposure =>
    let exposed := Elm.isExposed t p.subject p.callable
    ⟨p.file, p.anchor, exposureLabel exposed, if canToggle then some (p.toggle exposed) else none⟩
  | .referenceCount =>
    let sites := p.references forest t
    ⟨p.file, p.anchor, referenceLabel sites.length, some (.showReferences p.anchor sites p.file)⟩

/-- `canToggle` tells whether the editor runs the commands of exposure lenses. -/
def resolve (canToggle : Bool) : Except LensError ResolvedLens :=
  match forest.get? p.file with
  | none => .error (.missingTree p.file)
  | some t => .ok (p.resolveIn forest t canToggle)

def toCodeLens (s : Source) : Protocol.CodeLens := ⟨.ofSpan s p.anchor, none, some p.toJson⟩

end Placeholder

namespace LensAction

def commandId : LensAction → String
  | showReferences .. => "editor.action.showReferences"
  | expose .. => "elm.expose"
  | unexpose .. => "elm.unexpose"

/-- The one argument of the command. Places in files that are no URLs are left out. -/
def argument (forest : Forest) : LensAction → Json
  | showReferences anchor sites file =>
    .obj [("range", (Protocol.fileRange forest file anchor).toJson),
      ("references", .arr ((sites.filterMap (Protocol.siteLocation forest)).map
        Protocol.Location.toJson)),
      ("uri", .str file)]
  | expose file name | unexpose file name => .obj [("uri", .str file), ("name", .str name)]

end LensAction

namespace ResolvedLens

def command (l : ResolvedLens) (forest : Forest) : Protocol.Command :=
  match l.action with
  | none => ⟨l.title, "", none⟩
  | some a => ⟨l.title, a.commandId, some [a.argument forest]⟩

def toCodeLens (l : ResolvedLens) (forest : Forest) : Protocol.CodeLens :=
  ⟨Protocol.fileRange forest l.file l.anchor, some (l.command forest), none⟩

end ResolvedLens

end ElmOverlay
