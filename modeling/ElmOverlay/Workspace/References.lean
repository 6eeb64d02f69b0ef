import ElmOverlay.Workspace.Resolution

/-!
All uses of a definition in the workspace, file by file and in the order of the nodes. A use
is an identifier that resolves to the definition; the declaring name itself and names in type
annotations do not count. Uses of a module are the imports that name it.
-/
namespace ElmOverlay

structure Site where
  file : FileId
  span : Span
  deriving DecidableEq, Repr

namespace Elm

def referringKinds : SymbolKind → List String
  | .function | .localName => ["lower_case_identifier", "exposed_value"]
  | .typeName => ["upper_case_identifier"]
  | .moduleName => []

def importsOf (t : Tree) (name : String) : List t.Id :=
  ((imports t).filterMap importedModule).filter fun q => t.text q = name

def inSignature {t : Tree} (n : t.Id) : Bool := parentKind n = some "type_annotation"

end Elm

namespace Forest

open Elm

variable (forest : Forest)

/-- A local name is used in its own file only. -/
def mayUse (d : Definition) (file : FileId) : Bool := d.kind ≠ .localName || file = d.file

def isUse (d : Definition) (file : FileId) {t : Tree} (n : t.Id) : Bool :=
  (referringKinds d.kind).contains (t.kind n) && t.text n = d.name &&
    !(file = d.file && t.span n = d.span) && !inSignature n &&
    forest.resolve file n = some d

def usesIn (d : Definition) (file : FileId) (t : Tree) : List t.Id :=
  if d.kind = .moduleName then importsOf t d.name
  else if mayUse d file then t.ids.filter (forest.isUse d file)
  else []

def references (d : Definition) : List Site :=
  forest.entries.flatMap fun (file, t) => (forest.usesIn d file t).map fun n => ⟨file, t.span n⟩

end Forest

end ElmOverlay
