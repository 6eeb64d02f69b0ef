import ElmOverlay.Lens.Placeholder

/-!
The lenses of a file, found at its top level. Exposure lenses come first, functions and types
as they stand; then reference counts: types, functions, and last the module's name.
-/
namespace ElmOverlay.Discovery

open Elm

variable (file : FileId) {t : Tree}

def ofName (family : LensFamily) (callable : Bool) (anchor name : t.Id) : Placeholder :=
  ⟨family, file, t.text name, callable, t.span anchor⟩

/-- A declared function or type; a function's anchor is its annotation, if it has one. -/
def exposureLens (n : t.Id) : Option Placeholder :=
  match functionName n with
  | some name => some (ofName file .exposure true (functionAnchor n) name)
  | none => (typeName n).map (ofName file .exposure false n)

def typeLens (n : t.Id) : Option Placeholder :=
  (typeName n).map fun name => ofName file .referenceCount false name name

def functionLens (n : t.Id) : Option Placeholder :=
  (functionName n).map (ofName file .referenceCount true (functionAnchor n))

variable (t) in
/-- A module name without parts has no lens. -/
def moduleLens : Option Placeholder :=
  ((moduleName t).filter fun n => !(t.children n).isEmpty).map fun n =>
    ofName file .referenceCount false n n

variable (t) in
def exposureLenses : List Placeholder := (t.children t.root).filterMap (exposureLens file)

variable (t) in
def referenceLenses : List Placeholder :=
  (t.children t.root).filterMap (typeLens file) ++
    (t.children t.root).filterMap (functionLens file) ++ (moduleLens file t).toList

variable (t) in
def lenses : List Placeholder := exposureLenses file t ++ referenceLenses file t

end ElmOverlay.Discovery
