import ElmOverlay.Workspace.Forest

/-!
From a name in a file to the place that declares it. Local bindings come first, the innermost
scope winning; then the top level of the file; then what its imports bring in, in source
order. Qualified names go through the module's own name or through the imports that have the
qualifier.
-/
namespace ElmOverlay

inductive SymbolKind where
  /-- A function or plain value of the top level. -/
  | function
  /-- A custom type or a type alias. -/
  | typeName
  | moduleName
  /-- A `let` name, a parameter or a pattern variable. -/
  | localName
  deriving DecidableEq, Repr

/-- A declared symbol: its name and the span of the declaring name. -/
structure Definition where
  file : FileId
  name : String
  kind : SymbolKind
  span : Span
  deriving DecidableEq, Repr

def Definition.ofNode (file : FileId) {t : Tree} (n : t.Id) (kind : SymbolKind) : Definition :=
  ⟨file, t.text n, kind, t.span n⟩

namespace Definition

variable (file : FileId) {t : Tree} (n : t.Id) (kind : SymbolKind)

@[simp] theorem file_ofNode : (ofNode file n kind).file = file := by rw [ofNode]
@[simp] theorem name_ofNode : (ofNode file n kind).name = t.text n := by rw [ofNode]
@[simp] theorem kind_ofNode : (ofNode file n kind).kind = kind := by rw [ofNode]
@[simp] theorem span_ofNode : (ofNode file n kind).span = t.span n := by rw [ofNode]

end Definition

namespace Elm

variable {t : Tree}

def parentKind (n : t.Id) : Option String := (t.parent n).map t.kind

/-! ### Local scopes -/

def isPatternBinder (name : String) (n : t.Id) : Bool :=
  t.kind n = "lower_case_identifier" && t.text n = name &&
    parentKind n = some "lower_pattern"

def patternBinder (name : String) (pattern : t.Id) : Option t.Id :=
  (t.descendants pattern).find? (isPatternBinder name)

/-- What a scope itself binds a name to: a parameter, a `let` name, or a pattern variable of
a branch or a lambda. -/
def scopeBinder (name : String) (scope : t.Id) : Option t.Id :=
  match t.kind scope with
  | "value_declaration" =>
    (t.childOfKind scope "function_declaration_left").bind (patternBinder name)
  | "let_in_expr" =>
    ((t.namedChildren scope).filterMap functionName).find? fun n => t.text n = name
  | "case_of_branch" => (t.namedChildren scope).head?.bind (patternBinder name)
  | "anonymous_function_expr" =>
    (t.namedChildren scope).dropLast.findSome? (patternBinder name)
  | _ => none

def enclosingBinder (name : String) (n : t.Id) : Option t.Id :=
  (t.ancestors n).findSome? (scopeBinder name)

/-! ### Top level -/

/-- The name that a top-level node declares in the given sense. -/
def declaredName (kind : SymbolKind) (n : t.Id) : Option t.Id :=
  match kind with
  | .function => functionName n
  | .typeName => typeName n
  | .moduleName | .localName => none

variable (t) in
def topLevelName (name : String) (kind : SymbolKind) : Option t.Id :=
  (t.namedChildren t.root).findSome? fun n =>
    (declaredName kind n).filter fun m => t.text m = name

def topLevel (file : FileId) (t : Tree) (name : String) (kind : SymbolKind) :
    Option Definition :=
  (topLevelName t name kind).map (Definition.ofNode file · kind)

/-- The definition at the name of a function declaration: a function at the top level, a
local name anywhere else. -/
def functionDefinition (file : FileId) (n : t.Id) : Option Definition := do
  let left ← t.parent n
  let declaration ← t.parent left
  return .ofNode file n (if isTopLevel declaration then .function else .localName)

/-- `Foo.Bar` for the last part of `Foo.Bar.baz`; empty for a plain name. -/
def qualifier (n : t.Id) : String :=
  let parts := ((t.parent n).map t.namedChildren).getD []
  ".".intercalate
    (((parts.takeWhile (· ≠ n)).filter fun m => t.kind m = "upper_case_identifier").map t.text)

end Elm

namespace Forest

open Elm

variable (forest : Forest)

def importedName {t : Tree} (qid : t.Id) (name : String) (kind : SymbolKind) :
    Option Definition :=
  (forest.module? (t.text qid)).bind fun (file, tree) => topLevel file tree name kind

/-- What an import without a qualifier brings in under a name. -/
def exposedByImport {t : Tree} (name : String) (kind : SymbolKind) (clause : t.Id) :
    Option Definition := do
  let list ← t.childOfKind clause "exposing_list"
  let qid ← importedModule clause
  if listExposes list name (kind = .function) then forest.importedName qid name kind else none

/-- What an import brings in under a qualified name. -/
def qualifiedByImport {t : Tree} (qual name : String) (kind : SymbolKind) (clause : t.Id) :
    Option Definition := do
  let qid ← importedModule clause
  if importQualifier clause qid = qual then forest.importedName qid name kind else none

def resolveUnqualified (file : FileId) {t : Tree} (n : t.Id) (kind : SymbolKind) :
    Option Definition :=
  let name := t.text n
  let bound := if kind = .function then enclosingBinder name n else none
  (bound.map (Definition.ofNode file · .localName))
    |>.or (topLevel file t name kind)
    |>.or ((imports t).findSome? (forest.exposedByImport name kind))

/-- A qualifier that is the file's own module name looks nowhere else. -/
def resolveQualified (file : FileId) (t : Tree) (qual name : String) (kind : SymbolKind) :
    Option Definition :=
  if (moduleName t).any fun n => t.text n = qual then topLevel file t name kind
  else (imports t).findSome? (forest.qualifiedByImport qual name kind)

def resolveReference (file : FileId) {t : Tree} (n : t.Id) (kind : SymbolKind) :
    Option Definition :=
  let qual := qualifier n
  if qual.isEmpty then forest.resolveUnqualified file n kind
  else forest.resolveQualified file t qual (t.text n) kind

/-- An entry of an exposing list stands for a name of the module that owns the list. -/
def resolveExposed (file : FileId) {t : Tree} (entry : t.Id) (name : String)
    (kind : SymbolKind) : Option Definition := do
  let list ← t.parent entry
  let owner ← t.parent list
  match t.kind owner with
  | "module_declaration" => topLevel file t name kind
  | "import_clause" => forest.importedName (← importedModule owner) name kind
  | _ => none

/-- A lower-case identifier, by the node it stands in. An annotation shares the definition of
the declaration that it precedes. -/
def resolveLower (file : FileId) {t : Tree} (n : t.Id) : Option Definition := do
  let owner ← t.parent n
  match t.kind owner with
  | "function_declaration_left" => functionDefinition file n
  | "lower_pattern" => some (.ofNode file n .localName)
  | "type_annotation" =>
    let name ← (← t.nextNamed owner) |> functionName
    if t.text name = t.text n then functionDefinition file name else none
  | "value_qid" => forest.resolveReference file n .function
  | _ => none

def resolveImport {t : Tree} (qid : t.Id) : Option Definition := do
  let (file, tree) ← forest.module? (t.text qid)
  let name ← moduleName tree
  return .ofNode file name .moduleName

/-- An upper-case identifier as part of a dotted name. Expressions call constructors, which
have no definition here; of a type's dotted name only the last part stands for the type. -/
def resolveSegment (file : FileId) {t : Tree} (qid n : t.Id) : Option Definition := do
  let owner ← t.parent qid
  match t.kind owner with
  | "module_declaration" => some (.ofNode file qid .moduleName)
  | "import_clause" => forest.resolveImport qid
  | "value_expr" => none
  | _ =>
    let parts := (t.namedChildren qid).filter fun m => t.kind m = "upper_case_identifier"
    if parts.getLast? = some n then forest.resolveReference file n .typeName else none

def resolveUpper (file : FileId) {t : Tree} (n : t.Id) : Option Definition := do
  let owner ← t.parent n
  match t.kind owner with
  | "type_declaration" | "type_alias_declaration" =>
    if t.childOfKind owner "upper_case_identifier" = some n then
      some (.ofNode file n .typeName)
    else none
  | "upper_case_qid" => forest.resolveSegment file owner n
  | "exposed_type" => forest.resolveExposed file owner (t.text n) .typeName
  | _ => none

/-- A dotted name stands for its last part. -/
def resolveDotted (file : FileId) {t : Tree} (qid : t.Id) : Option Definition :=
  (t.namedChildren qid).getLast?.bind (forest.resolveUpper file)

/-- The definition that a node refers to or declares. Nodes around a name stand for it. -/
def resolve (file : FileId) {t : Tree} (n : t.Id) : Option Definition :=
  match t.kind n with
  | "lower_case_identifier" => forest.resolveLower file n
  | "upper_case_identifier" => forest.resolveUpper file n
  | "exposed_value" => forest.resolveExposed file n (t.text n) .function
  | "upper_case_qid" => forest.resolveDotted file n
  | "type_annotation" | "function_declaration_left" =>
    (t.childOfKind n "lower_case_identifier").bind (forest.resolveLower file)
  | "value_declaration" => (functionName n).bind (forest.resolveLower file)
  | "type_declaration" | "type_alias_declaration" =>
    (t.childOfKind n "upper_case_identifier").bind (forest.resolveUpper file)
  | "module_declaration" =>
    (t.childOfKind n "upper_case_qid").bind (forest.resolveDotted file)
  | _ => none

end Forest

end ElmOverlay
