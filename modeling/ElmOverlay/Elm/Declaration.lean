import ElmOverlay.Syntax.Tree

/-!
What the top level of an Elm file declares and imports, read off its tree: names of functions
and types, the module name, imports, and exposing lists. A list in the module header and a
list in an import have one form.
-/
namespace ElmOverlay.Elm

variable {t : Tree}

def isTopLevel (n : t.Id) : Bool :=
  match t.parent n with
  | none => false
  | some p => (t.parent p).isNone

/-- The name in a value declaration that declares a function or a plain value. -/
def functionName (n : t.Id) : Option t.Id :=
  if t.kind n = "value_declaration" then
    (t.childOfKind n "function_declaration_left").bind (t.childOfKind · "lower_case_identifier")
  else none

def isTypeDeclaration (n : t.Id) : Bool :=
  t.kind n = "type_declaration" || t.kind n = "type_alias_declaration"

def typeName (n : t.Id) : Option t.Id :=
  if isTypeDeclaration n then t.childOfKind n "upper_case_identifier" else none

/-- The type annotation directly before a declaration, or else the declaration itself. -/
def functionAnchor (n : t.Id) : t.Id :=
  ((t.prevNamed n).filter fun m => t.kind m = "type_annotation").getD n

variable (t) in
def header : Option t.Id := t.childOfKind t.root "module_declaration"

variable (t) in
def moduleName : Option t.Id := (header t).bind (t.childOfKind · "upper_case_qid")

def isImport (n : t.Id) : Bool := t.kind n = "import_clause"

variable (t) in
def imports : List t.Id := (t.namedChildren t.root).filter isImport

def importedModule (clause : t.Id) : Option t.Id := t.childOfKind clause "upper_case_qid"

/-- The name that qualifies what an import brings in: its alias, or else the module's name. -/
def importQualifier (clause qid : t.Id) : String :=
  let asName := (t.childOfKind clause "as_clause").bind (t.childOfKind · "upper_case_identifier")
  t.text (asName.getD qid)

/-- Whether an entry of an exposing list covers a name. Functions and plain values are
callable; types are not. -/
def entryExposes (name : String) (callable : Bool) (entry : t.Id) : Bool :=
  match t.kind entry with
  | "double_dot" => true
  | "exposed_value" => callable && t.text entry = name
  | "exposed_type" =>
    !callable && ((t.childOfKind entry "upper_case_identifier").any fun n => t.text n = name)
  | _ => false

def listExposes (list : t.Id) (name : String) (callable : Bool) : Bool :=
  (t.namedChildren list).any (entryExposes name callable)

variable (t) in
def isExposed (name : String) (callable : Bool) : Bool :=
  ((header t).bind (t.childOfKind · "exposing_list")).any fun list =>
    listExposes list name callable

end ElmOverlay.Elm
