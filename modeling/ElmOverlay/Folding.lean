import ElmOverlay.Elm.Declaration

/-!
Folding ranges of a source file: what an editor can collapse. A walk from the root classifies
each named node below it on its own, and the folds are listed in the order of the walk. Folds
of a body or a branch begin on the row above it, where its keyword stands.
-/
namespace ElmOverlay

inductive FoldKind where
  | imports
  | region
  | comment
  deriving DecidableEq, Repr

structure Fold where
  kind : FoldKind
  span : Span
  deriving DecidableEq, Repr

namespace Folding

open Elm

variable {t : Tree}

/-- The last of the imports that follow a node without another named sibling between them;
the node itself if none follows. -/
def importRunEnd (n : t.Id) : t.Id :=
  match _h : t.nextNamed n with
  | none => n
  | some m => if isImport m then importRunEnd m else n
termination_by t.nodes.size - n.val
decreasing_by
  have : n.val < m.val := Tree.lt_nextNamed _h
  have := m.isLt
  omega

theorem importRunEnd_of_last {n : t.Id} (last : t.nextNamed n = none) : importRunEnd n = n := by
  rw [importRunEnd]
  split
  next => rfl
  next m next => cases last.symm.trans next

theorem importRunEnd_eq {n m : t.Id} (next : t.nextNamed n = some m) :
    importRunEnd n = if isImport m then importRunEnd m else n := by
  rw [importRunEnd]
  split
  next last => cases next.symm.trans last
  next m' next' =>
    obtain rfl := Option.some.inj (next.symm.trans next')
    rfl

def beginsImportRun (n : t.Id) : Bool := !(t.prevNamed n).any isImport

/-- Kinds of node beside the bindings of a `let` that are never its body. -/
def letItemKinds : List String :=
  ["value_declaration", "type_annotation", "line_comment", "block_comment"]

/-- The expression after `in`: the last named child, unless it is a binding or a comment. -/
def letBody (n : t.Id) : Option t.Id :=
  (t.namedChildren n).getLast?.filter fun m => !letItemKinds.contains (t.kind m)

def letBindings (n : t.Id) : List t.Id :=
  (t.namedChildren n).filter fun m => t.kind m = "value_declaration"

/-- From the row above a node to a later end. -/
def hangingSpan (n : t.Id) (stop : Point) : Span := ⟨(t.span n).start.lineAbove, stop⟩

/-- The bindings of a `let` fold together, and its body on its own. -/
def letFolds (n : t.Id) : List Fold :=
  let bindings := (letBindings n).getLast?.map fun m =>
    (⟨.region, ⟨(t.span n).start, (t.span m).stop⟩⟩ : Fold)
  let body := (letBody n).map fun m => (⟨.region, hangingSpan m (t.span n).stop⟩ : Fold)
  bindings.toList ++ body.toList

def byKind (n : t.Id) : List Fold :=
  match t.kind n with
  | "import_clause" =>
    if beginsImportRun n then
      [⟨.imports, ⟨(t.span n).start, (t.span (importRunEnd n)).stop⟩⟩]
    else []
  | "let_in_expr" => letFolds n
  | "if_else_expr" =>
    ((t.namedChildren n).drop 1).map fun m => ⟨.region, hangingSpan m (t.span m).stop⟩
  | "value_declaration" => if isTopLevel n then [⟨.region, t.span n⟩] else []
  | "case_of_expr" | "case_of_branch" | "type_declaration" | "type_alias_declaration"
  | "record_expr" => [⟨.region, t.span n⟩]
  | "block_comment" => [⟨.comment, t.span n⟩]
  | _ => []

/-- Named, below a node that has children. -/
def isClassified (n : t.Id) : Bool := t.named n && (t.parent n).any t.hasChildren

/-- The folds of one node; anonymous nodes and the root have none. -/
def ofNode (n : t.Id) : List Fold := if isClassified n then byKind n else []

variable (t) in
def folds : List Fold := (t.walk [t.root]).flatMap ofNode

end Folding

end ElmOverlay
