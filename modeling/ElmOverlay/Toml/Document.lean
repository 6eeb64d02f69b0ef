import ElmOverlay.Toml.Number
import ElmOverlay.Toml.Table

/-!
Whole configuration files: one header, one key with its value, or nothing on each line.
-/
namespace ElmOverlay.Toml

def scalar? (cs : List Char) : Option (Value × List Char) :=
  match cs with
  | '"' :: _ | '\'' :: _ => (string? cs).map fun (t, r) => (.str (String.ofList t), r)
  | 't' :: 'r' :: 'u' :: 'e' :: rest => some (.bool true, rest)
  | 'f' :: 'a' :: 'l' :: 's' :: 'e' :: rest => some (.bool false, rest)
  | _ =>
    match dateTime? cs with
    | some rest => some (.dateTime, rest)
    | none =>
      match float? cs with
      | some rest => some (.float, rest)
      | none => (int? cs).map fun (n, rest) => (.int n, rest)

mutual

/-- Each call spends one unit of fuel; `depth` counts the brackets and braces around. -/
def valueFuel : Nat → Nat → List Char → Option (Value × List Char)
  | 0, _, _ => none
  | n + 1, depth, cs =>
    match cs with
    | '[' :: rest =>
      if depth + 1 < maxDepth then
        (itemsFuel n (depth + 1) (skipLines rest)).map fun (vs, r) => (.array vs, r)
      else none
    | '\x7b' :: rest =>
      if depth + 1 < maxDepth then
        match skipBlanks rest with
        | '\x7d' :: rest => some (.table [], rest)
        | rest => (fieldsFuel n (depth + 1) [] rest).map fun (fs, r) =>
            (.table (Fields.toValues fs), r)
      else none
    | _ => scalar? cs

/-- Items up to the closing bracket; a comma may stand after the last one. -/
def itemsFuel : Nat → Nat → List Char → Option (List Value × List Char)
  | 0, _, _ => none
  | n + 1, depth, cs =>
    match cs with
    | ']' :: rest => some ([], rest)
    | _ => do
      let (v, rest) ← valueFuel n depth cs
      match skipLines rest with
      | ',' :: rest =>
        let (vs, rest) ← itemsFuel n depth (skipLines rest)
        return (v :: vs, rest)
      | ']' :: rest => return ([v], rest)
      | _ => none

/-- Fields up to the closing brace, all on one line. -/
def fieldsFuel : Nat → Nat → Fields → List Char → Option (Fields × List Char)
  | 0, _, _, _ => none
  | n + 1, depth, fields, cs => do
    let (keys, rest) ← dottedKey? cs
    match rest with
    | '=' :: rest =>
      let (v, rest) ← valueFuel n depth (skipBlanks rest)
      let fields ← fields.addAt keys.dropLast (keys.getLast?.getD "") v
      match skipBlanks rest with
      | ',' :: rest => fieldsFuel n depth fields rest
      | '\x7d' :: rest => return (fields, rest)
      | _ => none
    | _ => none

end

def value? (cs : List Char) : Option (Value × List Char) := valueFuel (2 * cs.length + 2) 0 cs

/-- The tables so far and the header that new keys go under. -/
structure Draft where
  fields : Fields := []
  header : List String := []

def Draft.atHeader (d : Draft) (header : List String)
    (change : String → Fields → Option Fields) : Option Draft := do
  let fields ← d.fields.within (change (header.getLast?.getD "")) header.dropLast
  return ⟨fields, header⟩

def headerLine? (d : Draft) (cs : List Char) : Option (Draft × List Char) := do
  match cs with
  | '[' :: '[' :: rest =>
    let (keys, rest) ← dottedKey? rest
    match rest with
    | ']' :: ']' :: rest => return (← d.atHeader keys Fields.openElement, rest)
    | _ => none
  | '[' :: rest =>
    let (keys, rest) ← dottedKey? rest
    match rest with
    | ']' :: rest => return (← d.atHeader keys Fields.openTable, rest)
    | _ => none
  | _ => none

def keyLine? (d : Draft) (cs : List Char) : Option (Draft × List Char) := do
  let (keys, rest) ← dottedKey? cs
  match rest with
  | '=' :: rest =>
    let (v, rest) ← value? (skipBlanks rest)
    let add := fun (fields : Fields) =>
      fields.addAt keys.dropLast (keys.getLast?.getD "") v
    return ({ d with fields := ← d.fields.within add d.header }, rest)
  | _ => none

/-- Reads line after line; each line takes at least one character. -/
def linesFuel : Nat → Draft → List Char → Option Draft
  | 0, _, _ => none
  | n + 1, d, cs =>
    match skipLines cs with
    | [] => some d
    | '#' :: rest => if (rest.dropWhile isPlain).isEmpty then some d else none
    | '[' :: rest => do
      let (d, rest) ← headerLine? d ('[' :: rest)
      linesFuel n d (← lineEnd? rest)
    | rest => do
      let (d, rest) ← keyLine? d rest
      linesFuel n d (← lineEnd? rest)

def isByteOrderMark (c : Char) : Bool := c.toNat = 0xFEFF

def parse? (text : String) : Option Value :=
  let cs := match text.toList with
    | c :: rest => if isByteOrderMark c then rest else c :: rest
    | [] => []
  (linesFuel (cs.length + 1) {} cs).map fun d => .table (Fields.toValues d.fields)

end ElmOverlay.Toml
