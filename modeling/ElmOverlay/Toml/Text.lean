/-!
Characters, blanks and strings of configuration files. Every reader takes the characters that
are left and answers what it read and what follows, or nothing if it does not apply.
-/
namespace ElmOverlay.Toml

def isBlank (c : Char) : Bool := c = ' ' || c = '\t'

def skipBlanks (cs : List Char) : List Char := cs.dropWhile isBlank

/-- Tabs and all that is no control. -/
def isPlain (c : Char) : Bool := c = '\t' || (0x20 ≤ c.toNat && c.toNat ≠ 0x7F)

def newline? : List Char → Option (List Char)
  | '\n' :: rest | '\r' :: '\n' :: rest => some rest
  | _ => none

def skipComment : List Char → List Char
  | '#' :: rest => rest.dropWhile isPlain
  | cs => cs

/-- The rest of a line that holds nothing more. -/
def lineEnd? (cs : List Char) : Option (List Char) :=
  match skipComment (skipBlanks cs) with
  | [] => some []
  | rest => newline? rest

def skipLinesFuel : Nat → List Char → List Char
  | 0, cs => cs
  | n + 1, cs =>
    match newline? (skipComment (skipBlanks cs)) with
    | none => skipBlanks cs
    | some rest => skipLinesFuel n rest

def skipLines (cs : List Char) : List Char := skipLinesFuel (cs.length + 1) cs

def skipBlankLinesFuel : Nat → List Char → List Char
  | 0, cs => cs
  | n + 1, cs =>
    match newline? (skipBlanks cs) with
    | none => skipBlanks cs
    | some rest => skipBlankLinesFuel n rest

def skipBlankLines (cs : List Char) : List Char := skipBlankLinesFuel (cs.length + 1) cs

/-! ### Strings -/

def hexValue? (c : Char) : Option Nat :=
  if '0' ≤ c ∧ c ≤ '9' then some (c.toNat - 48)
  else if 'a' ≤ c ∧ c ≤ 'f' then some (c.toNat - 87)
  else if 'A' ≤ c ∧ c ≤ 'F' then some (c.toNat - 55)
  else none

/-- The character of a code point in hexadecimal digits; surrogates are none. -/
def codePoint? (ds : List Char) : Option Char := do
  let n ← ds.foldlM (fun n d => (hexValue? d).map (n * 16 + ·)) 0
  if n.isValidChar then some (Char.ofNat n) else none

def escape? : List Char → Option (Char × List Char)
  | 'b' :: rest => some (Char.ofNat 8, rest)
  | 't' :: rest => some ('\t', rest)
  | 'n' :: rest => some ('\n', rest)
  | 'f' :: rest => some (Char.ofNat 12, rest)
  | 'r' :: rest => some ('\r', rest)
  | '"' :: rest => some ('"', rest)
  | '\\' :: rest => some ('\\', rest)
  | 'u' :: rest =>
    if 4 ≤ rest.length then (codePoint? (rest.take 4)).map (·, rest.drop 4) else none
  | 'U' :: rest =>
    if 8 ≤ rest.length then (codePoint? (rest.take 8)).map (·, rest.drop 8) else none
  | _ => none

/-- The characters of a string up to its closing quote. -/
def basicFuel : Nat → List Char → Option (List Char × List Char)
  | 0, _ => none
  | n + 1, cs =>
    match cs with
    | '"' :: rest => some ([], rest)
    | '\\' :: rest => do
      let (c, rest) ← escape? rest
      let (text, rest) ← basicFuel n rest
      return (c :: text, rest)
    | c :: rest => if isPlain c then (basicFuel n rest).map fun (text, r) => (c :: text, r) else none
    | [] => none

def basic? (cs : List Char) : Option (List Char × List Char) := basicFuel (cs.length + 1) cs

def literal? : List Char → Option (List Char × List Char)
  | '\'' :: rest => some ([], rest)
  | c :: rest => if isPlain c then (literal? rest).map fun (text, r) => (c :: text, r) else none
  | [] => none

/-- Quotes that belong to the text and the rest after three to five of them. -/
def closing? (quote : Char) (cs : List Char) : Option (List Char × List Char) :=
  let run := (cs.takeWhile (· = quote)).length
  if run < 3 then none else some (List.replicate (min run 5 - 3) quote, cs.drop (min run 5))

/-- A string over several lines up to its closing quotes. With `escapes` a backslash begins an
escape, or swallows the blanks and line ends after it. -/
def multiLineFuel (quote : Char) (escapes : Bool) : Nat → List Char →
    Option (List Char × List Char)
  | 0, _ => none
  | n + 1, cs =>
    match closing? quote cs with
    | some done => some done
    | none =>
      match newline? cs with
      | some rest => (multiLineFuel quote escapes n rest).map fun (t, r) => ('\n' :: t, r)
      | none =>
        match cs with
        | [] => none
        | c :: rest =>
          if escapes ∧ c = '\\' then
            match newline? (skipBlanks rest) with
            | some next =>
              multiLineFuel quote escapes n (skipBlankLines next)
            | none => do
              let (d, rest) ← escape? rest
              let (text, rest) ← multiLineFuel quote escapes n rest
              return (d :: text, rest)
          else if isPlain c then
            (multiLineFuel quote escapes n rest).map fun (t, r) => (c :: t, r)
          else none

def multiLine? (quote : Char) (escapes : Bool) (cs : List Char) :
    Option (List Char × List Char) :=
  multiLineFuel quote escapes (cs.length + 1) ((newline? cs).getD cs)

def string? : List Char → Option (List Char × List Char)
  | '"' :: '"' :: '"' :: rest => multiLine? '"' true rest
  | '\'' :: '\'' :: '\'' :: rest => multiLine? '\'' false rest
  | '"' :: rest => basic? rest
  | '\'' :: rest => literal? rest
  | _ => none

/-! ### Keys -/

def isBareKeyChar (c : Char) : Bool := c.isAlphanum || c = '_' || c = '-'

def simpleKey? (cs : List Char) : Option (String × List Char) :=
  match cs with
  | '"' :: rest => (basic? rest).map fun (t, r) => (String.ofList t, r)
  | '\'' :: rest => (literal? rest).map fun (t, r) => (String.ofList t, r)
  | _ =>
    let key := cs.takeWhile isBareKeyChar
    if key.isEmpty then none else some (String.ofList key, cs.dropWhile isBareKeyChar)

def dottedKeyFuel : Nat → List Char → Option (List String × List Char)
  | 0, _ => none
  | n + 1, cs => do
    let (key, rest) ← simpleKey? (skipBlanks cs)
    match skipBlanks rest with
    | '.' :: rest =>
      let (keys, rest) ← dottedKeyFuel n rest
      return (key :: keys, rest)
    | rest => return ([key], rest)

/-- Limit on the parts of a key and on the nesting of values. -/
def maxDepth : Nat := 80

/-- Keys with dots between them and blanks around each. -/
def dottedKey? (cs : List Char) : Option (List String × List Char) :=
  (dottedKeyFuel (cs.length + 1) cs).filter fun (keys, _) => keys.length < maxDepth

end ElmOverlay.Toml
