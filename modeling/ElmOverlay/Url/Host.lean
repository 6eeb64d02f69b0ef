import ElmOverlay.Text.Split
import ElmOverlay.Url.Domain
import ElmOverlay.Url.Percent

/-!
Hosts of URLs: domains, addresses of four and of sixteen bytes, and opaque hosts of schemes
that give them no meaning. Every host is kept in its written form.
-/
namespace ElmOverlay.Host

/-! ### Addresses of four bytes -/

def digitValue? (base : Nat) (c : Char) : Option Nat :=
  (Percent.hexValue? c).filter (· < base)

def number? (base : Nat) (cs : List Char) : Option Nat :=
  cs.foldl (fun acc c => acc.bind fun n => (digitValue? base c).map (n * base + ·)) (some 0)

/-- A number with `0x` for sixteen and `0` for eight as base; nothing after the `0x` is zero. -/
def part? : List Char → Option Nat
  | [] => none
  | '0' :: 'x' :: rest | '0' :: 'X' :: rest => number? 16 rest
  | '0' :: c :: rest => number? 8 (c :: rest)
  | cs => number? 10 cs

/-- The dotted parts without an empty last one. -/
def dottedParts (cs : List Char) : List (List Char) :=
  let parts := splitOn (· = '.') cs
  if 1 < parts.length ∧ parts.getLast? = some [] then parts.dropLast else parts

def endsInNumber (cs : List Char) : Bool :=
  match (dottedParts cs).getLast? with
  | none | some [] => false
  | some l => l.all Char.isDigit || (l.take 1 = ['0'] && (part? l).isSome)

def address4? (cs : List Char) : Option Nat := do
  let numbers ← (dottedParts cs).mapM part?
  let last ← numbers.getLast?
  let front := numbers.dropLast
  if 4 < numbers.length ∨ front.any (255 < ·) ∨ Nat.pow 256 (5 - numbers.length) ≤ last then none
  else
    let placed := (List.range front.length).zipWith (fun i n => n * Nat.pow 256 (3 - i)) front
    return placed.foldl (· + ·) last

/-- The four bytes of an address, the highest first. -/
def address4Bytes (n : Nat) : List Nat :=
  [n / 256 / 256 / 256, n / 256 / 256 % 256, n / 256 % 256, n % 256]

def address4Text (n : Nat) : List Char :=
  (".".intercalate ((address4Bytes n).map toString)).toList

/-! ### Addresses of sixteen bytes -/

def hexPiece? (cs : List Char) : Option Nat :=
  if cs.isEmpty ∨ 4 < cs.length then none else number? 16 cs

/-- A decimal byte without leading zeros. -/
def bytePart? (cs : List Char) : Option Nat :=
  if cs.isEmpty ∨ (1 < cs.length ∧ cs.head? = some '0') ∨ !cs.all Char.isDigit then none
  else (number? 10 cs).filter (· ≤ 255)

/-- Four dotted bytes as two pieces. -/
def dottedTail? (cs : List Char) : Option (List Nat) := do
  match ← (splitOn (· = '.') cs).mapM bytePart? with
  | [a, b, c, d] => return [a * 256 + b, c * 256 + d]
  | _ => none

def pieces? : List (List Char) → Option (List Nat)
  | [] => some []
  | [l] => if l.contains '.' then dottedTail? l else (hexPiece? l).map ([·])
  | p :: ps => do return (← hexPiece? p) :: (← pieces? ps)

/-- The colon-separated pieces of a stretch of an address; the empty stretch has none. -/
def stretch? (cs : List Char) : Option (List Nat) :=
  if cs.isEmpty then some [] else pieces? (splitOn (· = ':') cs)

/-- The texts before and after the first double colon. -/
def splitGap : List Char → Option (List Char × List Char)
  | ':' :: ':' :: rest => some ([], rest)
  | c :: rest => (splitGap rest).map fun (a, b) => (c :: a, b)
  | [] => none

def address6? (cs : List Char) : Option (List Nat) := do
  match splitGap cs with
  | none =>
    let ps ← stretch? cs
    if ps.length = 8 then return ps else none
  | some (a, b) =>
    let front ← stretch? a
    let back ← stretch? b
    if a.contains '.' ∨ 7 < front.length + back.length then none
    else return front ++ List.replicate (8 - front.length - back.length) 0 ++ back

def zeroRun (ps : List Nat) : Nat := (ps.takeWhile (· = 0)).length

/-- Start and length of the first longest run of zero pieces. -/
def longestZeros (ps : List Nat) : Nat × Nat :=
  (List.range ps.length).foldl
    (fun best i => let n := zeroRun (ps.drop i); if best.2 < n then (i, n) else best) (0, 0)

def piecesText (ps : List Nat) : String :=
  ":".intercalate (ps.map fun p => String.ofList (Nat.toDigits 16 p))

def address6Text (ps : List Nat) : List Char :=
  let (start, len) := longestZeros ps
  let inner :=
    if len < 2 then piecesText ps
    else piecesText (ps.take start) ++ "::" ++ piecesText (ps.drop (start + len))
  ("[" ++ inner ++ "]").toList

/-! ### Domains -/

def isForbidden (c : Char) : Bool :=
  c = '\x00' || c = '\t' || c = '\n' || c = '\r' || c = ' ' || c = '#' || c = '/' || c = ':' ||
    c = '<' || c = '>' || c = '?' || c = '@' || c = '[' || c = '\\' || c = ']' || c = '^' ||
    c = '|'

def isForbiddenInDomain (c : Char) : Bool :=
  isForbidden c || c.toNat < 0x20 || c = '%' || c.toNat = 0x7F

def bracketed? (cs : List Char) : Option (List Char) :=
  if cs.head? = some '[' ∧ cs.getLast? = some ']' then some cs.tail.dropLast else none

/-- The host of a scheme that has domains. -/
def domain? (cs : List Char) : Option (List Char) := do
  if cs.head? = some '[' then return address6Text (← address6? (← bracketed? cs))
  let decoded ← String.fromUTF8? ⟨(Percent.decode cs).toArray⟩
  let domain ← Domain.ascii? decoded.toList
  if domain.isEmpty || domain.any isForbiddenInDomain then none
  else if endsInNumber domain then return address4Text (← address4? domain)
  else return domain

/-- The host of any other scheme; it may be empty. -/
def verbatim? (cs : List Char) : Option (List Char) := do
  if cs.head? = some '[' then return address6Text (← address6? (← bracketed? cs))
  if cs.any isForbidden then none else return Percent.encode Percent.isControl cs

end ElmOverlay.Host
