import ElmOverlay.Toml.Text

/-!
Numbers, dates and times of configuration files. Whole numbers fit into 64 bits with sign, and
a number with a fraction or an exponent may not grow beyond all finite ones.
-/
namespace ElmOverlay.Toml

/-- Digits with single underscores between them. -/
def digitRun? (isDigit : Char → Bool) : List Char → Option (List Char × List Char)
  | [] => none
  | c :: rest =>
    if !isDigit c then none
    else
      match rest with
      | '_' :: d :: more =>
        if isDigit d then (digitRun? isDigit (d :: more)).map fun (t, r) => (c :: t, r)
        else some ([c], rest)
      | d :: more =>
        if isDigit d then (digitRun? isDigit (d :: more)).map fun (t, r) => (c :: t, r)
        else some ([c], rest)
      | [] => some ([c], [])

def numeral (base : Nat) (ds : List Char) : Nat :=
  ds.foldl (fun n d => n * base + (hexValue? d).getD 0) 0

/-- A sign, true for minus. -/
def sign : List Char → Bool × List Char
  | '-' :: rest => (true, rest)
  | '+' :: rest => (false, rest)
  | cs => (false, cs)

/-- The digits of a decimal number; only zero itself begins with a zero. -/
def decimal? : List Char → Option (List Char × List Char)
  | '0' :: rest => some (['0'], rest)
  | cs => digitRun? Char.isDigit cs

/-- Whole numbers lie below this bound, and not below its negative. -/
def intBound : Nat := 9223372036854775808

def basedInt? (base : Nat) (cs : List Char) : Option (Int × List Char) := do
  let (ds, rest) ← digitRun? (fun c => (hexValue? c).any (· < base)) cs
  let n := numeral base ds
  if n < intBound then return (n, rest) else none

def int? (cs : List Char) : Option (Int × List Char) :=
  match cs with
  | '0' :: 'x' :: rest => basedInt? 16 rest
  | '0' :: 'o' :: rest => basedInt? 8 rest
  | '0' :: 'b' :: rest => basedInt? 2 rest
  | _ => do
    let (negative, rest) := sign cs
    let (ds, rest) ← decimal? rest
    let n : Int := numeral 10 ds
    let n := if negative then -n else n
    if -(intBound : Int) ≤ n ∧ n < intBound then return (n, rest) else none

def fraction? : List Char → Option (List Char × List Char)
  | '.' :: rest => digitRun? Char.isDigit rest
  | _ => none

def exponent? : List Char → Option (Int × List Char)
  | c :: rest => do
    if c ≠ 'e' ∧ c ≠ 'E' then none
    let (negative, rest) := sign rest
    let (ds, rest) ← digitRun? Char.isDigit rest
    let n : Int := numeral 10 ds
    return (if negative then -n else n, rest)
  | [] => none

/-- Half a unit above the greatest double. -/
def leastInfinite : Nat := (Nat.pow 2 54 - 1) * Nat.pow 2 970

/-- Whether digits times a power of ten round to infinity in double precision. -/
def exceedsDouble (ds : List Char) (power : Int) : Bool :=
  let ds := ds.dropWhile (· = '0')
  let top := ds.length + power
  if ds.isEmpty || top < 309 then false
  else if 309 < top then true
  else
    if 0 ≤ power then leastInfinite ≤ numeral 10 ds * Nat.pow 10 power.toNat
    else leastInfinite * Nat.pow 10 (-power).toNat ≤ numeral 10 ds

def namedFloat? (cs : List Char) : Option (List Char) :=
  match (sign cs).2 with
  | 'i' :: 'n' :: 'f' :: rest | 'n' :: 'a' :: 'n' :: rest => some rest
  | _ => none

def decimalFloat? (cs : List Char) : Option (List Char) := do
  let (negative, rest) := sign cs
  let (whole, rest) ← decimal? rest
  let (part, rest, mark) :=
    match fraction? rest with
    | some (part, rest) => (part, rest, true)
    | none => ([], rest, false)
  let (power, rest, mark) :=
    match exponent? rest with
    | some (power, rest) => (power, rest, true)
    | none => (0, rest, mark)
  if !mark || (!negative && exceedsDouble (whole ++ part) (power - part.length)) then none
  else return rest

def float? (cs : List Char) : Option (List Char) := (decimalFloat? cs).or (namedFloat? cs)

/-! ### Dates and times -/

/-- Exactly `count` digits with a value in a range. -/
def digitsIn? (count low high : Nat) (cs : List Char) : Option (Nat × List Char) :=
  let ds := cs.take count
  let n := numeral 10 ds
  if ds.length = count ∧ ds.all Char.isDigit ∧ low ≤ n ∧ n ≤ high then some (n, cs.drop count)
  else none

def char? (c : Char) : List Char → Option (List Char)
  | d :: rest => if c = d then some rest else none
  | [] => none

def isLeapYear (year : Nat) : Bool :=
  year % 4 = 0 && (year % 100 ≠ 0 || year % 400 = 0)

def daysIn (year month : Nat) : Nat :=
  if month = 2 then (if isLeapYear year then 29 else 28)
  else if month = 4 ∨ month = 6 ∨ month = 9 ∨ month = 11 then 30
  else 31

def date? (cs : List Char) : Option (List Char) := do
  let (year, rest) ← digitsIn? 4 0 9999 cs
  let (month, rest) ← digitsIn? 2 1 12 (← char? '-' rest)
  let (_, rest) ← digitsIn? 2 1 (daysIn year month) (← char? '-' rest)
  return rest

def time? (cs : List Char) : Option (List Char) := do
  let (_, rest) ← digitsIn? 2 0 23 cs
  let (_, rest) ← digitsIn? 2 0 59 (← char? ':' rest)
  let (_, rest) ← digitsIn? 2 0 60 (← char? ':' rest)
  match rest with
  | '.' :: more =>
    if more.head?.any Char.isDigit then return more.dropWhile Char.isDigit else return rest
  | _ => return rest

def offset? : List Char → Option (List Char)
  | 'Z' :: rest | 'z' :: rest => some rest
  | c :: rest => do
    if c ≠ '+' ∧ c ≠ '-' then none
    let (_, rest) ← digitsIn? 2 0 23 rest
    let (_, rest) ← digitsIn? 2 0 59 (← char? ':' rest)
    return rest
  | [] => none

def timeAfterDate? : List Char → Option (List Char)
  | c :: rest => do
    if c ≠ 'T' ∧ c ≠ 't' ∧ c ≠ ' ' then none
    let rest ← time? rest
    return (offset? rest).getD rest
  | [] => none

def dateTime? (cs : List Char) : Option (List Char) :=
  match date? cs with
  | some rest => some ((timeAfterDate? rest).getD rest)
  | none => time? cs

end ElmOverlay.Toml
