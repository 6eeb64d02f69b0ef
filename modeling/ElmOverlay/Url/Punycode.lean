/-!
The ASCII form of domain labels. Characters beyond ASCII are written after a hyphen as
distances between code points in ascending order, in a mixed base whose thresholds adapt to
the distances so far.
-/
namespace ElmOverlay.Punycode

def digit (d : Nat) : Char := if d < 26 then Char.ofNat (97 + d) else Char.ofNat (22 + d)

def threshold (k bias : Nat) : Nat :=
  if k ≤ bias then 1 else if bias + 26 ≤ k then 26 else k - bias

theorem threshold_bounds (k bias : Nat) : 1 ≤ threshold k bias ∧ threshold k bias ≤ 26 := by
  unfold threshold
  split
  · omega
  · split <;> omega

/-- Divides by 35 down to 455, counting 36 for each step. -/
def scaleDown (delta k : Nat) : Nat × Nat :=
  if 455 < delta then scaleDown (delta / 35) (k + 36) else (delta, k)
termination_by delta
decreasing_by exact Nat.div_lt_self (by omega) (by omega)

def adapt (delta points : Nat) (first : Bool) : Nat :=
  let d := if first then delta / 700 else delta / 2
  let (d, k) := scaleDown (d + d / points) 0
  k + 36 * d / (d + 38)

/-- A distance as digits, the least significant first. -/
def digits (bias k q : Nat) : List Char :=
  let t := threshold k bias
  if q < t then [digit q]
  else digit (t + (q - t) % (36 - t)) :: digits bias (k + 36) ((q - t) / (36 - t))
termination_by q
decreasing_by
  have := threshold_bounds k bias
  exact Nat.lt_of_le_of_lt (Nat.div_le_self _ _) (by omega)

structure Progress where
  output : List Char
  delta : Nat
  bias : Nat
  handled : Nat

/-- Passes one character while code point `n` is being written. -/
def pass (basic n : Nat) (p : Progress) (c : Char) : Progress :=
  if c.toNat < n then { p with delta := p.delta + 1 }
  else if c.toNat = n then
    { output := p.output ++ digits p.bias 36 p.delta
      delta := 0
      bias := adapt p.delta (p.handled + 1) (p.handled == basic)
      handled := p.handled + 1 }
  else p

/-- Writes the code points of a list in turn; `n` is the least one not yet passed. -/
def writePoints (input : List Char) (basic : Nat) : List Nat → Nat → Progress → Progress
  | [], _, p => p
  | m :: rest, n, p =>
    let p := input.foldl (pass basic m) { p with delta := p.delta + (m - n) * (p.handled + 1) }
    writePoints input basic rest (m + 1) { p with delta := p.delta + 1 }

def insertPoint (x : Nat) : List Nat → List Nat
  | [] => [x]
  | y :: ys =>
    if x < y then x :: y :: ys else if x = y then y :: ys else y :: insertPoint x ys

def encode (label : List Char) : List Char :=
  let basic := label.filter fun c => c.toNat < 128
  let points := (label.filter fun c => 128 ≤ c.toNat).foldr (fun c ps => insertPoint c.toNat ps) []
  let front := if basic.isEmpty then [] else basic ++ ['-']
  let done := writePoints label basic.length points 128 ⟨[], 0, 72, basic.length⟩
  front ++ done.output

/-! ### Reading -/

def digitValue? (c : Char) : Option Nat :=
  if 'a' ≤ c ∧ c ≤ 'z' then some (c.toNat - 97)
  else if '0' ≤ c ∧ c ≤ '9' then some (c.toNat - 22)
  else none

theorem digitValue?_digit : ∀ d < 36, digitValue? (digit d) = some d := by decide

/-- A label being read: its characters so far, the place and the code point of the last one
put in, and the distance whose digits are being read, with the weight of its next digit. -/
structure Reading where
  label : List Char
  place : Nat
  point : Nat
  bias : Nat
  distance : Nat
  weight : Nat
  k : Nat

def Reading.put? (r : Reading) : Option Reading :=
  let size := r.label.length + 1
  let reached := r.place + r.distance
  let point := r.point + reached / size
  let place := reached % size
  if point < 0xD800 ∨ (0xDFFF < point ∧ point < 0x110000) then
    some {
      label := r.label.take place ++ Char.ofNat point :: r.label.drop place
      place := place + 1
      point := point
      bias := adapt r.distance size (r.place == 0)
      distance := 0
      weight := 1
      k := 36 }
  else none

def Reading.step? (r : Reading) (c : Char) : Option Reading := do
  let d ← digitValue? c
  let t := threshold r.k r.bias
  let r := { r with distance := r.distance + d * r.weight }
  if d < t then r.put? else some { r with weight := r.weight * (36 - t), k := r.k + 36 }

/-- Splits at the last hyphen unless it comes first. -/
def cutCode (code : List Char) : List Char × List Char :=
  match code.reverse.dropWhile (· ≠ '-') with
  | [] | [_] => ([], code)
  | _ :: basic => (basic.reverse, (code.reverse.takeWhile (· ≠ '-')).reverse)

/-- The label that `encode` writes as `code`. -/
def decode? (code : List Char) : Option (List Char) := do
  let (basic, digits) := cutCode code
  let r ← digits.foldlM Reading.step? ⟨basic, 0, 128, 72, 0, 1, 36⟩
  if r.k = 36 then some r.label else none

/-! ### Labels in hosts -/

def marker : List Char := ['x', 'n', '-', '-']

/-- A label as it stands in a host: unchanged if ASCII, else marked and encoded. -/
def label (l : List Char) : List Char :=
  if l.all fun c => c.toNat < 128 then l else marker ++ encode l

end ElmOverlay.Punycode
