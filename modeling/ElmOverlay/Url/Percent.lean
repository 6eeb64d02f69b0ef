/-!
Percent-encoding in URLs. Each part of a URL has a set of characters that it cannot show;
those are written as their UTF-8 bytes, two upper-case hexadecimal digits each. Characters
beyond ASCII are never shown.
-/
namespace ElmOverlay.Percent

def isControl (c : Char) : Bool := c.toNat < 0x20 || 0x7E < c.toNat

def inFragment (c : Char) : Bool :=
  isControl c || c = ' ' || c = '"' || c = '<' || c = '>' || c.toNat = 0x60

def inPath (c : Char) : Bool :=
  inFragment c || c = '#' || c = '?' || c = '\x7b' || c = '\x7d'

def inUserinfo (c : Char) : Bool :=
  inPath c || c = '/' || c = ':' || c = ';' || c = '=' || c = '@' || c = '[' || c = '\\' ||
    c = ']' || c = '^' || c = '|'

def inQuery (c : Char) : Bool :=
  isControl c || c = ' ' || c = '"' || c = '#' || c = '<' || c = '>'

def inSpecialQuery (c : Char) : Bool := inQuery c || c = '\''

def hexDigit (n : Nat) : Char :=
  if n < 10 then Char.ofNat (48 + n) else Char.ofNat (55 + n)

def hexValue? (c : Char) : Option Nat :=
  if '0' ≤ c ∧ c ≤ '9' then some (c.toNat - 48)
  else if 'a' ≤ c ∧ c ≤ 'f' then some (c.toNat - 87)
  else if 'A' ≤ c ∧ c ≤ 'F' then some (c.toNat - 55)
  else none

def encodeByte (b : UInt8) : List Char := ['%', hexDigit (b.toNat / 16), hexDigit (b.toNat % 16)]

def encodeChar (hidden : Char → Bool) (c : Char) : List Char :=
  if hidden c then (String.singleton c).toByteArray.toList.flatMap encodeByte else [c]

def encode (hidden : Char → Bool) (cs : List Char) : List Char := cs.flatMap (encodeChar hidden)

/-- The bytes that a text stands for. A percent sign without two digits stands for itself. -/
def decode : List Char → List UInt8
  | [] => []
  | '%' :: a :: b :: rest =>
    match hexValue? a, hexValue? b with
    | some x, some y => (x * 16 + y).toUInt8 :: decode rest
    | _, _ => '%'.toNat.toUInt8 :: decode (a :: b :: rest)
  | c :: rest => (String.singleton c).toByteArray.toList ++ decode rest

end ElmOverlay.Percent
