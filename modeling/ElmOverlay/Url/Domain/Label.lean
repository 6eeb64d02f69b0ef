import ElmOverlay.Url.Domain.Composition
import ElmOverlay.Url.Domain.Direction
import ElmOverlay.Url.Domain.Joining
import ElmOverlay.Url.Domain.Mapping
import ElmOverlay.Url.Punycode

/-!
The labels between the dots of a domain, as they are shown. One that comes in its ASCII form
has to stand for what the shown form would be written as.
-/
namespace ElmOverlay.Domain

def isAscii (c : Char) : Bool := c.toNat < 0x80

/-- Codes and labels longer than these are refused. -/
def longestCode : Nat := 2000

def longestLabel : Nat := 1000

/-- The label of an ASCII form without its marker. -/
def labelOfCode? (code : List Char) : Option (List Char) :=
  if longestCode < code.length ∨ code.isEmpty ∨ code.getLast? = some '-' ∨ !code.all isAscii then
    none
  else
    (Punycode.decode? code).filter fun label => label.all isPlain && composed label == label

def label? (l : List Char) : Option (List Char) :=
  if Punycode.marker.isPrefixOf l then labelOfCode? (l.drop Punycode.marker.length) else some l

def isSound (label : List Char) : Bool :=
  !label.head?.any isMark && joinersAgree [] label &&
    (label.all isAscii || label.length ≤ longestLabel)

end ElmOverlay.Domain
