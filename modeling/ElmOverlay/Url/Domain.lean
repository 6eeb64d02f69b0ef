import ElmOverlay.Url.Domain.Label

/-!
Domains in ASCII. A domain is brought to the plain form of its characters, composed and cut
into labels; each label is then written with ASCII characters alone.
-/
namespace ElmOverlay.Domain

def labels? (cs : List Char) : Option (List (List Char)) := do
  let plain ← forms? cs
  let labels ← (splitOn (· = '.') (composed plain)).mapM label?
  if labels.all isSound && (!labels.any turns || labels.all keepsDirection) then some labels
  else none

def ascii? (cs : List Char) : Option (List Char) :=
  (labels? cs).map fun labels => ['.'].intercalate (labels.map Punycode.label)

end ElmOverlay.Domain
