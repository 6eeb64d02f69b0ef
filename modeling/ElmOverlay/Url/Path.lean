import ElmOverlay.Text.Split
import ElmOverlay.Url.Percent

/-!
Hierarchical URL paths as lists of segments. Dot segments are resolved while reading, so a
path never climbs above its root, nor above a segment that is a drive. Line breaks and tabs
do not count, except that one right behind the drive of a file path ends the segment.
-/
namespace ElmOverlay.UrlPath

/-- Tabs and line breaks are passed over wherever they stand. -/
def isBreak (c : Char) : Bool := c = '\t' || c = '\n' || c = '\r'

def withoutBreaks (cs : List Char) : List Char := cs.filter fun c => !isBreak c

def isDot (s : List Char) : Bool := s.map Char.toLower ∈ [".".toList, "%2e".toList]

def isDoubleDot (s : List Char) : Bool :=
  s.map Char.toLower ∈ ["..".toList, ".%2e".toList, "%2e.".toList, "%2e%2e".toList]

/-- A letter and a colon or bar. -/
def isDrive : List Char → Bool
  | [a, b] => a.isAlpha && (b = ':' || b = '|')
  | _ => false

/-- A drive alone or with a backslash behind it; climbing stops there. -/
def standsFast (s : List Char) : Bool :=
  isDrive (s.take 2) && (s.drop 2).head?.all (· = '\\')

/-- The cut between a drive with its colon and what follows behind a break. -/
def cutDrive? (raw : List Char) : Option (List Char × List Char) :=
  match raw.dropWhile isBreak with
  | a :: rest =>
    match rest.dropWhile isBreak with
    | ':' :: b :: rest =>
      if a.isAlpha && isBreak b && !(withoutBreaks rest).isEmpty then
        some ([a, ':'], withoutBreaks rest)
      else none
    | _ => none
  | [] => none

/-- The segments read so far, last first, and whether the first one was set as the drive of a
file. -/
structure Reading where
  walked : List (List Char) := []
  onDrive : Bool := false

def Reading.add (r : Reading) (segment : List Char) : Reading :=
  { r with walked := segment :: r.walked }

def Reading.climb (r : Reading) : Reading :=
  if r.walked.head?.any standsFast then r else { r with walked := r.walked.tail }

def encode (cs : List Char) : List Char := Percent.encode Percent.inPath cs

/-- Reads a segment; `atEnd` tells the last one. -/
def Reading.step (file : Bool) (r : Reading) (raw : List Char) (atEnd : Bool) : Reading :=
  let text := encode (withoutBreaks raw)
  if isDoubleDot text then if atEnd then r.climb.add [] else r.climb
  else if isDot text then if atEnd then r.add [] else r
  else if file ∧ r.walked = [] then
    match cutDrive? raw with
    | some (drive, rest) => (r.add drive).add (encode rest)
    | none => if isDrive text then ⟨[text.take 1 ++ [':']], true⟩ else r.add text
  else r.add text

def Reading.all (file : Bool) (r : Reading) : List (List Char) → Reading
  | [] => r
  | [s] => r.step file s true
  | s :: ss => Reading.all file (r.step file s false) ss

/-- File paths have no empty segments in front of others. -/
def dropEmptyFront : List (List Char) → List (List Char)
  | [] :: s :: ss => dropEmptyFront (s :: ss)
  | path => path

/-- Reads what follows the first slash of a path; special schemes take backslashes for
slashes. -/
def read (special file : Bool) (cs : List Char) : Reading :=
  Reading.all file {} (splitOn (fun c => c = '/' || (special && c = '\\')) cs)

def Reading.path (file : Bool) (r : Reading) : List (List Char) :=
  if file then dropEmptyFront r.walked.reverse else r.walked.reverse

def toText (path : List (List Char)) : List Char := path.flatMap ('/' :: ·)

end ElmOverlay.UrlPath
