import ElmOverlay.Url.Host
import ElmOverlay.Url.Path

/-!
URLs as documents are named by: absolute, read leniently, and written in one normal form.
Schemes of the web and `file` are special: they have a host, a usual service number and a path from
the root. Other schemes have a path with or without a host, or else plain text after the
colon.
-/
namespace ElmOverlay

structure Authority where
  user : List Char := []
  password : List Char := []
  host : List Char
  service : Option Nat := none
  deriving DecidableEq, Repr

inductive UrlBody where
  /-- Text that has no inner structure. -/
  | plain (text : List Char)
  | hierarchical (authority : Option Authority) (path : List (List Char))
  deriving DecidableEq, Repr

structure Url where
  scheme : List Char
  body : UrlBody
  query : Option (List Char)
  fragment : Option (List Char)
  deriving DecidableEq, Repr

namespace Url

def usualService : String → Option Nat
  | "http" | "ws" => some 80
  | "https" | "wss" => some 443
  | "ftp" => some 21
  | _ => none

def isWebScheme (scheme : List Char) : Bool := (usualService (String.ofList scheme)).isSome

def isFileScheme (scheme : List Char) : Bool := scheme = "file".toList

def isSlash (special : Bool) (c : Char) : Bool := c = '/' || (special && c = '\\')

/-! ### Reading -/

def isBlank (c : Char) : Bool := c.toNat ≤ 0x20

def trim (cs : List Char) : List Char :=
  ((cs.dropWhile isBlank).reverse.dropWhile isBlank).reverse

def isSchemeChar (c : Char) : Bool := c.isAlphanum || c = '+' || c = '-' || c = '.'

/-- Splits at the first occurrence of a character. -/
def cut (sep : Char) (cs : List Char) : List Char × Option (List Char) :=
  match cs.dropWhile (· ≠ sep) with
  | [] => (cs, none)
  | _ :: rest => (cs.takeWhile (· ≠ sep), some rest)

/-- Splits at the last occurrence of a character. -/
def cutLast (sep : Char) (cs : List Char) : Option (List Char × List Char) :=
  match cs.reverse.dropWhile (· ≠ sep) with
  | [] => none
  | _ :: front => some (front.reverse, (cs.reverse.takeWhile (· ≠ sep)).reverse)

/-- The scheme in lower case and what follows its colon. -/
def scheme? (cs : List Char) : Option (List Char × List Char) := do
  let (front, rest) := cut ':' cs
  let scheme := UrlPath.withoutBreaks front
  if scheme.head?.any Char.isAlpha && scheme.all isSchemeChar then
    return (scheme.map Char.toLower, ← rest)
  else none

def isEnd (c : Char) : Bool := c = '?' || c = '#'

def beforeEnd (cs : List Char) : List Char := cs.takeWhile fun c => !isEnd c

/-- The host text and what follows it; colons in brackets belong to it. -/
def cutHost (special inBrackets : Bool) : List Char → List Char × List Char
  | [] => ([], [])
  | c :: cs =>
    if isEnd c || isSlash special c || (c = ':' && !inBrackets) then ([], c :: cs)
    else
      let (host, rest) :=
        cutHost special (if c = '[' then true else if c = ']' then false else inBrackets) cs
      (c :: host, rest)

/-- A service number given by digits; the scheme's own one and no digits at all leave it out. -/
def service? (scheme : List Char) (digits : List Char) : Option (Option Nat) :=
  if digits.isEmpty then some none
  else
    let n := digits.foldl (fun n c => n * 10 + (c.toNat - 48)) 0
    if 65535 < n then none
    else if usualService (String.ofList scheme) = some n then some none
    else some (some n)

/-- Reads a service number behind its colon. A backslash ends it in every scheme. -/
def cutService? (scheme cs : List Char) : Option (Option Nat × List Char) := do
  let rest := cs.dropWhile Char.isDigit
  let service ← service? scheme (cs.takeWhile Char.isDigit)
  if rest.head?.all fun c => isEnd c || isSlash true c then some (service, rest) else none

def userinfo (cs : List Char) : List Char × List Char :=
  let (user, password) := cut ':' cs
  (Percent.encode Percent.inUserinfo user, Percent.encode Percent.inUserinfo (password.getD []))

/-- Cuts off user and password. An empty one needs a host behind its sign, unless the whole
text ends there. -/
def cutUser? (special : Bool) (cs : List Char) :
    Option ((List Char × List Char) × List Char) :=
  let reach := cs.takeWhile fun c => !(isEnd c || isSlash special c)
  match cutLast '@' reach with
  | none => some (([], []), cs)
  | some (info, place) =>
    let rest := place ++ cs.drop reach.length
    if info.isEmpty && place.isEmpty && !rest.isEmpty then none else some (userinfo info, rest)

def authority? (scheme cs : List Char) : Option (Authority × List Char) := do
  let special := isWebScheme scheme
  let ((user, password), place) ← cutUser? special cs
  let (hostText, rest) := cutHost special false place
  if hostText.isEmpty &&
      (special || rest.head? = some ':' || !user.isEmpty || !password.isEmpty) then none
  else
    let host ← if special then Host.domain? hostText else Host.verbatim? hostText
    match rest with
    | ':' :: rest =>
      let (service, rest) ← cutService? scheme rest
      return (⟨user, password, host, service⟩, rest)
    | _ => return (⟨user, password, host, none⟩, rest)

/-- The path after an authority; it begins with a slash unless it is empty. -/
def pathAfter (special : Bool) (cs : List Char) : List (List Char) :=
  match cs with
  | [] => if special then [[]] else []
  | c :: rest => (UrlPath.read special false (if isSlash special c then rest else cs)).path false

def withAuthority? (scheme cs : List Char) : Option UrlBody := do
  let (authority, rest) ← authority? scheme cs
  return .hierarchical (some authority) (pathAfter (isWebScheme scheme) (beforeEnd rest))

/-- What follows a slash, which breaks may stand before. -/
def afterSlash? (cs : List Char) : Option (List Char) :=
  match cs.dropWhile UrlPath.isBreak with
  | c :: rest => if isSlash true c then some rest else none
  | [] => none

def localFile (r : UrlPath.Reading) : UrlBody := .hierarchical (some { host := [] }) (r.path true)

/-- A file's host may be missing. The local one is left out, and so is one whose path begins
with a drive. -/
def fileWithHost? (cs : List Char) : Option UrlBody := do
  let front := cs.takeWhile fun c => !isSlash true c
  let text := UrlPath.withoutBreaks front
  let rest := cs.drop front.length
  if UrlPath.isDrive text then return localFile (UrlPath.read true true cs)
  else if text.isEmpty then return localFile (UrlPath.read true true rest)
  else
    let host ← Host.domain? text
    if host = "localhost".toList then return localFile (UrlPath.read true true rest)
    else
      let r := UrlPath.read true true (rest.drop 1)
      return .hierarchical (some { host := if r.onDrive then [] else host }) (r.path true)

/-- What follows the scheme of files, with its breaks. -/
def fileBody? (cs : List Char) : Option UrlBody :=
  match afterSlash? cs with
  | none => some (localFile (UrlPath.read true true cs))
  | some rest =>
    match afterSlash? rest with
    | none => some (localFile (UrlPath.read true true rest))
    | some rest => fileWithHost? rest

def body? (scheme cs : List Char) : Option UrlBody :=
  if isFileScheme scheme then fileBody? (beforeEnd cs)
  else
    let cs := UrlPath.withoutBreaks cs
    if isWebScheme scheme then withAuthority? scheme (cs.dropWhile (isSlash true))
    else
      match cs with
      | '/' :: '/' :: rest => withAuthority? scheme rest
      | '/' :: rest =>
        some (.hierarchical none ((UrlPath.read false false (beforeEnd rest)).path false))
      | _ => some (.plain (Percent.encode Percent.isControl (beforeEnd cs)))

def ofChars? (cs : List Char) : Option Url := do
  let (scheme, rest) ← scheme? (trim cs)
  let body ← body? scheme rest
  let (rest, fragment) := cut '#' (UrlPath.withoutBreaks rest)
  let (_, query) := cut '?' rest
  let special := isWebScheme scheme || isFileScheme scheme
  return {
    scheme := scheme
    body := body
    query := query.map (Percent.encode
      (if special then Percent.inSpecialQuery else Percent.inQuery))
    fragment := fragment.map (Percent.encode Percent.inFragment) }

def parse? (s : String) : Option Url := ofChars? s.toList

/-! ### Writing -/

def Authority.text (a : Authority) : List Char :=
  let info :=
    if a.user.isEmpty && a.password.isEmpty then []
    else a.user ++ (if a.password.isEmpty then [] else ':' :: a.password) ++ ['@']
  let service := (a.service.map fun n => ':' :: (toString n).toList).getD []
  ['/', '/'] ++ info ++ a.host ++ service

def bodyText : UrlBody → List Char
  | .plain text => text
  | .hierarchical (some a) path => Authority.text a ++ UrlPath.toText path
  | .hierarchical none path =>
    (if 1 < path.length ∧ path.head? = some [] then ['/', '.'] else []) ++ UrlPath.toText path

def toChars (u : Url) : List Char :=
  u.scheme ++ [':'] ++ bodyText u.body ++ (u.query.map ('?' :: ·)).getD [] ++
    (u.fragment.map ('#' :: ·)).getD []

protected def toString (u : Url) : String := String.ofList u.toChars

instance : ToString Url := ⟨Url.toString⟩

/-- The bytes of a local path; none for URLs with another host or with plain text. -/
def filePath? (u : Url) : Option (List UInt8) :=
  match u.body with
  | .plain _ => none
  | .hierarchical a path =>
    let host := (a.map Authority.host).getD []
    if host = [] ∨ host = "localhost".toList then some (Percent.decode (UrlPath.toText path))
    else none

end Url

end ElmOverlay
