import ElmOverlay.Url.Domain.Mark

/-!
Directions of writing in domains. Once a label is written from the right or holds Arabic
numbers, every label has to keep one direction: it begins with a letter, ends with a letter or
number, marks aside, and holds no letter of the other direction.
-/
namespace ElmOverlay.Domain

inductive Direction where
  | left
  | right
  | europeanNumber
  | arabicNumber
  /-- Follows what stands before it. -/
  | mark
  /-- Signs of no direction. -/
  | neutral
  deriving DecidableEq, Repr

/-- Letters written from the right; the ranges run over code points that domains refuse. -/
def rightLetters : List String := [
  "5BE 5C0 5C3 5C6 5D0-5F4 608 60B 60D 61B-64A 66D-66F 671-6D5 6E5-6E6 6EE-6EF 6FA-710 712-72F",
  "74D-7A5 7B1-7EA 7F4-7F5 7FA 7FE-815 81A 824 828 830-858 85E-88F 8A0-8C9 FBB2-FBC2 FE73",
  "10800-1091B 10920-10A00 10A10-10A35 10A40-10AE4 10AEB-10B35 10B40-10D23 10D4A-10D4F",
  "10D6F-10D8F 10E80-10EA9 10EAD-10ECA 10F00-10F45 10F51-10F81 10F86-10FF6 1E800-1E8CF",
  "1E922-1E943 1E94B-1ED3D"]

def europeanNumbers : List String := ["30-39 6F0-6F9 102E1-102FB"]

def arabicNumbers : List String := ["660-669 66B-66C 10D30-10D49 10E60-10E7E"]

def neutralSigns : List String := [
  "0-2F 3A-60 7B-D7 F7 2B9-2BA 2C2-2CF 2D2-2ED 2EF-2FF 375 3F6 58A-58F 606-607 609-60A 60C",
  "60E-60F 66A 6DE 6E9 7F6-7F9 9F2-9F3 9FB AF1 BF3-BFA C78-C7E E3F F3A-F3D 1390-1399 1400",
  "169B-169C 17DB 17F0-180A 1940-1945 19DE-19FF 200C-20C4 2104-214D 218A-2335 237B-2394",
  "2396-26AB 26AD-27FF 2900-2BFF 2CE5-2CEA 2CF9-2CFF 2E00-3004 3008-3020 3030 3037 303D-303F",
  "30A0 30FB 31C0-31E5 4DC0-4DFF A490-A4C6 A60D-A60F A673 A67E-A67F A700-A721 A788 A828-A82B",
  "A838-A839 A874-A877 AB6A-AB6B FBC3-FDFF FE45-FE46 10101 10140-1018C 10190-101A0 1091F",
  "10B39-10B3F 10D6E 10ECB-10ED9 11052-11065 11660-1166C 11FD5-11FF1 16FE2 1CC00-1CEFF",
  "1D1E9-1D241 1D245 1D300-1D356 1DB00-1DBFF 1E2FF 1EEF0-1F12F 1F16D-1F16F 1F1AD 1F260-1FBFA"]

/-- Nonspacing marks that take part in the line like letters. -/
def leftMarks : List String := ["CBF CC6 11A07-11A08 11C3F"]

def directions : RangeTable Direction :=
  .ofEntries (RangeTable.entries .right rightLetters ++
    RangeTable.entries .europeanNumber europeanNumbers ++
    RangeTable.entries .arabicNumber arabicNumbers ++
    RangeTable.entries .neutral neutralSigns ++ RangeTable.entries .left leftMarks)

def direction (c : Char) : Direction :=
  match directions.get? c with
  | some d => d
  | none => if isNonspacing c then .mark else .left

/-- Whether the rule on directions is called for. -/
def turns (label : List Char) : Bool :=
  label.any fun c =>
    0x590 ≤ c.toNat && (direction c == .right || direction c == .arabicNumber)

/-- What follows the first character keeps its direction; `rest` ends in no mark. -/
def continues (first : Direction) (rest : List Direction) : Bool :=
  match first with
  | .left =>
    rest.all (fun d => d != .right && d != .arabicNumber) &&
      rest.getLast?.all fun d => d == .left || d == .europeanNumber
  | .right =>
    rest.all (fun d => d != .left) &&
      !(rest.contains .europeanNumber && rest.contains .arabicNumber) &&
      rest.getLast?.all fun d => d == .right || d == .europeanNumber || d == .arabicNumber
  | _ => false

def keepsDirection (label : List Char) : Bool :=
  match label.map direction with
  | [] => true
  | first :: rest => continues first (rest.reverse.dropWhile (· == .mark)).reverse

end ElmOverlay.Domain
