import ElmOverlay.Text.Halving
import ElmOverlay.Text.Point

/-!
A source text with its lines and where they begin. Offsets count UTF-8 bytes. Lines end
at `'\n'` and at nothing else, so a text has one line more than it has newlines. Three measures
of one place meet here: the byte offset, the point (row and byte column), and the column in
UTF-16 code units.
-/
namespace ElmOverlay

/-! ### Lines -/

def newlineByte : UInt8 := 10

/-- The starts of lines so far, and the offset of the byte to come. -/
structure StartScan where
  starts : Array Nat := #[0]
  offset : Nat := 0

def StartScan.step (s : StartScan) (byte : UInt8) : StartScan :=
  ⟨if byte = newlineByte then s.starts.push (s.offset + 1) else s.starts, s.offset + 1⟩

/-- The offsets at which the lines of a text begin: its start and the places behind newlines. -/
def lineStarts (bytes : Array UInt8) : Array Nat := (bytes.foldl StartScan.step {}).starts

/-- Lines that are finished and the characters of the open line, latest first. -/
structure LineScan where
  done : Array (List Char) := #[]
  current : List Char := []

def LineScan.step (s : LineScan) (c : Char) : LineScan :=
  if c = '\n' then ⟨s.done.push s.current.reverse, []⟩ else { s with current := c :: s.current }

/-- The lines of a text without their newlines. -/
def splitLines (cs : List Char) : Array (List Char) :=
  let s := cs.foldl LineScan.step {}
  s.done.push s.current.reverse

/-- UTF-16 code units of a character: two outside the basic plane. -/
def utf16Width (c : Char) : Nat := if c.toNat < 0x10000 then 1 else 2

/-- Code units of the characters of a line that begin before byte `column`. -/
def utf16Before (column : Nat) : List Char → Nat
  | [] => 0
  | c :: cs =>
    if column = 0 then 0 else utf16Width c + utf16Before (column - c.utf8Size) cs

/-! ### Sources -/

/-- From the offset of the first byte to the offset behind the last one. -/
structure ByteRange where
  start : Nat
  stop : Nat
  deriving DecidableEq, Inhabited, Repr

/-- A text with its bytes, its lines and their starts, each computed once. -/
structure Source where
  text : String
  bytes : ByteArray := text.toByteArray
  lineStarts : Array Nat := ElmOverlay.lineStarts text.toByteArray.data
  lines : Array (List Char) := splitLines text.toList
  bytes_eq : bytes = text.toByteArray := by rfl
  lineStarts_eq : lineStarts = ElmOverlay.lineStarts text.toByteArray.data := by rfl
  lines_eq : lines = splitLines text.toList := by rfl

namespace Source

def ofString (text : String) : Source := { text }

def size (s : Source) : Nat := s.bytes.size

/-- The text in a range, if both ends lie on character boundaries. A reversed range selects
nothing. -/
def slice? (s : Source) (r : ByteRange) : Option String :=
  String.fromUTF8? (s.bytes.extract r.start r.stop)

/-- The point of an offset, on the last line that begins at or before it; nothing, if none does. -/
def pointAt? (s : Source) (offset : Nat) : Option Point :=
  match partitionPoint s.lineStarts (· ≤ offset) with
  | 0 => none
  | row + 1 => do
    let start ← s.lineStarts[row]?
    if start ≤ offset then some ⟨row.toUInt32, (offset - start).toUInt32⟩ else none

def pointAt (s : Source) (offset : Nat) : Point := (s.pointAt? offset).getD default

/-- Both ends of a range lie in the text or at its end. -/
def Covers (s : Source) (r : ByteRange) : Prop := r.start ≤ s.size ∧ r.stop ≤ s.size

def spanOf (s : Source) (r : ByteRange) : Span := ⟨s.pointAt r.start, s.pointAt r.stop⟩

/-- The column of a point in UTF-16 code units. A row that the text lacks keeps its column. -/
def utf16Column (s : Source) (p : Point) : UInt32 :=
  match s.lines[p.row.toNat]? with
  | none => p.column
  | some line => (utf16Before p.column.toNat line).toUInt32

/-- An offset on a character boundary. -/
def OnBoundary (s : Source) (offset : Nat) : Prop :=
  String.Pos.Raw.isValid s.text ⟨offset⟩ = true

instance (s : Source) (offset : Nat) : Decidable (s.OnBoundary offset) :=
  inferInstanceAs (Decidable (_ = true))

end Source

/-! ### Occurrences -/

/-- `part` stands in `whole` at byte `offset`. -/
def OccursAt (part whole : ByteArray) (offset : Nat) : Prop :=
  ∃ front back, whole = front ++ part ++ back ∧ front.size = offset

/-- Whether the bytes of `part` from `i` on agree with those of `whole` from `offset + i` on. -/
def agreeFrom (part whole : ByteArray) (offset i : Nat) : Bool :=
  if h : i < part.size then
    if hw : offset + i < whole.size then
      part[i] == whole[offset + i] && agreeFrom part whole offset (i + 1)
    else false
  else true
termination_by part.size - i

/-- The least offset from `offset` on at which `part` stands in `whole`. -/
def findFrom (part whole : ByteArray) (offset : Nat) : Option Nat :=
  if offset + part.size ≤ whole.size then
    if agreeFrom part whole offset 0 then some offset
    else findFrom part whole (offset + 1)
  else none
termination_by whole.size + 1 - offset

theorem le_of_findFrom {part whole : ByteArray} {offset found : Nat}
    (h : findFrom part whole offset = some found) :
    offset ≤ found ∧ found + part.size ≤ whole.size := by
  induction offset using findFrom.induct part whole with
  | case1 offset fits agree =>
    rw [findFrom, if_pos fits, if_pos agree] at h
    cases h
    exact ⟨Nat.le_refl _, fits⟩
  | case2 offset fits differ ih =>
    rw [findFrom, if_pos fits, if_neg differ] at h
    have := ih h
    omega
  | case3 offset beyond =>
    rw [findFrom, if_neg beyond] at h
    cases h

def Source.find? (s : Source) (part : String) (offset : Nat) : Option Nat :=
  findFrom part.toByteArray s.bytes offset

theorem Source.covers_of_find? {s : Source} {part : String} {offset found : Nat}
    (h : s.find? part offset = some found) :
    s.Covers ⟨found, found + part.utf8ByteSize⟩ := by
  have := (le_of_findFrom h).2
  have size : part.toByteArray.size = part.utf8ByteSize := rfl
  simp only [Source.Covers, Source.size]
  omega

end ElmOverlay
