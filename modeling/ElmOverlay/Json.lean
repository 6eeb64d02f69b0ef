/-!
JSON values as the editor sends and receives them. Whole numbers are integers; a number
written with a fraction, an exponent or a negative zero keeps its literal. The fields of an
object have different names.
-/
namespace ElmOverlay

inductive Json where
  | null
  | bool (value : Bool)
  | int (value : Int)
  | real (literal : String)
  | str (value : String)
  | arr (items : List Json)
  | obj (fields : List (String × Json))
  deriving Inhabited, Repr

namespace Json

def lookup (fields : List (String × Json)) (name : String) : Option Json :=
  (fields.find? fun f => f.1 = name).map Prod.snd

def field? : Json → String → Option Json
  | obj fields, name => lookup fields name
  | _, _ => none

def bool? : Json → Option Bool
  | bool b => some b
  | _ => none

def str? : Json → Option String
  | str s => some s
  | _ => none

/-- Integers that fit into 32 bits without a sign. -/
def word? : Json → Option UInt32
  | int i => if 0 ≤ i ∧ i < UInt32.size then some i.toNat.toUInt32 else none
  | _ => none

def ofWord (w : UInt32) : Json := int w.toNat

end Json

end ElmOverlay
