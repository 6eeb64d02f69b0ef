/-!
Tables of a configuration file while it is being read. A table is opened by a header, implied
by a longer header, or implied by a dotted key, and each kind may be extended in its own way
only; whatever would define something twice is refused.
-/
namespace ElmOverlay.Toml

inductive Value where
  | str (text : String)
  | int (value : Int)
  | float
  | bool (value : Bool)
  | dateTime
  | array (items : List Value)
  | table (fields : List (String × Value))
  deriving Inhabited

def Value.get? : Value → String → Option Value
  | .table fields, key => (fields.find? fun f => f.1 = key).map Prod.snd
  | _, _ => none

inductive Origin where
  | header
  | impliedByHeader
  | impliedByKey
  deriving DecidableEq

/-- What stands under a key: a finished value, a table, or a list of tables with the latest
one first. -/
inductive Entry where
  | value (v : Value)
  | table (origin : Origin) (fields : List (String × Entry))
  | tables (elements : List (List (String × Entry)))

abbrev Fields := List (String × Entry)

namespace Fields

def get? (fields : Fields) (key : String) : Option Entry :=
  (fields.find? fun f => f.1 = key).map Prod.snd

def set (fields : Fields) (key : String) (e : Entry) : Fields :=
  match fields with
  | [] => [(key, e)]
  | f :: fs => if f.1 = key then (key, e) :: fs else f :: set fs key e

/-- Adds a value under a dotted key. The tables on the way must not have a header, and the
last of them must have come from a dotted key as well. -/
def addAt (fields : Fields) : List String → String → Value → Option Fields
  | [], key, v =>
    match fields.get? key with
    | some _ => none
    | none => some (fields.set key (.value v))
  | step :: path, key, v =>
    match fields.get? step with
    | none => (addAt [] path key v).map fun inner =>
        fields.set step (.table .impliedByKey inner)
    | some (.value _) | some (.table .header _) => none
    | some (.table o inner) =>
      if path.isEmpty ∧ o ≠ .impliedByKey then none
      else (addAt inner path key v).map fun inner => fields.set step (.table o inner)
    | some (.tables []) => none
    | some (.tables (inner :: older)) =>
      if path.isEmpty then none
      else (addAt inner path key v).map fun inner =>
        fields.set step (.tables (inner :: older))

def within (change : Fields → Option Fields) (fields : Fields) :
    List String → Option Fields
  | [] => change fields
  | step :: path =>
    match fields.get? step with
    | none => (within change [] path).map fun inner =>
        fields.set step (.table .impliedByHeader inner)
    | some (.value _) => none
    | some (.table o inner) => (within change inner path).map fun inner =>
        fields.set step (.table o inner)
    | some (.tables []) => none
    | some (.tables (inner :: older)) => (within change inner path).map fun inner =>
        fields.set step (.tables (inner :: older))

/-- Opens the table of a header. A table that is only implied by headers may be opened. -/
def openTable (key : String) (fields : Fields) : Option Fields :=
  match fields.get? key with
  | none => some (fields.set key (.table .header []))
  | some (.table .impliedByHeader inner) => some (fields.set key (.table .header inner))
  | _ => none

def openElement (key : String) (fields : Fields) : Option Fields :=
  match fields.get? key with
  | none => some (fields.set key (.tables [[]]))
  | some (.tables elements) => some (fields.set key (.tables ([] :: elements)))
  | _ => none

end Fields

mutual

def Entry.toValue : Entry → Value
  | .value v => v
  | .table _ fields => .table (Fields.toValues fields)
  | .tables elements => .array (Fields.toTables elements).reverse

def Fields.toValues : List (String × Entry) → List (String × Value)
  | [] => []
  | (key, e) :: fs => (key, e.toValue) :: Fields.toValues fs

def Fields.toTables : List (List (String × Entry)) → List Value
  | [] => []
  | fs :: rest => .table (Fields.toValues fs) :: Fields.toTables rest

end

end ElmOverlay.Toml
