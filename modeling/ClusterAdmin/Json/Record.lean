import ClusterAdmin.Json.Basic
import ClusterAdmin.Word

namespace ClusterAdmin.Json

/-- What is left of a record: the fields of an object, or the items of a list not yet taken. -/
inductive Source where
  | fields (fs : List (String × Json))
  | items (xs : List Json)

/-- A reader of some fields of a record. It fails where the record has no such fields. -/
abbrev Reader (α : Type) := StateT Source Option α

/-- A reader of one value. -/
abbrev Decoder (α : Type) := Json → Option α

namespace Decoder

def text : Decoder String := Json.text?

def bool : Decoder Bool := Json.bool?

/-- A whole number from `low` to `high`. -/
def intIn (low high : Int) : Decoder Int
  | .int n => if low ≤ n ∧ n ≤ high then some n else none
  | _ => none

/-- A natural number that fits 64 bits. -/
def nat64 : Decoder Nat
  | .int n => if 0 ≤ n ∧ n ≤ Word.maxNat64 then some n.toNat else none
  | _ => none

def int32 : Decoder Int32 := fun v => (intIn Word.minInt32 Word.maxInt32 v).map Int32.ofInt

def int64 : Decoder Int := intIn Word.minInt64 Word.maxInt64

/-- Every item of a list. -/
def list {α : Type} (item : Decoder α) : Decoder (List α)
  | .list xs => xs.mapM item
  | _ => none

/-- A value, or null for none. -/
def nullable {α : Type} (value : Decoder α) : Decoder (Option α)
  | .null => some none
  | v => (value v).map some

/-- One of the named constants, written as its name or as an object of the name and null. -/
def oneOf {α : Type} (names : List (String × α)) : Decoder α
  | .text s => (names.find? (·.1 = s)).map (·.2)
  | .object [(s, .null)] => (names.find? (·.1 = s)).map (·.2)
  | _ => none

/-- Reads a record with the reader of its fields; a list must be used up. -/
def record {α : Type} (fields : Reader α) : Decoder α
  | .object fs => (fields.run (.fields fs)).map (·.1)
  | .list xs =>
    match fields.run (.items xs) with
    | some (a, .items []) => some a
    | _ => none
  | _ => none

end Decoder

namespace Reader

/-- The values given under any of the names. -/
def given (names : List String) (fs : List (String × Json)) : List Json :=
  (fs.filter fun f => names.contains f.1).map (·.2)

/-- A field that may be absent: `inObject` stands for it in an object and `inList` in a list. -/
def field {α : Type} (names : List String) (decode : Decoder α) (inObject inList : Option α) :
    Reader α
  | .fields fs =>
    match given names fs with
    | [] => inObject.map (·, .fields fs)
    | [v] => (decode v).map (·, .fields fs)
    | _ => none
  | .items (v :: xs) => (decode v).map (·, .items xs)
  | .items [] => inList.map (·, .items [])

/-- A field that must be there. -/
def required {α : Type} (names : List String) (decode : Decoder α) : Reader α :=
  field names decode none none

/-- A field with a value for where it is missing. -/
def withDefault {α : Type} (names : List String) (decode : Decoder α) (default : α) : Reader α :=
  field names decode (some default) (some default)

/-- A field that is null or missing for none. -/
def optional {α : Type} (names : List String) (decode : Decoder α) : Reader (Option α) :=
  field names decode.nullable (some none) (some none)

end Reader

end ClusterAdmin.Json
