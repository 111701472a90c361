import StagedFlow.Json.Describe

/-!
# Reading records

A record is read from an object or from a list of its fields in order. Fields are checked in the
order in which the value has them; missing fields are reported after that, in the order of the
record. Where a list is too short, a field with a default may be left out.
-/

namespace StagedFlow

/-- Why a value does not read as what was wanted. -/
inductive ReadFault where
  | wrongType (got wanted : String)
  | wrongValue (got wanted : String)
  | wrongLength (length : Nat) (wanted : String)
  | missingField (name : String)
  | unknownField (name : String) (expected : List String)
  | unknownVariant (name : String) (expected : List String)
deriving DecidableEq

namespace ReadFault

/-- The names that would have been right. -/
def oneOf (names : List String) : String :=
  let quoted := names.map fun name => "`" ++ name ++ "`"
  match quoted with
  | [a] => a
  | [a, b] => a ++ " or " ++ b
  | _ => "one of " ++ ", ".intercalate quoted

def message : ReadFault → String
  | wrongType got wanted => "invalid type: " ++ got ++ ", expected " ++ wanted
  | wrongValue got wanted => "invalid value: " ++ got ++ ", expected " ++ wanted
  | wrongLength length wanted => "invalid length " ++ toString length ++ ", expected " ++ wanted
  | missingField name => "missing field `" ++ name ++ "`"
  | unknownField name expected =>
    "unknown field `" ++ name ++ "`, expected " ++ oneOf expected
  | unknownVariant name expected =>
    "unknown variant `" ++ name ++ "`, expected " ++ oneOf expected

end ReadFault

/-- A test of values; the fault says why a value fails it. -/
abbrev Check := Json → Option ReadFault

namespace Check

def anything : Check := fun _ => none

def wrongType (wanted : String) (v : Json) : Option ReadFault :=
  some (.wrongType v.describe wanted)

def string : Check
  | .str _ => none
  | v => wrongType "a string" v

def boolean : Check
  | .bool _ => none
  | v => wrongType "a boolean" v

def map : Check
  | .obj _ => none
  | v => wrongType "a map" v

/-- A whole number within bounds. -/
def integer (name : String) (low high : Int) : Check
  | .num (.int i) =>
    if low ≤ i ∧ i ≤ high then none else some (.wrongValue (Json.int i).describe name)
  | v => wrongType name v

def int64 : Check := integer "i64" (-Int.pow 2 63) (Int.pow 2 63 - 1)

def byte : Check := integer "u8" 0 255

def optional (check : Check) : Check
  | .null => none
  | v => check v

/-- A list whose items pass a test. -/
def list (check : Check) : Check
  | .arr items => items.findSome? check
  | v => wrongType "a sequence" v

/-- One of some names: as a string, or as the key of a single `null`. -/
def oneOf (names : List String) : Check
  | .str s => if names.contains s then none else some (.unknownVariant s names)
  | .obj [(name, v)] =>
    if names.contains name then
      match v with
      | .null => none
      | v => wrongType "unit" v
    else some (.unknownVariant name names)
  | .obj _ => some (.wrongValue "map" "map with a single key")
  | v => wrongType "string or map" v

end Check

/-- Reads one of some names. -/
def readName (names : List String) (v : Json) : Except ReadFault String :=
  match Check.oneOf names v, v with
  | some fault, _ => .error fault
  | none, .str s => .ok s
  | none, .obj ((name, _) :: _) => .ok name
  | none, _ => .ok ""

/-- What a record asks of one of its fields. -/
structure Field where
  name : String
  check : Check
  /-- The field may be missing in an object. -/
  optional : Bool
  /-- The field has a default, so that it may also be missing at the end of a list. -/
  hasDefault : Bool

namespace Field

def required (name : String) (check : Check) : Field := ⟨name, check, false, false⟩

def optionalIn (name : String) (check : Check) : Field := ⟨name, check.optional, true, false⟩

def defaulted (name : String) (check : Check) : Field := ⟨name, check, true, true⟩

end Field

structure Record where
  name : String
  fields : List Field
  /-- Fields that the record does not have are refused. -/
  closed : Bool

namespace Record

def find? (record : Record) (name : String) : Option Field :=
  record.fields.find? fun field => field.name == name

/-- The first fault of a field that is there, in the order of the object. -/
def firstFault? (record : Record) : List (String × Json) → Option ReadFault
  | [] => none
  | (name, v) :: rest =>
    match record.find? name with
    | some field =>
      match field.check v with
      | some fault => some fault
      | none => firstFault? record rest
    | none =>
      if record.closed then some (.unknownField name (record.fields.map Field.name))
      else firstFault? record rest

/-- The fields of the record in an object. -/
def known (record : Record) (fields : List (String × Json)) : List (String × Json) :=
  fields.filter fun field => (record.find? field.1).isSome

def readObject (record : Record) (fields : List (String × Json)) :
    Except ReadFault (List (String × Json)) :=
  match record.firstFault? fields with
  | some fault => .error fault
  | none =>
    match record.fields.find? fun field =>
      !field.optional && (Json.lookup field.name fields).isNone with
    | some field => .error (.missingField field.name)
    | none => .ok (record.known fields)

def elements (n : Nat) : String := toString n ++ if n == 1 then " element" else " elements"

/-- Reads the fields from a list; `what` names the record, `i` of its fields are done with, and the
whole list has `total` items. -/
def readItems (what : String) (size total : Nat) :
    Nat → List Field → List Json → Except ReadFault (List (String × Json))
  | _, [], [] => .ok []
  | _, [], _ :: _ => .error (.wrongLength total "fewer elements in array")
  | i, field :: fields, v :: rest =>
    match field.check v with
    | some fault => .error fault
    | none => (readItems what size total (i + 1) fields rest).map ((field.name, v) :: ·)
  | i, field :: fields, [] =>
    if field.hasDefault then readItems what size total (i + 1) fields []
    else .error (.wrongLength i (what ++ " with " ++ elements size))

/-- Reads a record; the result holds the fields that are there. -/
def read (record : Record) : Json → Except ReadFault (List (String × Json))
  | .obj fields => record.readObject fields
  | .arr items =>
    readItems ("struct " ++ record.name) record.fields.length items.length 0 record.fields items
  | v => .error (.wrongType v.describe ("struct " ++ record.name))

def check (record : Record) : Check := fun v =>
  match record.read v with
  | .ok _ => none
  | .error fault => some fault

end Record

/-! ### Fields of a record that was read -/

namespace Json

/-- A string under a name; empty if there is none. -/
def stringAt (name : String) (fields : List (String × Json)) : String :=
  ((lookup name fields).bind asString?).getD ""

/-- A string under a name, if there is one. -/
def stringAt? (name : String) (fields : List (String × Json)) : Option String :=
  (lookup name fields).bind asString?

def boolAt (name : String) (fields : List (String × Json)) : Bool :=
  ((lookup name fields).bind asBool?).getD false

/-- A value under a name; `null` counts as none. -/
def valueAt? (name : String) (fields : List (String × Json)) : Option Json :=
  match lookup name fields with
  | some .null => none
  | v => v

end Json

end StagedFlow
