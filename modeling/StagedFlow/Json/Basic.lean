import StagedFlow.Number.Basic

/-!
# JSON values

Objects keep the order of their fields. Two notions of equality are used: `Json.same`, which looks
object fields up by name and keeps integers and doubles apart, and `Json.agrees`, which compares
objects field by field in their order and numbers by magnitude.
-/

namespace StagedFlow

inductive Json where
  | null
  | bool (b : Bool)
  | num (n : Number)
  | str (s : String)
  | arr (items : List Json)
  | obj (fields : List (String × Json))

instance : Inhabited Json := ⟨.null⟩

namespace Json

def int (i : Int) : Json := .num (.int i)

def nat (n : Nat) : Json := int n

/-- The value under a key in a list of fields. -/
def lookup (name : String) : List (String × Json) → Option Json
  | [] => none
  | (key, v) :: rest => if key == name then some v else lookup name rest

/-- Puts a value under a key: in the place of the key if it is there, else at the end. -/
def put (name : String) (v : Json) : List (String × Json) → List (String × Json)
  | [] => [(name, v)]
  | (key, w) :: rest => if key == name then (name, v) :: rest else (key, w) :: put name v rest

def field? (name : String) : Json → Option Json
  | .obj fields => lookup name fields
  | _ => none

def isObject : Json → Bool
  | .obj _ => true
  | _ => false

def isNull : Json → Bool
  | .null => true
  | _ => false

def asString? : Json → Option String
  | .str s => some s
  | _ => none

def asArray? : Json → Option (List Json)
  | .arr items => some items
  | _ => none

def asFields? : Json → Option (List (String × Json))
  | .obj fields => some fields
  | _ => none

def asBool? : Json → Option Bool
  | .bool b => some b
  | _ => none

def asInt? : Json → Option Int
  | .num (.int i) => some i
  | _ => none

def asNat? (j : Json) : Option Nat := j.asInt?.bind Int.toNat?

/-- A string, or `null` for none. -/
def ofString? : Option String → Json
  | some s => .str s
  | none => .null

mutual

/-- Equality of values: objects by their keys, numbers by form and value. -/
def same : Json → Json → Bool
  | .null, .null => true
  | .bool a, .bool b => a == b
  | .num a, .num b => a.same b
  | .str a, .str b => a == b
  | .arr a, .arr b => sameItems a b
  | .obj a, .obj b => a.length == b.length && sameFields a b
  | _, _ => false

def sameItems : List Json → List Json → Bool
  | [], [] => true
  | a :: as, b :: bs => same a b && sameItems as bs
  | _, _ => false

/-- Every field on the left stands on the right under the same key. -/
def sameFields : List (String × Json) → List (String × Json) → Bool
  | [], _ => true
  | (key, a) :: rest, bs =>
    (match lookup key bs with
     | some b => same a b
     | none => false) && sameFields rest bs

end

mutual

/-- Equality for validation: numbers by magnitude, objects field by field in their order. -/
def agrees : Json → Json → Bool
  | .null, .null => true
  | .bool a, .bool b => a == b
  | .num a, .num b => a.agrees b
  | .str a, .str b => a == b
  | .arr a, .arr b => agreesItems a b
  | .obj a, .obj b => agreesFields a b
  | _, _ => false

def agreesItems : List Json → List Json → Bool
  | [], [] => true
  | a :: as, b :: bs => agrees a b && agreesItems as bs
  | _, _ => false

def agreesFields : List (String × Json) → List (String × Json) → Bool
  | [], [] => true
  | (key, a) :: as, (other, b) :: bs => key == other && agrees a b && agreesFields as bs
  | _, _ => false

end

end Json

end StagedFlow
