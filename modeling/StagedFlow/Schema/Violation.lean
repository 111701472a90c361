import StagedFlow.Json.Pointer
import StagedFlow.Json.Text
import StagedFlow.Schema.Basic

/-!
# Violations

A violation says where in a value a schema is not met, and how. What is wrong with a schema itself
is said in the same form, with a place in the schema.
-/

namespace StagedFlow

structure Violation where
  path : List String
  message : String

namespace Violation

/-- The place in the value as a JSON pointer; empty for the value itself. -/
def pointer (path : List String) : String :=
  "".intercalate (path.map fun token => "/" ++ String.ofList (Json.escapeToken token.toList))

def text (violation : Violation) : String :=
  if violation.path.isEmpty then violation.message
  else pointer violation.path ++ ": " ++ violation.message

/-- All violations in one line. -/
def join (violations : List Violation) : String := "; ".intercalate (violations.map text)

/-! ### Wordings -/

def quoted (type : JsonType) : String := "\"" ++ type.name ++ "\""

def notOfType (v : Json) (type : JsonType) : String :=
  v.compact ++ " is not of type " ++ quoted type

/-- Several types are listed in one order, each once. -/
def notOfTypes (v : Json) (types : List JsonType) : String :=
  v.compact ++ " is not of types "
    ++ ", ".intercalate ((JsonType.all.filter types.contains).map quoted)

def notOneOf (v : Json) (options : List Json) : String :=
  v.compact ++ " is not one of " ++ (Json.arr options).compact

def notOfFormat (v : Json) (format : Schema.Format) : String :=
  v.compact ++ " is not a \"" ++ format.name ++ "\""

def beyondLimit (limit : Limit) (v : Json) (bound : Number) : String :=
  v.compact ++
    (match limit with
     | .minimum => " is less than the minimum of "
     | .maximum => " is greater than the maximum of "
     | .exclusiveMinimum => " is less than or equal to the minimum of "
     | .exclusiveMaximum => " is greater than or equal to the maximum of ")
    ++ bound.write

def wrongSize (measure : Measure) (bound : Bound) (v : Json) (count : Nat) : String :=
  let (more, less, one, many) :=
    match measure with
    | .characters => (" is longer than ", " is shorter than ", " character", " characters")
    | .items => (" has more than ", " has less than ", " item", " items")
    | .properties => (" has more than ", " has less than ", " property", " properties")
  v.compact ++ (match bound with | .most => more | .least => less) ++ toString count
    ++ if count == 1 then one else many

/-- Names things that a schema leaves no room for. -/
def unexpected (what : String) (things : List String) : String :=
  "Additional " ++ what ++ " are not allowed (" ++ ", ".intercalate things
    ++ (if things.length == 1 then " was unexpected)" else " were unexpected)")

def notAllowed (v : Json) : String := "False schema does not allow " ++ v.compact

def notMediaType (v : Json) : String :=
  v.compact ++ " is not compliant with \"application/json\" media type"

def notEncoding (v : Json) : String :=
  v.compact ++ " is not compliant with \"base64\" content encoding"

end Violation

end StagedFlow
