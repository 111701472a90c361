import StagedFlow.Json.Basic

/-!
# Fields by name

Fields of an object as values of a type; a field of another type counts as missing.
-/

namespace StagedFlow.Json

def textField? (name : String) (v : Json) : Option String := (v.field? name).bind asString?

def intField? (name : String) (v : Json) : Option Int := (v.field? name).bind asInt?

/-- The items of a list; none if there is no list. -/
def itemsField (name : String) (v : Json) : List Json :=
  ((v.field? name).bind asArray?).getD []

/-- The flag is there and set. -/
def flagField (name : String) (v : Json) : Bool := ((v.field? name).bind asBool?).getD false

/-- The value of a field; `null` if there is none. -/
def valueField (name : String) (v : Json) : Json := (v.field? name).getD .null

/-- The items that are strings. -/
def strings (items : List Json) : List String := items.filterMap asString?

end StagedFlow.Json
