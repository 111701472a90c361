import StagedFlow.Json.Basic

/-!
# Writing schemas

Parts of the schemas that this library publishes.
-/

namespace StagedFlow.Schema

/-- A list of names. -/
def names (items : List String) : Json := .arr (items.map .str)

/-- A value of a type, with a description. -/
def typed (type description : String) : Json :=
  .obj [("description", .str description), ("type", .str type)]

/-- A value of any type, with a description. -/
def described (description : String) : Json := .obj [("description", .str description)]

/-- A value of any type, with a description; it may be left out. -/
def optional (description : String) : Json :=
  .obj [("description", .str description), ("default", .null)]

/-- A list of values that a schema of the same document describes. -/
def listOf (description reference : String) : Json :=
  .obj
    [("description", .str description), ("type", .str "array"),
     ("items", .obj [("$ref", .str reference)])]

end StagedFlow.Schema
