import StagedFlow.Schema.Basic

/-!
# The schemas of schemas

Each draft has a schema that the schemas of the draft meet. Its fields stand in the order in which
faults are reported.
-/

namespace StagedFlow.Schema.Meta

def ofType (name : String) : Json := .obj [("type", .str name)]

def refTo (reference : String) : Json := .obj [("$ref", .str reference)]

def self : Json := refTo "#"

def schemaList : Json := refTo "#/definitions/schemaArray"

def nameList : Json := refTo "#/definitions/stringArray"

def typeNames : Json := .obj [("enum", .arr (JsonType.all.map fun type => .str type.name))]

def formatted (format : Schema.Format) : Json :=
  .obj [("type", .str "string"), ("format", .str format.name)]

def eitherOf (options : List Json) : Json := .obj [("anyOf", .arr options)]

def schemasByName : Json := .obj [("type", .str "object"), ("additionalProperties", self)]

def natural : Json := .obj [("type", .str "integer"), ("minimum", .int 0)]

/-- One of the names of types, or a list of them. -/
def typeField : Json :=
  eitherOf
    [refTo "#/definitions/simpleTypes",
     .obj
       [("type", .str "array"), ("items", refTo "#/definitions/simpleTypes"),
        ("minItems", .int 1), ("uniqueItems", .bool true)]]

/-- A list of schemas that is not empty. -/
def schemaArray : Json :=
  .obj [("type", .str "array"), ("minItems", .int 1), ("items", self)]

/-- A list of values, each listed once. -/
def optionList : Json :=
  .obj [("type", .str "array"), ("minItems", .int 1), ("uniqueItems", .bool true)]

def textFields (names : List String) : List (String × Json) :=
  names.map fun name => (name, ofType "string")

def fieldsOf (names : List String) (schema : Json) : List (String × Json) :=
  names.map fun name => (name, schema)

/-! ### The first draft -/

def countInFour : Json := refTo "#/definitions/positiveInteger"

def countOrZeroInFour : Json := refTo "#/definitions/positiveIntegerDefault0"

def definitionsOfFour : Json :=
  .obj
    [("schemaArray", schemaArray),
     ("positiveInteger", natural),
     ("positiveIntegerDefault0",
        .obj [("allOf", .arr [countInFour, .obj [("default", .int 0)]])]),
     ("simpleTypes", typeNames),
     ("stringArray",
        .obj
          [("type", .str "array"), ("items", ofType "string"), ("minItems", .int 1),
           ("uniqueItems", .bool true)])]

def schemaOrFlag : Json := eitherOf [ofType "boolean", self]

def fieldsOfFour : List (String × Json) :=
  textFields ["id", "$schema", "title", "description"] ++
  [("default", .obj []),
   ("multipleOf",
      .obj [("type", .str "number"), ("minimum", .int 0), ("exclusiveMinimum", .bool true)]),
   ("maximum", ofType "number"),
   ("exclusiveMaximum", ofType "boolean"),
   ("minimum", ofType "number"),
   ("exclusiveMinimum", ofType "boolean"),
   ("maxLength", countInFour),
   ("minLength", countOrZeroInFour),
   ("pattern", formatted .regex),
   ("additionalItems", schemaOrFlag),
   ("items", eitherOf [self, schemaList]),
   ("maxItems", countInFour),
   ("minItems", countOrZeroInFour),
   ("uniqueItems", ofType "boolean"),
   ("maxProperties", countInFour),
   ("minProperties", countOrZeroInFour),
   ("required", nameList),
   ("additionalProperties", schemaOrFlag)]
  ++ fieldsOf ["definitions", "properties", "patternProperties"] schemasByName ++
  [("dependencies",
      .obj
        [("type", .str "object"), ("additionalProperties", eitherOf [self, nameList])]),
   ("enum", optionList),
   ("type", typeField),
   ("format", ofType "string")]
  ++ fieldsOf ["allOf", "anyOf", "oneOf"] schemaList ++ [("not", self)]

def four : Json :=
  .obj
    [("id", .str "http://json-schema.org/draft-04/schema#"),
     ("$schema", .str "http://json-schema.org/draft-04/schema#"),
     ("description", .str "Core schema meta-schema"),
     ("definitions", definitionsOfFour),
     ("type", .str "object"),
     ("properties", .obj fieldsOfFour),
     ("dependencies",
        .obj
          [("exclusiveMaximum", .arr [.str "maximum"]),
           ("exclusiveMinimum", .arr [.str "minimum"])]),
     ("default", .obj [])]

/-! ### The later drafts -/

def count : Json := refTo "#/definitions/nonNegativeInteger"

def countOrZero : Json := refTo "#/definitions/nonNegativeIntegerDefault0"

def flag : Json := .obj [("type", .str "boolean"), ("default", .bool false)]

def definitions : Json :=
  .obj
    [("schemaArray", schemaArray),
     ("nonNegativeInteger", natural),
     ("nonNegativeIntegerDefault0",
        .obj [("allOf", .arr [count, .obj [("default", .int 0)]])]),
     ("simpleTypes", typeNames),
     ("stringArray",
        .obj
          [("type", .str "array"), ("items", ofType "string"), ("uniqueItems", .bool true),
           ("default", .arr [])])]

/-- What may stand under `patternProperties`, `enum`, `examples` and where anything may. -/
structure Differences where
  anything : Json
  byPattern : Json
  options : Json
  examples : Json
  /-- Fields in front of `examples`. -/
  marks : List (String × Json)
  /-- Fields in front of `title`. -/
  notes : List (String × Json)
  /-- Fields behind `format`. -/
  contents : List (String × Json)

def laterFields (d : Differences) : List (String × Json) :=
  [("$id", formatted .uriReference),
   ("$schema", formatted .uri),
   ("$ref", formatted .uriReference)]
  ++ d.notes ++ textFields ["title", "description"] ++ [("default", d.anything)] ++ d.marks ++
  [("examples", d.examples),
   ("multipleOf", .obj [("type", .str "number"), ("exclusiveMinimum", .int 0)])]
  ++ fieldsOf ["maximum", "exclusiveMaximum", "minimum", "exclusiveMinimum"] (ofType "number") ++
  [("maxLength", count),
   ("minLength", countOrZero),
   ("pattern", formatted .regex),
   ("additionalItems", self),
   ("items", eitherOf [self, schemaList]),
   ("maxItems", count),
   ("minItems", countOrZero),
   ("uniqueItems", flag),
   ("contains", self),
   ("maxProperties", count),
   ("minProperties", countOrZero),
   ("required", nameList),
   ("additionalProperties", self)]
  ++ fieldsOf ["definitions", "properties"] schemasByName ++
  [("patternProperties", d.byPattern),
   ("dependencies",
      .obj
        [("type", .str "object"), ("additionalProperties", eitherOf [self, nameList])]),
   ("propertyNames", self),
   ("const", d.anything),
   ("enum", d.options),
   ("type", typeField),
   ("format", ofType "string")]
  ++ d.contents ++ fieldsOf ["allOf", "anyOf", "oneOf"] schemaList ++ [("not", self)]

def later (link : String) (d : Differences) : Json :=
  .obj
    [("$schema", .str link),
     ("$id", .str link),
     ("title", .str "Core schema meta-schema"),
     ("definitions", definitions),
     ("type", .arr [.str "object", .str "boolean"]),
     ("properties", .obj (laterFields d)),
     ("default", d.anything)]

def six : Json :=
  later "http://json-schema.org/draft-06/schema#"
    { anything := .obj []
      byPattern := schemasByName
      options := optionList
      examples := .obj [("type", .str "array"), ("items", .obj [])]
      marks := []
      notes := []
      contents := [] }

def seven : Json :=
  later "http://json-schema.org/draft-07/schema#"
    { anything := .bool true
      byPattern :=
        .obj
          [("type", .str "object"), ("additionalProperties", self),
           ("propertyNames", .obj [("format", .str "regex")])]
      options := .obj [("type", .str "array"), ("items", .bool true)]
      examples := .obj [("type", .str "array"), ("items", .bool true)]
      marks := [("readOnly", flag), ("writeOnly", flag)]
      notes := textFields ["$comment"]
      contents :=
        textFields ["contentMediaType", "contentEncoding"] ++ fieldsOf ["if", "then", "else"] self }

end Meta

/-- The schema that the schemas of a draft meet. -/
def Draft.schema : Draft → Json
  | four => Meta.four
  | six => Meta.six
  | seven => Meta.seven

end StagedFlow.Schema
