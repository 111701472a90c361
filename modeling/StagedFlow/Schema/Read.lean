import StagedFlow.Schema.Violation

/-!
# Reading schemas

A schema is read from a JSON value in one draft, within the scope of a link that its own link and
its references are relative to. What each field of the object contributes depends on its name: a
schema, schemas under names, or a list of schemas. The first fault in the order of the fields is
reported, with its place in the schema.
-/

namespace StagedFlow.Schema

/-- What is read, or what is wrong with it. -/
abbrev Reading := Except Violation

/-- A field of a schema object with the schemas in it, as far as they can be read. -/
structure Part where
  name : String
  value : Json
  schema : Reading Schema
  named : List (String × Json × Reading Schema)
  list : List (Reading Schema)

/-- The fields that hold schemas under names. -/
def holdsNamed (name : String) : Bool :=
  name == "properties" || name == "patternProperties" || name == "dependencies"

/-- The fields that hold a schema. -/
def holdsSchema (name : String) : Bool :=
  name == "additionalProperties" || name == "additionalItems" || name == "items"
    || name == "contains" || name == "propertyNames" || name == "not" || name == "if"
    || name == "then" || name == "else"

/-- The fields that hold a list of schemas. -/
def holdsList (name : String) : Bool :=
  name == "items" || name == "allOf" || name == "anyOf" || name == "oneOf"

/-! ### Faults -/

/-- A fault without a place of its own. -/
def misread : Violation := ⟨[], "Schema error"⟩

def faultOfUrl (fault : UrlFault) : Violation := ⟨[], fault.message⟩

def wrongType {α : Type} (path : List String) (v : Json) (type : JsonType) : Reading α :=
  .error ⟨path, Violation.notOfType v type⟩

/-- Relative to a scope. -/
def resolveIn (scope : Url) (text : String) : Reading Url :=
  (Url.resolve (some scope) text).mapError faultOfUrl

/-! ### Plain fields -/

def strings (path : List String) (v : Json) : Reading (List String) :=
  match v with
  | .arr items =>
    items.mapM fun item =>
      match item with
      | .str s => pure s
      | item => wrongType path item .string
  | v => wrongType path v .array

/-- A count is an integer; a double is none, even without a fractional part. -/
def count (path : List String) (v : Json) : Reading Nat :=
  match v with
  | .num (.int i) =>
    if 0 ≤ i then pure i.toNat
    else .error ⟨path, Violation.beyondLimit .minimum v (.int 0)⟩
  | v => wrongType path v .integer

def number (path : List String) (v : Json) : Reading Number :=
  match v with
  | .num n => pure n
  | v => wrongType path v .number

def typesOf (path : List String) (items : List Json) : Reading (List JsonType) :=
  items.mapM fun item =>
    match item with
    | .str s =>
      match JsonType.ofName? s with
      | some type => pure type
      | none =>
        .error ⟨path, Violation.notOneOf item (JsonType.all.map fun type => .str type.name)⟩
    | item => wrongType path item .string

def singleType (name : String) : Reading (List JsonType) :=
  match JsonType.ofName? name with
  | some type => pure [type]
  | none => .error misread

/-- One type, or several in a list. -/
def types (path : List String) (v : Json) : Reading (List JsonType) :=
  match v with
  | .str name => singleType name
  | .arr [.str name] => singleType name
  | .arr items => typesOf (path ++ ["type"]) items
  | v => .error ⟨path, Violation.notOfTypes v [.array, .string]⟩

/-! ### Fields with schemas -/

def find? (parts : List Part) (name : String) : Option Part :=
  parts.find? fun part => part.name == name

def namedSchemas (part : Part) : Reading (List (String × Schema)) :=
  part.named.mapM fun (name, _, schema) => schema.map fun schema => (name, schema)

def patternSchemas (path : List String) (part : Part) : Reading (List (Pattern × Schema)) :=
  part.named.mapM fun (source, v, schema) =>
    match Pattern.read? source with
    | some pattern => schema.map fun schema => (pattern, schema)
    | none => .error ⟨path ++ [part.name], Violation.notOfFormat v .regex⟩

def objectPart {α : Type} (part : Part) (fault : Violation) (result : Reading α) : Reading α :=
  if part.value.isObject then result else .error fault

/-- True if `additionalProperties` stands for the fields beside it, too. -/
def isJoint (parts : List Part) : Bool :=
  match (find? parts "additionalProperties").map Part.value with
  | some (.bool false) => true
  | some (.obj _) => true
  | _ => false

/-- The one keyword for the properties of an object that are not free. -/
def jointKeyword (path : List String) (parts : List Part) (rest : Part) :
    Reading (Option Keyword) := do
  let patterns ← (find? parts "patternProperties").mapM fun part =>
    objectPart part misread (patternSchemas path part)
  if rest.value.asBool? = some true then return none
  let named ← (find? parts "properties").mapM fun part =>
    objectPart part misread (namedSchemas part)
  if rest.value.asBool? = some false then
    match named, patterns with
    | none, none => pure (some (.closedObject none []))
    | _, _ => pure (some (.closedObject (some (named.getD [])) (patterns.getD [])))
  else
    let schema ← rest.schema
    pure (some (.openObject (named.getD []) (patterns.getD []) schema))

/-- A list of schemas. -/
def listed (path : List String) (part : Part) (keyword : List Schema → Keyword) :
    Reading (Option Keyword) := do
  match part.value with
  | .arr _ =>
    let schemas ← part.list.mapM id
    pure (some (keyword schemas))
  | v => wrongType path v .array

/-- What is asked of the items of a list: one schema for all, or one for each place. -/
def itemsKeyword (part : Part) : Reading (Option Keyword) := do
  match part.value with
  | .arr _ =>
    let schemas ← part.list.mapM id
    pure (some (.tuple schemas))
  | .obj _ => pure (some (.items (← part.schema)))
  | .bool false => pure (some (.items (← part.schema)))
  | _ => pure none

def additionalItems (parts : List Part) (part : Part) : Reading (Option Keyword) := do
  match (find? parts "items").map Part.value, part.value with
  | some (.arr items), .bool false => pure (some (.closedTuple items.length))
  | some (.arr items), .obj _ => pure (some (.openTuple items.length (← part.schema)))
  | _, _ => pure none

def propertyNames (part : Part) : Reading (Option Keyword) := do
  match part.value with
  | .obj _ => pure (some (.propertyNames (← part.schema)))
  | .bool false => pure (some (.propertyNames (← part.schema)))
  | _ => pure none

/-- A condition says nothing without a branch. -/
def conditional (parts : List Part) (part : Part) : Reading (Option Keyword) := do
  let yes := find? parts "then"
  let no := find? parts "else"
  if yes.isNone ∧ no.isNone then pure none
  else
    let test ← part.schema
    let yes ← yes.mapM Part.schema
    let no ← no.mapM Part.schema
    pure (some (.conditional test yes no))

/-- What a text has to hold. Other media types and encodings than the two known ones ask for
nothing, and an encoding beside a media type is part of what that one asks for. -/
def contentKeyword (path : List String) (parts : List Part) (part : Part) :
    Reading (Option Keyword) := do
  let encoding := (find? parts "contentEncoding").map Part.value
  let isMediaType := part.name == "contentMediaType"
  if !isMediaType && (find? parts "contentMediaType").isSome then return none
  match part.value with
  | .str name =>
    if isMediaType then
      if name != "application/json" then pure none
      else
        match encoding with
        | none => pure (some (.content .json))
        | some (.str "base64") => pure (some (.content .base64Json))
        | some (.str _) => pure none
        | some v => wrongType path v .string
    else if name == "base64" then pure (some (.content .base64))
    else pure none
  | v => wrongType path v .string

/-! ### Keywords -/

/-- A limit, which in the first draft another field may make exclusive. -/
def limitKeyword (draft : Draft) (path : List String) (parts : List Part) (part : Part)
    (limit exclusive : Limit) (switch : String) : Reading (Option Keyword) := do
  let n ← number path part.value
  let isExclusive := draft == .four && match (find? parts switch).map Part.value with
    | some (.bool true) => true
    | _ => false
  pure (some (.limit (if isExclusive then exclusive else limit) n))

/-- The keyword that a field stands for, among the fields of its object. -/
def keyword? (draft : Draft) (path : List String) (parts : List Part) (part : Part) :
    Reading (Option Keyword) := do
  let size (measure : Measure) (bound : Bound) : Reading (Option Keyword) :=
    (count (path ++ [part.name]) part.value).map fun n => some (.size measure bound n)
  let limit (limit exclusive : Limit) (switch : String) : Reading (Option Keyword) :=
    limitKeyword draft path parts part limit exclusive switch
  if !draft.knows part.name then return none
  match part.name with
  | "type" =>
    let types ← types path part.value
    pure (some (.type types (draft == .four)))
  | "required" => pure (some (.required (← strings (path ++ ["required"]) part.value)))
  | "minimum" => limit .minimum .exclusiveMinimum "exclusiveMinimum"
  | "maximum" => limit .maximum .exclusiveMaximum "exclusiveMaximum"
  | "exclusiveMinimum" => pure (some (.limit .exclusiveMinimum (← number path part.value)))
  | "exclusiveMaximum" => pure (some (.limit .exclusiveMaximum (← number path part.value)))
  | "multipleOf" => pure (some (.multipleOf (← number path part.value).toBinary64))
  | "maxLength" => size .characters .most
  | "minLength" => size .characters .least
  | "maxItems" => size .items .most
  | "minItems" => size .items .least
  | "maxProperties" => size .properties .most
  | "minProperties" => size .properties .least
  | "uniqueItems" =>
    match part.value with
    | .bool b => pure (if b then some .unique else none)
    | v => wrongType path v .boolean
  | "enum" =>
    match part.value with
    | .arr options => pure (some (.enum options))
    | v => wrongType path v .array
  | "const" => pure (some (.const part.value))
  | "pattern" =>
    match part.value with
    | .str source =>
      match readPattern? source with
      | some pattern => pure (some (.pattern source pattern))
      | none => .error ⟨path, Violation.notOfFormat part.value .regex⟩
    | v => wrongType path v .string
  | "format" =>
    match part.value with
    | .str name => pure ((Format.ofName? draft name).map .format)
    | v => wrongType path v .string
  | "contentMediaType" => contentKeyword path parts part
  | "contentEncoding" => contentKeyword path parts part
  | "properties" =>
    if isJoint parts then pure none
    else
      let fault := ⟨path, Violation.notOfType part.value .object⟩
      pure (some (.properties (← objectPart part fault (namedSchemas part))))
  | "patternProperties" =>
    if isJoint parts then pure none
    else pure (some (.patternProperties (← objectPart part misread (patternSchemas path part))))
  | "additionalProperties" => jointKeyword path parts part
  | "items" => itemsKeyword part
  | "additionalItems" => additionalItems parts part
  | "contains" => pure (some (.contains (← part.schema)))
  | "propertyNames" => propertyNames part
  | "dependencies" =>
    let fault := ⟨path, Violation.notOfType part.value .object⟩
    pure (some (.dependencies (← objectPart part fault (namedSchemas part))))
  | "allOf" => listed path part .allOf
  | "anyOf" => listed path part .anyOf
  | "oneOf" => listed path part .oneOf
  | "not" => pure (some (.not part.value (← part.schema)))
  | "if" => conditional parts part
  | _ => pure none

/-- The keywords of an object. A reference stands alone: the fields beside it say nothing, and one
that is no text says nothing, too. -/
def keywords (draft : Draft) (scope : Url) (path : List String) (parts : List Part) :
    Reading (List Keyword) := do
  match (find? parts "$ref").map Part.value with
  | some (.str reference) => pure [.ref (← resolveIn scope reference)]
  | some _ => pure []
  | none =>
    let keywords ← parts.mapM (keyword? draft path parts)
    pure (keywords.filterMap id)

/-- The scope of a schema: its own link, if it has one. -/
def scopeOf (draft : Draft) (scope : Url) (schema : Json) : Reading Url :=
  match draft.idOf? schema with
  | some id => resolveIn scope id
  | none => pure scope

mutual

/-- The schema that a value at a path stands for. -/
def read (draft : Draft) (scope : Url) (path : List String) : Json → Reading Schema
  | .bool b => pure (.constant b)
  | .obj fields => do
    let scope ← scopeOf draft scope (.obj fields)
    let keywords ← keywords draft scope path (readParts draft scope path fields)
    pure (.object (.obj fields) keywords)
  | v => .error ⟨path, Violation.notOfTypes v [.boolean, .object]⟩

def readParts (draft : Draft) (scope : Url) (path : List String) :
    List (String × Json) → List Part
  | [] => []
  | (name, v) :: rest =>
    let inner := path ++ [name]
    ⟨name, v,
      if holdsSchema name then read draft scope inner v else .ok (.constant true),
      if holdsNamed name then readNamed draft scope inner (name == "dependencies") v else [],
      if holdsList name then readList draft scope inner v else []⟩
      :: readParts draft scope path rest

/-- The schemas in an object. Where lists are allowed, a list asks for the properties it names. -/
def readNamed (draft : Draft) (scope : Url) (path : List String) (lists : Bool) :
    Json → List (String × Json × Reading Schema)
  | .obj fields => readFields draft scope path lists fields
  | _ => []

def readFields (draft : Draft) (scope : Url) (path : List String) (lists : Bool) :
    List (String × Json) → List (String × Json × Reading Schema)
  | [] => []
  | (name, v) :: rest =>
    let schema :=
      match lists, v with
      | true, .arr _ =>
        (strings path v).map fun names => .object v [.required names]
      | _, _ => read draft scope (path ++ [name]) v
    (name, v, schema) :: readFields draft scope path lists rest

def readList (draft : Draft) (scope : Url) (path : List String) : Json → List (Reading Schema)
  | .arr items => readItems draft scope path 0 items
  | _ => []

def readItems (draft : Draft) (scope : Url) (path : List String) (index : Nat) :
    List Json → List (Reading Schema)
  | [] => []
  | v :: rest =>
    read draft scope (path ++ [toString index]) v
      :: readItems draft scope path (index + 1) rest

end

end StagedFlow.Schema
