import StagedFlow.Json.Reader
import StagedFlow.Schema.Catalog
import StagedFlow.Text.Base64

/-!
# Validation

The violations of a schema by a value, in the order of the keywords. A keyword about values of
another type than the value at hand says nothing. References are looked up in a catalog when they
are met; the number of references that may follow each other at one value is bounded by the number
of values in the catalog, since a longer chain runs in a circle.
-/

namespace StagedFlow.Schema

open Violation

/-! ### Numbers -/

/-- Whether a number breaks a limit. -/
def breaks (limit : Limit) (n bound : Number) : Bool :=
  match limit with
  | .minimum => decide (n.value < bound.value)
  | .maximum => decide (bound.value < n.value)
  | .exclusiveMinimum => decide (n.value ≤ bound.value)
  | .exclusiveMaximum => decide (bound.value ≤ n.value)

/-- Whether the shortest decimal of one double is a multiple of the shortest decimal of another. -/
def isDecimalMultiple (x d : Binary64) : Bool :=
  let (a, b) := (Decimal.ofBinary64 x).ratio
  let (p, q) := (Decimal.ofBinary64 d).ratio
  a * q % (b * p) == 0

/-- Whether a double is a multiple of a divisor. Whole divisors are exact, and nothing is a multiple
of zero; for another divisor the quotient is rounded to a double first, and only a positive
remainder counts. -/
def isMultiple (x d : Binary64) : Bool :=
  if d.isIntegral then x.isIntegral && !d.isZero && x.scaled % d.scaled == 0
  else
    match x.div? d with
    | none => isDecimalMultiple x d
    | some q => q.negative || decide (q.scaled % Binary64.unit < Nat.pow 2 1022)

/-! ### Sizes and lists -/

/-- The size of a value in a measure; none for values of another type. -/
def sizeOf? (measure : Measure) (v : Json) : Option Nat :=
  match measure, v with
  | .characters, .str s => some s.length
  | .items, .arr items => some items.length
  | .properties, .obj fields => some fields.length
  | _, _ => none

/-- No two items agree. -/
def distinct : List Json → Bool
  | [] => true
  | v :: rest => !(rest.any fun w => v.agrees w) && distinct rest

mutual

/-- A value with the fields of its objects in order. -/
def sorted : Json → Json
  | .arr items => .arr (sortedItems items)
  | .obj fields => .obj ((sortedFields fields).mergeSort fun a b => a.1 ≤ b.1)
  | v => v

def sortedItems : List Json → List Json
  | [] => []
  | v :: rest => sorted v :: sortedItems rest

def sortedFields : List (String × Json) → List (String × Json)
  | [] => []
  | (name, v) :: rest => (name, sorted v) :: sortedFields rest

end

/-- No text stands in front of the same text. -/
def noneRepeated : List String → Bool
  | a :: b :: rest => a != b && noneRepeated (b :: rest)
  | _ => true

/-- Whether the items of a list differ. Up to fifteen items are compared two by two; in a longer
list items are the same if they are written the same way, up to the order of fields. -/
def isUnique (items : List Json) : Bool :=
  if items.length ≤ 15 then distinct items
  else noneRepeated ((items.map fun v => (sorted v).compact).mergeSort)

/-- A value meets a constant if it agrees with it; numbers do up to the rounding unit of one. -/
def meetsConst (value v : Json) : Bool :=
  match value, v with
  | .num a, .num b =>
    decide ((a.toBinary64.value - b.toBinary64.value).natAbs < Nat.pow 2 1022)
  | a, b => a.agrees b

/-! ### Content -/

def isJsonText (s : String) : Bool := (Json.read s).isOk

/-- How a text fails to hold what it has to hold, if it does. -/
def contentFault? (content : Content) (path : List String) (s : String) : Option Violation :=
  let v := Json.str s
  match content with
  | .json => if isJsonText s then none else some ⟨path, notMediaType v⟩
  | .base64 =>
    if (Text.Base64.decode? s.toList).isSome then none else some ⟨path, notEncoding v⟩
  | .base64Json =>
    match Text.Base64.decode? s.toList with
    | none => some ⟨path, notEncoding v⟩
    | some bytes =>
      match Text.ofBytes bytes with
      | .ok text => if isJsonText text then none else some ⟨path, notMediaType v⟩
      | .error fault => some ⟨[], fault.message⟩

/-! ### Keywords -/

mutual

/-- The violations of a schema by a value at a path. References are met as `follow` says. -/
def violations (follow : Url → List String → Json → List Violation) :
    Schema → List String → Json → List Violation
  | .constant true, _, _ => []
  | .constant false, path, v => [⟨path, notAllowed v⟩]
  | .object _ keywords, path, v => allKeywords follow keywords path v

def allKeywords (follow : Url → List String → Json → List Violation) :
    List Keyword → List String → Json → List Violation
  | [], _, _ => []
  | keyword :: rest, path, v =>
    keywordViolations follow keyword path v ++ allKeywords follow rest path v

/-- The violations of one keyword. -/
def keywordViolations (follow : Url → List String → Json → List Violation) :
    Keyword → List String → Json → List Violation
  | .ref target, path, v => follow target path v
  | .type types strict, path, v =>
    if types.any fun type => type.accepts strict v then []
    else
      match types with
      | [type] => [⟨path, notOfType v type⟩]
      | types => [⟨path, notOfTypes v types⟩]
  | .required names, path, v =>
    match v with
    | .obj fields =>
      (names.filter fun name => (Json.lookup name fields).isNone).map fun name =>
        ⟨path, Json.quote name ++ " is a required property"⟩
    | _ => []
  | .limit limit bound, path, v =>
    match v with
    | .num n => if breaks limit n bound then [⟨path, beyondLimit limit v bound⟩] else []
    | _ => []
  | .multipleOf divisor, path, v =>
    match v with
    | .num n =>
      if isMultiple n.toBinary64 divisor then []
      else [⟨path, v.compact ++ " is not a multiple of " ++ Layout.bare divisor⟩]
    | _ => []
  | .size measure bound count, path, v =>
    match sizeOf? measure v with
    | some n =>
      if (match bound with | .most => decide (count < n) | .least => decide (n < count)) then
        [⟨path, wrongSize measure bound v count⟩]
      else []
    | none => []
  | .unique, path, v =>
    match v with
    | .arr items =>
      if isUnique items then [] else [⟨path, v.compact ++ " has non-unique elements"⟩]
    | _ => []
  | .enum options, path, v =>
    if options.any fun option => option.agrees v then []
    else [⟨path, notOneOf v options⟩]
  | .const value, path, v =>
    if meetsConst value v then [] else [⟨path, value.compact ++ " was expected"⟩]
  | .pattern source pattern, path, v =>
    match v with
    | .str s =>
      match pattern.search s with
      | .ok true => []
      | .ok false => [⟨path, v.compact ++ " does not match \"" ++ source ++ "\""⟩]
      | .error fault => [⟨path, fault.message⟩]
    | _ => []
  | .format format, path, v =>
    match v with
    | .str s => if format.accepts s then [] else [⟨path, notOfFormat v format⟩]
    | _ => []
  | .content content, path, v =>
    match v with
    | .str s => (contentFault? content path s).toList
    | _ => []
  | .properties named, path, v =>
    match v with
    | .obj fields => eachNamed follow named path fields
    | _ => []
  | .patternProperties patterns, path, v =>
    match v with
    | .obj fields => eachPattern follow patterns path fields
    | _ => []
  | .closedObject named patterns, path, v =>
    match v with
    | .obj fields =>
      match named with
      | none =>
        match fields with
        | [] => []
        | (_, first) :: _ => [⟨path, notAllowed first⟩]
      | some named =>
        let found := fields.map fun (name, w) =>
          (name, byName follow named name path w, byMatch follow patterns name path w)
        let extra := found.filter fun (_, own, matched) => own.isNone && matched.isNone
        (found.flatMap fun (_, own, matched) => own.getD [] ++ matched.getD [])
          ++ if extra.isEmpty then []
            else
              [⟨path, unexpected "properties" (extra.map fun (name, _, _) =>
                "'" ++ name ++ "'")⟩]
    | _ => []
  | .openObject named patterns rest, path, v =>
    match v with
    | .obj fields =>
      fields.flatMap fun (name, w) =>
        match byName follow named name path w, byMatch follow patterns name path w with
        | none, none => violations follow rest (path ++ [name]) w
        | own, matched => own.getD [] ++ matched.getD []
    | _ => []
  | .items schema, path, v =>
    match v with
    | .arr items =>
      items.zipIdx.flatMap fun (w, i) => violations follow schema (path ++ [toString i]) w
    | _ => []
  | .tuple schemas, path, v =>
    match v with
    | .arr items => eachItem follow schemas path 0 items
    | _ => []
  | .closedTuple count, path, v =>
    match v with
    | .arr items =>
      let extra := (items.drop count).map Json.compact
      if extra.isEmpty then [] else [⟨path, unexpected "items" extra⟩]
    | _ => []
  | .openTuple count rest, path, v =>
    match v with
    | .arr items =>
      (items.zipIdx.drop count).flatMap fun (w, i) =>
        violations follow rest (path ++ [toString i]) w
    | _ => []
  | .contains schema, path, v =>
    match v with
    | .arr items =>
      if items.any fun w => (violations follow schema path w).isEmpty then []
      else [⟨path, "None of " ++ v.compact ++ " are valid under the given schema"⟩]
    | _ => []
  | .propertyNames schema, path, v =>
    match v with
    | .obj fields =>
      match schema with
      | .constant false => if fields.isEmpty then [] else [⟨path, notAllowed v⟩]
      | schema =>
        fields.flatMap fun (name, _) =>
          (violations follow schema path (.str name)).map fun violation =>
            ⟨path, violation.message⟩
    | _ => []
  | .dependencies schemas, path, v =>
    match v with
    | .obj fields => eachDependency follow schemas path fields
    | _ => []
  | .allOf schemas, path, v => (eachSchema follow schemas path v).flatten
  | .anyOf schemas, path, v =>
    if (eachSchema follow schemas path v).any List.isEmpty then []
    else
      [⟨path, v.compact ++
        " is not valid under any of the schemas listed in the 'anyOf' keyword"⟩]
  | .oneOf schemas, path, v =>
    match (eachSchema follow schemas path v).countP List.isEmpty with
    | 0 =>
      [⟨path, v.compact ++
        " is not valid under any of the schemas listed in the 'oneOf' keyword"⟩]
    | 1 => []
    | _ =>
      [⟨path, v.compact ++
        " is valid under more than one of the schemas listed in the 'oneOf' keyword"⟩]
  | .not source schema, path, v =>
    if (violations follow schema path v).isEmpty then
      [⟨path, source.compact ++ " is not allowed for " ++ v.compact⟩]
    else []
  | .conditional test yes no, path, v =>
    if (violations follow test path v).isEmpty then
      match yes with
      | some schema => violations follow schema path v
      | none => []
    else
      match no with
      | some schema => violations follow schema path v
      | none => []

def eachSchema (follow : Url → List String → Json → List Violation) :
    List Schema → List String → Json → List (List Violation)
  | [], _, _ => []
  | schema :: rest, path, v => violations follow schema path v :: eachSchema follow rest path v

/-- The violations of schemas by the items at their positions. -/
def eachItem (follow : Url → List String → Json → List Violation) :
    List Schema → List String → Nat → List Json → List Violation
  | schema :: rest, path, i, v :: more =>
    violations follow schema (path ++ [toString i]) v ++ eachItem follow rest path (i + 1) more
  | _, _, _, _ => []

/-- The violations of schemas by the properties of their names. -/
def eachNamed (follow : Url → List String → Json → List Violation) :
    List (String × Schema) → List String → List (String × Json) → List Violation
  | [], _, _ => []
  | (name, schema) :: rest, path, fields =>
    (match Json.lookup name fields with
     | some v => violations follow schema (path ++ [name]) v
     | none => [])
      ++ eachNamed follow rest path fields

/-- The violations of schemas by the properties whose names match. -/
def eachPattern (follow : Url → List String → Json → List Violation) :
    List (Pattern × Schema) → List String → List (String × Json) → List Violation
  | [], _, _ => []
  | (pattern, schema) :: rest, path, fields =>
    (fields.flatMap fun (name, v) =>
      if pattern.isMatch name then violations follow schema (path ++ [name]) v else [])
      ++ eachPattern follow rest path fields

/-- The violations by a property of the schema under its name; none if there is no such schema. -/
def byName (follow : Url → List String → Json → List Violation) :
    List (String × Schema) → String → List String → Json → Option (List Violation)
  | [], _, _, _ => none
  | (key, schema) :: rest, name, path, v =>
    if key == name then some (violations follow schema (path ++ [name]) v)
    else byName follow rest name path v

/-- The violations by a property of the schemas whose patterns match; none if none does. -/
def byMatch (follow : Url → List String → Json → List Violation) :
    List (Pattern × Schema) → String → List String → Json → Option (List Violation)
  | [], _, _, _ => none
  | (pattern, schema) :: rest, name, path, v =>
    if pattern.isMatch name then
      some (violations follow schema (path ++ [name]) v
        ++ (byMatch follow rest name path v).getD [])
    else byMatch follow rest name path v

/-- The violations of the schemas whose properties are there. -/
def eachDependency (follow : Url → List String → Json → List Violation) :
    List (String × Schema) → List String → List (String × Json) → List Violation
  | [], _, _ => []
  | (name, schema) :: rest, path, fields =>
    (match Json.lookup name fields with
     | some _ => violations follow schema path (.obj fields)
     | none => [])
      ++ eachDependency follow rest path fields

end

/-! ### References -/

/-- Violations with at most so many references following each other. -/
def violationsWithin (catalog : Catalog) : Nat → Schema → List String → Json → List Violation
  | 0, schema, path, v => violations (fun _ _ _ => []) schema path v
  | depth + 1, schema, path, v =>
    violations (fun target path v =>
      match catalog.follow target with
      | .ok schema => violationsWithin catalog depth schema path v
      | .error fault => [fault]) schema path v

mutual

/-- The number of values in a value, itself included. -/
def volume : Json → Nat
  | .arr items => volumeItems items + 1
  | .obj fields => volumeFields fields + 1
  | _ => 1

def volumeItems : List Json → Nat
  | [] => 0
  | v :: rest => volume v + volumeItems rest

def volumeFields : List (String × Json) → Nat
  | [] => 0
  | (_, v) :: rest => volume v + volumeFields rest

end

/-- The number of values in the documents of a catalog. -/
def Catalog.volume (catalog : Catalog) : Nat :=
  Draft.all.foldl (fun n draft => n + Schema.volume draft.schema) (Schema.volume catalog.root)

/-- The violations of the root schema of a catalog by a value; one if the schema cannot be read. -/
def Catalog.violations (catalog : Catalog) (v : Json) : List Violation :=
  match read catalog.draft catalog.base [] catalog.root with
  | .ok schema => violationsWithin catalog (catalog.volume * (Schema.volume v + 1)) schema [] v
  | .error fault => [fault]

/-- The violations of a root schema by a value. -/
def validate (root v : Json) : List Violation :=
  match Catalog.make (Draft.ofSchema root) root with
  | .ok catalog => catalog.violations v
  | .error fault => [fault]

end StagedFlow.Schema
