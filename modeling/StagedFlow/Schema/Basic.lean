import StagedFlow.Schema.Format

/-!
# Schemas

A schema is a constant or a list of keywords. Keywords keep the order of the object they are read
from; keywords that say nothing about a value are left out. Object keywords that depend on each
other (`properties`, `patternProperties` and `additionalProperties`) are one keyword, which stands
where `additionalProperties` stands.
-/

namespace StagedFlow

/-- The types of JSON values, in the order in which a violation lists them. -/
inductive JsonType where
  | array
  | boolean
  | integer
  | null
  | number
  | object
  | string
deriving DecidableEq

namespace JsonType

def all : List JsonType := [array, boolean, integer, null, number, object, string]

def name : JsonType → String
  | array => "array"
  | boolean => "boolean"
  | integer => "integer"
  | null => "null"
  | number => "number"
  | object => "object"
  | string => "string"

def ofName? (s : String) : Option JsonType := all.find? fun type => type.name == s

/-- A double without a fractional part is an integer, unless integers are meant strictly. -/
def accepts (strict : Bool) : JsonType → Json → Bool
  | array, .arr _ => true
  | boolean, .bool _ => true
  | integer, .num (.int _) => true
  | integer, .num (.float x) => !strict && x.isIntegral
  | null, .null => true
  | number, .num _ => true
  | object, .obj _ => true
  | string, .str _ => true
  | _, _ => false

end JsonType

/-- Bounds that a keyword puts on a size. -/
inductive Bound where
  | most
  | least
deriving DecidableEq

/-- What a size is counted in. -/
inductive Measure where
  | characters
  | items
  | properties
deriving DecidableEq

/-- Bounds that a keyword puts on a number. -/
inductive Limit where
  | minimum
  | maximum
  | exclusiveMinimum
  | exclusiveMaximum
deriving DecidableEq

/-- What a text has to hold: a JSON value, bytes in base 64, or the second holding the first. -/
inductive Content where
  | json
  | base64
  | base64Json
deriving DecidableEq

mutual

inductive Schema where
  | constant (allows : Bool)
  | object (source : Json) (keywords : List Keyword)

inductive Keyword where
  /-- Asks for what another schema asks for. -/
  | ref (target : Url)
  /-- Asks for one of some types; `strict` tells that integers are meant strictly. -/
  | type (types : List JsonType) (strict : Bool)
  | required (names : List String)
  | limit (limit : Limit) (bound : Number)
  | multipleOf (divisor : Binary64)
  | size (measure : Measure) (bound : Bound) (count : Nat)
  | unique
  | enum (options : List Json)
  | const (value : Json)
  | pattern (source : String) (pattern : Pattern)
  | format (format : Schema.Format)
  | content (content : Content)
  | properties (named : List (String × Schema))
  | patternProperties (patterns : List (Pattern × Schema))
  | closedObject (named : Option (List (String × Schema))) (patterns : List (Pattern × Schema))
  | openObject (named : List (String × Schema)) (patterns : List (Pattern × Schema))
      (rest : Schema)
  | items (schema : Schema)
  | tuple (schemas : List Schema)
  | closedTuple (count : Nat)
  | openTuple (count : Nat) (rest : Schema)
  | contains (schema : Schema)
  | propertyNames (schema : Schema)
  | dependencies (schemas : List (String × Schema))
  | allOf (schemas : List Schema)
  | anyOf (schemas : List Schema)
  | oneOf (schemas : List Schema)
  | not (source : Json) (schema : Schema)
  | conditional (test : Schema) (yes no : Option Schema)

end

end StagedFlow
