import StagedFlow.Json.Basic

/-!
# Drafts

Schemas are written in one of three drafts of the language, which a schema names by a link. A schema
that names none of them is read in the last one. The drafts differ in the keywords they know, and
in where a schema writes its own link.
-/

namespace StagedFlow.Schema

inductive Draft where
  | four
  | six
  | seven
deriving DecidableEq

namespace Draft

def all : List Draft := [four, six, seven]

def link : Draft → String
  | four => "http://json-schema.org/draft-04/schema"
  | six => "http://json-schema.org/draft-06/schema"
  | seven => "http://json-schema.org/draft-07/schema"

/-- The draft that a schema names; hash signs at the end of the link say nothing. -/
def ofSchema (schema : Json) : Draft :=
  match (schema.field? "$schema").bind Json.asString? with
  | some link =>
    let bare := String.ofList (link.toList.reverse.dropWhile (· == '#')).reverse
    (all.find? fun draft => draft.link == bare).getD seven
  | none => seven

/-- The field in which a schema writes its own link. -/
def idField : Draft → String
  | four => "id"
  | _ => "$id"

/-- The link that a schema gives itself. -/
def idOf? (draft : Draft) (schema : Json) : Option String :=
  (schema.field? draft.idField).bind Json.asString?

/-- The keywords that came with a draft after the first one. -/
def sinceOf (keyword : String) : Draft :=
  match keyword with
  | "const" | "contains" | "propertyNames" | "exclusiveMinimum" | "exclusiveMaximum"
  | "contentMediaType" | "contentEncoding" => six
  | "if" => seven
  | _ => four

def isAtLeast : Draft → Draft → Bool
  | _, four => true
  | four, _ => false
  | _, six => true
  | six, seven => false
  | seven, seven => true

def knows (draft : Draft) (keyword : String) : Bool := draft.isAtLeast (sinceOf keyword)

end Draft

end StagedFlow.Schema
