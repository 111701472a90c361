import StagedFlow.Schema.Validate

/-!
# Checking schemas

A value is a schema if its links can be read, if it meets the schema of its draft, and if it can be
read as a schema. Of several faults the first one is reported.
-/

namespace StagedFlow.Schema

def Draft.catalog (draft : Draft) : Reading Catalog := Catalog.make draft draft.schema

/-- What is wrong with a schema, in the words of the schema of its draft. -/
def Draft.violations (draft : Draft) (schema : Json) : List Violation :=
  match draft.catalog with
  | .ok catalog => catalog.violations schema
  | .error fault => [fault]

/-- Succeeds on schemas. -/
def check (schema : Json) : Reading Unit := do
  let draft := Draft.ofSchema schema
  let catalog ← Catalog.make draft schema
  match draft.violations schema with
  | violation :: _ => .error violation
  | [] =>
    let _ ← read draft catalog.base [] schema
    pure ()

/-- Why a value is not a schema; none if it is one. -/
@[irreducible]
def fault? (schema : Json) : Option String :=
  match check schema with
  | .ok _ => none
  | .error fault => some fault.message

/-- The schema that any object meets. -/
def anyObject : Json := .obj [("type", .str "object")]

end StagedFlow.Schema
