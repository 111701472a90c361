import StagedFlow.Schema.Meta
import StagedFlow.Schema.Read
import StagedFlow.Text.Utf8

/-!
# What references refer to

A catalog holds a root schema and all schemas inside of it that give themselves a link. A reference
is a link: to one of those, or to a place in a document that is one of those, the root schema, or
the schema of a draft. The place is a JSON pointer in the fragment of the link.
-/

namespace StagedFlow.Schema

/-- The link of a root schema that has none of its own. -/
def defaultLink : Url := ⟨"json-schema", some "", "/", none, none⟩

structure Catalog where
  draft : Draft
  root : Json
  base : Url
  /-- Schemas under their links; of two with one link the last one counts. -/
  named : List (String × Json)

namespace Catalog

/-! ### Links -/

/-- Absolute, and without a fragment that is empty. -/
def linkIn (scope : Url) (id : String) : Except UrlFault Url :=
  (Url.resolve (some scope) id).map fun url =>
    if url.fragment = some "" then url.withoutFragment else url

mutual

/-- The schemas in a value that give themselves a link. -/
def linked (draft : Draft) (scope : Url) : Json → Except UrlFault (List (String × Json))
  | .obj fields =>
    match draft.idOf? (.obj fields) with
    | some id =>
      match linkIn scope id with
      | .ok url => (linkedFields draft url fields).map ((url.write, .obj fields) :: ·)
      | .error fault => .error fault
    | none => linkedFields draft scope fields
  | .arr items => linkedItems draft scope items
  | _ => .ok []

/-- Constants and options hold values, not schemas. -/
def linkedFields (draft : Draft) (scope : Url) :
    List (String × Json) → Except UrlFault (List (String × Json))
  | [] => .ok []
  | (name, v) :: rest =>
    let own := if name == "enum" || name == "const" then .ok [] else linked draft scope v
    match own with
    | .error fault => .error fault
    | .ok found => (linkedFields draft scope rest).map (found ++ ·)

def linkedItems (draft : Draft) (scope : Url) : List Json → Except UrlFault (List (String × Json))
  | [] => .ok []
  | v :: rest =>
    match linked draft scope v with
    | .error fault => .error fault
    | .ok found => (linkedItems draft scope rest).map (found ++ ·)

end

/-- The catalog of a root schema; a link of its own has to be absolute. -/
def make (draft : Draft) (root : Json) : Reading Catalog := do
  let base ←
    match draft.idOf? root with
    | some id => (Url.parse id).mapError faultOfUrl
    | none => pure defaultLink
  let named ← (linked draft base root).mapError faultOfUrl
  pure ⟨draft, root, base, named.reverse⟩

/-! ### Documents -/

/-- What it takes to read documents of a kind. -/
def resolverFor (feature kind : String) : String :=
  "`" ++ feature ++ "` feature or a custom resolver is required to resolve external schemas via "
    ++ kind

/-- Why there is no document under a link. -/
def unresolved (url : Url) : Violation :=
  let reason :=
    match url.scheme with
    | "http" | "https" => resolverFor "resolve-http" "HTTP"
    | "file" => resolverFor "resolve-file" "files"
    | "json-schema" => "cannot resolve relative external schema without root schema ID"
    | scheme => "unknown scheme " ++ scheme
  ⟨[], "failed to resolve " ++ url.write ++ ": " ++ reason⟩

/-- The document under a link without a fragment. -/
def document (catalog : Catalog) (url : Url) : Reading Json :=
  let link := url.write
  if link == defaultLink.write then pure catalog.root
  else
    match Json.lookup link catalog.named with
    | some v => pure v
    | none =>
      match Draft.all.find? fun draft => draft.link == link with
      | some draft => pure draft.schema
      | none => .error (unresolved url)

/-- What a pointer finds in a document, and the links of the objects on the way to it. -/
def walk? (draft : Draft) : List (List Char) → Json → Option (List String × Json)
  | [], v => some ([], v)
  | token :: rest, v => do
    let inner ← v.step? token
    let (links, found) ← walk? draft rest inner
    pure ((draft.idOf? v).toList ++ links, found)

/-- The schema that a link refers to, and the scope that it is to be read in: the link of the
document, joined with the links inside of the document on the way to the schema. -/
def find (catalog : Catalog) (url : Url) : Reading (Url × Json) :=
  match Json.lookup url.write catalog.named with
  | some v => pure (url, v)
  | none => do
    let page := url.withoutFragment
    let bytes := Url.unescape (url.fragment.getD "").toList
    let pointer ← (Text.ofBytes bytes).mapError fun fault => ⟨[], fault.message⟩
    let document ← catalog.document page
    match (Json.tokens? pointer).bind fun tokens => walk? catalog.draft tokens document with
    | none => .error ⟨[], "Invalid reference: " ++ url.write⟩
    | some (links, v) =>
      let scope ← (links.drop 1).foldlM resolveIn page
      pure (scope, v)

/-- Reads the schema that a link refers to. -/
def follow (catalog : Catalog) (url : Url) : Reading Schema := do
  let (scope, v) ← catalog.find url
  read catalog.draft scope [] v

end Catalog

end StagedFlow.Schema
