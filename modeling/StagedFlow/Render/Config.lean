import StagedFlow.Auth.Session
import StagedFlow.Request

/-!
# Render contracts

A tool may ask for its results to be rendered for clients that show them: by a template and the type
of what it renders to. Which platform a client runs on is guessed from its session.
-/

namespace StagedFlow

structure RenderConfig where
  template : String
  mimeType : String
deriving DecidableEq

namespace RenderConfig

def defaultMimeType : String := "text/html"

def html (template : String) : RenderConfig := ⟨template, defaultMimeType⟩

def record : Record :=
  ⟨"RenderConfig", [.required "template" .string, .defaulted "mimeType" .string], false⟩

def ofFields (fields : List (String × Json)) : RenderConfig :=
  ⟨Json.stringAt "template" fields, (Json.stringAt? "mimeType" fields).getD defaultMimeType⟩

def read (v : Json) : Except ReadFault RenderConfig := (record.read v).map ofFields

def toJson (config : RenderConfig) : Json :=
  .obj [("template", .str config.template), ("mimeType", .str config.mimeType)]

end RenderConfig

inductive ClientHint where
  | openAi
  | claude
  | cursor
  | generic
deriving DecidableEq

namespace ClientHint

def name : ClientHint → String
  | openAi => "open-ai"
  | claude => "claude"
  | cursor => "cursor"
  | generic => "generic"

def all : List ClientHint := [openAi, claude, cursor, generic]

def ofName? (s : String) : Option ClientHint := all.find? fun hint => hint.name == s

/-- A text occurs in another. -/
def occursIn (part : List Char) : List Char → Bool
  | [] => part.isEmpty
  | c :: rest => part.isPrefixOf (c :: rest) || occursIn part rest

/-- The platform that client name and user agent speak of. -/
def detect : Option SessionInfo → ClientHint
  | none => generic
  | some session =>
    let text :=
      (asciiLower (session.clientName.getD "" ++ " " ++ session.userAgent.getD "")).toList
    let mentions (s : String) : Bool := occursIn s.toList text
    if mentions "openai" || mentions "chatgpt" then openAi
    else if mentions "claude" then claude
    else if mentions "cursor" then cursor
    else generic

end ClientHint

end StagedFlow
