import StagedFlow.Auth.Session
import StagedFlow.Request
import StagedFlow.Text.Blank
import StagedFlow.Url.Parse

/-!
# Authorization policy

The policy of a server: the mode it runs in, where callers authorize apps, and what happens to a
call of a tool whose app the caller has not granted.
-/

namespace StagedFlow

inductive AuthMode where
  | everyone
  | transparent
  | orchestrated
deriving DecidableEq

/-- What happens to calls for an app that is not granted. -/
inductive Fallback where
  | anonymous
  | mustAuthorize
deriving DecidableEq

inductive AuthConfigFault where
  | invalidMode (value : String)
  | invalidFallback (value : String)
  | invalidUrl (value : String) (fault : UrlFault)
deriving DecidableEq

def AuthConfigFault.message : AuthConfigFault → String
  | invalidMode value =>
    "unknown auth mode '" ++ value ++ "' (expected public, transparent or orchestrated)"
  | invalidFallback value =>
    "unknown skipped-app behavior '" ++ value ++ "' (expected anonymous or require-auth)"
  | invalidUrl value fault =>
    "invalid authorization base url '" ++ value ++ "': " ++ fault.message

/-- How a setting is compared: without surrounding blanks and in lower case. -/
def normalizeSetting (s : String) : String := asciiLower (Text.trim s)

namespace AuthMode

def name : AuthMode → String
  | everyone => "public"
  | transparent => "transparent"
  | orchestrated => "orchestrated"

def all : List AuthMode := [everyone, transparent, orchestrated]

def ofName? (s : String) : Option AuthMode := all.find? fun mode => mode.name == s

def parse (s : String) : Except AuthConfigFault AuthMode :=
  match ofName? (normalizeSetting s) with
  | some mode => .ok mode
  | none => .error (.invalidMode s)

end AuthMode

namespace Fallback

def name : Fallback → String
  | anonymous => "anonymous"
  | mustAuthorize => "must-authorize"

def all : List Fallback := [anonymous, mustAuthorize]

def parse (s : String) : Except AuthConfigFault Fallback :=
  match normalizeSetting s with
  | "anonymous" => .ok anonymous
  | "require-auth" => .ok mustAuthorize
  | "must-authorize" => .ok mustAuthorize
  | _ => .error (.invalidFallback s)

end Fallback

structure AuthConfig where
  mode : AuthMode
  base : Url
  fallback : Option Fallback
deriving DecidableEq

namespace AuthConfig

/-- Where callers authorize apps, unless a server says otherwise. -/
def defaultBase : Url :=
  ⟨"http", some "localhost:3000", "/oauth/authorize", none, none⟩

def ofMode (mode : AuthMode) : AuthConfig := ⟨mode, defaultBase, none⟩

def default : AuthConfig := ofMode .everyone

/-- The settings that a policy is read from, as far as they are given. -/
structure Settings where
  mode : Option String
  base : Option String
  fallback : Option String

/-- Reads a policy: first the mode, then the base, then the fallback. -/
def read (settings : Settings) : Except AuthConfigFault AuthConfig := do
  let mode ← match settings.mode with
    | some s => AuthMode.parse s
    | none => pure AuthMode.everyone
  let base ← match settings.base with
    | some s => (Url.parse s).mapError (AuthConfigFault.invalidUrl s)
    | none => pure defaultBase
  let fallback ← match settings.fallback with
    | some s => (Fallback.parse s).map some
    | none => pure none
  pure ⟨mode, base, fallback⟩

/-- The fallback in force: in the open mode calls go on anonymously, unless it is set otherwise. -/
def policy (config : AuthConfig) : Fallback :=
  config.fallback.getD (if config.mode = .everyone then .anonymous else .mustAuthorize)

/-- Where a caller authorizes an app to run a tool. -/
def authorizeUrl (config : AuthConfig) (app tool : String) : String :=
  ((config.base.appendPair "app" app).appendPair "tool" tool).write

end AuthConfig

end StagedFlow
