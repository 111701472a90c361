import StagedFlow.Request
import StagedFlow.Text.Blank

/-!
# Settings of the trace log
-/

namespace StagedFlow

inductive TraceLevel where
  | trace
  | debug
  | info
  | warn
  | error
deriving DecidableEq

namespace TraceLevel

def name : TraceLevel → String
  | trace => "TRACE"
  | debug => "DEBUG"
  | info => "INFO"
  | warn => "WARN"
  | error => "ERROR"

def all : List TraceLevel := [trace, debug, info, warn, error]

/-- The level of a name in any case. -/
def ofName? (s : String) : Option TraceLevel :=
  all.find? fun level => asciiLower level.name == asciiLower s

end TraceLevel

inductive TraceFormat where
  | pretty
  | compact
  | json
deriving DecidableEq

structure UnknownFormat where
  name : String
deriving DecidableEq

def UnknownFormat.message (fault : UnknownFormat) : String :=
  "unknown tracing format '" ++ fault.name ++ "', expected pretty, compact or json"

namespace TraceFormat

def name : TraceFormat → String
  | pretty => "Pretty"
  | compact => "Compact"
  | json => "Json"

def all : List TraceFormat := [pretty, compact, json]

/-- The format of a name in any case, with blanks around it or not. -/
def read (s : String) : Except UnknownFormat TraceFormat :=
  match all.find? fun format => asciiLower format.name == asciiLower (Text.trim s) with
  | some format => .ok format
  | none => .error ⟨s⟩

end TraceFormat

structure TraceConfig where
  level : TraceLevel
  format : TraceFormat
  /-- Directives that take the place of the level. -/
  filter : Option String
deriving DecidableEq

def TraceConfig.start : TraceConfig := ⟨.info, .pretty, none⟩

end StagedFlow
