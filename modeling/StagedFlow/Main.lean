import StagedFlow.Demo.Server
import StagedFlow.Json.Pretty

/-!
# The command line of the demo server

The policy and the format of the trace log are taken from the environment.
-/

namespace StagedFlow.CommandLine

/-- Prints a complaint and ends with a failure. -/
def complain (message : String) : IO UInt32 := do
  IO.eprintln ("Error: " ++ message)
  pure 1

/-- The policy that the environment asks for. -/
def authFromEnvironment : IO (Except AuthConfigFault AuthConfig) := do
  let mode ← IO.getEnv "MERIDIAN_AUTH_MODE"
  let base ← IO.getEnv "MERIDIAN_AUTH_BASE_URL"
  let fallback ← IO.getEnv "MERIDIAN_AUTH_SKIPPED_APP_BEHAVIOR"
  pure (AuthConfig.read ⟨mode, base, fallback⟩)

/-- The format that the environment asks for; one that is not known is ignored. -/
def formatFromEnvironment : IO TraceFormat := do
  let name ← IO.getEnv "MERIDIAN_LOG_FORMAT"
  pure ((name.bind fun s => (TraceFormat.read s).toOption).getD .pretty)

/-- Runs the command that the words give. -/
def run (words : List String) : IO UInt32 := do
  match ← authFromEnvironment with
  | .error fault => complain fault.message
  | .ok auth =>
    match Demo.assemble auth (← formatFromEnvironment) with
    | .error fault => complain fault.message
    | .ok store =>
      match Demo.Command.ofWords words with
      | .error fault => complain ("arguments are not JSON: " ++ fault.message)
      | .ok command =>
        match Demo.run store command with
        | .output v => do
          IO.println v.pretty
          pure 0
        | .nothing => do
          IO.eprintln "No output"
          pure 0
        | .refused message => complain message

end StagedFlow.CommandLine

def main (words : List String) : IO UInt32 := StagedFlow.CommandLine.run words
