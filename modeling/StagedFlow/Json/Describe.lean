import StagedFlow.Json.Basic
import StagedFlow.Text.Quoted

/-!
# Naming values in refusals

How a value is named where one of another type was wanted.
-/

namespace StagedFlow.Json

def describe : Json → String
  | .null => "null"
  | .bool b => "boolean `" ++ (if b then "true" else "false") ++ "`"
  | .num (.int i) => "integer `" ++ toString i ++ "`"
  | .num (.float x) => "floating point `" ++ Layout.compact.write x ++ "`"
  | .str s => "string " ++ Text.quoted s
  | .arr _ => "sequence"
  | .obj _ => "map"

end StagedFlow.Json
