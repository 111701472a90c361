/-!
# What a server says about itself
-/

namespace StagedFlow

structure ServerInfo where
  name : String
  version : String
deriving DecidableEq

/-- The name of a server that was given none. -/
def ServerInfo.start : ServerInfo := ⟨"meridian", "0.0.1"⟩

end StagedFlow
