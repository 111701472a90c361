import StagedFlow.Record.Basic

/-!
# Who calls

What is known of the session of a caller, and which apps the caller has granted.
-/

namespace StagedFlow

structure SessionInfo where
  clientName : Option String
  userAgent : Option String
deriving DecidableEq

namespace SessionInfo

def record : Record :=
  ⟨"SessionInfo", [.optionalIn "client_name" .string, .optionalIn "user_agent" .string], false⟩

def ofFields (fields : List (String × Json)) : SessionInfo :=
  ⟨Json.stringAt? "client_name" fields, Json.stringAt? "user_agent" fields⟩

def read (v : Json) : Except ReadFault SessionInfo := (record.read v).map ofFields

def toJson (session : SessionInfo) : Json :=
  .obj
    [("client_name", .ofString? session.clientName), ("user_agent", .ofString? session.userAgent)]

end SessionInfo

structure AuthInfo where
  granted : List String
  session : Option SessionInfo

def AuthInfo.grants (auth : AuthInfo) (app : String) : Bool := auth.granted.contains app

end StagedFlow
