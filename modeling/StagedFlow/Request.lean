import StagedFlow.Json.Basic

/-!
# Requests, routes and responses of a transport

Header names are compared without regard to ASCII case; a later header of a name replaces an earlier
one.
-/

namespace StagedFlow

def asciiLower (s : String) : String := s.map Char.toLower

structure Request where
  method : String
  path : String
  headers : List (String × String)
  body : Json

namespace Request

def start (method path : String) : Request := ⟨method, path, [], .null⟩

def withHeader (request : Request) (name value : String) : Request :=
  { request with headers := (asciiLower name, value) :: request.headers }

def withBody (request : Request) (body : Json) : Request := { request with body }

def header? (request : Request) (name : String) : Option String :=
  (request.headers.find? fun header => header.1 == asciiLower name).map Prod.snd

end Request

/-- Which requests a flow takes. -/
structure Route where
  method : Option String
  path : String
  guards : List (Request → Bool)

/-- Method, path and every guard accept the request. -/
def Route.accepts (route : Route) (request : Request) : Bool :=
  (match route.method with
   | none => true
   | some method => asciiLower method == asciiLower request.method)
    && route.path == request.path && route.guards.all fun guard => guard request

/-- What a transport does with a request. -/
inductive Response where
  | reply (status : Nat) (body : Option Json)
  | handled
  | unmatched

namespace Response

def json (status : Nat) (body : Json) : Response := reply status (some body)

def unauthorized : Response := json 401 (.obj [("error", .str "Unauthorized")])

def internalError : Response := json 500 (.obj [("error", .str "Internal Server Error")])

end Response

end StagedFlow
