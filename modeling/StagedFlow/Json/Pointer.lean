import StagedFlow.Json.Basic

/-!
# JSON pointers

A pointer is empty, for the whole value, or a sequence of tokens each led by a slash. Inside a
token `~1` stands for a slash and `~0` for a tilde.
-/

namespace StagedFlow.Json

/-- Splits at every slash. -/
def splitSlash : List Char → List (List Char)
  | [] => [[]]
  | c :: rest =>
    match splitSlash rest with
    | [] => [[c]]
    | token :: more => if c = '/' then [] :: token :: more else (c :: token) :: more

/-- Replaces a two-character sequence, from the left. -/
def substitute (a b : Char) (new : Char) : List Char → List Char
  | x :: y :: rest =>
    if x = a ∧ y = b then new :: substitute a b new rest else x :: substitute a b new (y :: rest)
  | rest => rest

def unescapeToken (token : List Char) : List Char :=
  substitute '~' '0' '~' (substitute '~' '1' '/' token)

def escapeToken (token : List Char) : List Char :=
  token.flatMap fun c => if c = '~' then ['~', '0'] else if c = '/' then ['~', '1'] else [c]

/-- An array position: decimal digits without a leading zero. -/
def index? (token : List Char) : Option Nat :=
  match token with
  | [] => none
  | ['0'] => some 0
  | '0' :: _ => none
  | _ => if token.all Char.isDigit then (String.ofList token).toNat? else none

def step? (v : Json) (token : List Char) : Option Json :=
  match v with
  | .obj fields => lookup (String.ofList token) fields
  | .arr items => (index? token).bind (items[·]?)
  | _ => none

/-- The tokens of a pointer; none if the text is not one. -/
def tokens? (path : String) : Option (List (List Char)) :=
  match path.toList with
  | [] => some []
  | '/' :: rest => some ((splitSlash rest).map unescapeToken)
  | _ => none

/-- What a pointer finds in a value. -/
def pointer? (v : Json) (path : String) : Option Json :=
  (tokens? path).bind fun tokens => tokens.foldlM step? v

end StagedFlow.Json
