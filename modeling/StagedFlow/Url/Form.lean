import StagedFlow.Text.Hex

/-!
# Form encoding

Pairs of texts in the query of a link. Letters, digits and `*-._` stand for themselves, a plus sign
for a space, and a percent sign with two hexadecimal digits for any other byte of the text.
-/

namespace StagedFlow.Form

/-- A byte as a percent sign and two digits. -/
def percent (b : UInt8) : List Char :=
  ['%', Text.upperHexDigit (b.toNat / 16), Text.upperHexDigit (b.toNat % 16)]

/-- Bytes that stand for themselves. -/
def isPlain (b : UInt8) : Bool :=
  (48 ≤ b && b ≤ 57) || (65 ≤ b && b ≤ 90) || (97 ≤ b && b ≤ 122) || b == 42 || b == 45 || b == 46
    || b == 95

def encodeByte (b : UInt8) : List Char :=
  if isPlain b then [Char.ofNat b.toNat] else if b == 32 then ['+'] else percent b

def bytes (s : String) : List UInt8 := s.toUTF8.data.toList

def encode (s : String) : List Char := (bytes s).flatMap encodeByte

/-- One pair, as it is appended to a query. -/
def encodePair (name value : String) : List Char := encode name ++ '=' :: encode value

/-- Appends a pair to a query; a query that is not empty gets a separator first. -/
def append (query : List Char) (name value : String) : List Char :=
  if query.isEmpty then encodePair name value else query ++ '&' :: encodePair name value

/-! ### Decoding -/

/-- The bytes that a character of an encoded text stands for on its own. -/
def plainBytes (c : Char) : List UInt8 :=
  if c = '+' then [32] else bytes (String.singleton c)

/-- The bytes that an encoded text stands for; a percent sign without two digits is kept. -/
def decodeBytes : List Char → List UInt8
  | [] => []
  | '%' :: a :: b :: rest =>
    match Text.hexValue? a, Text.hexValue? b with
    | some high, some low => UInt8.ofNat (high * 16 + low) :: decodeBytes rest
    | _, _ => 37 :: decodeBytes (a :: b :: rest)
  | c :: rest => plainBytes c ++ decodeBytes rest

/-- The text that an encoded text stands for; bytes that are no text stand for nothing. -/
def decode (cs : List Char) : Option String :=
  String.fromUTF8? ⟨(decodeBytes cs).toArray⟩

/-- Splits at every separator. -/
def split (separator : Char) : List Char → List (List Char)
  | [] => [[]]
  | c :: rest =>
    match split separator rest with
    | [] => [[c]]
    | piece :: more => if c = separator then [] :: piece :: more else (c :: piece) :: more

/-- Name and value of a piece of a query. -/
def decodePair (piece : List Char) : Option String × Option String :=
  (decode (piece.takeWhile (· != '=')), decode ((piece.dropWhile (· != '=')).drop 1))

/-- The pairs of a query; empty pieces hold none. -/
def pairs (query : List Char) : List (Option String × Option String) :=
  ((split '&' query).filter fun piece => !piece.isEmpty).map decodePair

end StagedFlow.Form
