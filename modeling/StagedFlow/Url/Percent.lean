import StagedFlow.Url.Basic

/-!
# Percent encoding

Which characters of each part of a link stand for themselves. All others, and all beyond ASCII, are
written as their bytes.
-/

namespace StagedFlow.Url

/-- Percent-encodes the characters that fail a test, the controls, and all beyond ASCII. -/
def encodeUnless (keep : Char → Bool) (cs : List Char) : List Char :=
  cs.flatMap fun c =>
    if c.toNat < 127 && 32 ≤ c.toNat && keep c then [c]
    else (Form.bytes (String.singleton c)).flatMap Form.percent

def keepsIn (dropped : String) (c : Char) : Bool := !dropped.toList.contains c

def keepFragment : Char → Bool := keepsIn " \"<>`"

def keepPath : Char → Bool := keepsIn " \"<>`#?\x7b\x7d"

def keepUser : Char → Bool := keepsIn " \"<>`#?\x7b\x7d/:;=@[\\]^|"

def keepQuery : Char → Bool := keepsIn " \"#<>"

/-- In the schemes that browsers know, an apostrophe is encoded too. -/
def keepSpecialQuery : Char → Bool := keepsIn " \"#<>'"

/-- The bytes of a text with escapes replaced by the bytes that they stand for. -/
def unescape : List Char → List UInt8
  | [] => []
  | '%' :: a :: b :: rest =>
    match Text.hexValue? a, Text.hexValue? b with
    | some high, some low => UInt8.ofNat (high * 16 + low) :: unescape rest
    | _, _ => 37 :: unescape (a :: b :: rest)
  | c :: rest => Form.bytes (String.singleton c) ++ unescape rest

end StagedFlow.Url
