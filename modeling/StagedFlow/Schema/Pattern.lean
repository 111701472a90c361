import StagedFlow.Pattern.Basic

/-!
# Patterns in schemas

The keyword `pattern` reads the escapes for digits, words and blanks as sets of their own, most of
them of ASCII characters only, and knows control characters by a letter. These escapes are
rewritten first; everything else is left as it is.
-/

namespace StagedFlow.Schema

/-- Replaces each `\c` with a letter by the control character of the letter. -/
def writeControls : List Char → List Char
  | '\\' :: 'c' :: letter :: rest =>
    if letter.isAlpha then Char.ofNat (letter.toNat % 32) :: writeControls rest
    else '\\' :: writeControls ('c' :: letter :: rest)
  | c :: rest => c :: writeControls rest
  | [] => []

def blanks : List Char :=
  " \t\n\r".toList ++ [11, 12, 0x2003, 0xFEFF, 0x2029, 0xA0].map Char.ofNat

/-- The class that an escape is rewritten to. -/
def classOf? (letter : Char) : Option (List Char) :=
  match letter with
  | 'd' => some "[0-9]".toList
  | 'D' => some "[^0-9]".toList
  | 'w' => some "[A-Za-z0-9_]".toList
  | 'W' => some "[^A-Za-z0-9_]".toList
  | 's' => some ('[' :: blanks ++ [']'])
  | 'S' => some ('[' :: '^' :: blanks ++ [']'])
  | _ => none

/-- Replaces the escapes for digits, words and blanks by classes. -/
def writeClasses : List Char → List Char
  | '\\' :: c :: rest => (classOf? c).getD ['\\', c] ++ writeClasses rest
  | c :: rest => c :: writeClasses rest
  | [] => []

/-- Reads a pattern as the keyword `pattern` does. -/
def readPattern? (source : String) : Option Pattern :=
  Pattern.read? (String.ofList (writeClasses (writeControls source.toList)))

end StagedFlow.Schema
