import StagedFlow.Unicode.Property

/-!
# Text in quotes

A text as it is shown inside a message: in double quotes, with quotes and backslashes escaped, and
characters that show badly by their code point.
-/

namespace StagedFlow.Text

/-- True of characters that show badly: those without a visible form of their own, blanks other
than the plain space, code points without a character, and marks that belong to the character in
front of them. -/
def showsBadly (c : Char) : Bool :=
  open Unicode in
  if c.toNat < 0x80 then c.toNat < 0x20 || c.toNat == 0x7F
  else control.contains c || format.contains c || privateUse.contains c
    || spaceSeparator.contains c || lineSeparator.contains c || paragraphSeparator.contains c
    || (isMark c && isGraphemeExtend c) || isUnassigned c

def hexDigits (n : Nat) : List Char := Nat.toDigits 16 n

/-- The shown form of one character. -/
def showChar (c : Char) : List Char :=
  if c = '"' then ['\\', '"']
  else if c = '\\' then ['\\', '\\']
  else if c = '\n' then ['\\', 'n']
  else if c = '\r' then ['\\', 'r']
  else if c = '\t' then ['\\', 't']
  else if c.toNat = 0 then ['\\', '0']
  else if showsBadly c then
    ['\\', 'u', '\x7b'] ++ hexDigits c.toNat ++ ['\x7d']
  else [c]

def quoted (s : String) : String := "\"" ++ String.ofList (s.toList.flatMap showChar) ++ "\""

/-- A list of texts in quotes, in brackets. -/
def quotedList (items : List String) : String := "[" ++ ", ".intercalate (items.map quoted) ++ "]"

end StagedFlow.Text
