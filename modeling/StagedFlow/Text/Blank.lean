/-!
# Blank characters

The characters with the White_Space property of Unicode, and what is built on them: trimming and
splitting into words.
-/

namespace StagedFlow.Text

def isBlank (c : Char) : Bool :=
  (9 ≤ c.toNat && c.toNat ≤ 13) || c.toNat == 0x20 || c.toNat == 0x85 || c.toNat == 0xA0
    || c.toNat == 0x1680 || (0x2000 ≤ c.toNat && c.toNat ≤ 0x200A) || c.toNat == 0x2028
    || c.toNat == 0x2029 || c.toNat == 0x202F || c.toNat == 0x205F || c.toNat == 0x3000

/-- Drops blanks at both ends. -/
def trimList (cs : List Char) : List Char :=
  ((cs.dropWhile isBlank).reverse.dropWhile isBlank).reverse

def trim (s : String) : String := String.ofList (trimList s.toList)

/-- The number of words that begin in a text; a first character that is not blank begins one unless
it stands inside a word. -/
def countWords : Bool → List Char → Nat
  | _, [] => 0
  | inside, c :: rest =>
    if isBlank c then countWords false rest
    else (if inside then 0 else 1) + countWords true rest

/-- The number of longest runs of characters that are not blank. -/
def words (s : String) : Nat := countWords false s.toList

end StagedFlow.Text
