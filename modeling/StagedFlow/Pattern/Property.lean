import StagedFlow.Pattern.CharSet
import StagedFlow.Unicode.Script

/-!
# Sets by the name of a property

A name stands for a binary property, for a general category or for a script, in this order; a name
with a value asks for a category, for a script or for the version that brought a character. Names
are compared without case, blanks, low lines and hyphens, and without a leading `is`.
-/

namespace StagedFlow.CharSet

/-- What names are compared by. -/
def foldName (name : List Char) : String :=
  let (isLed, rest) : Bool × List Char := match name with
    | a :: b :: rest => if a.toLower == 'i' && b.toLower == 's' then (true, rest) else (false, name)
    | _ => (false, name)
  let kept := (rest.filter fun c => c.toNat < 128 && c != ' ' && c != '_' && c != '-').map
    Char.toLower
  if isLed && kept == ['c'] then "isc" else String.ofList kept

/-! ### General categories -/

def isUnassigned (c : Char) : Bool := Unicode.isUnassigned c || Unicode.latest.contains c

/-- The short names of the categories that a name stands for. -/
def categoryGroup? (name : String) : Option (List String) :=
  match name with
  | "l" | "letter" => some ["Lu", "Ll", "Lt", "Lm", "Lo"]
  | "lc" | "casedletter" => some ["Lu", "Ll", "Lt"]
  | "m" | "mark" | "combiningmark" => some ["Mn", "Mc", "Me"]
  | "n" | "number" => some ["Nd", "Nl", "No"]
  | "p" | "punctuation" | "punct" => some ["Pc", "Pd", "Ps", "Pe", "Pi", "Pf", "Po"]
  | "s" | "symbol" => some ["Sm", "Sc", "Sk", "So"]
  | "z" | "separator" => some ["Zs", "Zl", "Zp"]
  | "digit" => some ["Nd"]
  | "cntrl" => some ["Cc"]
  | _ =>
    (Unicode.categories.find? fun category =>
      category.short.toLower == name || category.long.toLower == name).map fun category =>
        [category.short]

def inCategories (names : List String) (c : Char) : Bool :=
  Unicode.categories.any fun category =>
    names.contains category.short && category.members.contains c

/-- The set of a general category or of a group of them. -/
def ofCategory? (name : String) : Option CharSet :=
  match name with
  | "any" => some all
  | "ascii" => some (range (Char.ofNat 0) (Char.ofNat 127))
  | "assigned" => some ⟨fun c => !isUnassigned c, 1000⟩
  | "cn" | "unassigned" => some ⟨isUnassigned, 1000⟩
  | "c" | "other" =>
    some ⟨fun c => isUnassigned c || inCategories ["Cc", "Cf", "Co"] c, 1000⟩
  | _ => (categoryGroup? name).map fun names => ofProperty (inCategories names)

/-! ### Properties -/

def ofScript? (name : String) : Option CharSet :=
  (Unicode.findScript? name).map fun script => ofProperty script.members.contains

/-- The characters that were there in a version. -/
def ofAge? (name : String) : Option CharSet :=
  (Unicode.ages.find? fun age =>
    let major := toString age.major
    let minor := toString age.minor
    name == major ++ "." ++ minor || name == "v" ++ major ++ minor).map fun last =>
      ⟨fun c => Unicode.ages.any fun age =>
        (age.major < last.major || (age.major == last.major && age.minor ≤ last.minor))
          && age.members.contains c, 1000⟩

def ofName? (name : String) : Option CharSet :=
  let property? :=
    if name == "cf" || name == "sc" || name == "lc" then none
    else Unicode.properties.find? fun property => property.names.contains name
  match property? with
  | some property => some (ofProperty property.holds)
  | none => (ofCategory? name).or (ofScript? name)

def ofValue? (name value : String) : Option CharSet :=
  match name with
  | "gc" | "generalcategory" => ofCategory? value
  | "sc" | "script" => ofScript? value
  | "scx" | "scriptextensions" =>
    (Unicode.findScript? value).map fun script => ofProperty script.uses
  | "age" => ofAge? value
  | _ => none

/-- Splits a text at the first place where a mark stands, behind which the text goes on. -/
def splitAt? (mark : List Char) : List Char → Option (List Char × List Char)
  | [] => none
  | c :: rest =>
    if mark.isPrefixOf (c :: rest) then some ([], (c :: rest).drop mark.length)
    else (splitAt? mark rest).map fun (a, b) => (c :: a, b)

/-- The set that the text between the braces of `\p` stands for. -/
def ofQuery? (query : List Char) : Option CharSet :=
  match splitAt? ['!', '='] query with
  | some (name, value) => (ofValue? (foldName name) (foldName value)).map complement
  | none =>
    match (splitAt? [':'] query).or (splitAt? ['='] query) with
    | some (name, value) => ofValue? (foldName name) (foldName value)
    | none => ofName? (foldName query)

end StagedFlow.CharSet
