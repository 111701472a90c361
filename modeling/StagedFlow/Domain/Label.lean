import StagedFlow.Domain.Mapping
import StagedFlow.Domain.Punycode
import StagedFlow.Unicode.Category
import StagedFlow.Unicode.Compose
import StagedFlow.Unicode.Direction
import StagedFlow.Unicode.Joining
import StagedFlow.Url.Form

/-!
# Labels of domain names

What the labels of a name have to satisfy: no label begins with a mark; a joiner stands where it
changes the form of letters; and in a name with letters written from right to left every label has
one direction.
-/

namespace StagedFlow.Domain

open Unicode

/-! ### Joiners -/

/-- True if the nearest character that is not transparent passes a test. -/
def joins (test : Char → Bool) : List Char → Bool
  | [] => false
  | c :: rest => test c || (transparent.contains c && joins test rest)

/-- Every joiner stands behind a virama; the one that parts letters may also stand between letters
that would join. The characters so far are in reverse. -/
def joinersFit : List Char → List Char → Bool
  | _, [] => true
  | before, c :: rest =>
    let fits :=
      if c.toNat = 0x200C then
        before.head?.any isVirama
          || (joins (fun d => joinsBoth.contains d || joinsAfter.contains d) before
            && joins (fun d => joinsBoth.contains d || joinsBefore.contains d) rest)
      else c.toNat ≠ 0x200D || before.head?.any isVirama
    fits && joinersFit (c :: before) rest

/-! ### Directions -/

def isRightward (d : Direction) : Bool :=
  d = .right || d = .arabicLetter || d = .arabicNumber

/-- Classes that may stand inside of every label. -/
def isInner (d : Direction) : Bool :=
  d = .europeanNumber || d = .europeanSeparator || d = .commonSeparator
    || d = .europeanTerminator || d = .neutral || d = .boundary || d = .mark

/-- True if a label, given by the classes of its characters, has one direction. -/
def hasDirection (label : List Direction) : Bool :=
  match label with
  | [] => true
  | first :: _ =>
    let core := (label.reverse.dropWhile (· = .mark)).reverse
    match first, core.getLast? with
    | .left, some last =>
      (last = .left || last = .europeanNumber) && core.all fun d => d = .left || isInner d
    | .right, some last => fromRight core last
    | .arabicLetter, some last => fromRight core last
    | _, _ => false
where
  fromRight (core : List Direction) (last : Direction) : Bool :=
    (isRightward last || last = .europeanNumber)
      && (core.all fun d => isRightward d || isInner d)
      && !(core.contains .europeanNumber && core.contains .arabicNumber)

/-! ### Names -/

/-- Characters that no written name holds: controls, blanks and the signs of links. -/
def isForbidden (c : Char) : Bool :=
  c.toNat ≤ 32 || c.toNat == 127 || "#/:<>?@[\\]^|%".toList.contains c

def isAscii (label : List Char) : Bool := label.all fun c => c.toNat < 0x80

/-- The most characters of a label that stands for another one, behind its mark. -/
def longestWritten : Nat := 2000

/-- The most characters of a label that is written as another one. -/
def longestMeant : Nat := 1000

/-- A label as it is meant; one that is written in ASCII stands for another one, which has to be in
the form in which labels are kept. -/
def meant? (label : List Char) : Option (List Char) :=
  match label with
  | 'x' :: 'n' :: '-' :: '-' :: text =>
    if !isAscii text || text.getLast?.all (· == '-') || longestWritten < text.length then none
    else
      match Punycode.decode text with
      | some l => if l.all isKept && compose l == l && !l.contains '.' then some l else none
      | none => none
  | _ => some label

def isWellFormed (label : List Char) : Bool :=
  isAscii label
    || (label.length ≤ longestMeant && !label.head?.any isMark && joinersFit [] label)

def writeLabel (label : List Char) : List Char :=
  if isAscii label then label else "xn--".toList ++ Punycode.encode label

/-- A name in its written form; none if it is not one. -/
def write? (name : List Char) : Option (List Char) := do
  let kept ← name.mapM kept?
  let labels ← (Form.split '.' (compose kept.flatten)).mapM meant?
  let classes := labels.map fun label => label.map directionOf
  let fits := labels.all isWellFormed
    && (labels.all isAscii || classes.all hasDirection
      || !(classes.any fun label => label.any isRightward))
    && !labels.any fun label => label.any isForbidden
  if fits then some (List.intercalate ['.'] (labels.map writeLabel)) else none

end StagedFlow.Domain
