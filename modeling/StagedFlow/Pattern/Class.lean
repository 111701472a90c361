import StagedFlow.Pattern.Property
import StagedFlow.Pattern.Tree
import StagedFlow.Text.Hex

/-!
# Reading escapes and classes

An escape stands for a character, for a set of characters, for a question about a place, or for one
of two marks of a search. A class in brackets is a union of characters, ranges, escapes and nested
classes; two unions may be joined by an operation on sets.
-/

namespace StagedFlow.Pattern

inductive Escape where
  /-- A character, and whether its case may be ignored. -/
  | char (c : Char) (folds : Bool)
  /-- A set, and whether the case of its members may be ignored. -/
  | set (set : CharSet) (folds : Bool) (negated : Bool)
  | look (look : Look)
  | restart
  | origin

namespace Escape

/-- A character by its number, unless there is none. -/
def ofNumber? (n : Nat) : Option Char := if n.isValidChar then some (Char.ofNat n) else none

/-- A character by so many hexadecimal digits, or by one to eight of them in braces. -/
def readHex? (count : Nat) (text : List Char) : Option (Escape × List Char) := do
  let digits := text.take count
  if digits.length = count ∧ digits.all Text.isHexDigit then
    let c ← (Text.hexNumber? digits).bind ofNumber?
    pure (.char c true, text.drop count)
  else
    match text with
    | '\x7b' :: rest =>
      let digits := rest.takeWhile Text.isHexDigit
      match rest.drop digits.length with
      | '\x7d' :: behind =>
        if 1 ≤ digits.length ∧ digits.length ≤ 8 then
          let c ← (Text.hexNumber? digits).bind ofNumber?
          pure (.char c true, behind)
        else none
      | _ => none
    | _ => none

/-- A set by one letter, or by a text in braces. -/
def readProperty? (negated : Bool) (text : List Char) : Option (Escape × List Char) := do
  match text with
  | '\x7b' :: rest =>
    let query := rest.takeWhile (· != '\x7d')
    match rest.drop query.length with
    | _ :: behind => (CharSet.ofQuery? query).map fun set => (.set set true negated, behind)
    | [] => none
  | c :: rest =>
    (CharSet.ofName? (CharSet.foldName [c])).map fun set => (.set set true negated, rest)
  | [] => none

/-- Reads an escape behind its backslash. -/
def read? (text : List Char) : Option (Escape × List Char) :=
  match text with
  | [] => none
  | c :: rest =>
    let control (n : Nat) : Option (Escape × List Char) := some (.char (Char.ofNat n) false, rest)
    let set (set : CharSet) (negated : Bool) : Option (Escape × List Char) :=
      some (.set set false negated, rest)
    match c with
    | 'A' => some (.look .textStart, rest)
    | 'z' => some (.look .textEnd, rest)
    | 'b' => some (.look (.wordEdge true), rest)
    | 'B' => some (.look (.wordEdge false), rest)
    | 'd' => set .digit false
    | 'D' => set .digit true
    | 's' => set .space false
    | 'S' => set .space true
    | 'w' => set .word false
    | 'W' => set .word true
    | 'h' => set .hexDigit false
    | 'H' => set .hexDigit true
    | 'a' => control 7
    | 't' => control 9
    | 'n' => control 10
    | 'v' => control 11
    | 'f' => control 12
    | 'r' => control 13
    | 'e' => control 27
    | 'x' => readHex? 2 rest
    | 'u' => readHex? 4 rest
    | 'U' => readHex? 8 rest
    | 'p' => readProperty? false rest
    | 'P' => readProperty? true rest
    | 'K' => some (.restart, rest)
    | 'G' => some (.origin, rest)
    | c => if c.toNat < 128 ∧ !c.isAlphanum then some (.char c false, rest) else none

end Escape

namespace Class

/-! ### Named classes -/

def ofName? (name : String) : Option CharSet :=
  let range (low high : Char) : CharSet := .asciiRange low high
  let lower := range 'a' 'z'
  let upper := range 'A' 'Z'
  let digit := range '0' '9'
  match name with
  | "alnum" => some (digit.union (upper.union lower))
  | "alpha" => some (upper.union lower)
  | "ascii" => some (range (Char.ofNat 0) (Char.ofNat 127))
  | "blank" => some ((CharSet.single '\t').union (.single ' '))
  | "cntrl" => some ((range (Char.ofNat 0) (Char.ofNat 31)).union (.single (Char.ofNat 127)))
  | "digit" => some digit
  | "graph" => some (range '!' '~')
  | "lower" => some lower
  | "print" => some (range ' ' '~')
  | "punct" =>
    some ((range '!' '/').union ((range ':' '@').union ((range '[' (Char.ofNat 96)).union
      (range '\x7b' '~'))))
  | "space" => some ((range (Char.ofNat 9) (Char.ofNat 13)).union (.single ' '))
  | "upper" => some upper
  | "word" => some (digit.union (upper.union (lower.union (.single '_'))))
  | "xdigit" => some .hexDigit
  | _ => none

/-- Reads a named class behind its first bracket: a name between colons, and a bracket. -/
def readNamed? (anyCase : Bool) (text : List Char) : Option (CharSet × List Char) := do
  match text with
  | ':' :: rest =>
    let (negated, rest) := match rest with
      | '^' :: rest => (true, rest)
      | rest => (false, rest)
    let name := rest.takeWhile (· != ':')
    match rest.drop name.length with
    | ':' :: ']' :: behind =>
      let set ← ofName? (String.ofList name)
      pure ((set.foldedIf anyCase).complementIf negated, behind)
    | _ => none
  | _ => none

/-! ### Unions -/

inductive Operation where
  | inter
  | diff
  | symmDiff

/-- Case is ignored on both sides before they are joined. -/
def Operation.apply (operation : Operation) (anyCase : Bool) (a b : CharSet) : CharSet :=
  let a := a.foldedIf anyCase
  let b := b.foldedIf anyCase
  match operation with
  | inter => a.inter b
  | diff => a.diff b
  | symmDiff => a.symmDiff b

/-- Joins a union with what stands in front of its operation. -/
def close (anyCase : Bool) (front : Option (Operation × CharSet)) (items : CharSet) : CharSet :=
  match front with
  | none => items
  | some (operation, set) => operation.apply anyCase set items

inductive Item where
  | char (c : Char)
  | members (set : CharSet)

def Item.set : Item → CharSet
  | char c => .single c
  | members set => set

/-- Reads a character or an escape. -/
def readItem? (anyCase : Bool) (text : List Char) : Option (Item × List Char) :=
  match text with
  | [] => none
  | '\\' :: rest =>
    match Escape.read? rest with
    | some (.char c _, rest) => some (.char c, rest)
    | some (.set set folds negated, rest) =>
      some (.members ((set.foldedIf (anyCase && folds)).complementIf negated), rest)
    | _ => none
  | c :: rest => some (.char c, rest)

/-- Reads an item, or a range from one character to another. A hyphen in front of a bracket or of
another hyphen makes no range. -/
def readRange? (anyCase : Bool) (text : List Char) : Option (CharSet × List Char) := do
  let (item, rest) ← readItem? anyCase text
  match rest with
  | [] => none
  | '-' :: ']' :: _ => pure (item.set, rest)
  | '-' :: '-' :: _ => pure (item.set, rest)
  | '-' :: rest =>
    match item, ← readItem? anyCase rest with
    | .char low, (.char high, rest) => if low ≤ high then pure (.range low high, rest) else none
    | _, _ => none
  | _ => pure (item.set, rest)

/-- Reads what may stand in front of the items of a class: whether the class is negated, hyphens,
and a closing bracket that is a member. -/
def readStart (text : List Char) : Bool × CharSet × List Char :=
  let (negated, rest) := match text with
    | '^' :: rest => (true, rest)
    | rest => (false, rest)
  match rest with
  | ']' :: rest => (negated, .single ']', rest)
  | '-' :: rest => (negated, .single '-', rest.dropWhile (· == '-'))
  | rest => (negated, .empty, rest)

mutual

/-- Reads a class behind its opening bracket. -/
def readBody? (anyCase : Bool) : Nat → List Char → Option (CharSet × List Char)
  | 0, _ => none
  | fuel + 1, text => do
    let (negated, items, rest) := readStart text
    let (set, rest) ← readItems? anyCase fuel none items rest
    pure ((set.foldedIf anyCase).complementIf negated, rest)

/-- Reads items up to the closing bracket, with those read so far and what stands in front of
them. -/
def readItems? (anyCase : Bool) :
    Nat → Option (Operation × CharSet) → CharSet → List Char → Option (CharSet × List Char)
  | 0, _, _, _ => none
  | fuel + 1, front, items, text => do
    let join (operation : Operation) (rest : List Char) : Option (CharSet × List Char) :=
      readItems? anyCase fuel (some (operation, close anyCase front items)) .empty rest
    match text with
    | [] => none
    | ']' :: rest => pure (close anyCase front items, rest)
    | '[' :: rest =>
      match readNamed? anyCase rest with
      | some (set, rest) => readItems? anyCase fuel front (items.union set) rest
      | none =>
        let (set, rest) ← readBody? anyCase fuel rest
        readItems? anyCase fuel front (items.union set) rest
    | '&' :: '&' :: rest => join .inter rest
    | '-' :: '-' :: rest => join .diff rest
    | '~' :: '~' :: rest => join .symmDiff rest
    | _ =>
      let (set, rest) ← readRange? anyCase text
      readItems? anyCase fuel front (items.union set) rest

end

/-! ### Classes -/

/-- Splits a text behind the bracket that closes so many open ones. -/
def splitClosed? : Nat → List Char → Option (List Char × List Char)
  | _, [] => none
  | depth, '\\' :: c :: rest =>
    (splitClosed? depth rest).map fun (a, b) => ('\\' :: c :: a, b)
  | depth, '[' :: rest => (splitClosed? (depth + 1) rest).map fun (a, b) => ('[' :: a, b)
  | depth, ']' :: rest =>
    if depth ≤ 1 then some ([']'], rest)
    else (splitClosed? (depth - 1) rest).map fun (a, b) => (']' :: a, b)
  | depth, c :: rest => (splitClosed? depth rest).map fun (a, b) => (c :: a, b)

/-- The text of a class behind its opening bracket, all brackets closed, and the text behind it. A
closing bracket in front of all members is a member. -/
def split? (text : List Char) : Option (List Char × List Char) :=
  let start : List Char := match text with
    | '^' :: ']' :: _ => ['^', ']']
    | '^' :: _ => ['^']
    | ']' :: _ => [']']
    | _ => []
  (splitClosed? 1 (text.drop start.length)).map fun (a, b) => (start ++ a, b)

/-- Reads a class behind its opening bracket. What is left of its text is read on as a pattern. -/
def read? (anyCase : Bool) (text : List Char) : Option (CharSet × List Char) := do
  let (body, behind) ← split? text
  let (set, rest) ← readBody? anyCase (2 * body.length + 2) body
  pure (set, rest ++ behind)

end Class

end StagedFlow.Pattern
