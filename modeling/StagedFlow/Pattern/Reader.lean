import StagedFlow.Pattern.Class

/-!
# Reading patterns

A pattern is read from left to right: alternatives of pieces, where a piece is an atom with at most
one quantifier. A brace that starts no quantifier stands for itself. Flags may change anywhere; they
hold up to the end of the pattern, or of the group that they are written with.
-/

namespace StagedFlow.Pattern

structure Flags where
  anyCase : Bool
  multiline : Bool
  dotAll : Bool
  /-- Quantifiers take as little as they can unless told otherwise. -/
  reluctant : Bool
  /-- Blanks say nothing, and a hash starts a comment. -/
  spaced : Bool

structure ReadState where
  rest : List Char
  flags : Flags
  /-- The number of groups opened so far. -/
  groups : Nat
  names : List (String × Nat)
  /-- The groups that are referred to. -/
  referenced : List Nat
  /-- Some group was referred to by its number. -/
  numbered : Bool
  /-- The number of bytes of the whole pattern. -/
  size : Nat

abbrev Reader := StateT ReadState Option

namespace Reader

/-! ### Characters -/

def peek : Reader (Option Char) := do pure (← get).rest.head?

def advance (count : Nat) : Reader Unit := modify fun s => { s with rest := s.rest.drop count }

/-- Takes a text if it comes next. -/
def accept (text : String) : Reader Bool := do
  if text.toList.isPrefixOf (← get).rest then
    advance text.length
    pure true
  else pure false

def expect (text : String) : Reader Unit := do
  unless ← accept text do failure

/-- The text behind a comment, of which the start was read. -/
def dropComment? : List Char → Option (List Char)
  | ')' :: rest => some rest
  | '\\' :: _ :: rest => dropComment? rest
  | ['\\'] => none
  | _ :: rest => dropComment? rest
  | [] => none

/-- Drops comments in parentheses, and blanks and comments up to the end of a line if those say
nothing. The bound is the length of the text. -/
def dropBlank? (spaced : Bool) : Nat → List Char → Option (List Char)
  | 0, text => some text
  | fuel + 1, text =>
    match text with
    | '(' :: '?' :: '#' :: rest => (dropComment? rest).bind (dropBlank? spaced fuel)
    | c :: rest =>
      if spaced ∧ (c == ' ' || c == '\r' || c == '\n' || c == '\t') then
        dropBlank? spaced fuel rest
      else if spaced ∧ c == '#' then
        dropBlank? spaced fuel ((rest.dropWhile (· != '\n')).drop 1)
      else some text
    | [] => some []

def skipBlank : Reader Unit := do
  let s ← get
  match dropBlank? s.flags.spaced s.rest.length s.rest with
  | some rest => set { s with rest := rest }
  | none => failure

/-! ### Numbers and names -/

/-- A number in a word of a machine. -/
def decimal? (text : List Char) : Option (Nat × List Char) :=
  let digits := text.takeWhile Char.isDigit
  let n := digits.foldl (fun n c => n * 10 + (c.toNat - 48)) 0
  if digits.isEmpty ∨ n ≥ Nat.pow 2 64 then none else some (n, text.drop digits.length)

def isNameChar (c : Char) : Bool := Unicode.isAlphanumeric c || c == '_'

/-- Reads a name up to a closing mark. -/
def name (close : String) : Reader String := do
  let name := (← get).rest.takeWhile isNameChar
  if name.isEmpty then failure
  advance name.length
  expect close
  pure (String.ofList name)

/-- Notes a reference to a group, which has to be open or closed by now. -/
def refer (group : Nat) : Reader Tree := do
  let s ← get
  if group > s.groups then failure
  set { s with referenced := group :: s.referenced }
  pure (.same group)

/-- Reads a reference by number; the number is bounded by half of the size of the pattern. -/
def numberedReference : Reader Tree := do
  let s ← get
  match decimal? s.rest with
  | some (group, rest) =>
    if group < s.size / 2 then
      set { s with rest := rest, numbered := true }
      refer group
    else failure
  | none => failure

/-- Reads a reference by name; a name that no group has may be a number. -/
def namedReference (close : String) : Reader Tree := do
  let name ← name close
  match (← get).names.find? (·.1 == name), decimal? name.toList with
  | some (_, group), _ => refer group
  | none, some (group, []) => refer group
  | _, _ => failure

/-- Opens a group, and gives its number. -/
def openGroup : Reader Nat := do
  let s ← get
  set { s with groups := s.groups + 1 }
  pure (s.groups + 1)

/-! ### Atoms -/

def single (c : Char) (folds : Bool) : Reader Tree := do
  pure (.one ((CharSet.single c).foldedIf (folds && (← get).flags.anyCase)))

def escape : Reader Tree := do
  let s ← get
  if s.rest.head?.any Char.isDigit then numberedReference
  else if ← accept "k<" then namedReference ">"
  else
    match Escape.read? s.rest with
    | none => failure
    | some (escape, rest) =>
      set { s with rest := rest }
      match escape with
      | .char c folds => single c folds
      | .set set folds negated =>
        pure (.one ((set.foldedIf (folds && s.flags.anyCase)).complementIf negated))
      | .look look => pure (.look look)
      | .restart => pure .restart
      | .origin => pure .origin

def characterClass : Reader Tree := do
  let s ← get
  match Class.read? s.flags.anyCase s.rest with
  | some (members, rest) =>
    set { s with rest := rest }
    pure (.one members)
  | none => failure

/-! ### Quantifiers -/

/-- The least and the greatest number between braces, of which the first was read. -/
def bounds : Reader (Nat × Option Nat) := do
  let number : Reader (Option Nat) := do
    match decimal? (← get).rest with
    | some (n, rest) =>
      modify fun s => { s with rest := rest }
      pure (some n)
    | none => pure none
  skipBlank
  let least ← number
  skipBlank
  if ← accept "," then
    skipBlank
    let most ← number
    skipBlank
    expect "\x7d"
    pure (least.getD 0, most.filter (· < Nat.pow 2 64 - 1))
  else
    expect "\x7d"
    match least with
    | some n => pure (n, some n)
    | none => failure

/-- Tries a reader, and stays where it was if the reader fails. -/
def attempt {α : Type} (reader : Reader α) : Reader (Option α) := fun s =>
  match reader s with
  | some (a, s) => some (some a, s)
  | none => some (none, s)

/-- The bounds of a quantifier, if one comes next. -/
def quantifier : Reader (Option (Nat × Option Nat)) := do
  if ← accept "?" then pure (some (0, some 1))
  else if ← accept "*" then pure (some (0, none))
  else if ← accept "+" then pure (some (1, none))
  else if (← peek) = some '\x7b' then
    attempt do
      advance 1
      bounds
  else pure none

/-- Repeats a pattern; a question mark turns the preference over, a plus sign makes the repetition
atomic. -/
def repetition (body : Tree) (least : Nat) (most : Option Nat) : Reader Tree := do
  if !body.isRepeatable then failure
  skipBlank
  let turned ← accept "?"
  let greedy := turned == (← get).flags.reluctant
  let tree := Tree.repeated least most greedy body
  if ← accept "+" then pure (.atomic tree) else pure tree

/-! ### Flags -/

def Flags.put? (flags : Flags) (letter : Char) (value : Bool) : Option Flags :=
  match letter with
  | 'i' => some { flags with anyCase := value }
  | 'm' => some { flags with multiline := value }
  | 's' => some { flags with dotAll := value }
  | 'U' => some { flags with reluctant := value }
  | 'x' => some { flags with spaced := value }
  | 'u' => if value then some flags else none
  | _ => none

/-- Reads letters of flags up to a closing parenthesis or a colon, and tells whether it was a colon.
Letters behind a minus sign switch off. A minus sign does not stand alone, and in front of a
parenthesis there is something. The text behind the question mark is `length` characters long. -/
def flagLetters (length : Nat) : Nat → Bool → Reader Bool
  | 0, _ => failure
  | fuel + 1, off => do
    skipBlank
    let taken := length - (← get).rest.length
    match ← peek with
    | none => failure
    | some c =>
      advance 1
      if c = ')' then
        if taken = 0 ∨ (off ∧ taken = 1) then failure
        pure false
      else if c = ':' then
        if off ∧ taken = 1 then failure
        pure true
      else if c = '-' then
        if off then failure
        flagLetters length fuel true
      else
        match Flags.put? (← get).flags c !off with
        | some flags =>
          modify fun s => { s with flags := flags }
          flagLetters length fuel off
        | none => failure

/-! ### Patterns -/

/-- How deep groups may be nested. -/
def depthLimit : Nat := 64

/-- A condition with its branches. A condition alone stands for itself, and a reference as a
condition asks whether its group has matched. -/
def conditionOf (test : Tree) (body : Option Tree) : Reader Tree := do
  let asked : Tree := match test with
    | .same group => .isSet group
    | test => test
  match body, test with
  | none, .same _ => pure asked
  | none, _ => failure
  | some (.choice [yes, no]), _ => pure (joined asked yes no)
  | some (.choice (yes :: rest)), _ => pure (joined asked yes (.choice rest))
  | some yes, _ => pure (joined asked yes .empty)
where
  joined (test yes no : Tree) : Tree :=
    if yes.isEmpty ∧ no.isEmpty then test else .conditional test yes no

mutual

/-- Reads alternatives. Groups with names cannot be referred to by number. -/
def alternatives : Nat → Nat → Reader Tree
  | 0, _ => failure
  | fuel + 1, depth => do
    let first ← sequence fuel depth
    skipBlank
    if (← peek) = some '|' then
      let rest ← furtherBranches fuel depth
      pure (.choice (first :: rest))
    else
      let s ← get
      if s.numbered ∧ !s.names.isEmpty then failure
      pure first

def furtherBranches : Nat → Nat → Reader (List Tree)
  | 0, _ => failure
  | fuel + 1, depth => do
    if ← accept "|" then
      let branch ← sequence fuel depth
      skipBlank
      let rest ← furtherBranches fuel depth
      pure (branch :: rest)
    else pure []

/-- Reads pieces as long as there are some. -/
def sequence : Nat → Nat → Reader Tree
  | 0, _ => failure
  | fuel + 1, depth => do
    match ← pieces fuel depth with
    | [] => pure .empty
    | [part] => pure part
    | parts => pure (.sequence parts)

def pieces : Nat → Nat → Reader (List Tree)
  | 0, _ => failure
  | fuel + 1, depth => do
    let before := (← get).rest.length
    if before = 0 then pure []
    else
      let part ← piece fuel depth
      if (← get).rest.length = before then pure []
      else
        let rest ← pieces fuel depth
        pure (if part.isEmpty then rest else part :: rest)

/-- Reads an atom and its quantifier. -/
def piece : Nat → Nat → Reader Tree
  | 0, _ => failure
  | fuel + 1, depth => do
    let body ← atom fuel depth
    skipBlank
    match ← quantifier with
    | some (least, most) => repetition body least most
    | none => pure body

def atom : Nat → Nat → Reader Tree
  | 0, _ => failure
  | fuel + 1, depth => do
    skipBlank
    let flags := (← get).flags
    match ← peek with
    | none => pure .empty
    | some c =>
      if c = '+' ∨ c = '*' ∨ c = '?' ∨ c = '|' ∨ c = ')' then pure .empty
      else
        advance 1
        match c with
        | '.' => pure (.one (if flags.dotAll then .all else .notNewline))
        | '^' => pure (.look (if flags.multiline then .lineStart else .textStart))
        | '$' => pure (.look (if flags.multiline then .lineEnd else .textEnd))
        | '(' => group fuel (depth + 1)
        | '\\' => escape
        | '[' => characterClass
        | c => single c true

/-- Reads a group behind its parenthesis. -/
def group : Nat → Nat → Reader Tree
  | 0, _ => failure
  | fuel + 1, depth => do
    if depth ≥ depthLimit then failure
    skipBlank
    let body : Reader Tree := do
      let tree ← alternatives fuel depth
      expect ")"
      pure tree
    let named : Reader Tree := do
      let number ← openGroup
      let name ← name ">"
      modify fun s => { s with names := (name, number) :: s.names }
      let tree ← body
      pure (.group number tree)
    if ← accept "?=" then pure (.around false true (← body))
    else if ← accept "?!" then pure (.around false false (← body))
    else if ← accept "?<=" then pure (.around true true (← body))
    else if ← accept "?<!" then pure (.around true false (← body))
    else if ← accept "?<" then named
    else if ← accept "?P<" then named
    else if ← accept "?P=" then namedReference ")"
    else if ← accept "?>" then pure (.atomic (← body))
    else if ← accept "?(" then conditional fuel depth
    else if ← accept "?" then
      let flags := (← get).flags
      let length := (← get).rest.length
      if ← flagLetters length (length + 1) false then
        let tree ← body
        modify fun s => { s with flags := flags }
        pure tree
      else pure .empty
    else
      let number ← openGroup
      let tree ← body
      pure (.group number tree)

/-- Reads a condition and its branches behind the second parenthesis. -/
def conditional : Nat → Nat → Reader Tree
  | 0, _ => failure
  | fuel + 1, depth => do
    let test ←
      match ← peek with
      | none => failure
      | some c =>
        if c.isDigit then numberedReference
        else if ← accept "'" then namedReference "'"
        else if ← accept "<" then namedReference ">"
        else alternatives fuel depth
    expect ")"
    let before := (← get).rest.length
    let body ← alternatives fuel depth
    let read := (← get).rest.length != before
    let tree ← conditionOf test (if read then some body else none)
    expect ")"
    pure tree

end

end Reader

/-- A pattern with what was found out when it was read. -/
structure Tree.Read where
  tree : Tree
  groups : Nat
  referenced : List Nat

/-- Reads a pattern; none if the text is not one. The number of steps that reading takes is bounded
by the length of the text and the depth of its groups. -/
def Tree.read? (text : String) : Option Tree.Read := do
  let start : ReadState :=
    ⟨text.toList, ⟨false, false, false, false, false⟩, 0, [], [], false, text.utf8ByteSize⟩
  let (tree, s) ← (Reader.alternatives (4 * text.length + 8 * Reader.depthLimit) 0).run start
  if s.rest.isEmpty then pure ⟨tree, s.groups, s.referenced⟩ else none

end StagedFlow.Pattern
