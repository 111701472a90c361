import StagedFlow.Json.Describe
import StagedFlow.Text.Hex

/-!
# Reading JSON text

A reader moves a cursor over the text. Each fault is reported with a line and a column: either the
place up to which the text was consumed, or, for a character that was only looked at, the place
just behind its first byte. Columns count bytes.

A number without a fraction or an exponent is an integer if it lies in `-2 ^ 63 ..< 2 ^ 64`. Any
other number is the double that results from two roundings: first of its leading digits, as many as
fit into 64 bits, then of their product with, or quotient by, a power of ten.
-/

namespace StagedFlow.Json

/-- What is wrong with a text. -/
inductive Fault where
  | eofValue
  | eofString
  | eofList
  | eofObject
  | expectedValue
  | expectedIdent
  | expectedColon
  | expectedListEnd
  | expectedObjectEnd
  | keyNotString
  | trailingComma
  | trailingCharacters
  | invalidNumber
  | numberOutOfRange
  | invalidEscape
  | controlCharacter
  | loneSurrogate
  | unexpectedEscapeEnd
  | tooDeep
  | mismatch (got wanted : String)
deriving DecidableEq

def Fault.message : Fault → String
  | eofValue => "EOF while parsing a value"
  | eofString => "EOF while parsing a string"
  | eofList => "EOF while parsing a list"
  | eofObject => "EOF while parsing an object"
  | expectedValue => "expected value"
  | expectedIdent => "expected ident"
  | expectedColon => "expected `:`"
  | expectedListEnd => "expected `,` or `]`"
  | expectedObjectEnd => "expected `,` or `\x7d`"
  | keyNotString => "key must be a string"
  | trailingComma => "trailing comma"
  | trailingCharacters => "trailing characters"
  | invalidNumber => "invalid number"
  | numberOutOfRange => "number out of range"
  | invalidEscape => "invalid escape"
  | controlCharacter => "control character (\\u0000-\\u001F) found while parsing a string"
  | loneSurrogate => "lone leading surrogate in hex escape"
  | unexpectedEscapeEnd => "unexpected end of hex escape"
  | tooDeep => "recursion limit exceeded"
  | mismatch got wanted => "invalid type: " ++ got ++ ", expected " ++ wanted

/-- A place in a text, and the text behind it. -/
structure Cursor where
  rest : List Char
  line : Nat
  column : Nat

structure ReadError where
  fault : Fault
  line : Nat
  column : Nat

def ReadError.message (e : ReadError) : String :=
  e.fault.message ++ " at line " ++ toString e.line ++ " column " ++ toString e.column

abbrev Reader := StateT Cursor (Except ReadError)

namespace Reader

/-- Fails at the place up to which the text was consumed. -/
def fail {α : Type} (fault : Fault) : Reader α :=
  fun cursor => .error ⟨fault, cursor.line, cursor.column⟩

/-- Fails just behind the first byte of the next character, if there is one. -/
def failAhead {α : Type} (fault : Fault) : Reader α := fun cursor =>
  match cursor.rest with
  | [] => .error ⟨fault, cursor.line, cursor.column⟩
  | '\n' :: _ => .error ⟨fault, cursor.line + 1, 0⟩
  | _ :: _ => .error ⟨fault, cursor.line, cursor.column + 1⟩

def peek : Reader (Option Char) := fun cursor => .ok (cursor.rest.head?, cursor)

def next : Reader (Option Char) := fun cursor =>
  match cursor.rest with
  | [] => .ok (none, cursor)
  | c :: rest =>
    if c = '\n' then .ok (some c, ⟨rest, cursor.line + 1, 0⟩)
    else .ok (some c, ⟨rest, cursor.line, cursor.column + c.utf8Size⟩)

def skip : Reader Unit := do
  let _ ← next

def isBlank (c : Char) : Bool := c == ' ' || c == '\n' || c == '\t' || c == '\r'

/-- Moves over the characters that pass a test, and returns them. -/
def takeWhile (p : Char → Bool) : Reader (List Char) := fun cursor =>
  go cursor.rest cursor.line cursor.column
where
  go : List Char → Nat → Nat → Except ReadError (List Char × Cursor)
  | [], line, column => .ok ([], ⟨[], line, column⟩)
  | c :: rest, line, column =>
    if p c then do
      let (taken, cursor) ←
        if c = '\n' then go rest (line + 1) 0 else go rest line (column + c.utf8Size)
      .ok (c :: taken, cursor)
    else .ok ([], ⟨c :: rest, line, column⟩)

/-- The next character that is not blank, left in place. -/
def peekToken : Reader (Option Char) := do
  let _ ← takeWhile isBlank
  peek

/-- Reads the rest of a word, of which the first letter is consumed. -/
def word : List Char → Reader Unit
  | [] => pure ()
  | c :: rest => do
    match ← peek with
    | none => fail .eofValue
    | some d =>
      if d = c then
        skip
        word rest
      else failAhead .expectedIdent

def wordLimit : Nat := Nat.pow 2 64

def digitValue (c : Char) : Nat := c.toNat - '0'.toNat

/-- The leading digits that fit into a word of 64 bits behind `word`, and the others. -/
def fitDigits (word : Nat) : List Char → Nat × List Char
  | [] => (word, [])
  | c :: rest =>
    let longer := word * 10 + digitValue c
    if longer < wordLimit then fitDigits longer rest else (word, c :: rest)

/-- Divides by `10 ^ 308` as long as the exponent stays out of reach. -/
def shrink : Nat → Binary64 → Nat → Option Binary64
  | 0, x, _ => some x
  | fuel + 1, x, exponent =>
    if exponent ≤ 308 then x.div? (Binary64.powerOfTen exponent)
    else if x.isZero then some x
    else
      match x.div? (Binary64.powerOfTen 308) with
      | some y => shrink fuel y (exponent - 308)
      | none => none

/-- The double for leading digits and a power of ten, rounded twice. -/
def scale? (word : Nat) (exponent : Int) : Option Binary64 :=
  let x := Binary64.ofInt word
  if exponent < 0 then shrink 5 x exponent.natAbs
  else if exponent.toNat ≤ 308 then x.mul? (Binary64.powerOfTen exponent.toNat)
  else if x.isZero then some x
  else none

def float (negative : Bool) (word : Nat) (exponent : Int) : Reader Number :=
  match scale? word exponent with
  | some x => pure (.float (if negative then x.neg else x))
  | none => fail .numberOutOfRange

def isExponentMark (c : Option Char) : Bool := c == some 'e' || c == some 'E'

/-- The largest exponent that is reckoned with. -/
def exponentLimit : Nat := Nat.pow 2 31 - 1

/-- The value of the digits that follow `size`, and whether it stays within the limit; the digit
that takes it past the limit is the last one consumed. -/
def exponentDigits : Nat → Nat → Reader (Option Nat)
  | 0, size => pure (some size)
  | fuel + 1, size => do
    match ← peek with
    | some c =>
      if c.isDigit then
        skip
        let longer := size * 10 + digitValue c
        if longer ≤ exponentLimit then exponentDigits fuel longer else pure none
      else pure (some size)
    | none => pure (some size)

/-- Reads an exponent, of which the mark is next. -/
def exponentPart (negative : Bool) (word : Nat) (start : Int) : Reader Number := do
  skip
  let below ← do
    match ← peek with
    | some '+' => skip; pure false
    | some '-' => skip; pure true
    | _ => pure false
  match ← peek with
  | none => fail .eofValue
  | some c =>
    if !c.isDigit then failAhead .invalidNumber
    else
      skip
      match ← (fun cursor => exponentDigits cursor.rest.length (digitValue c) cursor) with
      | some size => float negative word (if below then start - size else start + size)
      | none =>
        if word ≠ 0 ∧ !below then fail .numberOutOfRange
        else
          let _ ← takeWhile Char.isDigit
          pure (.float { Binary64.zero with negative })

/-- Reads a fraction, of which the point is next. -/
def fractionPart (negative : Bool) (word : Nat) (start : Int) : Reader Number := do
  skip
  let digits ← takeWhile Char.isDigit
  if digits.isEmpty then
    match ← peek with
    | some _ => failAhead .invalidNumber
    | none => failAhead .eofValue
  else
    let (longer, dropped) := fitDigits word digits
    let exponent := start - (digits.length - dropped.length : Nat)
    if isExponentMark (← peek) then exponentPart negative longer exponent
    else float negative longer exponent

/-- The number for a whole part without fraction or exponent. -/
def whole (negative : Bool) (word : Nat) : Number :=
  if !negative then .int word
  else if word = 0 ∨ word > Nat.pow 2 63 then .float (Binary64.ofInt word).neg
  else .int (-(word : Int))

/-- Reads a number; a minus sign in front of it is consumed. -/
def number (negative : Bool) : Reader Number := do
  match ← peek with
  | none => fail .eofValue
  | some c =>
    if !c.isDigit then failAhead .invalidNumber
    else
      skip
      let more ← if c = '0' then pure [] else takeWhile Char.isDigit
      let after ← peek
      if c = '0' ∧ (after.any Char.isDigit) then failAhead .invalidNumber
      else
        let (word, dropped) := fitDigits 0 (c :: more)
        let exponent : Int := dropped.length
        if after = some '.' then fractionPart negative word exponent
        else if isExponentMark after then exponentPart negative word exponent
        else if dropped.isEmpty then pure (whole negative word)
        else float negative word exponent

/-- Moves over a number of bytes, which may end inside a character. -/
def skipBytes : Nat → Cursor → Cursor
  | 0, cursor => cursor
  | n + 1, cursor =>
    match cursor.rest with
    | [] => cursor
    | c :: rest =>
      if c = '\n' then skipBytes n ⟨rest, cursor.line + 1, 0⟩
      else if c.utf8Size ≤ n + 1 then
        skipBytes (n + 1 - c.utf8Size) ⟨rest, cursor.line, cursor.column + c.utf8Size⟩
      else ⟨cursor.rest, cursor.line, cursor.column + (n + 1)⟩
termination_by n => n
decreasing_by
  · omega
  · have := c.utf8Size_pos
    omega

/-- Reads four bytes, which have to be hexadecimal digits. -/
def hexWord : Reader Nat := fun cursor =>
  let behind := skipBytes 4 cursor
  if (cursor.rest.map Char.utf8Size).foldl (· + ·) 0 < 4 then fail .eofString behind
  else
    match (cursor.rest.take 4).map Text.hexValue? with
    | [some a, some b, some c, some d] => .ok (((a * 16 + b) * 16 + c) * 16 + d, behind)
    | _ => fail .invalidEscape behind

def expectEscape (c : Char) : Reader Unit := do
  match ← peek with
  | none => fail .eofString
  | some d => if d = c then skip else failAhead .unexpectedEscapeEnd

/-- Reads an escaped code point; one past 16 bits is written as two escapes. -/
def unicodeEscape : Reader Char := do
  let high ← hexWord
  if 0xDC00 ≤ high ∧ high ≤ 0xDFFF then fail .loneSurrogate
  else if high < 0xD800 ∨ 0xDBFF < high then pure (Char.ofNat high)
  else
    expectEscape '\\'
    expectEscape 'u'
    let low ← hexWord
    if low < 0xDC00 ∨ 0xDFFF < low then fail .loneSurrogate
    else pure (Char.ofNat (0x10000 + (high - 0xD800) * 0x400 + (low - 0xDC00)))

/-- Reads what follows a backslash. -/
def escaped : Reader Char := do
  match ← peek with
  | none => fail .eofString
  | some '"' => skip; pure '"'
  | some '\\' => skip; pure '\\'
  | some '/' => skip; pure '/'
  | some 'b' => skip; pure (Char.ofNat 8)
  | some 'f' => skip; pure (Char.ofNat 12)
  | some 'n' => skip; pure '\n'
  | some 'r' => skip; pure '\r'
  | some 't' => skip; pure '\t'
  | some 'u' => skip; unicodeEscape
  | some _ => failAhead .invalidEscape

/-- Reads the rest of a string, of which the opening quote is consumed. -/
def stringBody : Nat → List Char → Reader String
  | 0, _ => fail .eofString
  | fuel + 1, seen => do
    match ← next with
    | none => fail .eofString
    | some '"' => pure (String.ofList seen.reverse)
    | some '\\' => do stringBody fuel ((← escaped) :: seen)
    | some c => if c.toNat < 32 then fail .controlCharacter else stringBody fuel (c :: seen)

def string : Reader String := fun cursor => stringBody (cursor.rest.length + 1) [] cursor

/-- How many lists and objects may lie within each other, the value itself included. -/
def depthLimit : Nat := 128

mutual

/-- Reads a value. The fuel bounds the number of values and separators in the text, the depth the
lists and objects that may still be opened. -/
def value : Nat → Nat → Reader Json
  | 0, _ => fail .tooDeep
  | fuel + 1, depth => do
    match ← peekToken with
    | none => failAhead .eofValue
    | some 'n' => skip; word ['u', 'l', 'l']; pure .null
    | some 't' => skip; word ['r', 'u', 'e']; pure (.bool true)
    | some 'f' => skip; word ['a', 'l', 's', 'e']; pure (.bool false)
    | some '"' => skip; return .str (← string)
    | some '-' => skip; return .num (← number true)
    | some '[' => do
      if depth ≤ 1 then failAhead .tooDeep
      else
        skip
        match ← peekToken with
        | none => failAhead .eofList
        | some ']' => skip; pure (.arr [])
        | some _ => return .arr (← items fuel (depth - 1))
    | some '\x7b' => do
      if depth ≤ 1 then failAhead .tooDeep
      else
        skip
        match ← peekToken with
        | none => failAhead .eofObject
        | some '\x7d' => skip; pure (.obj [])
        | some _ => return .obj (← fields fuel (depth - 1) [])
    | some c => if c.isDigit then return .num (← number false) else failAhead .expectedValue

/-- Reads the items of a list up to its closing bracket. -/
def items : Nat → Nat → Reader (List Json)
  | 0, _ => fail .tooDeep
  | fuel + 1, depth => do
    let v ← value fuel depth
    match ← peekToken with
    | none => failAhead .eofList
    | some ']' => skip; pure [v]
    | some ',' => do
      skip
      if (← peekToken) = some ']' then failAhead .trailingComma
      else return v :: (← items fuel depth)
    | some _ => failAhead .expectedListEnd

/-- Reads the fields of an object up to its closing brace; a later value of a key replaces the
earlier one in its place. -/
def fields : Nat → Nat → List (String × Json) → Reader (List (String × Json))
  | 0, _, _ => fail .tooDeep
  | fuel + 1, depth, seen => do
    match ← peekToken with
    | none => failAhead .eofValue
    | some '"' => do
      skip
      let key ← string
      match ← peekToken with
      | none => failAhead .eofObject
      | some ':' => do
        skip
        let v ← value fuel depth
        let seen := put key v seen
        match ← peekToken with
        | none => failAhead .eofObject
        | some '\x7d' => skip; pure seen
        | some ',' => do
          skip
          if (← peekToken) = some '\x7d' then failAhead .trailingComma
          else fields fuel depth seen
        | some _ => failAhead .expectedObjectEnd
      | some _ => failAhead .expectedColon
    | some _ => failAhead .keyNotString

end

/-- Nothing but blanks may follow. -/
def finish : Reader Unit := do
  match ← peekToken with
  | none => pure ()
  | some _ => failAhead .trailingCharacters

end Reader

def start (text : String) : Cursor := ⟨text.toList, 1, 0⟩

/-- Reads a text that holds one value. -/
def read (text : String) : Except ReadError Json := do
  let cursor := start text
  let (v, cursor) ← Reader.value (2 * cursor.rest.length + 2) Reader.depthLimit cursor
  let ((), _) ← Reader.finish cursor
  pure v

/-- Refuses the value that is next, as one of another type than a boolean. Lists and objects are
refused at their bracket, other values behind their end. -/
def Reader.refuseBool (first : Char) : Reader Bool := do
  let refuse (got : Json) : Reader Bool := fail (.mismatch got.describe "a boolean")
  match first with
  | 'n' => skip; word ['u', 'l', 'l']; refuse .null
  | '"' => do
    skip
    let s ← string
    refuse (.str s)
  | '-' => do
    skip
    let n ← number true
    refuse (.num n)
  | '[' => refuse (.arr [])
  | '\x7b' => refuse (.obj [])
  | c =>
    if c.isDigit then do
      let n ← number false
      refuse (.num n)
    else failAhead .expectedValue

/-- Reads a text that holds one boolean. -/
def readBool (text : String) : Except ReadError Bool := do
  let reader : Reader Bool := do
    match ← Reader.peekToken with
    | none => Reader.failAhead .eofValue
    | some 't' => Reader.skip; Reader.word ['r', 'u', 'e']; pure true
    | some 'f' => Reader.skip; Reader.word ['a', 'l', 's', 'e']; pure false
    | some c => Reader.refuseBool c
  let (b, cursor) ← reader (start text)
  let ((), _) ← Reader.finish cursor
  pure b

end StagedFlow.Json
