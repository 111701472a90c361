import StagedFlow.Url.Form

/-!
# Addresses as hosts

Numeric addresses are written in many ways in links: with one to four parts, in three bases, or in
brackets with a gap of zeros. Each is kept in one way.
-/

namespace StagedFlow.Url.Address

def decimal (n : Nat) : List Char := Nat.toDigits 10 n

def hex (n : Nat) : List Char := Nat.toDigits 16 n

def radixValue? (radix : Nat) (digits : List Char) : Option Nat :=
  digits.foldlM (fun n c =>
    match Text.hexValue? c with
    | some d => if d < radix then some (n * radix + d) else none
    | none => none) 0

/-! ### Four parts -/

/-- A number of an address, in decimal, octal or hexadecimal digits. -/
def number? : List Char → Option Nat
  | [] => none
  | '0' :: 'x' :: digits => radixValue? 16 digits
  | '0' :: 'X' :: digits => radixValue? 16 digits
  | '0' :: d :: digits => radixValue? 8 (d :: digits)
  | digits => radixValue? 10 digits

/-- The labels of a name without an empty last one. -/
def labels (name : List Char) : List (List Char) :=
  let parts := Form.split '.' name
  if parts.length > 1 ∧ parts.getLast? = some [] then parts.dropLast else parts

/-- True of names that can only be meant as an address. -/
def endsInNumber (name : List Char) : Bool :=
  match (labels name).getLast? with
  | some last => (!last.isEmpty && last.all Char.isDigit) || (number? last).isSome
  | none => false

/-- The address of a name that ends in a number: all parts but the last one hold one byte, the last
one what is left. -/
def ipv4? (name : List Char) : Option Nat := do
  let parts := labels name
  if parts.length > 4 then none
  let numbers ← parts.mapM number?
  let last ← numbers.getLast?
  let high := numbers.dropLast
  if high.any (· > 255) ∨ last ≥ Nat.pow 256 (5 - numbers.length) then none
  pure (high.zipIdx.foldl (fun n (d, i) => n + d * Nat.pow 256 (3 - i)) last)

def writeIpv4 (n : Nat) : List Char :=
  List.intercalate ['.'] ([3, 2, 1, 0].map fun i => decimal (n / Nat.pow 256 i % 256))

/-! ### Eight pieces -/

/-- Four decimal numbers of one byte without leading zeros, as two pieces. -/
def embedded? (text : List Char) : Option (List Nat) := do
  let numbers ← (Form.split '.' text).mapM fun part =>
    if part.isEmpty ∨ (part.length > 1 ∧ part.head? = some '0') then none
    else radixValue? 10 part
  if numbers.any (· > 255) then none
  match numbers with
  | [a, b, c, d] => pure [a * 256 + b, c * 256 + d]
  | _ => none

def piece? (part : List Char) : Option Nat :=
  if part.isEmpty ∨ part.length > 4 then none else radixValue? 16 part

/-- Pieces between single colons; the last part of an address may be an address of four parts. -/
def pieces? (last : Bool) (text : List Char) : Option (List Nat) :=
  if text.isEmpty then some []
  else
    let parts := Form.split ':' text
    let tail := parts.getLast?.getD []
    if last ∧ tail.contains '.' then do
      let head ← parts.dropLast.mapM piece?
      pure (head ++ (← embedded? tail))
    else parts.mapM piece?

/-- Splits at the first double colon. -/
def splitGap : List Char → Option (List Char × List Char)
  | [] => none
  | ':' :: ':' :: rest => some ([], rest)
  | c :: rest => (splitGap rest).map fun (a, b) => (c :: a, b)

/-- The eight pieces of an address; a double colon stands for one piece of zero or more. -/
def ipv6? (text : List Char) : Option (List Nat) :=
  match splitGap text with
  | none => do
    let pieces ← pieces? true text
    if pieces.length = 8 then pure pieces else none
  | some (before, after) => do
    let before ← pieces? false before
    let after ← pieces? true after
    if before.length + after.length ≤ 7 then
      pure (before ++ List.replicate (8 - before.length - after.length) 0 ++ after)
    else none

/-- Start and length of the first longest run of zeros. -/
def longestGap (pieces : List Nat) : Nat × Nat :=
  let runs := (List.range 8).map fun i => (i, ((pieces.drop i).takeWhile (· == 0)).length)
  runs.foldl (fun best run => if run.2 > best.2 then run else best) (0, 0)

def writeIpv6 (pieces : List Nat) : List Char :=
  let (start, length) := longestGap pieces
  let write (ps : List Nat) : List Char := List.intercalate [':'] (ps.map hex)
  if length < 2 then write pieces
  else write (pieces.take start) ++ [':', ':'] ++ write (pieces.drop (start + length))

end StagedFlow.Url.Address
