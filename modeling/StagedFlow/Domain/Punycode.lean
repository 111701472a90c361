/-!
# Labels in ASCII

A label with characters beyond ASCII is written with its ASCII characters first and, behind a
hyphen, the others as a sequence of deltas: how far to walk through all places of the label and all
code points in order up to the next insertion. A delta is a numeral of variable length whose digits
have growing bases.
-/

namespace StagedFlow.Domain.Punycode

/-! ### Digits -/

def digitChar (d : Nat) : Char := Char.ofNat (if d < 26 then 97 + d else 22 + d)

/-- The value of a digit: letters first, of either case, then decimal digits. -/
def digitValue? (c : Char) : Option Nat :=
  if 'a' ≤ c ∧ c ≤ 'z' then some (c.toNat - 97)
  else if 'A' ≤ c ∧ c ≤ 'Z' then some (c.toNat - 65)
  else if '0' ≤ c ∧ c ≤ '9' then some (c.toNat - 22)
  else none

/-- Digits below the threshold of their place end a numeral. -/
def threshold (place bias : Nat) : Nat :=
  if place ≤ bias then 1 else if bias + 26 ≤ place then 26 else place - bias

theorem threshold_pos (place bias : Nat) : 1 ≤ threshold place bias := by
  unfold threshold
  split
  · omega
  · split <;> omega

/-- How often a delta is divided by 35 until it is small, times 36, and what is left of it. -/
def shrink (delta places : Nat) : Nat × Nat :=
  if 455 < delta then shrink (delta / 35) (places + 36) else (delta, places)
termination_by delta
decreasing_by exact Nat.div_lt_self (by omega) (by omega)

/-- The bias behind a delta, for a label of `count` characters so far. -/
def adapt (delta count : Nat) (first : Bool) : Nat :=
  let delta := if first then delta / 700 else delta / 2
  let (rest, places) := shrink (delta + delta / count) 0
  places + 36 * rest / (rest + 38)

/-! ### Writing -/

/-- The numeral of a delta, from a place on. -/
def numeral (bias place delta : Nat) : List Char :=
  let t := threshold place bias
  if delta < t then [digitChar delta]
  else digitChar (t + (delta - t) % (36 - t)) :: numeral bias (place + 36) ((delta - t) / (36 - t))
termination_by delta
decreasing_by
  have := threshold_pos place bias
  calc (delta - threshold place bias) / (36 - threshold place bias)
      ≤ delta - threshold place bias := Nat.div_le_self _ _
    _ < delta := by omega

structure Encoder where
  out : List Char
  delta : Nat
  bias : Nat
  handled : Nat

/-- Walks over one place of the label; where the code point `point` stands, the delta is written. -/
def Encoder.walk (basic point : Nat) (s : Encoder) (c : Char) : Encoder :=
  if c.toNat < point then { s with delta := s.delta + 1 }
  else if c.toNat = point then
    ⟨s.out ++ numeral s.bias 36 s.delta, 0, adapt s.delta (s.handled + 1) (s.handled == basic),
      s.handled + 1⟩
  else s

/-- Writes the insertions of code points in increasing order; `next` is the least that may come. -/
def Encoder.run (label : List Char) (basic : Nat) : List Nat → Nat → Encoder → Encoder
  | [], _, s => s
  | point :: rest, next, s =>
    let s := { s with delta := s.delta + (point - next) * (s.handled + 1) }
    let s := label.foldl (walk basic point) s
    run label basic rest (point + 1) { s with delta := s.delta + 1 }

def insertPoint (n : Nat) : List Nat → List Nat
  | [] => [n]
  | m :: rest => if n < m then n :: m :: rest else if n = m then m :: rest
      else m :: insertPoint n rest

/-- The code points beyond ASCII, in order and without repetition. -/
def points (label : List Char) : List Nat :=
  label.foldr (fun c ps => if c.toNat < 0x80 then ps else insertPoint c.toNat ps) []

def encode (label : List Char) : List Char :=
  let basic := label.filter fun c => c.toNat < 0x80
  let s : Encoder := ⟨[], 0, 72, basic.length⟩
  basic ++ (if basic.isEmpty then [] else ['-'])
    ++ (s.run label basic.length (points label) 0x80).out

/-! ### Reading -/

/-- Reads a numeral: its value is added to `sum`. -/
def readNumeral? (bias : Nat) : List Char → Nat → Nat → Nat → Option (Nat × List Char)
  | [], _, _, _ => none
  | c :: rest, place, weight, sum =>
    match digitValue? c with
    | none => none
    | some d =>
      if d < threshold place bias then some (sum + d * weight, rest)
      else
        readNumeral? bias rest (place + 36) (weight * (36 - threshold place bias))
          (sum + d * weight)

theorem length_of_readNumeral? {bias : Nat} {text rest : List Char} {place weight sum n : Nat}
    (h : readNumeral? bias text place weight sum = some (n, rest)) :
    rest.length < text.length := by
  induction text generalizing place weight sum with
  | nil => simp [readNumeral?] at h
  | cons c more ih =>
    rw [readNumeral?] at h
    split at h
    · simp at h
    · split at h
      · obtain ⟨-, rfl⟩ := Prod.mk.inj (Option.some.inj h)
        simp
      · have := ih h
        simp only [List.length_cons]
        omega

/-- Reads insertions into `label`. -/
def insertions? (bias point place : Nat) (label text : List Char) : Option (List Char) :=
  match _h : readNumeral? bias text 36 1 place with
  | none => if text.isEmpty then some label else none
  | some (n, rest) =>
    let count := label.length + 1
    let point := point + n / count
    if point < 0xD800 ∨ (0xDFFF < point ∧ point < 0x110000) then
      insertions? (adapt (n - place) count (place == 0)) point (n % count + 1)
        (label.insertIdx (n % count) (Char.ofNat point)) rest
    else none
termination_by text.length
decreasing_by exact length_of_readNumeral? _h

/-- The label of a text: what stands in front of its last hyphen, with the insertions behind it. A
hyphen at the start has nothing in front of it and is part of the insertions. -/
def decode (text : List Char) : Option (List Char) :=
  let tail := (text.reverse.takeWhile (· != '-')).reverse
  let basic := text.take (text.length - tail.length - 1)
  if tail.length = text.length ∨ basic.isEmpty then insertions? 72 0x80 0 [] text
  else insertions? 72 0x80 0 basic tail

end StagedFlow.Domain.Punycode
