import StagedFlow.Number.Binary64

/-!
# Shortest decimals

The decimal with the fewest digits that reads back as a given double; of two with the same number
of digits the nearer one, and of two equally near the even one. Layout is a separate decision:
`Layout` says up to where digits are written positionally.
-/

namespace StagedFlow

/-- The number `digits * 10 ^ exponent`. -/
structure Decimal where
  digits : Nat
  exponent : Int
deriving DecidableEq

namespace Decimal

def length (n : Nat) : Nat := (Nat.toDigits 10 n).length

/-- Numerator and denominator of `digits * 10 ^ exponent`. -/
def ratio (d : Decimal) : Nat × Nat :=
  if d.exponent ≥ 0 then (d.digits * Nat.pow 10 d.exponent.toNat, 1)
  else (d.digits, Nat.pow 10 (-d.exponent).toNat)

def readsBack (x : Binary64) (d : Decimal) : Bool :=
  let (num, den) := d.ratio
  Binary64.nearestRank (num * Binary64.unit) den == x.rank

/-- The place of the leading digit of a magnitude other than zero. -/
def leadingPlace (x : Binary64) : Int :=
  if x.scaled ≥ Binary64.unit then
    (length (x.scaled / Binary64.unit) : Int) - 1
  else
    -(length ((Binary64.unit - 1) / x.scaled) : Int)

/-- Twice the distance of a decimal from the magnitude of `x`, over a denominator that two
decimals of one exponent share. -/
def gap (x : Binary64) (d : Decimal) : Nat :=
  let (num, den) := d.ratio
  let left := num * Binary64.unit
  let right := x.scaled * den
  (left - right) + (right - left)

/-- The two neighbours of the magnitude of `x` among the decimals that end at a given place. -/
def neighbours (x : Binary64) (place : Int) : Decimal × Decimal :=
  let below :=
    if place ≥ 0 then x.scaled / (Binary64.unit * Nat.pow 10 place.toNat)
    else x.scaled * Nat.pow 10 (-place).toNat / Binary64.unit
  (⟨below, place⟩, ⟨below + 1, place⟩)

/-- The better neighbour that reads back, if one does. -/
def pick? (x : Binary64) (place : Int) : Option Decimal :=
  let (low, high) := neighbours x place
  match readsBack x low, readsBack x high with
  | true, false => some low
  | false, true => some high
  | false, false => none
  | true, true =>
    if gap x low < gap x high || (gap x low == gap x high && low.digits % 2 == 0) then some low
    else some high

/-- Strips trailing zeros, with a bound on their number. -/
def strip : Nat → Decimal → Decimal
  | 0, d => d
  | fuel + 1, d =>
    if d.digits != 0 && d.digits % 10 == 0 then strip fuel ⟨d.digits / 10, d.exponent + 1⟩ else d

/-- The shortest decimal that reads back as the magnitude of `x`; seventeen digits always do. -/
def ofBinary64 (x : Binary64) : Decimal :=
  if x.isZero then ⟨0, 0⟩
  else
    let top := leadingPlace x
    let found := (List.range 17).findSome? fun (n : Nat) => pick? x (top - n)
    strip 20 (found.getD ⟨0, 0⟩)

end Decimal

/-- Where a layout writes digits positionally: for which places of the decimal point, counted from
the leading digit. Outside of it an exponent with its sign is written. -/
structure Layout where
  positional : Int → Bool

namespace Layout

/-- Positional from `0.00001` up to below `10 ^ 16`. -/
def compact : Layout := ⟨fun point => decide (-5 < point) && decide (point ≤ 16)⟩

/-- Positional always. -/
def plain : Layout := ⟨fun _ => true⟩

def zeros (n : Nat) : String := String.ofList (List.replicate n '0')

/-- Digits with a decimal point; a whole number keeps `.0`. -/
def writePositional (digits : List Char) (point : Int) : String :=
  if point ≤ 0 then
    "0." ++ zeros (-point).toNat ++ String.ofList digits
  else if point.toNat ≥ digits.length then
    String.ofList digits ++ zeros (point.toNat - digits.length) ++ ".0"
  else
    String.ofList (digits.take point.toNat) ++ "." ++ String.ofList (digits.drop point.toNat)

/-- Leading digit, the others behind a point, and the exponent with its sign. -/
def writeScientific (digits : List Char) (point : Int) : String :=
  let exponent := point - 1
  let mark := if exponent < 0 then "e-" else "e+"
  let rest := digits.drop 1
  String.ofList (digits.take 1) ++ (if rest.isEmpty then "" else "." ++ String.ofList rest)
    ++ mark ++ toString exponent.natAbs

def write (layout : Layout) (x : Binary64) : String :=
  let sign := if x.negative then "-" else ""
  if x.isZero then sign ++ "0.0"
  else
    let d := Decimal.ofBinary64 x
    let digits := Nat.toDigits 10 d.digits
    let point := d.exponent + digits.length
    sign ++ if layout.positional point then writePositional digits point
      else writeScientific digits point

/-- Positional always, and without a fraction for a whole number. -/
def bare (x : Binary64) : String :=
  let text := plain.write x
  if x.isIntegral then String.ofList (text.toList.takeWhile (· != '.')) else text

end Layout

end StagedFlow
