/-!
# Finite doubles

A finite double is a sign and the *rank* of its magnitude among the nonnegative doubles: rank `0`
is zero, rank `1` the least subnormal, and each next rank the next double. Every magnitude is a
multiple of `2 ^ (-1074)`, so all arithmetic is exact arithmetic on naturals, followed by one
rounding to the nearest rank.
-/

namespace StagedFlow

structure Binary64 where
  negative : Bool
  rank : Nat
  rank_lt : rank < 2047 * Nat.pow 2 52
deriving DecidableEq

namespace Binary64

/-- How many least subnormals make one. -/
def unit : Nat := Nat.pow 2 1074

/-- The magnitude, counted in multiples of `2 ^ (-1074)`. -/
def scaled (x : Binary64) : Nat :=
  if x.rank < Nat.pow 2 52 then x.rank
  else (Nat.pow 2 52 + x.rank % Nat.pow 2 52) * Nat.pow 2 (x.rank / Nat.pow 2 52 - 1)

/-- The value, counted in multiples of `2 ^ (-1074)`. -/
def value (x : Binary64) : Int :=
  if x.negative then -(x.scaled : Int) else x.scaled

/-- The natural nearest to `num / den`; a half goes to the even neighbour. -/
def roundHalfEven (num den : Nat) : Nat :=
  let quotient := num / den
  let twice := 2 * (num % den)
  if twice < den || (twice == den && quotient % 2 == 0) then quotient else quotient + 1

/-- The rank nearest to `num / den` multiples of `2 ^ (-1074)`; it may lie past the finite ones. -/
def nearestRank (num den : Nat) : Nat :=
  let exponent := Nat.log2 (num / den) - 52
  exponent * Nat.pow 2 52 + roundHalfEven num (den * Nat.pow 2 exponent)

/-- The double of a rank, if the rank is finite. -/
def ofRank? (negative : Bool) (rank : Nat) : Option Binary64 :=
  if h : rank < 2047 * Nat.pow 2 52 then some ⟨negative, rank, h⟩ else none

def zero : Binary64 := ⟨false, 0, by decide⟩

def isZero (x : Binary64) : Bool := x.rank == 0

/-- The double nearest to `num / den`, unless that overflows. -/
def ofRatio? (negative : Bool) (num den : Nat) : Option Binary64 :=
  ofRank? negative (nearestRank (num * unit) den)

/-- The double nearest to an integer. Integers below `2 ^ 64` in magnitude never overflow. -/
def ofInt (i : Int) : Binary64 :=
  (ofRatio? (decide (i < 0)) i.natAbs 1).getD zero

def mul? (x y : Binary64) : Option Binary64 :=
  ofRank? (x.negative != y.negative) (nearestRank (x.scaled * y.scaled) unit)

/-- The quotient by a divisor other than zero. -/
def div? (x y : Binary64) : Option Binary64 :=
  ofRank? (x.negative != y.negative) (nearestRank (x.scaled * unit) y.scaled)

def neg (x : Binary64) : Binary64 := { x with negative := !x.negative }

/-- Equality of values, for which the two zeros are one. -/
def same (x y : Binary64) : Bool := x.value == y.value

/-- True of doubles without a fractional part. -/
def isIntegral (x : Binary64) : Bool := x.scaled % unit == 0

/-- A power of ten, correctly rounded; powers past the finite doubles are taken as the last one. -/
def powerOfTen (k : Nat) : Binary64 :=
  (ofRatio? false (Nat.pow 10 (min k 308)) 1).getD zero

end Binary64

end StagedFlow
