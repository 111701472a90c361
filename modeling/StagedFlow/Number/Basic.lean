import StagedFlow.Number.Shortest

/-!
# Numbers of a JSON value

A number is written either as an integer or as a double, and keeps that form: `1` and `1.0` are two
values. Where a comparison goes by magnitude it is exact, on multiples of the least subnormal.
-/

namespace StagedFlow

inductive Number where
  | int (i : Int)
  | float (x : Binary64)
deriving DecidableEq

namespace Number

/-- The value as a count of multiples of `2 ^ (-1074)`. -/
def value : Number → Int
  | int i => i * Binary64.unit
  | float x => x.value

/-- The double nearest to the number. -/
def toBinary64 : Number → Binary64
  | int i => Binary64.ofInt i
  | float x => x

/-- Equality of numbers in the same form. -/
def same : Number → Number → Bool
  | int i, int j => i == j
  | float x, float y => x.same y
  | _, _ => false

/-- Equality of magnitudes, whatever the form. -/
def agrees (a b : Number) : Bool := a.value == b.value

/-- True of integers and of doubles without a fractional part. -/
def isIntegral : Number → Bool
  | int _ => true
  | float x => x.isIntegral

def write : Number → String
  | int i => toString i
  | float x => Layout.compact.write x

end Number

end StagedFlow
