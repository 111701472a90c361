/-!
# Bytes in sixty-four characters

Three bytes are written as four characters of six bits each. A last group of one or two bytes is
filled up with equals signs, and the bits of its last character that belong to no byte are zero.
-/

namespace StagedFlow.Text.Base64

/-- The six bits of a character. -/
def bits? (c : Char) : Option Nat :=
  if 'A' ≤ c ∧ c ≤ 'Z' then some (c.toNat - 65)
  else if 'a' ≤ c ∧ c ≤ 'z' then some (c.toNat - 71)
  else if '0' ≤ c ∧ c ≤ '9' then some (c.toNat + 4)
  else if c = '+' then some 62
  else if c = '/' then some 63
  else none

/-- The highest bytes of a number of three bytes. -/
def bytes (count n : Nat) : List UInt8 :=
  [UInt8.ofNat (n / 65536), UInt8.ofNat (n / 256 % 256), UInt8.ofNat (n % 256)].take count

/-- The bytes of a text; none if it is not in the one form that they are written in. -/
def decode? : List Char → Option (List UInt8)
  | [] => some []
  | [a, b, '=', '='] => do
    let a ← bits? a
    let b ← bits? b
    if b % 16 = 0 then pure (bytes 1 (a * 262144 + b * 4096)) else none
  | [a, b, c, '='] => do
    let a ← bits? a
    let b ← bits? b
    let c ← bits? c
    if c % 4 = 0 then pure (bytes 2 (a * 262144 + b * 4096 + c * 64)) else none
  | a :: b :: c :: d :: rest => do
    let a ← bits? a
    let b ← bits? b
    let c ← bits? c
    let d ← bits? d
    let more ← decode? rest
    pure (bytes 3 (a * 262144 + b * 4096 + c * 64 + d) ++ more)
  | _ => none

end StagedFlow.Text.Base64
