/-!
# Bytes as text

Bytes are a text if they are a row of characters, each written in one to four bytes. Where they are
not, the fault is the index of the first byte that belongs to no character, and how many bytes can
start none; a text may also break off inside of a character.
-/

namespace StagedFlow.Text

/-- Where bytes stop being a text. -/
structure ByteFault where
  index : Nat
  /-- The number of bytes that are wrong; none if more of them were needed. -/
  count : Option Nat
deriving DecidableEq

def ByteFault.message (fault : ByteFault) : String :=
  match fault.count with
  | some n =>
    "invalid utf-8 sequence of " ++ toString n ++ " bytes from index " ++ toString fault.index
  | none => "incomplete utf-8 byte sequence from index " ++ toString fault.index

/-- The bytes that may come second behind a first byte, and how many follow that one; none if the
byte starts no character of several bytes. -/
def leadOf? (b : Nat) : Option (Nat × Nat × Nat) :=
  if 0xC2 ≤ b ∧ b ≤ 0xDF then some (0x80, 0xBF, 0)
  else if b = 0xE0 then some (0xA0, 0xBF, 1)
  else if b = 0xED then some (0x80, 0x9F, 1)
  else if 0xE1 ≤ b ∧ b ≤ 0xEF then some (0x80, 0xBF, 1)
  else if b = 0xF0 then some (0x90, 0xBF, 2)
  else if 0xF1 ≤ b ∧ b ≤ 0xF3 then some (0x80, 0xBF, 2)
  else if b = 0xF4 then some (0x80, 0x8F, 2)
  else none

/-- What is wrong with a character that starts at an index, of which some bytes were right; none if
so many bytes of the next ones continue it. -/
def tailFault? (index : Nat) : Nat → Nat → List UInt8 → Option ByteFault
  | _, 0, _ => none
  | _, _ + 1, [] => some ⟨index, none⟩
  | right, n + 1, b :: rest =>
    if 0x80 ≤ b ∧ b ≤ 0xBF then tailFault? index (right + 1) n rest else some ⟨index, some right⟩

/-- The first fault of bytes from an index on. The bound is the number of the bytes. -/
def faultFrom? : Nat → Nat → List UInt8 → Option ByteFault
  | 0, _, _ => none
  | _, _, [] => none
  | fuel + 1, index, b :: rest =>
    if b < 0x80 then faultFrom? fuel (index + 1) rest
    else
      match leadOf? b.toNat, rest with
      | none, _ => some ⟨index, some 1⟩
      | some _, [] => some ⟨index, none⟩
      | some (low, high, more), second :: rest =>
        if second.toNat < low ∨ high < second.toNat then some ⟨index, some 1⟩
        else
          match tailFault? index 2 more rest with
          | some fault => some fault
          | none => faultFrom? fuel (index + 2 + more) (rest.drop more)

/-- The text of bytes, or where they stop being one. -/
def ofBytes (bytes : List UInt8) : Except ByteFault String :=
  match faultFrom? bytes.length 0 bytes with
  | some fault => .error fault
  | none => .ok ((String.fromUTF8? ⟨bytes.toArray⟩).getD "")

end StagedFlow.Text
