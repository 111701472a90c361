import StagedFlow.Unicode.Age
import StagedFlow.Unicode.Fold
import StagedFlow.Unicode.Property

/-!
# Sets of characters

A set is kept as its membership test. Beside it stands its weight: about how many steps a program
over bytes needs to read one member, which is what bounds the size of a pattern.
-/

namespace StagedFlow

structure CharSet where
  holds : Char → Bool
  weight : Nat

namespace CharSet

def empty : CharSet := ⟨fun _ => false, 1⟩

def single (c : Char) : CharSet := ⟨fun d => d == c, c.utf8Size⟩

def range (low high : Char) : CharSet := ⟨fun c => low ≤ c && c ≤ high, high.utf8Size⟩

def union (a b : CharSet) : CharSet := ⟨fun c => a.holds c || b.holds c, a.weight + b.weight⟩

def inter (a b : CharSet) : CharSet :=
  ⟨fun c => a.holds c && b.holds c, max a.weight b.weight⟩

def diff (a b : CharSet) : CharSet := ⟨fun c => a.holds c && !b.holds c, max a.weight b.weight⟩

def symmDiff (a b : CharSet) : CharSet :=
  ⟨fun c => a.holds c != b.holds c, a.weight + b.weight⟩

/-- All other characters; most of them take several bytes. -/
def complement (a : CharSet) : CharSet := ⟨fun c => !a.holds c, a.weight + 11⟩

def complementIf (negated : Bool) (a : CharSet) : CharSet := if negated then a.complement else a

/-- Adds what differs from a member in case only. -/
def folded (a : CharSet) : CharSet := ⟨Unicode.containsFolded a.holds, 2 * a.weight⟩

def foldedIf (anyCase : Bool) (a : CharSet) : CharSet := if anyCase then a.folded else a

def all : CharSet := ⟨fun _ => true, 12⟩

def notNewline : CharSet := (single '\n').complement

/-- Characters with a property, as far as they are assigned before the latest version. -/
def ofProperty (holds : Char → Bool) : CharSet :=
  ⟨fun c => holds c && !Unicode.latest.contains c, 1000⟩

def digit : CharSet := ⟨(ofProperty Unicode.decimalNumber.contains).holds, 200⟩

def word : CharSet := ofProperty Unicode.isWord

def space : CharSet := ⟨Text.isBlank, 20⟩

def asciiRange (low high : Char) : CharSet := ⟨(range low high).holds, 1⟩

def hexDigit : CharSet :=
  (asciiRange '0' '9').union ((asciiRange 'A' 'F').union (asciiRange 'a' 'f'))

end CharSet

end StagedFlow
