/-!
# Bags of values of several types

A bag holds at most one value per key, and the key fixes the type of the value.
-/

namespace StagedFlow

structure Bag (K : Type) (V : K → Type) where
  entries : List ((key : K) × V key)

namespace Bag

variable {K : Type} {V : K → Type} [DecidableEq K]

def empty : Bag K V := ⟨[]⟩

instance : Inhabited (Bag K V) := ⟨empty⟩

def find? (key : K) : List ((key : K) × V key) → Option (V key)
  | [] => none
  | ⟨other, v⟩ :: rest => if h : other = key then some (h ▸ v) else find? key rest

def get? (bag : Bag K V) (key : K) : Option (V key) := find? key bag.entries

def contains (bag : Bag K V) (key : K) : Bool := bag.entries.any fun entry => entry.1 == key

def erase (bag : Bag K V) (key : K) : Bag K V :=
  ⟨bag.entries.filter fun entry => entry.1 != key⟩

def insert (bag : Bag K V) (key : K) (v : V key) : Bag K V :=
  ⟨(bag.erase key).entries ++ [⟨key, v⟩]⟩

def size (bag : Bag K V) : Nat := bag.entries.length

def isEmpty (bag : Bag K V) : Bool := bag.entries.isEmpty

def keys (bag : Bag K V) : List K := bag.entries.map Sigma.fst

end Bag

end StagedFlow
