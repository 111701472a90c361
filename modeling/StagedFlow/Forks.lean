import StagedFlow.Bag

/-!
# Forks of bags

A fork starts with the values of a bag and then goes its own way. Bags share values meanwhile: a
value stands in a cell that counts the bags that hold it, and a bag that changes a value copies it
first, unless it is the only holder of the cell.
-/

namespace StagedFlow

structure Cell (K : Type) (V : K → Type) where
  key : K
  value : V key
  /-- How many bags hold the cell. -/
  holders : Nat

/-- Bags that hold cells, which are known by their places. -/
structure Forks (K : Type) (V : K → Type) where
  cells : List (Cell K V)
  bags : List (Bag K fun _ => Nat)

variable {K : Type} {V : K → Type} [DecidableEq K]

namespace Cell

def value? (cell : Cell K V) (key : K) : Option (V key) :=
  if h : cell.key = key then some (h ▸ cell.value) else none

/-- Changes the value in its place. -/
def change (cell : Cell K V) (key : K) (f : V key → V key) : Cell K V :=
  match cell.value? key with
  | some v => ⟨key, f v, cell.holders⟩
  | none => cell

end Cell

namespace Forks

/-- One empty bag. -/
def start : Forks K V := ⟨[], [.empty]⟩

/-- The cells that a bag holds. -/
def held (forks : Forks K V) (b : Nat) : Bag K fun _ => Nat := forks.bags.getD b .empty

def valueAt? (forks : Forks K V) (key : K) (place : Nat) : Option (V key) :=
  (forks.cells[place]?).bind fun cell => cell.value? key

/-- A bag as it looks from outside. -/
def view (forks : Forks K V) (b : Nat) : Bag K V :=
  ⟨(forks.held b).entries.filterMap fun entry =>
    (forks.valueAt? entry.1 entry.2).map fun v => ⟨entry.1, v⟩⟩

/-- How often a bag holds the cell at a place. -/
def uses (bag : Bag K fun _ => Nat) (place : Nat) : Nat :=
  bag.entries.countP fun entry => entry.2 == place

/-- Adds a bag that holds the cells of another one. -/
def fork (forks : Forks K V) (b : Nat) : Forks K V where
  cells := forks.cells.mapIdx fun place cell =>
    { cell with holders := cell.holders + uses (forks.held b) place }
  bags := forks.bags ++ [forks.held b]

/-- A bag gives up a value. -/
def forget (forks : Forks K V) (b : Nat) (key : K) : Forks K V :=
  match (forks.held b).get? key with
  | some place =>
    { cells := forks.cells.modify place fun cell => { cell with holders := cell.holders - 1 }
      bags := forks.bags.set b ((forks.held b).erase key) }
  | none => forks

/-- Puts a value into a cell of its own. -/
def put (forks : Forks K V) (b : Nat) (key : K) (v : V key) : Forks K V where
  cells := forks.cells ++ [⟨key, v, 1⟩]
  bags := forks.bags.set b ((forks.held b).insert key forks.cells.length)

/-- Puts a value, in place of an earlier one under the same key. -/
def insert (forks : Forks K V) (b : Nat) (key : K) (v : V key) : Forks K V :=
  (forks.forget b key).put b key v

/-- Changes a value; it is copied first if the bag is not its only holder. -/
def edit (forks : Forks K V) (b : Nat) (key : K) (f : V key → V key) : Forks K V :=
  match (forks.held b).get? key with
  | some place =>
    match forks.cells[place]? with
    | some cell =>
      if cell.holders = 1 then
        { forks with cells := forks.cells.set place (cell.change key f) }
      else
        match cell.value? key with
        | some v => forks.insert b key (f v)
        | none => forks
    | none => forks
  | none => forks

end Forks

end StagedFlow
