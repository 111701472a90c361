import Std.Data.HashSet
import StagedFlow.Pattern.Tree

/-!
# Programs for patterns

A pattern that is not hard becomes a program whose steps read a character, ask something of a place,
keep a place, or go on in one of two ways. Targets are relative to the step at hand, so that a part
means the same wherever it stands. What a program does from a step and a place on does not depend
on how it came there, so no pair of them is tried twice.
-/

namespace StagedFlow.Pattern

namespace Program

inductive Step where
  | one (holds : Char → Bool)
  | look (look : Look)
  /-- Goes on at the first target, or else at the second one. -/
  | split (first second : Int)
  | jump (target : Int)
  | save (slot : Nat)

end Program

abbrev Program := Array Program.Step

namespace Program

/-! ### Making programs -/

/-- Two ways on, with the preferred one first. -/
def prefer (greedy : Bool) (go leave : Int) : Step :=
  if greedy then .split go leave else .split leave go

def copies (n : Nat) (code : Program) : Program := (Array.replicate n code).flatten

/-- Any number of repetitions. A part that may be empty is entered once before the loop. -/
def star (greedy mayBeEmpty : Bool) (code : Program) : Program :=
  let size : Int := code.size
  if mayBeEmpty then
    #[prefer greedy 1 (size + 2)] ++ code ++ #[prefer greedy (-size) 1]
  else #[prefer greedy 1 (size + 2)] ++ code ++ #[.jump (-(size + 1))]

def plus (greedy : Bool) (code : Program) : Program :=
  code ++ #[prefer greedy (-(code.size : Int)) 1]

/-- Up to so many repetitions, each of which leads to the end if it is not taken. -/
def upTo (greedy : Bool) (n : Nat) (code : Program) : Program :=
  let block : Nat := code.size + 1
  (Array.range n).flatMap fun i => #[prefer greedy 1 (block * (n - i) : Nat)] ++ code

/-- Counts end here. -/
def countLimit : Nat := Nat.pow 2 32

def repeatedCode? (least : Nat) (most : Option Nat) (greedy mayBeEmpty : Bool) (code : Program) :
    Option Program :=
  if least ≥ countLimit then none
  else
    match most with
    | none =>
      match least with
      | 0 => some (star greedy mayBeEmpty code)
      | n + 1 => some (copies n code ++ plus greedy code)
    | some most =>
      if most < least ∨ most ≥ countLimit then none
      else some (copies least code ++ upTo greedy (most - least) code)

def alternatives : List Program → Program
  | [] => #[]
  | [code] => code
  | code :: rest =>
    let behind := alternatives rest
    #[Step.split 1 (code.size + 2)] ++ code ++ #[.jump (behind.size + 1)] ++ behind

def firstSlot (number : Nat) : Nat := 2 * number

def lastSlot (number : Nat) : Nat := 2 * number + 1

mutual

/-- The program of a pattern; none if a count is out of range or if the pattern is hard. -/
def ofTree? : Tree → Option Program
  | .empty => some #[]
  | .one set => some #[.one set.holds]
  | .look look => some #[.look look]
  | .sequence parts => (ofEach? parts).map fun codes => codes.foldl (· ++ ·) #[]
  | .choice branches => (ofEach? branches).map alternatives
  | .group number body =>
    (ofTree? body).map fun code =>
      #[Step.save (firstSlot number)] ++ code ++ #[.save (lastSlot number)]
  | .repeated least most greedy body =>
    (ofTree? body).bind (repeatedCode? least most greedy ((body.extent []).least == 0))
  | _ => none

def ofEach? : List Tree → Option (List Program)
  | [] => some []
  | part :: rest =>
    match ofTree? part, ofEach? rest with
    | some code, some codes => some (code :: codes)
    | _, _ => none

end

/-- Programs of more steps are refused. -/
def weightLimit : Nat := 327680

/-- The program of a pattern, unless it is too large. -/
def make? (tree : Tree) : Option Program :=
  if tree.weight ≤ weightLimit then ofTree? tree else none

/-! ### Running programs -/

/-- The places that groups have kept. -/
abbrev Saves := Array (Option Nat)

structure Thread where
  step : Nat
  place : Nat
  saves : Saves

def target (step : Nat) (distance : Int) : Nat := (step + distance).toNat

/-- The threads that a step leads to, in order of preference. -/
def follow (text : Array Char) (thread : Thread) : Step → List Thread
  | .one holds =>
    match text[thread.place]? with
    | some c =>
      if holds c then [{ thread with step := thread.step + 1, place := thread.place + 1 }] else []
    | none => []
  | .look look =>
    if look.holds text thread.place then [{ thread with step := thread.step + 1 }] else []
  | .split first second =>
    [{ thread with step := target thread.step first },
     { thread with step := target thread.step second }]
  | .jump distance => [{ thread with step := target thread.step distance }]
  | .save slot =>
    [{ thread with
        step := thread.step + 1, saves := thread.saves.setIfInBounds slot thread.place }]

/-- The first of the threads to reach the end, each tried before the next one. Every pair of a step
and a place is tried once and adds two threads at most, which bounds the number of turns. -/
def explore (program : Program) (text : Array Char) :
    Nat → Std.HashSet Nat → List Thread → Option Thread
  | 0, _, _ => none
  | _, _, [] => none
  | fuel + 1, seen, thread :: rest =>
    match program[thread.step]? with
    | none => some thread
    | some step =>
      let key := thread.place * program.size + thread.step
      if seen.contains key then explore program text fuel seen rest
      else explore program text fuel (seen.insert key) (follow text thread step ++ rest)

def turns (program : Program) (text : Array Char) (starts : Nat) : Nat :=
  2 * program.size * (text.size + 1) + starts + 1

/-- The preferred match that begins at a place. -/
def matchAt? (program : Program) (text : Array Char) (place : Nat) (saves : Saves) :
    Option Thread :=
  explore program text (turns program text 1) ∅ [⟨0, place, saves⟩]

/-- Whether the program matches somewhere in a text. -/
def matchesIn (program : Program) (text : Array Char) : Bool :=
  let starts := (List.range (text.size + 1)).map fun place => Thread.mk 0 place #[]
  (explore program text (turns program text starts.length) ∅ starts).isSome

end Program

end StagedFlow.Pattern
