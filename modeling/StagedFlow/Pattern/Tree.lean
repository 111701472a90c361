import StagedFlow.Pattern.CharSet

/-!
# Patterns as trees

What a pattern is made of, and what can be told of it without a text: how many characters it takes
at least, whether it always takes that many, and whether it is *hard*, that is, whether only a
search that can take back its choices decides it.
-/

namespace StagedFlow.Pattern

/-- What can be asked of a place in a text. -/
inductive Look where
  | textStart
  | textEnd
  | lineStart
  | lineEnd
  | wordEdge (isEdge : Bool)

namespace Look

/-- Whether exactly one of the characters around a place belongs to a word. -/
def atWordEdge (text : Array Char) (place : Nat) : Bool :=
  let before := if place = 0 then none else text[place - 1]?
  before.any CharSet.word.holds != text[place]?.any CharSet.word.holds

def holds (look : Look) (text : Array Char) (place : Nat) : Bool :=
  match look with
  | textStart => place == 0
  | textEnd => place == text.size
  | lineStart => place == 0 || text[place - 1]? == some '\n'
  | lineEnd => place == text.size || text[place]? == some '\n'
  | wordEdge isEdge => atWordEdge text place == isEdge

end Look

inductive Tree where
  | empty
  | one (set : CharSet)
  | look (look : Look)
  | sequence (parts : List Tree)
  | choice (branches : List Tree)
  /-- A part whose extent is kept under a number. -/
  | group (number : Nat) (body : Tree)
  | repeated (least : Nat) (most : Option Nat) (greedy : Bool) (body : Tree)
  /-- A condition on the text in front of a place or behind it. -/
  | around (behind holds : Bool) (body : Tree)
  /-- A part that is not tried in another way once it has matched. -/
  | atomic (body : Tree)
  /-- The text that a group has matched, once more. -/
  | same (number : Nat)
  /-- True if a group has matched. -/
  | isSet (number : Nat)
  /-- Lets the match begin here. -/
  | restart
  /-- True where the search began. -/
  | origin
  | conditional (test yes no : Tree)

namespace Tree

def isEmpty : Tree → Bool
  | empty => true
  | _ => false

/-- Conditions and the empty pattern cannot be repeated. -/
def isRepeatable : Tree → Bool
  | empty => false
  | around _ _ _ => false
  | look (.wordEdge _) => true
  | look _ => false
  | _ => true

/-! ### Extents -/

structure Extent where
  /-- The least number of characters. -/
  least : Nat
  /-- The number of characters is always the least one. -/
  fixed : Bool
  hard : Bool

mutual

/-- The extent of a pattern; a group that is referred to can only be decided by a search. -/
def extent (referenced : List Nat) : Tree → Extent
  | empty => ⟨0, true, false⟩
  | one _ => ⟨1, true, false⟩
  | look _ => ⟨0, true, false⟩
  | sequence parts => sequenceExtent referenced parts
  | choice branches => choiceExtent referenced branches
  | group number body =>
    let e := extent referenced body
    { e with hard := e.hard || referenced.contains number }
  | repeated least most _ body =>
    let e := extent referenced body
    ⟨e.least * least, e.fixed && most == some least, e.hard⟩
  | around _ _ _ => ⟨0, true, true⟩
  | atomic body => { extent referenced body with hard := true }
  | same _ => ⟨0, false, true⟩
  | isSet _ => ⟨0, true, true⟩
  | restart => ⟨0, true, true⟩
  | origin => ⟨0, true, true⟩
  | conditional test yes no =>
    let t := extent referenced test
    let y := extent referenced yes
    let n := extent referenced no
    ⟨t.least + min y.least n.least,
      t.fixed && y.fixed && n.fixed && t.least + y.least == n.least, true⟩

def sequenceExtent (referenced : List Nat) : List Tree → Extent
  | [] => ⟨0, true, false⟩
  | part :: rest =>
    let a := extent referenced part
    let b := sequenceExtent referenced rest
    ⟨a.least + b.least, a.fixed && b.fixed, a.hard || b.hard⟩

def choiceExtent (referenced : List Nat) : List Tree → Extent
  | [] => ⟨0, true, false⟩
  | [branch] => extent referenced branch
  | branch :: rest =>
    let a := extent referenced branch
    let b := choiceExtent referenced rest
    ⟨min a.least b.least, a.fixed && b.fixed && a.least == b.least, a.hard || b.hard⟩

end

/-! ### Groups and weight -/

mutual

/-- The numbers of the groups in a pattern. -/
def groups : Tree → List Nat
  | sequence parts => groupsOfAll parts
  | choice branches => groupsOfAll branches
  | group number body => number :: groups body
  | repeated _ _ _ body => groups body
  | around _ _ body => groups body
  | atomic body => groups body
  | conditional test yes no => groups test ++ groups yes ++ groups no
  | _ => []

def groupsOfAll : List Tree → List Nat
  | [] => []
  | part :: rest => groups part ++ groupsOfAll rest

end

mutual

/-- About how many steps a program for the pattern has. -/
def weight : Tree → Nat
  | one set => set.weight
  | look _ => 1
  | sequence parts => weightOfAll parts
  | choice branches => weightOfAll branches + branches.length
  | group _ body => weight body + 2
  | repeated least most _ body =>
    match most with
    | none => (weight body + 1) * max least 1
    | some most => weight body * most + 2 * (most - least)
  | around _ _ body => weight body
  | atomic body => weight body
  | conditional test yes no => weight test + weight yes + weight no
  | _ => 1

def weightOfAll : List Tree → Nat
  | [] => 0
  | part :: rest => weight part + weightOfAll rest

end

end Tree

end StagedFlow.Pattern
