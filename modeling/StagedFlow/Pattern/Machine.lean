import StagedFlow.Pattern.Program

/-!
# Machines for hard patterns

A machine takes the first way on and keeps the others; when it fails it takes back its steps up to
the way kept last. Parts that are not hard and stand where their extent cannot change are left to
programs, which match as a whole. A search that fails too often, or keeps too many ways, is given
up.
-/

namespace StagedFlow.Pattern

namespace Machine

inductive Step where
  | one (holds : Char → Bool)
  | look (look : Look)
  /-- Matches a program, which says anew where these groups are. -/
  | whole (program : Program) (groups : List Nat)
  /-- Goes on at the first target, and keeps the second one. -/
  | split (first second : Int)
  | jump (target : Int)
  | save (slot : Nat)
  /-- Goes back to a kept place. -/
  | restore (slot : Nat)
  /-- Starts a counter. -/
  | reset (counter : Nat)
  | count (least : Nat) (most : Option Nat) (greedy : Bool) (leave : Int) (counter : Nat)
  /-- Counts repetitions without a bound, of which one that takes nothing fails. -/
  | countMoving (least : Nat) (greedy : Bool) (leave : Int) (counter check : Nat)
  | back (distance : Nat)
  | same (number : Nat)
  | isSet (number : Nat)
  /-- Remembers how many ways are kept. -/
  | openAtomic
  /-- Drops the ways kept since then. -/
  | closeAtomic
  /-- Drops the ways kept since the one to the next step, and fails. -/
  | refuse
  | origin

end Machine

abbrev Machine := Array Machine.Step

namespace Machine

/-! ### Making machines -/

/-- Makes part of a machine, with the number of the next free slot at hand. -/
abbrev Builder := StateT Nat Option

def newSlot : Builder Nat := do
  let slot ← get
  set (slot + 1)
  pure slot

/-- Leaves a part to a program. -/
def delegate (tree : Tree) : Builder Machine :=
  match Program.make? tree with
  | some program => pure #[.whole program tree.groups]
  | none => failure

/-- Leaves parts in a row to one program. -/
def delegateAll : List Tree → Builder Machine
  | [] => pure #[]
  | [.one set] => pure #[.one set.holds]
  | [.look look] => pure #[.look look]
  | parts => delegate (.sequence parts)

/-- Which parts of a sequence are left to programs: how many in front, and up to where the others
go. At the end of a pattern parts need not be of a fixed extent. -/
def core (referenced : List Nat) (inner : Bool) (parts : List Tree) : Nat × Nat :=
  let easy (tree : Tree) : Bool := !(tree.extent referenced).hard
  let fixed (tree : Tree) : Bool := easy tree && (tree.extent referenced).fixed
  let front := (parts.takeWhile fixed).length
  let behind := ((parts.drop front).reverse.takeWhile (if inner then fixed else easy)).length
  (front, parts.length - behind)

/-- Two ways on, with the preferred one first. -/
def prefer (greedy : Bool) (go leave : Int) : Step :=
  if greedy then .split go leave else .split leave go

/-- The machine of a repeated part; `mayBeEmpty` tells whether the part can take nothing. -/
def repeated (least : Nat) (most : Option Nat) (greedy mayBeEmpty : Bool)
    (body : Builder Machine) : Builder Machine := do
  match least, most, mayBeEmpty with
  | 0, some 1, _ =>
    let code ← body
    pure (#[prefer greedy 1 (code.size + 1)] ++ code)
  | least, none, true =>
    let counter ← newSlot
    let check ← newSlot
    let code ← body
    pure (#[.reset counter, .countMoving least greedy (code.size + 2) counter check] ++ code
      ++ #[.jump (-(code.size + 1 : Int))])
  | 0, none, false =>
    let code ← body
    pure (#[prefer greedy 1 (code.size + 2)] ++ code ++ #[.jump (-(code.size + 1 : Int))])
  | 1, none, false =>
    let code ← body
    pure (code ++ #[prefer greedy (-(code.size : Int)) 1])
  | least, most, _ =>
    let counter ← newSlot
    let code ← body
    pure (#[.reset counter, .count least most greedy (code.size + 2) counter] ++ code
      ++ #[.jump (-(code.size + 1 : Int))])

def alternatives : List Machine → Machine
  | [] => #[]
  | [code] => code
  | code :: rest =>
    let behind := alternatives rest
    #[Step.split 1 (code.size + 2)] ++ code ++ #[.jump (behind.size + 1)] ++ behind

/-- A condition on the text around a place; one on the text in front of it needs a fixed extent. -/
def condition (behind holds : Bool) (extent : Tree.Extent) (body : Builder Machine) :
    Builder Machine := do
  let start : Machine ←
    if behind then
      if extent.fixed then pure #[.back extent.least] else failure
    else pure #[]
  if holds then
    let slot ← newSlot
    let code ← body
    pure (#[.save slot] ++ start ++ code ++ #[.restore slot])
  else
    let code ← body
    pure (#[.split 1 (start.size + code.size + 2)] ++ start ++ code ++ #[.refuse])

mutual

/-- The machine of a pattern. Inside of a hard pattern (`inner`) something may still follow. -/
def ofTree (referenced : List Nat) (inner : Bool) (tree : Tree) : Builder Machine :=
  match tree with
  | .empty => pure #[]
  | .one set => pure #[.one set.holds]
  | .look look => pure #[.look look]
  | .sequence parts => do
    if !inner && !(Tree.extent referenced (.sequence parts)).hard then delegateAll parts
    else
      let (first, last) := core referenced inner parts
      let front ← delegateAll (parts.take first)
      let middle ← ofParts referenced first last 0 parts
      let behind ← delegateAll (parts.drop last)
      pure (front ++ middle ++ behind)
  | .choice branches => do
    if !inner && !(Tree.extent referenced (.choice branches)).hard then
      delegate (.choice branches)
    else
      let codes ← ofBranches referenced inner branches
      pure (alternatives codes)
  | .group number body => do
    if !inner && !(Tree.extent referenced (.group number body)).hard then
      delegate (.group number body)
    else
      let code ← ofTree referenced inner body
      pure (#[.save (Program.firstSlot number)] ++ code ++ #[.save (Program.lastSlot number)])
  | .repeated least most greedy body => do
    let extent := Tree.extent referenced body
    if !inner && !extent.hard then delegate (.repeated least most greedy body)
    else
      let inner := inner || (extent.hard && !(least == 0 && most == some 1))
      repeated least most greedy (extent.least == 0) (ofTree referenced inner body)
  | .around true true (.choice branches) => do
    let extent := Tree.extent referenced (.choice branches)
    if extent.fixed then
      condition true true extent (ofTree referenced false (.choice branches))
    else
      let codes ← ofConditions referenced true branches
      pure (alternatives codes)
  | .around true false (.choice branches) => do
    let extent := Tree.extent referenced (.choice branches)
    if extent.fixed then
      condition true false extent (ofTree referenced false (.choice branches))
    else
      let codes ← ofConditions referenced false branches
      pure (codes.foldl (· ++ ·) #[])
  | .around behind holds body =>
    condition behind holds (Tree.extent referenced body) (ofTree referenced false body)
  | .atomic body => do
    let code ← ofTree referenced false body
    pure (#[.openAtomic] ++ code ++ #[.closeAtomic])
  | .same number => pure #[.same number]
  | .isSet number => pure #[.isSet number]
  | .restart => pure #[.save 0]
  | .origin => pure #[.origin]
  | .conditional test yes no => do
    let test ← ofTree referenced inner test
    let yes ← ofTree referenced inner yes
    let no ← ofTree referenced inner no
    pure (#[.openAtomic, .split 1 (test.size + yes.size + 3)] ++ test ++ #[.closeAtomic] ++ yes
      ++ #[.jump (no.size + 1)] ++ no)

/-- The machine of those parts of a sequence that stand from `first` on up to `last`. -/
def ofParts (referenced : List Nat) (first last index : Nat) : List Tree → Builder Machine
  | [] => pure #[]
  | part :: rest => do
    let code ←
      if first ≤ index ∧ index < last then ofTree referenced true part else pure #[]
    let more ← ofParts referenced first last (index + 1) rest
    pure (code ++ more)

def ofBranches (referenced : List Nat) (inner : Bool) : List Tree → Builder (List Machine)
  | [] => pure []
  | branch :: rest => do
    let code ← ofTree referenced inner branch
    let codes ← ofBranches referenced inner rest
    pure (code :: codes)

/-- Conditions on the text in front of a place, one for each branch. -/
def ofConditions (referenced : List Nat) (holds : Bool) : List Tree → Builder (List Machine)
  | [] => pure []
  | branch :: rest => do
    let code ←
      condition true holds (Tree.extent referenced branch) (ofTree referenced false branch)
    let codes ← ofConditions referenced holds rest
    pure (code :: codes)

end

/-- The machine that looks for a pattern from the start of a text on, with so many groups. -/
def make? (referenced : List Nat) (groups : Nat) (tree : Tree) : Option Machine := do
  let (code, _) ← (ofTree referenced true tree).run (2 * (groups + 1))
  pure (#[.split 3 1, .one fun _ => true, .jump (-2), .save 0] ++ code ++ #[.save 1])

/-! ### Running machines -/

inductive Fault where
  | tooManyFailures
  | tooManyWays
deriving DecidableEq

def Fault.message : Fault → String
  | tooManyFailures => "Error executing regex: Max limit for backtracking count exceeded"
  | tooManyWays => "Error executing regex: Max stack size exceeded for backtracking"

structure Thread where
  step : Nat
  place : Nat
  /-- Places that groups have kept, kept places and counters. -/
  slots : Program.Saves
  /-- How many ways were kept at each atomic part still open. -/
  marks : List Nat

namespace Thread

def next (t : Thread) : Thread := { t with step := t.step + 1 }

def goTo (t : Thread) (distance : Int) : Thread :=
  { t with step := Program.target t.step distance }

def slot (t : Thread) (i : Nat) : Option Nat := t.slots.getD i none

/-- Sets a slot, and adds those in front of it that are not there yet. -/
def put (t : Thread) (i : Nat) (value : Option Nat) : Thread :=
  let slots := t.slots ++ Array.replicate (i + 1 - t.slots.size) none
  { t with slots := slots.setIfInBounds i value }

/-- What a group has matched. -/
def extent? (t : Thread) (number : Nat) : Option (Nat × Nat) :=
  match t.slot (Program.firstSlot number), t.slot (Program.lastSlot number) with
  | some first, some last => some (first, last)
  | _, _ => none

/-- Forgets where groups are. -/
def forget (t : Thread) (groups : List Nat) : Thread :=
  groups.foldl (fun t number =>
    (t.put (Program.firstSlot number) none).put (Program.lastSlot number) none) t

end Thread

inductive Outcome where
  | go (thread : Thread)
  | fork (thread kept : Thread)
  | cut (thread : Thread) (height : Nat)
  | refuse
  | fail

/-- Goes on with a repetition or leaves it; both once the least number is reached. -/
def choose (t : Thread) (enough greedy : Bool) (leave : Int) : Outcome :=
  if !enough then .go t.next
  else if greedy then .fork t.next (t.goTo leave)
  else .fork (t.goTo leave) t.next

/-- What a step does, with so many ways kept. -/
def perform (text : Array Char) (height : Nat) (t : Thread) : Step → Outcome
  | .one holds =>
    match text[t.place]? with
    | some c => if holds c then .go { t.next with place := t.place + 1 } else .fail
    | none => .fail
  | .look look => if look.holds text t.place then .go t.next else .fail
  | .whole program groups =>
    match program.matchAt? text t.place (t.forget groups).slots with
    | some found => .go { t.next with place := found.place, slots := found.saves }
    | none => .fail
  | .split first second => .fork (t.goTo first) (t.goTo second)
  | .jump distance => .go (t.goTo distance)
  | .save slot => .go (t.next.put slot t.place)
  | .restore slot =>
    match t.slot slot with
    | some place => .go { t.next with place := place }
    | none => .fail
  | .reset counter => .go (t.next.put counter (some 0))
  | .count least most greedy leave counter =>
    let n := (t.slot counter).getD 0
    if most = some n then .go (t.goTo leave)
    else choose (t.put counter (some (n + 1))) (least ≤ n) greedy leave
  | .countMoving least greedy leave counter check =>
    let n := (t.slot counter).getD 0
    if least < n ∧ t.slot check = some t.place then .fail
    else
      let counted := t.put counter (some (n + 1))
      let counted := if least ≤ n then counted.put check (some t.place) else counted
      choose counted (least ≤ n) greedy leave
  | .back distance =>
    if distance ≤ t.place then .go { t.next with place := t.place - distance } else .fail
  | .same number =>
    match t.extent? number with
    | some (first, last) =>
      let found := text.extract first last
      if text.extract t.place (t.place + found.size) == found then
        .go { t.next with place := t.place + found.size }
      else .fail
    | none => .fail
  | .isSet number =>
    if (t.slot (Program.firstSlot number)).isSome then .go t.next else .fail
  | .openAtomic => .go { t.next with marks := height :: t.marks }
  | .closeAtomic =>
    match t.marks with
    | [] => .go t.next
    | mark :: marks => .cut { t.next with marks := marks } mark
  | .refuse => .refuse
  | .origin => if t.place = 0 then .go t.next else .fail

/-- Drops the ways up to the first one that leads to a step, and that one. -/
def dropThrough (step : Nat) : List Thread → List Thread
  | [] => []
  | kept :: rest => if kept.step = step then rest else dropThrough step rest

/-- How often a search may fail, and how many ways it may keep. -/
def patience : Nat := 1000000

/-- Where a search stands: the thread that runs, the ways kept with their number, and the number of
failures. -/
structure Search where
  thread : Thread
  kept : List Thread
  height : Nat
  failures : Nat

inductive Turn where
  | more (search : Search)
  | done (found : Bool)
  | givenUp (fault : Fault)

/-- Goes on with the way kept last. -/
def takeBack (kept : List Thread) (failures : Nat) (height : Nat) : Turn :=
  match kept with
  | [] => .done false
  | t :: kept =>
    if failures < patience then .more ⟨t, kept, height - 1, failures + 1⟩
    else .givenUp .tooManyFailures

def turn (machine : Machine) (text : Array Char) (s : Search) : Turn :=
  match machine[s.thread.step]? with
  | none => .done true
  | some step =>
    match perform text s.height s.thread step with
    | .go t => .more { s with thread := t }
    | .fork t other =>
      if s.height < patience then .more ⟨t, other :: s.kept, s.height + 1, s.failures⟩
      else .givenUp .tooManyWays
    | .cut t mark => .more ⟨t, s.kept.drop (s.height - mark), mark, s.failures⟩
    | .fail => takeBack s.kept s.failures s.height
    | .refuse =>
      let kept := dropThrough (s.thread.step + 1) s.kept
      takeBack kept s.failures kept.length

def run (machine : Machine) (text : Array Char) : Nat → Search → Except Fault Bool
  | 0, _ => .error .tooManyFailures
  | fuel + 1, s =>
    match turn machine text s with
    | .more s => run machine text fuel s
    | .done found => .ok found
    | .givenUp fault => .error fault

/-- More steps than a search within its limits takes. -/
def turns : Nat := Nat.pow 2 48

/-- Whether a machine matches somewhere in a text. -/
def matchesIn (machine : Machine) (text : Array Char) : Except Fault Bool :=
  run machine text turns ⟨⟨0, 0, #[], []⟩, [], 0, 0⟩

end Machine

end StagedFlow.Pattern
