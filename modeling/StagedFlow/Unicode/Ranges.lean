/-!
# Sets of code points

A set of code points is kept as the ranges that make it up, in order, so that membership is a
binary search. Tables of ranges are written as text: `41-5A` for the code points from first to
last, `AA` for a single one, `100-12E/2` for every second one. A word may go on with what its
code points are sent to, `C0-D6=E0` or `FB00=66.66`; in a range the first code point is sent there,
and the others keep their distance to it.
-/

namespace StagedFlow.Unicode

/-- One word of a table: the code points `first`, `first + step`, … up to `last`, and the image of
the first of them. -/
structure Entry where
  first : Nat
  last : Nat
  step : Nat
  image : List Nat

namespace Entry

/-- Which part of a word is being read. -/
inductive Part where
  | first
  | last
  | step
  | image

/-- Where a reader of a table stands. -/
structure Scan where
  done : Array Entry
  part : Part
  number : Nat
  first : Nat
  last : Nat
  step : Nat
  image : List Nat

def Scan.start (done : Array Entry) : Scan := ⟨done, .first, 0, 0, 0, 1, []⟩

def hexValue (c : Char) : Nat :=
  if c.isDigit then c.toNat - 48 else c.toNat - 55

/-- Ends the number that is being read, and goes on with another part. -/
def Scan.close (s : Scan) (next : Part) : Scan :=
  match s.part with
  | .first => { s with first := s.number, last := s.number, number := 0, part := next }
  | .last => { s with last := s.number, number := 0, part := next }
  | .step => { s with step := s.number, number := 0, part := next }
  | .image => { s with image := s.number :: s.image, number := 0, part := next }

def Scan.finish (s : Scan) : Scan :=
  let s := s.close .first
  .start (s.done.push ⟨s.first, s.last, s.step, s.image.reverse⟩)

def Scan.next (s : Scan) (c : Char) : Scan :=
  if c = ' ' then s.finish
  else if c = '-' then s.close .last
  else if c = '/' then s.close .step
  else if c = '=' ∨ c = '.' then s.close .image
  else { s with number := s.number * 16 + hexValue c }

/-- Reads the lines of a table; a word ends with its line. -/
def readAll (lines : List String) : Array Entry :=
  (lines.foldl (fun s line => (line.foldl Scan.next s).finish) (Scan.start #[])).done

def contains (e : Entry) (n : Nat) : Bool :=
  e.first ≤ n && n ≤ e.last && (n - e.first) % e.step == 0

/-- What a code point of the entry is sent to: several code points if the entry says so, else one,
at the same distance from the image as the code point from the first one. -/
def imageOf (e : Entry) (n : Nat) : List Char :=
  match e.image with
  | [image] => [Char.ofNat (image + (n - e.first))]
  | images => images.map Char.ofNat

end Entry

/-- A set of code points, as disjoint ranges from first to last, in order. -/
structure RangeSet where
  ranges : Array (Nat × Nat)

namespace RangeSet

/-- The ranges of one word: a single one unless it skips code points. -/
def ofEntry (e : Entry) : List (Nat × Nat) :=
  if e.step ≤ 1 then [(e.first, e.last)]
  else (List.range ((e.last - e.first) / e.step + 1)).map fun i =>
    (e.first + i * e.step, e.first + i * e.step)

def ofText (lines : List String) : RangeSet :=
  ⟨(Entry.readAll lines).foldl (fun all e => all ++ ofEntry e) #[]⟩

/-- Looks for a range that holds `n` among those from `low` up to, not including, `high`. -/
def search (ranges : Array (Nat × Nat)) (n low high : Nat) : Bool :=
  if low < high then
    let middle := (low + high) / 2
    match ranges[middle]? with
    | none => false
    | some (first, last) =>
      if n < first then search ranges n low middle
      else if last < n then search ranges n (middle + 1) high
      else true
  else false
termination_by high - low

def contains (s : RangeSet) (c : Char) : Bool := search s.ranges c.toNat 0 s.ranges.size

end RangeSet

end StagedFlow.Unicode
