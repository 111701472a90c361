import StagedFlow.Url.Percent

/-!
# Paths of links

A path is built up segment by segment. Dot segments are resolved on the way: a double dot takes the
last segment back. Paths of files may begin with the letter of a drive, which is never taken back,
and no path loses what looks like a drive behind a slash.
-/

namespace StagedFlow.Url

/-- What part of a text stands in front of its last slash, with the slash, and what behind it. -/
def splitLast (path : List Char) : List Char × List Char :=
  let segment := (path.reverse.takeWhile (· != '/')).reverse
  (path.take (path.length - segment.length), segment)

def endsInSlash (path : List Char) : Bool := path.getLast? == some '/'

/-- The letter of a drive with a colon or a bar, alone or in front of what ends a segment. -/
def startsWithDrive : List Char → Bool
  | [a, b] => a.isAlpha && (b == ':' || b == '|')
  | a :: b :: c :: _ =>
    a.isAlpha && (b == ':' || b == '|') && (c == '/' || c == '\\' || c == '?' || c == '#')
  | _ => false

def isDrive (segment : List Char) : Bool := segment.length == 2 && startsWithDrive segment

/-- A drive as it is kept: with a colon. -/
def isKeptDrive (segment : List Char) : Bool := isDrive segment && segment.getLast? == some ':'

/-- Takes the last segment back, without the slash in front of it. A drive of a file stays. -/
def pop (file : Bool) (path : List Char) : List Char :=
  let (front, segment) := splitLast path
  if file && isKeptDrive segment then path else front

/-- Drops the slash at the end, unless it is the root or stands behind a drive. -/
def dropSlash (path : List Char) : List Char :=
  if !endsInSlash path then path
  else
    let (front, segment) := splitLast path.dropLast
    if front.isEmpty || startsWithDrive (segment ++ ['/']) then path else path.dropLast

def isDot (segment : List Char) : Bool :=
  segment == ['.'] || segment.map Char.toLower == "%2e".toList

def isDoubleDot (segment : List Char) : Bool :=
  ["..", ".%2e", "%2e.", "%2e%2e"].any fun s => segment.map Char.toLower == s.toList

/-- A path so far, and whether the host is still that of the link: a drive has no host. -/
structure Place where
  path : List Char
  hosted : Bool

/-- Goes on with a segment and, unless it is the last one, the slash behind it. -/
def Place.step (file : Bool) (place : Place) (segment : List Char) (last : Bool) : Place :=
  let slash := if last then [] else ['/']
  if isDoubleDot segment then
    let path := pop file (dropSlash place.path)
    { place with path := if last || endsInSlash path then path else path ++ slash }
  else if isDot segment then
    { place with path := if endsInSlash place.path then place.path else place.path ++ ['/'] }
  else if file && place.path.length == 1 && isDrive segment then
    ⟨place.path ++ segment.take 1 ++ [':'] ++ slash, false⟩
  else { place with path := place.path ++ segment ++ slash }

def Place.run (file : Bool) : Place → List (List Char) → Place
  | place, [] => place
  | place, [segment] => place.step file segment true
  | place, segment :: rest => (place.step file segment false).run file rest

/-- Goes on with the segments of a text. A path of a file has one slash at its start. -/
def Place.extend (special file : Bool) (place : Place) (text : List Char) : Place :=
  let text := if special then text.map fun c => if c = '\\' then '/' else c else text
  let needsSlash :=
    file && isKeptDrive (place.path.drop 1) && !text.isEmpty && text.head? != some '/'
  let start := if needsSlash then { place with path := place.path ++ ['/'] } else place
  let place := start.run file ((Form.split '/' text).map (encodeUnless keepPath))
  if file then { place with path := '/' :: place.path.dropWhile (· == '/') } else place

end StagedFlow.Url
