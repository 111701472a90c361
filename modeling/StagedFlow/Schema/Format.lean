import StagedFlow.Schema.Draft
import StagedFlow.Schema.Pattern
import StagedFlow.Url.Parse

/-!
# Formats

What a text may have to look like. Some formats are patterns, the others are checked part by part.
-/

namespace StagedFlow.Schema

inductive Format where
  | date
  | dateTime
  | email
  | hostname
  | idnEmail
  | idnHostname
  | ipv4
  | ipv6
  | iri
  | iriReference
  | jsonPointer
  | regex
  | relativeJsonPointer
  | time
  | uri
  | uriReference
  | uriTemplate
deriving DecidableEq

namespace Format

def all : List Format :=
  [date, dateTime, email, hostname, idnEmail, idnHostname, ipv4, ipv6, iri, iriReference,
   jsonPointer, regex, relativeJsonPointer, time, uri, uriReference, uriTemplate]

def name : Format → String
  | date => "date"
  | dateTime => "date-time"
  | email => "email"
  | hostname => "hostname"
  | idnEmail => "idn-email"
  | idnHostname => "idn-hostname"
  | ipv4 => "ipv4"
  | ipv6 => "ipv6"
  | iri => "iri"
  | iriReference => "iri-reference"
  | jsonPointer => "json-pointer"
  | regex => "regex"
  | relativeJsonPointer => "relative-json-pointer"
  | time => "time"
  | uri => "uri"
  | uriReference => "uri-reference"
  | uriTemplate => "uri-template"

/-- The first draft that has the format. -/
def since : Format → Draft
  | jsonPointer | uriReference | uriTemplate => .six
  | idnHostname | iri | iriReference | relativeJsonPointer => .seven
  | _ => .four

/-- The format of a name in a draft; other names ask for nothing. -/
def ofName? (draft : Draft) (name : String) : Option Format :=
  all.find? fun format => format.name == name && draft.isAtLeast format.since

/-! ### Dates and times -/

/-- A number of so many digits, and the text behind it. -/
def digits? (count : Nat) (text : List Char) : Option (Nat × List Char) :=
  let digits := text.take count
  if digits.length = count ∧ digits.all Char.isDigit then
    some (digits.foldl (fun n c => n * 10 + (c.toNat - 48)) 0, text.drop count)
  else none

def mark? (c : Char) : List Char → Option (List Char)
  | d :: rest => if c = d then some rest else none
  | [] => none

def isLeapYear (year : Nat) : Bool := year % 4 == 0 && (year % 100 != 0 || year % 400 == 0)

def daysIn (year month : Nat) : Nat :=
  if month = 2 then if isLeapYear year then 29 else 28
  else if month = 4 ∨ month = 6 ∨ month = 9 ∨ month = 11 then 30
  else 31

structure Day where
  year : Nat
  month : Nat
  day : Nat

/-- Reads a day: year, month and day of month in digits, with hyphens between them. -/
def day? (text : List Char) : Option (Day × List Char) := do
  let (year, text) ← digits? 4 text
  let (month, text) ← digits? 2 (← mark? '-' text)
  let (day, text) ← digits? 2 (← mark? '-' text)
  if 1 ≤ month ∧ month ≤ 12 ∧ 1 ≤ day ∧ day ≤ daysIn year month then pure (⟨year, month, day⟩, text)
  else none

def isDate (text : List Char) : Bool :=
  match day? text with
  | some (_, []) => true
  | _ => false

/-- Hour, minute and second. -/
def clock? (text : List Char) : Option ((Nat × Nat × Nat) × List Char) := do
  let (hour, text) ← digits? 2 text
  let (minute, text) ← digits? 2 (← mark? ':' text)
  let (second, text) ← digits? 2 (← mark? ':' text)
  if hour < 24 ∧ minute < 60 ∧ second ≤ 60 then pure ((hour, minute, second), text) else none

/-- Drops a fraction of a second, which has a digit at least. -/
def dropFraction? (text : List Char) : Option (List Char) :=
  match text with
  | '.' :: rest =>
    if rest.head?.any Char.isDigit then some (rest.dropWhile Char.isDigit) else none
  | _ => some text

/-- The distance from universal time in minutes. -/
def offset? (text : List Char) : Option (Int × List Char) := do
  match text with
  | 'Z' :: rest => pure (0, rest)
  | 'z' :: rest => pure (0, rest)
  | sign :: rest =>
    let (hour, rest) ← digits? 2 rest
    let (minute, rest) ← digits? 2 (← mark? ':' rest)
    if 24 ≤ hour ∨ 60 ≤ minute then none
    else if sign = '+' then pure ((hour * 60 + minute : Nat), rest)
    else if sign = '-' then pure (-((hour * 60 + minute : Nat) : Int), rest)
    else none
  | [] => none

/-- A second may be the sixty-first of its minute at the end of a month of universal time. -/
def isLeapSecond (day : Day) (minutes : Int) : Bool :=
  let last : Int := 24 * 60 - 1
  let lastDay := daysIn day.year day.month
  if minutes = last then day.day == lastDay
  else if minutes = last - 24 * 60 then day.day == 1
  else if minutes = last + 24 * 60 then day.day + 1 == lastDay
  else false

/-- A day and a time of day with its distance from universal time; one character, of ASCII, stands
between them. -/
def isDateTime (text : List Char) : Bool :=
  let read? : Option Bool := do
    let (day, text) ← day? text
    let separator ← text.head?
    let ((hour, minute, second), text) ← clock? (text.drop 1)
    let text ← dropFraction? text
    let (offset, text) ← offset? text
    let minutes : Int := (hour * 60 + minute : Nat) - offset
    pure (text.isEmpty && decide (separator.toNat < 128)
      && (second < 60 || isLeapSecond day minutes))
  read?.getD false

/-! ### Mail and hosts -/

/-- Something and an at sign behind it. Up to there no two dots stand together, no dot stands in
front, and none in front of the at sign. -/
def hasMailbox : List Char → Bool
  | a :: b :: rest =>
    if a = '.' ∧ (b = '.' ∨ b = '@') then false
    else if b = '@' then true
    else hasMailbox (b :: rest)
  | _ => false

def isEmail (text : List Char) : Bool := text.head? != some '.' && hasMailbox text

/-- Letters, numbers, hyphens and dots, with no hyphen at either end; the name and its labels are
bounded in length. -/
def isHostname (text : List Char) : Bool :=
  !text.isEmpty && text.length ≤ 255 && text.head? != some '-' && text.getLast? != some '-'
    && text.all (fun c => Unicode.isAlphanumeric c || c == '-' || c == '.')
    && (Form.split '.' text).all fun label => label.length ≤ 63

def isIpv4 (text : List Char) : Bool :=
  text.head? != some '0' && (Url.Address.embedded? text).isSome

/-! ### Patterns -/

def clockPattern : String := "([01][0-9]|2[0-3]):[0-5][0-9]"

def timePattern : Option Pattern :=
  Pattern.read? ("^" ++ clockPattern ++ ":[0-5][0-9](\\.[0-9]\x7b6\x7d)?([Zz]|[+|\\-]"
    ++ clockPattern ++ ")$")

def jsonPointerPattern : Option Pattern := Pattern.read? "^(/([^/~]|~[01])*)*$"

def relativeJsonPointerPattern : Option Pattern :=
  Pattern.read? "^(0|[1-9][0-9]*)(#|(/([^/~]|~[01])*)*)$"

def uriReferencePattern : Option Pattern := Pattern.read? "^[^\\\\\\s]*$"

/-- A template is made of characters and of expressions in braces: names, of which each may have a
modifier, behind an operator. -/
def uriTemplatePattern : Option Pattern :=
  let byte := "%[0-9a-f]\x7b2\x7d"
  let name := "([a-z0-9_]|" ++ byte ++ ")+(:[1-9][0-9]\x7b0,3\x7d|\\*)?"
  let plain := "[^\\x00-\\x20\\x22'<>%\\\\\\x5E\\x60\\x7b|\\x7d]"
  Pattern.read? ("^(" ++ plain ++ "|" ++ byte ++ "|\\x7b[+#./;?&=,!@|]?" ++ name ++ "(," ++ name
    ++ ")*\\x7d)*$")

def fits (pattern : Option Pattern) (text : String) : Bool :=
  pattern.any fun pattern => pattern.isMatch text

def accepts (format : Format) (text : String) : Bool :=
  match format with
  | date => isDate text.toList
  | dateTime => isDateTime text.toList
  | email | idnEmail => isEmail text.toList
  | hostname | idnHostname => isHostname text.toList
  | ipv4 => isIpv4 text.toList
  | ipv6 => (Url.Address.ipv6? text.toList).isSome
  | iri | uri => (Url.parse text).isOk
  | iriReference | uriReference => fits uriReferencePattern text
  | jsonPointer => fits jsonPointerPattern text
  | relativeJsonPointer => fits relativeJsonPointerPattern text
  | regex => (readPattern? text).isSome
  | time => fits timePattern text
  | uriTemplate => fits uriTemplatePattern text

end Format

end StagedFlow.Schema
