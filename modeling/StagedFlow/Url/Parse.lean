import StagedFlow.Url.Host
import StagedFlow.Url.Path

/-!
# Reading links

A link is read part by part: scheme, authority, path, query, fragment. Blanks around it and line
breaks in it are dropped, the scheme and the host are written in lower case, the port of the scheme
is left out, and dot segments of the path are resolved. A link without a scheme is read relative to
a base, from which it takes what it leaves out.
-/

namespace StagedFlow.Url

/-! ### Schemes -/

/-- Schemes with hosts, and their ports. -/
def defaultPort? (scheme : String) : Option Nat :=
  if scheme == "http" || scheme == "ws" then some 80
  else if scheme == "https" || scheme == "wss" then some 443
  else if scheme == "ftp" then some 21
  else none

/-- How links of a scheme are read. -/
inductive Style where
  | file
  | special
  | other
deriving DecidableEq

def styleOf (scheme : String) : Style :=
  if scheme == "file" then .file else if (defaultPort? scheme).isSome then .special else .other

/-- True of the styles that take a backslash for a slash. -/
def Style.isSpecial (style : Style) : Bool := style ≠ .other

def isSlash (c : Char) : Bool := c == '/' || c == '\\'

def isTailMark (c : Char) : Bool := c == '?' || c == '#'

/-- The characters that end an authority. -/
def endsAuthority (style : Style) (c : Char) : Bool :=
  c == '/' || (style.isSpecial && c == '\\') || isTailMark c

/-- The scheme of a link and the text behind its colon. -/
def scheme? (text : List Char) : Option (String × List Char) :=
  match text with
  | [] => none
  | c :: _ =>
    if !c.isAlpha then none
    else
      let inScheme (c : Char) : Bool := c.isAlphanum || c == '+' || c == '-' || c == '.'
      match text.dropWhile inScheme with
      | ':' :: rest => some (String.ofList ((text.takeWhile inScheme).map Char.toLower), rest)
      | _ => none

/-! ### Query and fragment -/

/-- Adds query and fragment, of which the mark of the first one is next. -/
def withTail (url : Url) (text : List Char) : Url :=
  let keep := if (styleOf url.scheme).isSpecial then keepSpecialQuery else keepQuery
  let fragment := text.dropWhile (· != '#')
  let some? (tail : List Char) (keep : Char → Bool) : Option String :=
    match tail with
    | [] => none
    | _ :: rest => some (String.ofList (encodeUnless keep rest))
  { url with
    query := some? (text.takeWhile (· != '#')) keep
    fragment := some? fragment keepFragment }

/-! ### Authorities -/

/-- Splits at the last at sign of an authority. -/
def splitUser (authority : List Char) : Option (List Char × List Char) :=
  if authority.contains '@' then
    let host := (authority.reverse.takeWhile (· != '@')).reverse
    some (authority.take (authority.length - host.length - 1), host)
  else none

/-- User and password in their written form, with the at sign. -/
def writeUser (text : List Char) : List Char :=
  let name := text.takeWhile (· != ':')
  let word := (text.dropWhile (· != ':')).drop 1
  let written := encodeUnless keepUser name
    ++ if word.isEmpty then [] else ':' :: encodeUnless keepUser word
  if written.isEmpty then [] else written ++ ['@']

/-- Splits host and port at the first colon outside of brackets. -/
def splitPort : Bool → List Char → List Char × Option (List Char)
  | _, [] => ([], none)
  | inside, c :: rest =>
    if c = ':' ∧ !inside then ([], some rest)
    else
      let inside := c = '[' ∨ (c ≠ ']' ∧ inside)
      let (host, port) := splitPort inside rest
      (c :: host, port)

/-- Reads a port: its written form, empty if it is the port of the scheme or not given, and the text
behind it. -/
def readPort (scheme : String) (text : List Char) : Except UrlFault (List Char × List Char) :=
  let digits := text.takeWhile Char.isDigit
  let rest := text.dropWhile Char.isDigit
  let n : Nat := digits.foldl (fun n c => n * 10 + (c.toNat - 48)) 0
  if n > 65535 || rest.head?.any fun c => !isSlash c && !isTailMark c then .error .invalidPort
  else if digits.isEmpty ∨ defaultPort? scheme = some n then .ok ([], rest)
  else .ok (':' :: Address.decimal n, rest)

/-- Reads user, host and port: their written form and the text behind them. -/
def readAuthority (scheme : String) (text : List Char) :
    Except UrlFault (List Char × List Char) := do
  let style := styleOf scheme
  let authority := text.takeWhile fun c => !endsAuthority style c
  let behind := text.dropWhile fun c => !endsAuthority style c
  let (user, place) := match splitUser authority with
    | some (user, place) => (user, some place)
    | none => ([], none)
  if user.isEmpty ∧ place = some [] ∧ !behind.isEmpty then throw .emptyHost
  let user := writeUser user
  let (hostText, portText) := splitPort false (place.getD authority)
  if hostText.isEmpty ∧ (style = .special ∨ portText.isSome) then throw .emptyHost
  let host ← if style = .special then readHost hostText else readOpaqueHost hostText
  let (port, rest) ← match portText with
    | some port => readPort scheme (port ++ behind)
    | none => pure ([], behind)
  if host.isEmpty ∧ !user.isEmpty then throw .emptyHost
  pure (user ++ host ++ port, rest)

/-! ### Links with an authority -/

/-- The text of a path, and query and fragment with their marks. -/
def splitTail (text : List Char) : List Char × List Char :=
  (text.takeWhile fun c => !isTailMark c, text.dropWhile fun c => !isTailMark c)

/-- Reads a link from its authority on. -/
def readFromAuthority (scheme : String) (text : List Char) : Except UrlFault Url := do
  let style := styleOf scheme
  let (authority, rest) ← readAuthority scheme text
  let (body, tail) := splitTail rest
  let rooted := match body with
    | c :: more => if c == '/' || (style.isSpecial && c == '\\') then some more else none
    | [] => none
  let path : List Char :=
    if body.isEmpty && !style.isSpecial then []
    else ((Place.mk ['/'] true).extend style.isSpecial false (rooted.getD body)).path
  pure (withTail ⟨scheme, some (String.ofList authority), String.ofList path, none, none⟩ tail)

/-! ### Links to files -/

def fileUrl (host : List Char) (place : Place) (tail : List Char) : Url :=
  withTail ⟨"file", some (String.ofList host), String.ofList place.path, none, none⟩ tail

/-- Reads a link to a file from its host on; a drive is not a host. -/
def readFileFromHost (text : List Char) : Except UrlFault Url := do
  let name := text.takeWhile fun c => !endsAuthority .file c
  let drive := isDrive name
  let host ← if drive || name.isEmpty then pure [] else readHost name
  let host := if host == "localhost".toList then [] else host
  let rest := if drive then text else text.drop name.length
  let (body, tail) := splitTail rest
  let start : Place := ⟨['/'], !host.isEmpty⟩
  if host.isEmpty then pure (fileUrl [] (start.extend true true body) tail)
  else
    let body := match body with
      | c :: more => if isSlash c then more else c :: more
      | [] => []
    let place := start.extend true true body
    pure (fileUrl (if place.hosted then host else []) place tail)

/-- Reads a link to a file behind its scheme, or one relative to a file. -/
def readFile (base : Option Url) (text : List Char) : Except UrlFault Url :=
  let startsDrive := startsWithDrive (text.take 3)
  match base, text with
  | _, c :: d :: rest =>
    if isSlash c && isSlash d then readFileFromHost rest
    else if isSlash c then rooted base (d :: rest) text
    else relative base startsDrive text
  | _, [c] => if isSlash c then rooted base [] text else relative base startsDrive text
  | _, [] => relative base startsDrive text
where
  /-- A path from the root: a base may give its drive or else its host. -/
  rooted (base : Option Url) (behind text : List Char) : Except UrlFault Url :=
    let (body, tail) := splitTail text
    let drive := (base.map fun b => (b.path.toList.drop 1).takeWhile (· != '/')).getD []
    let host := (base.bind Url.authority).getD ""
    if startsWithDrive (behind.take 3) then
      .ok (fileUrl [] ((Place.mk [] false).extend true true body) tail)
    else if isKeptDrive drive then
      .ok (fileUrl [] ((Place.mk ('/' :: drive) false).extend true true body) tail)
    else .ok (fileUrl host.toList ((Place.mk [] true).extend true true body) tail)
  /-- A path that does not start at the root. -/
  relative (base : Option Url) (startsDrive : Bool) (text : List Char) : Except UrlFault Url :=
    let (body, tail) := splitTail text
    match base with
    | none => .ok (fileUrl [] ((Place.mk ['/'] false).extend true true body) tail)
    | some b =>
      match text.head? with
      | none => .ok b.withoutFragment
      | some '?' => .ok (withTail b tail)
      | some '#' => .ok { withTail b tail with query := b.query }
      | some _ =>
        if startsDrive then .ok (fileUrl [] ((Place.mk ['/'] false).extend true true body) tail)
        else
          let place : Place := ⟨pop true b.path.toList, true⟩
          .ok (fileUrl (b.authority.getD "").toList (place.extend true true body) tail)

/-! ### Relative links -/

/-- Reads a link relative to one that is not a file. -/
def readRelative (base : Url) (text : List Char) : Except UrlFault Url :=
  let style := styleOf base.scheme
  let (body, tail) := splitTail text
  let path (place : List Char) (text : List Char) : String :=
    String.ofList ((Place.mk place true).extend style.isSpecial false text).path
  match text with
  | [] => .ok base.withoutFragment
  | '?' :: _ => .ok (withTail base tail)
  | '#' :: _ => .ok { withTail base tail with query := base.query }
  | c :: rest =>
    if isSlash c then
      if rest.head?.any isSlash then
        let behind := match text with
          | '/' :: '/' :: behind => behind
          | _ => text.dropWhile isSlash
        readFromAuthority base.scheme behind
      else .ok (withTail { base with path := path ['/'] (body.drop 1) } tail)
    else
      let front := pop false base.path.toList
      let front := if front.isEmpty then ['/'] else front
      .ok (withTail { base with path := path front body } tail)

/-! ### Links -/

def isTrimmed (c : Char) : Bool := c.toNat ≤ 32

/-- Drops what a link may be surrounded and broken by. -/
def clean (text : List Char) : List Char :=
  let trimmed := ((text.dropWhile isTrimmed).reverse.dropWhile isTrimmed).reverse
  trimmed.filter fun c => c != '\t' && c != '\n' && c != '\r'

/-- Reads a link behind its scheme. A link of the scheme of its base may still be relative to it. -/
def readWithScheme (base : Option Url) (scheme : String) (text : List Char) :
    Except UrlFault Url :=
  match styleOf scheme with
  | .file => readFile (base.filter fun b => b.scheme == "file") text
  | .special =>
    match base.filter fun b => b.scheme == scheme && (text.takeWhile isSlash).length < 2 with
    | some b => readRelative b text
    | none => readFromAuthority scheme (text.dropWhile isSlash)
  | .other =>
    let (body, tail) := splitTail text
    match text with
    | '/' :: '/' :: rest => readFromAuthority scheme rest
    | '/' :: _ =>
      let path := ((Place.mk ['/'] true).extend false false (body.drop 1)).path
      .ok (withTail ⟨scheme, none, String.ofList path, none, none⟩ tail)
    | _ =>
      let path := encodeUnless (fun _ => true) body
      .ok (withTail ⟨scheme, none, String.ofList path, none, none⟩ tail)

/-- Reads a link, relative to a base if there is one. -/
def resolve (base : Option Url) (text : String) : Except UrlFault Url :=
  let text := clean text.toList
  match scheme? text with
  | some (scheme, rest) => readWithScheme base scheme rest
  | none =>
    match base with
    | none => .error .relative
    | some b =>
      if text.head? = some '#' then .ok { withTail b text with query := b.query }
      else if b.isOpaque then .error .opaqueBase
      else if b.scheme == "file" then readFile (some b) text
      else readRelative b text

/-- Reads an absolute link. -/
def parse (text : String) : Except UrlFault Url := resolve none text

end StagedFlow.Url
