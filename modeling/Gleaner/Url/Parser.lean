import Gleaner.Url.Basic

/-!
Reading addresses, absolute ones and ones relative to a base.
-/
namespace Gleaner.Url

def pathSet : List Char := [' ', '"', '<', '>', '\x60', '#', '?', '\x7b', '\x7d']

def credentialSet : List Char := pathSet ++ ['/', ':', ';', '=', '@', '[', '\\', ']', '^', '|']

def querySet (special : Bool) : List Char :=
  [' ', '"', '#', '<', '>'] ++ (if special then ['\''] else [])

def fragmentSet : List Char := [' ', '"', '<', '>', '\x60']

/-- Blanks and controls around the address do not count, line ends and tabs inside neither. -/
def cleaned (cs : List Char) : List Char :=
  let outer := fun (c : Char) => c.toNat ≤ 0x20
  let inner := ((cs.dropWhile outer).reverse.dropWhile outer).reverse
  inner.filter fun c => !(c = '\t' || c = '\n' || c = '\r')

def isSlash (special : Bool) (c : Char) : Bool := c = '/' || (special && c = '\\')

/-- Whether a character ends the path. -/
def endsPath (c : Char) : Bool := c = '?' || c = '#'

/-- The scheme, in lower case, and what follows its colon. -/
def splitScheme? (cs : List Char) : Option (List Char × List Char) :=
  let isPart := fun (c : Char) => c.isAlphanum || c = '+' || c = '-' || c = '.'
  match cs with
  | c :: _ =>
    if c.isAlpha then
      match cs.dropWhile isPart with
      | ':' :: rest => some ((cs.takeWhile isPart).map Char.toLower, rest)
      | _ => none
    else none
  | [] => none

def fragmentOf (cs : List Char) : List Char := percentEncode fragmentSet cs

/-- The query and the fragment that a text holds; it starts with the mark of one of them, if any. -/
def queryAndFragment (special : Bool) : List Char → Option (List Char) × Option (List Char)
  | '?' :: cs =>
    let query := percentEncode (querySet special) (cs.takeWhile (· ≠ '#'))
    match cs.dropWhile (· ≠ '#') with
    | _ :: rest => (some query, some (fragmentOf rest))
    | [] => (some query, none)
  | '#' :: cs => (none, some (fragmentOf cs))
  | _ => (none, none)

/-- Puts query and fragment, as written in the text, onto an address. -/
def withTail (u : Url) (cs : List Char) : Url :=
  let tail := queryAndFragment (isSpecial u.scheme) cs
  { u with query := tail.1, fragment := tail.2 }

/-- Dots may be written as `%2e` in segments that are steps. -/
def plainDots : List Char → List Char
  | '%' :: '2' :: 'e' :: cs | '%' :: '2' :: 'E' :: cs => '.' :: plainDots cs
  | c :: cs => c :: plainDots cs
  | [] => []

def isDriveLetter (cs : List Char) : Bool :=
  match cs with
  | [c, m] => c.isAlpha && (m = ':' || m = '|')
  | _ => false

def isNormalDriveLetter (cs : List Char) : Bool := isDriveLetter cs && cs.getLast? == some ':'

/-- Takes the last segment away; in a file address a drive letter stays. Segments are held last
first. -/
def stepUp (file : Bool) : List (List Char) → List (List Char)
  | [] => []
  | s :: rest => if file && isNormalDriveLetter s then s :: rest else rest

/-- Puts one written segment onto the segments before it, last first. -/
def addSegment (file : Bool) (before : List (List Char)) (raw : List Char) (isLast : Bool) :
    List (List Char) :=
  let opened := fun (segments : List (List Char)) => if isLast then [] :: segments else segments
  match plainDots raw with
  | ['.', '.'] => opened (stepUp file before)
  | ['.'] => opened before
  | _ =>
    if file && before.isEmpty && isDriveLetter raw then (raw.take 1 ++ [':']) :: before
    else percentEncode pathSet raw :: before

def addSegments (file : Bool) (before : List (List Char)) : List (List Char) → List (List Char)
  | [] => before
  | [raw] => addSegment file before raw true
  | raw :: next :: rest => addSegments file (addSegment file before raw false) (next :: rest)

def splitSlashes (special : Bool) (cs : List Char) : List (List Char) :=
  Text.splitAtChar '/' (cs.map fun c => if isSlash special c then '/' else c)

/-- In a file address empty segments in front do not count. -/
def withoutEmptyFront : List (List Char) → List (List Char)
  | [] :: s :: rest => withoutEmptyFront (s :: rest)
  | segments => segments

/-- The path that a text stands for, which starts behind its first slash, after given segments. -/
def segmentsOf (scheme : List Char) (before : List (List Char)) (cs : List Char) : Path :=
  let file := isFile scheme
  let all := (addSegments file before.reverse (splitSlashes (isSpecial scheme) cs)).reverse
  .segments (if file then withoutEmptyFront all else all)

/-- The path after an authority. Only schemes that are not special may have none. -/
def pathStart (scheme : List Char) (cs : List Char) : Path :=
  match cs with
  | c :: rest =>
    if isSlash (isSpecial scheme) c then segmentsOf scheme [] rest else segmentsOf scheme [] cs
  | [] => if isSpecial scheme then .segments [[]] else .segments []

/-- Whether a character ends the authority. -/
def endsAuthority (special : Bool) (c : Char) : Bool := endsPath c || isSlash special c

/-- Splits behind the last sign `@`. -/
def splitCredentials (cs : List Char) : Option (List Char × List Char) :=
  if cs.contains '@' then
    let after := (cs.reverse.takeWhile (· ≠ '@')).reverse
    some (cs.take (cs.length - after.length - 1), after)
  else none

/-- The host as written: up to a colon outside brackets. -/
def hostPart (inBrackets : Bool) : List Char → List Char
  | [] => []
  | c :: cs =>
    if c = ':' && !inBrackets then []
    else c :: hostPart (if c = '[' then true else if c = ']' then false else inBrackets) cs

/-- The port and what follows it. The port that the scheme implies is left out. -/
def portPart (scheme : List Char) (cs : List Char) : Except ParseError (Option Nat × List Char) :=
  let digits := cs.takeWhile Char.isDigit
  let rest := cs.dropWhile Char.isDigit
  let n := Decimal.digitsValue digits
  let goesOn := match rest with
    | [] => true
    | c :: _ => endsAuthority true c
  if 65535 < n || !goesOn then .error .port
  else if digits.isEmpty || defaultPort? scheme == some n then .ok (none, rest)
  else .ok (some n, rest)

/-- Reads host and port, and leaves the path. -/
def hostAndPort (scheme : List Char) (username password : List Char) (cs : List Char) :
    Except ParseError (Authority × List Char) := do
  let special := isSpecial scheme
  let written := hostPart false (cs.takeWhile fun c => !endsAuthority special c)
  let rest := cs.drop written.length
  if written.isEmpty && (special || rest.head? == some ':') then throw .emptyHost
  let host ← if special then Host.parse written else Host.parseOpaque written
  let (port, rest) ← match rest with
    | ':' :: rest => portPart scheme rest
    | _ => pure (none, rest)
  let host := if written.isEmpty then none else some host
  if host.isNone && !(username.isEmpty && password.isEmpty) then throw .emptyHost
  return (⟨username, password, host, port⟩, rest)

/-- Reads what stands behind two slashes, up to the path. -/
def authorityOf (scheme : List Char) (cs : List Char) : Except ParseError (Authority × List Char) :=
  let written := cs.takeWhile fun c => !endsAuthority (isSpecial scheme) c
  match splitCredentials written with
  | none => hostAndPort scheme [] [] cs
  | some (credentials, _) =>
    let rest := cs.drop (credentials.length + 1)
    let startsPath := match rest with
      | c :: _ => endsAuthority (isSpecial scheme) c
      | [] => false
    if credentials.isEmpty && startsPath then .error .emptyHost
    else
      let encode := percentEncode credentialSet
      hostAndPort scheme (encode (credentials.takeWhile (· ≠ ':')))
        (encode ((credentials.dropWhile (· ≠ ':')).drop 1)) rest

def splitPath (cs : List Char) : List Char × List Char :=
  (cs.takeWhile fun c => !endsPath c, cs.dropWhile fun c => !endsPath c)

/-- An address from what stands behind two slashes. -/
def afterSlashes (scheme : List Char) (cs : List Char) : Except ParseError Url := do
  let (authority, rest) ← authorityOf scheme cs
  let (path, tail) := splitPath rest
  return withTail ⟨scheme, some authority, pathStart scheme path, none, none⟩ tail

def noAuthority : Authority := ⟨[], [], none, none⟩

/-- A file address from what stands behind two slashes. The local host is no host, and a path with a
drive letter has none. -/
def fileAfterSlashes (cs : List Char) : Except ParseError Url := do
  let scheme := "file".toList
  let written := cs.takeWhile fun c => !endsAuthority true c
  if isDriveLetter written || written.isEmpty then
    let (path, tail) := splitPath cs
    let path := if written.isEmpty then path.drop 1 else path
    return withTail ⟨scheme, some noAuthority, segmentsOf scheme [] path, none, none⟩ tail
  else
    let host ← Host.parse written
    let (path, tail) := splitPath (cs.drop written.length)
    let drive := isDriveLetter ((path.drop 1).takeWhile fun c => !isSlash true c)
    let host := if host.text == "localhost".toList || drive then none else some host
    return withTail ⟨scheme, some ⟨[], [], host, none⟩, pathStart scheme path, none, none⟩ tail

def countSlashes (cs : List Char) : Nat := (cs.takeWhile (isSlash true)).length

/-- An address that stands behind a scheme. -/
def afterScheme (scheme : List Char) (cs : List Char) : Except ParseError Url :=
  if isFile scheme then
    if 2 ≤ countSlashes cs then fileAfterSlashes (cs.drop 2)
    else
      let (path, tail) := splitPath cs
      .ok (withTail ⟨scheme, some noAuthority, pathStart scheme path, none, none⟩ tail)
  else if isSpecial scheme then afterSlashes scheme (cs.dropWhile (isSlash true))
  else
    match cs with
    | '/' :: '/' :: rest => afterSlashes scheme rest
    | '/' :: rest =>
      let (path, tail) := splitPath rest
      .ok (withTail ⟨scheme, none, segmentsOf scheme [] path, none, none⟩ tail)
    | _ =>
      let (path, tail) := splitPath cs
      .ok (withTail ⟨scheme, none, .opaqueText (percentEncode [] path), none, none⟩ tail)

/-- An address without a scheme, against a base. Two slashes bring a host of their own, one a path
of their own; else the text takes the place of the base's last segment. -/
def relativeTo (base : Url) (cs : List Char) : Except ParseError Url :=
  match base.path with
  | .opaqueText _ =>
    match cs with
    | '#' :: rest => .ok { base with fragment := some (fragmentOf rest) }
    | _ => .error .opaqueBase
  | .segments names =>
    match cs with
    | [] => .ok base.withoutFragment
    | '#' :: rest => .ok { base with fragment := some (fragmentOf rest) }
    | c :: rest =>
      let (path, tail) := splitPath cs
      if c = '?' then .ok (withTail base cs)
      else if isSlash true c then
        if 2 ≤ countSlashes cs then
          if isFile base.scheme then fileAfterSlashes (cs.drop 2)
          else match cs with
            | '/' :: '/' :: rest => afterSlashes base.scheme rest
            | _ => afterSlashes base.scheme (cs.dropWhile (isSlash true))
        else
          let (path, tail) := splitPath rest
          .ok (withTail { base with path := segmentsOf base.scheme [] path } tail)
      else
        let before := (stepUp (isFile base.scheme) names.reverse).reverse
        .ok (withTail { base with path := segmentsOf base.scheme before path } tail)

/-- Reads an address, against a base if there is one. -/
def resolve (base : Option Url) (text : String) : Except ParseError Url :=
  let cs := cleaned text.toList
  match splitScheme? cs with
  | some (scheme, rest) =>
    match base with
    | some base =>
      if isSpecial scheme && base.scheme == scheme && countSlashes rest < 2 then
        relativeTo base rest
      else afterScheme scheme rest
    | none => afterScheme scheme rest
  | none =>
    match base with
    | some base => relativeTo base cs
    | none => .error .noBase

/-- Reads an absolute address. -/
def parse (text : String) : Except ParseError Url := resolve none text

/-- Reads an address as a link on a page does. -/
def join (base : Url) (text : String) : Except ParseError Url := resolve (some base) text

end Gleaner.Url
