import Gleaner.Url.Host

/-!
Addresses: their parts, and their text (`Url.text`).
-/
namespace Gleaner

/-- Who is asked: a host, and what is said before and after it. Empty parts are not written. -/
structure Url.Authority where
  username : List Char
  password : List Char
  host : Option Url.Host
  port : Option Nat
  deriving DecidableEq

/-- A path that nobody interprets, or segments with a slash before each. -/
inductive Url.Path where
  | opaqueText (text : List Char)
  | segments (names : List (List Char))
  deriving DecidableEq

structure Url where
  scheme : List Char
  authority : Option Url.Authority
  path : Url.Path
  query : Option (List Char)
  fragment : Option (List Char)
  deriving DecidableEq

namespace Url

/-- Schemes whose addresses have a host and take a backslash for a slash. -/
def isSpecial (scheme : List Char) : Bool :=
  ["http", "https", "ws", "wss", "ftp", "file"].contains (String.ofList scheme)

def isFile (scheme : List Char) : Bool := String.ofList scheme == "file"

def defaultPort? (scheme : List Char) : Option Nat :=
  match String.ofList scheme with
  | "http" | "ws" => some 80
  | "https" | "wss" => some 443
  | "ftp" => some 21
  | _ => none

def Authority.credentials (a : Authority) : List Char :=
  if a.username.isEmpty && a.password.isEmpty then []
  else a.username ++ (if a.password.isEmpty then [] else ':' :: a.password) ++ ['@']

def Authority.hostText (a : Authority) : List Char :=
  match a.host with
  | some h => h.text
  | none => []

def Authority.portText (a : Authority) : List Char :=
  match a.port with
  | some n => ':' :: Nat.toDigits 10 n
  | none => []

def Authority.text (a : Authority) : List Char := a.credentials ++ a.hostText ++ a.portText

def Path.text : Path → List Char
  | .opaqueText t => t
  | .segments names => names.flatMap ('/' :: ·)

/-- What stands between the scheme and the path. A path that starts with two slashes needs `/.`
before it where there is no authority. -/
def authorityText (u : Url) : List Char :=
  match u.authority, u.path with
  | some a, _ => '/' :: '/' :: a.text
  | none, .segments ([] :: _ :: _) => ['/', '.']
  | none, _ => []

def part (mark : Char) : Option (List Char) → List Char
  | some cs => mark :: cs
  | none => []

/-- The text up to the query. -/
def stem (u : Url) : List Char := u.scheme ++ ':' :: u.authorityText ++ u.path.text

def text (u : Url) : String := String.ofList (u.stem ++ part '?' u.query ++ part '#' u.fragment)

def host? (u : Url) : Option Host := u.authority.bind (·.host)

def port? (u : Url) : Option Nat := u.authority.bind (·.port)

def withoutFragment (u : Url) : Url := { u with fragment := none }

/-- The address without user name and password. -/
def withoutCredentials (u : Url) : Url :=
  { u with authority := u.authority.map fun a => { a with username := [], password := [] } }

/-- The decoded pairs of the query. -/
def queryPairs (u : Url) : List (String × String) := (u.query.map formPairs).getD []

/-- Appends pairs to the query. -/
def addPairs (u : Url) (pairs : List (String × String)) : Url :=
  match pairs with
  | [] => u
  | _ =>
    let query := u.query.getD []
    { u with query := some (query ++ (if query.isEmpty then [] else ['&']) ++ formText pairs) }

end Url

end Gleaner
