import Gleaner.Text.Case
import Gleaner.Text.Ranges
import Gleaner.Url.Parser
import Gleaner.Web.Exchange

/-!
Clients: they make a web of a wire, on which each message has one reply at most. A client names
itself, keeps cookies for the hosts that set them, and follows redirects.
-/
namespace Gleaner.Web

/-- The reply to a message, unless the connection closes. -/
abbrev Wire (σ : Type) := Message → σ → Option Reply × σ

/-- A wire with nobody at its other end. -/
def Wire.closed : Wire Unit := fun _ s => (none, s)

/-- A cookie, the host that set it and the path below which it is sent. -/
structure Cookie where
  host : List Char
  path : List Char
  name : List Char
  value : List Char
  deriving DecidableEq

namespace Cookie

def hostOf (u : Url) : List Char := (u.host?.map (·.text)).getD []

/-- The path up to its last slash, below which a cookie without a path of its own is sent. -/
def defaultPath (u : Url) : List Char :=
  let directory := ((u.path.text.reverse.dropWhile (· ≠ '/')).drop 1).reverse
  if directory.isEmpty then ['/'] else directory

/-- The value of an attribute, which counts when it stands last. -/
def attribute? (name : String) (parts : List (List Char)) : Option (List Char) :=
  let isNamed := fun (p : List Char) =>
    String.ofList ((Text.trim (p.takeWhile (· ≠ '='))).map Char.toLower) = name
  (parts.reverse.find? isNamed).map fun p => Text.trim ((p.dropWhile (· ≠ '=')).drop 1)

/-- The cookie that a header of a reply sets. -/
def ofHeader? (u : Url) (header : String) : Option Cookie :=
  match Text.splitAtChar ';' header.toList with
  | [] => none
  | pair :: attributes =>
    let name := Text.trim (pair.takeWhile (· ≠ '='))
    if !pair.contains '=' || name.isEmpty then none
    else
      let given := (attribute? "path" attributes).filter fun p => p.head? = some '/'
      some ⟨hostOf u, given.getD (defaultPath u), name,
        Text.trim ((pair.dropWhile (· ≠ '=')).drop 1)⟩

/-- Whether a path is that of a cookie or lies below it. -/
def covers (below path : List Char) : Bool :=
  below = path ||
    below.isPrefixOf path && (below.getLast? = some '/' || path[below.length]? = some '/')

def isFor (c : Cookie) (u : Url) : Bool := c.host = hostOf u && covers c.path u.path.text

/-- A cookie takes the place of one with its host, path and name. -/
def keep (jar : List Cookie) (c : Cookie) : List Cookie :=
  let isSame := fun (old : Cookie) => old.host = c.host && old.path = c.path && old.name = c.name
  jar.filter (!isSame ·) ++ [c]

/-- The header that sends the cookies for an address. -/
def header? (jar : List Cookie) (u : Url) : Option (String × String) :=
  match jar.filter (·.isFor u) with
  | [] => none
  | cs =>
    let pairs := cs.map fun c => String.ofList (c.name ++ '=' :: c.value)
    some ("cookie", "; ".intercalate pairs)

end Cookie

def hasName (name : String) (h : String × String) : Bool := Text.asciiLower h.1 = name

namespace Message

def header? (m : Message) (name : String) : Option String :=
  (m.headers.find? (hasName name)).map Prod.snd

def withoutHeaders (m : Message) (names : List String) : Message :=
  { m with headers := m.headers.filter fun h => !names.contains (Text.asciiLower h.1) }

def withHeader (m : Message) (name value : String) : Message :=
  { m with headers := m.headers ++ [(name, value)] }

end Message

structure Client where
  userAgent : Option String
  keepsCookies : Bool
  deriving DecidableEq, Repr

namespace Client

/-- A client that keeps cookies and has a name. -/
def named (userAgent : String) : Client := ⟨some userAgent, true⟩

/-- The name that a client has unless it is given another. -/
def standard : Client := named "trawl/0.1.0"

def plain : Client := ⟨none, false⟩

/-- The most redirects that are followed for one message. -/
def mostRedirects : Nat := 10

/-- Puts the cookies for an address into a message, in place of those that it has. -/
def withCookies (jar : List Cookie) (m : Message) : Message :=
  match Cookie.header? jar m.url with
  | some (name, value) => (m.withoutHeaders [name]).withHeader name value
  | none => m

/-- What a client adds to a message before it sends it first. -/
def prepare (c : Client) (jar : List Cookie) (m : Message) : Message :=
  let m := if c.keepsCookies && (m.header? "cookie").isNone then withCookies jar m else m
  match c.userAgent, m.header? "user-agent" with
  | some name, none => m.withHeader "user-agent" name
  | _, _ => m

/-- Where a reply redirects to. -/
def redirectTarget? (m : Message) (reply : Reply) : Option Url :=
  if [301, 302, 303, 307, 308].contains reply.status then
    (reply.headers.reverse.find? (hasName "location")).bind fun h => (m.url.join h.2).toOption
  else none

/-- Whether two addresses are of one server. -/
def isSameServer (u v : Url) : Bool :=
  u.host? = v.host? &&
    u.port?.or (Url.defaultPort? u.scheme) = v.port?.or (Url.defaultPort? v.scheme)

/-- Headers that are kept from other servers. -/
def sensitive : List String :=
  ["authorization", "cookie", "cookie2", "proxy-authorization", "www-authenticate"]

/-- Headers that speak of a body. -/
def ofBody : List String :=
  ["transfer-encoding", "content-encoding", "content-type", "content-length"]

/-- The address that a redirected message comes from; a secure one is not told to others. -/
def referer? (before after : Url) : Option String :=
  if String.ofList before.scheme = "https" && String.ofList after.scheme = "http" then none
  else some before.withoutCredentials.withoutFragment.text

/-- The message that follows a redirect. Unless the status keeps the method, it only asks for a
page. -/
def redirected (c : Client) (jar : List Cookie) (m : Message) (status : Nat) (target : Url) :
    Message :=
  let keepsMethod := [307, 308].contains status
  let method := if keepsMethod || m.method = "HEAD" then m.method else "GET"
  let m' := m.withoutHeaders ((if keepsMethod then [] else ofBody) ++ ["referer"] ++
    (if isSameServer m.url target then [] else sensitive))
  let m' := match referer? m.url target with
    | some r => m'.withHeader "referer" r
    | none => m'
  let m' : Message := { m' with method, url := target }
  if c.keepsCookies then withCookies jar m' else m'

/-- The cookies after a reply. -/
def collect (c : Client) (jar : List Cookie) (m : Message) (reply : Reply) : List Cookie :=
  if c.keepsCookies then
    let headers := reply.headers.filter (hasName "set-cookie")
    (headers.filterMap fun h => Cookie.ofHeader? m.url h.2).foldl Cookie.keep jar
  else jar

variable {σ : Type}

/-- Sends a message and follows as many redirects as are left. -/
def follow (c : Client) (wire : Wire σ) :
    (left : Nat) → Message → List Cookie × σ → Answer × (List Cookie × σ)
  | left, m, (jar, s) =>
    match wire { m with url := m.url.withoutFragment } s with
    | (none, s) => (.error (.unanswered m.url.text), (jar, s))
    | (some reply, s) =>
      let jar := c.collect jar m reply
      match redirectTarget? m reply with
      | none => (.ok { reply with url := m.url }, (jar, s))
      | some target =>
        match left with
        | 0 => (.error (.redirected m.url.text), (jar, s))
        | left + 1 => c.follow wire left (c.redirected jar m reply.status target) (jar, s)

/-- The web that a client makes of a wire. Its state holds the cookies. -/
def web (c : Client) (wire : Wire σ) : Web (List Cookie × σ) := fun m s =>
  c.follow wire mostRedirects (c.prepare s.1 m) s

end Client

end Gleaner.Web
