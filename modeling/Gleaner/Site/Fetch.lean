import Gleaner.Charset.Base64
import Gleaner.Site.Request
import Gleaner.Web.Response
import Gleaner.Web.Visit

/-!
Requests sent, and their replies made into responses. What cannot be written is not sent, and
replies whose body is too large or cut short are no responses.
-/
namespace Gleaner

namespace Request

/-- A header value holds no control characters but tabs. -/
def isHeaderValue (s : String) : Bool :=
  s.toList.all fun c => c = '\t' || (0x20 ≤ c.toNat && c.toNat != 0x7f)

def isHeader (h : String × String) : Bool := isToken h.1 && isHeaderValue h.2

/-- The text of percent-encoded UTF-8. -/
def decoded? (cs : List Char) : Option (List Char) :=
  let bytes := Url.percentDecode cs
  let text := Utf8.decode bytes
  if Utf8.encode text = bytes then some text else none

/-- The user name and password in an address. -/
def credentials? (url : Url) : Option (List Char × List Char) := do
  let a ← url.authority
  let name ← decoded? a.username
  let password := if a.password.isEmpty then none else decoded? a.password
  if name.isEmpty && password.isNone then none else some (name, password.getD [])

/-- The header that tells a user name and password. -/
def authorization (login : List Char × List Char) : String × String :=
  ("authorization",
    "Basic " ++ String.ofList (Base64.encode (Utf8.encode (login.1 ++ ':' :: login.2))))

/-- The address of a message, and the headers that it needs. User name and password go from the one
to the other. -/
def target (url : Url) : Url × List (String × String) :=
  match credentials? url with
  | some login => (url.withoutCredentials, [authorization login])
  | none => (url, [])

/-- The message for a request at its resolved address: the headers of all requests come first. -/
def message? (r : Request) (common : List (String × String)) (url : Url) :
    Except Web.Failure Web.Message :=
  let (target, headers) := target url
  if url.host?.isNone then .error (.badTarget url.text)
  else if !(common ++ r.headers).all isHeader then .error .badHeader
  else if !Link.isWeb target.text.toList then .error (.badTarget target.text)
  else .ok ⟨r.method, target, headers ++ common ++ r.headers⟩

end Request

namespace Web

/-- The most bytes that a body may have. -/
def maxLength : Nat := 10485760

/-- The response in a reply to a method and an address. -/
def Reply.response (reply : Reply) (method url : String) : Except FetchError Response :=
  if reply.announced.any (maxLength < ·) then .error .tooLarge
  else match reply.body with
    | none => .error .cutShort
    | some bytes =>
      if maxLength < bytes.length then .error .tooLarge
      else .ok (Response.ofBytes reply.status url reply.url.withoutFragment.text reply.headers
        reply.suggested (if method = "HEAD" then none else some bytes))

end Web

/-- Sends one request to a site and waits for its response. -/
def Request.fetch (r : Request) (common : List (String × String)) (base : String) :
    Web.Visit Web.FetchError Web.Response := do
  let url ← .done (r.resolve base)
  let message ← .done ((r.message? common url).mapError .failed)
  let reply ← .ask message fun answer => .done (answer.mapError .failed)
  .done (reply.response r.method url.text)

end Gleaner
