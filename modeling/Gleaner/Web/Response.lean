import Gleaner.Charset.Body
import Gleaner.Keyed
import Gleaner.Text.Case

/-!
Responses, as the login check and extraction see them.
-/
namespace Gleaner.Web

structure Response where
  status : Nat
  /-- The address that was asked for. -/
  url : String
  /-- The address that answered. -/
  finalUrl : String
  /-- Values by name in lower case. -/
  headers : OrderedMap String
  contentType : Option String
  /-- The decoded body, unless only the head was asked for. -/
  body : Option String

namespace Response

def header? (r : Response) (name : String) : Option String := r.headers.get? (Text.asciiLower name)

def text (r : Response) : String := r.body.getD ""

/-- Whether a header value is plain enough to be read. -/
def isVisible (value : String) : Bool :=
  value.toList.all fun c => c = '\t' || (0x20 ≤ c.toNat && c.toNat < 0x7f)

/-- The readable headers of a reply. Of headers with one name the last counts. -/
def readable (headers : List (String × String)) : OrderedMap String :=
  OrderedMap.ofList ((headers.filter fun h => isVisible h.2).map fun h => (Text.asciiLower h.1, h.2))

def ofBytes (status : Nat) (url finalUrl : String) (headers : List (String × String))
    (suggested : Charset) (body : Option (List Nat)) : Response :=
  let headers := readable headers
  let contentType := (headers.get? "content-type").map Text.lower
  ⟨status, url, finalUrl, headers, contentType, body.map (Charset.bodyText suggested contentType)⟩

end Response

end Gleaner.Web
