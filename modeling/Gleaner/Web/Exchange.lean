import Gleaner.Charset.Basic
import Gleaner.Text.Quoted
import Gleaner.Url.Basic

/-!
What goes over the wire: messages to servers, their replies, and the reasons for which a message has
no reply. A `Web` answers messages; of its own state nothing is known.
-/
namespace Gleaner.Web

/-- A request as it is sent. A header may stand in it more than once. -/
structure Message where
  method : String
  url : Url
  headers : List (String × String)
  deriving DecidableEq

/-- Why a message was not sent, or has no reply. -/
inductive Failure where
  /-- A header that cannot be written. -/
  | badHeader
  /-- An address that no server has. -/
  | badTarget (url : String)
  | unanswered (url : String)
  /-- Redirected once too often. -/
  | redirected (url : String)
  deriving DecidableEq, Repr

def Failure.message : Failure → String
  | .badHeader => "builder error"
  | .badTarget url => "builder error for url (" ++ url ++ ")"
  | .unanswered url => "error sending request for url (" ++ url ++ ")"
  | .redirected url => "error following redirect for url (" ++ url ++ ")"

structure Reply where
  status : Nat
  /-- The address that replied. -/
  url : Url
  headers : List (String × String)
  /-- The length that the reply announces for its body. -/
  announced : Option Nat
  /-- The bytes of the body, unless it ended too early. -/
  body : Option (List Nat)
  /-- The charset that statistics of these bytes suggest. It counts where nothing else tells one. -/
  suggested : Charset

abbrev Answer := Except Failure Reply

/-- Why a request to a site has no response. -/
inductive FetchError where
  | badAddress (address : String)
  | failed (f : Failure)
  | tooLarge
  | cutShort
  deriving DecidableEq, Repr

def FetchError.message : FetchError → String
  | .badAddress address => "invalid request url " ++ Text.quoted address
  | .failed f => "request failed: " ++ f.message
  | .tooLarge => "content too large"
  | .cutShort => "failed to read body: error decoding response body"

end Gleaner.Web

namespace Gleaner

/-- Answers messages one after another, and may change with each. -/
abbrev Web (σ : Type) := Web.Message → σ → Web.Answer × σ

end Gleaner
