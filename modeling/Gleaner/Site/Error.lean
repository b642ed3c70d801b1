import Gleaner.Web.Exchange

/-!
What can go wrong: a configuration that does not hold, and operations on a site that fail.
-/
namespace Gleaner

inductive ConfigError where
  | missingUrl (site : String)
  | invalidUrl (url reason : String)
  /-- The merged document is no configuration. -/
  | schema (reason : String)
  | unknownFilter (group field filter : String)
  /-- The text holds no site definitions. -/
  | parse (reason : String)
  deriving DecidableEq, Repr

namespace ConfigError

def message : ConfigError → String
  | .missingUrl site => "site " ++ Text.quoted site ++ " has no base url"
  | .invalidUrl url reason => "invalid base url " ++ Text.quoted url ++ ": " ++ reason
  | .schema reason => "invalid configuration: " ++ reason
  | .unknownFilter group field filter =>
    "unknown filter " ++ Text.quoted filter ++ " in " ++ group ++ "." ++ field
  | .parse reason => "failed to parse site definitions: " ++ reason

end ConfigError

/-- The three kinds of failure that a caller tells apart. -/
inductive FailureKind where
  | config
  | network
  | authentication
  deriving DecidableEq, Repr

def FailureKind.message : FailureKind → String
  | .config => "configuration error"
  | .network => "network error"
  | .authentication => "not authenticated"

/-- What made an operation fail. -/
inductive Cause where
  | config (e : ConfigError)
  | fetch (e : Web.FetchError)
  | status (n : Nat)
  | loggedOut (url : String)
  | other (text : String)
  deriving DecidableEq, Repr

def Cause.message : Cause → String
  | .config e => e.message
  | .fetch e => e.message
  | .status n => "HTTP status " ++ String.ofList (Nat.toDigits 10 n)
  | .loggedOut url => "login required at " ++ url
  | .other text => text

structure SiteError where
  kind : FailureKind
  site : String
  operation : String
  cause : Option Cause
  deriving DecidableEq, Repr

def SiteError.message (e : SiteError) : String :=
  "trawl: " ++ e.operation ++ " " ++ e.site ++ ": " ++ e.kind.message ++
    match e.cause with
    | some c => ": " ++ c.message
    | none => ""

end Gleaner
