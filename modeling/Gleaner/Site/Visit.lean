import Gleaner.Site.Basic
import Gleaner.Site.Fetch

/-!
What is done with a site over a web. Each response has to pass two gates: a status above 400 is a
failure of the network, and the policy of the site says whether the session is still logged in. The
first failure ends a visit.
-/
namespace Gleaner

/-- What is asked of the web for a site. -/
abbrev SiteVisit (α : Type) := Web.Visit SiteError α

namespace ReadySite

def networkError (s : ReadySite) (operation : String) (cause : Cause) : SiteError :=
  ⟨.network, s.config.name, operation, some cause⟩

/-- A response, when it passes the gates. -/
def gate (s : ReadySite) (operation : String) (r : Web.Response) : Except SiteError Web.Response :=
  if 400 < r.status then .error (s.networkError operation (.status r.status))
  else if s.config.authPolicy.accepts r then .ok r
  else .error ⟨.authentication, s.config.name, operation, some (.loggedOut r.finalUrl)⟩

/-- The address that a request starts from. -/
def baseOf (s : ReadySite) (r : Request) : String := r.baseUrl.getD s.config.activeUrl

/-- Sends a request for an operation. -/
def send (s : ReadySite) (operation : String) (r : Request) : SiteVisit Web.Response :=
  (r.fetch s.headers.entries (s.baseOf r)).recover fun
    | .error e => .error (s.networkError operation (.fetch e))
    | .ok response => s.gate operation response

/-- Searches the site, and extracts the rows of the results. -/
def search (s : ReadySite) (filter : SearchFilter) : SiteVisit (List Entity) := do
  let response ← s.send "Search" (s.config.search.build filter)
  return s.searchPage response.text

/-- The parameters that a profile has for an assertion; none unless every field is filled. -/
def assertedParams? (profile : Entity) (assertion : List (String × String)) :
    Option (List (String × String)) :=
  assertion.mapM fun a =>
    ((profile.get? a.1).filter fun v => !v.isEmpty).map fun v => (a.2, v.asText)

/-- The fields that tell about the user. -/
def profileFields (s : ReadySite) : List String :=
  ((s.config.group? SiteConfig.profileGroup).map OrderedMap.keys).getD []

/-- The fields that a step extracts: those it lists, or all that earlier steps left empty. -/
def stepFields (s : ReadySite) (profile : Entity) (step : ProfileStep) : List String :=
  if step.fields.isEmpty then
    s.profileFields.filter fun name => (profile.get? name).all FieldValue.isZero
  else step.fields

/-- The request of a step, with the parameters that earlier steps fill. -/
def stepRequest (step : ProfileStep) (params : List (String × String)) : Request :=
  let r := Request.ofTemplate step.request
  { r with params := r.params ++ params }

/-- What a step finds in a response. -/
def stepFound (s : ReadySite) (profile : Entity) (step : ProfileStep) (response : Web.Response) :
    Entity :=
  s.profilePage response.text step.format (some (s.stepFields profile step))

/-- One step of the profile. It is passed over when its assertion does not hold. -/
def profileStep? (s : ReadySite) (profile : Entity) (step : ProfileStep) :
    Option (SiteVisit Entity) :=
  (assertedParams? profile step.assertion.entries).map fun params => do
    let response ← s.send "UserInfo" (stepRequest step params)
    return s.stepFound profile step response

/-- Goes through the steps of the profile. -/
def profileSteps (s : ReadySite) (profile : Entity) : List ProfileStep → SiteVisit Entity
  | [] => return profile
  | step :: rest =>
    match s.profileStep? profile step with
    | none => s.profileSteps profile rest
    | some visit => do
      let found ← visit
      s.profileSteps (profile.mergeFilled found) rest

/-- Collects what the site tells about the user, by its steps or from its first page. -/
def userInfo (s : ReadySite) : SiteVisit Entity :=
  match s.config.profile.getD [] with
  | [] => do
    let response ← s.send "UserInfo" (Request.get "")
    return s.profilePage response.text .document none
  | steps => s.profileSteps OrderedMap.empty steps

/-- Whether the site answers with a page of a session that is logged in. -/
def ping (s : ReadySite) : SiteVisit Bool :=
  (s.send "Ping" (Request.get "")).recover fun
    | .ok _ => .ok true
    | .error e => if e.kind = .authentication then .ok false else .error e

end ReadySite

namespace Site

variable {α : Type}

/-- Visits the site once it is ready. -/
def visit (s : Site) (f : ReadySite → SiteVisit α) : SiteVisit α := do f (← .done s.ready)

def request (s : Site) (r : Request) : SiteVisit Web.Response := s.visit (·.send "Request" r)

def search (s : Site) (filter : SearchFilter) : SiteVisit (List Entity) := s.visit (·.search filter)

def userInfo (s : Site) : SiteVisit Entity := s.visit (·.userInfo)

def ping (s : Site) : SiteVisit Bool := s.visit (·.ping)

end Site

end Gleaner
