import Gleaner.Cli.Arguments
import Gleaner.Site.Builtin
import Gleaner.Site.Visit

/-!
What the commands do. The files that they name are given to them, and what they ask of the web is
left as a visit.
-/
namespace Gleaner.Cli

/-- What is under the name of a file. -/
inductive FileContent where
  | absent
  | unreadable
  | text (s : String)

abbrev Files := String → FileContent

/-- Why a command fails. -/
inductive Failure where
  | unreadable (file : String)
  | noDefinition (file : String)
  | unknownSite (name : String)
  | noGroup (site group : String)
  | badCategory (text : String)
  | config (e : ConfigError)
  | site (e : SiteError)
  deriving DecidableEq, Repr

def Failure.message : Failure → String
  | .unreadable file => "failed to read " ++ file
  | .noDefinition file => "no site definition in " ++ file
  | .unknownSite name => "unknown site: " ++ name
  | .noGroup name group => "site " ++ name ++ " has no field group " ++ Text.quoted group
  | .badCategory text => "category must be KEY=VALUE, got " ++ Text.quoted text
  | .config e => e.message
  | .site e => e.message

/-- The definition that a target means: the first one in a file, or a builtin one. -/
def definition (files : Files) (target : String) : Except Failure SiteDefinition :=
  match files target with
  | .unreadable => .error (.unreadable target)
  | .absent =>
    match Builtin.registry.get? target with
    | some d => .ok d
    | none => .error (.unknownSite target)
  | .text s =>
    match SiteDefinition.parseAll s with
    | .error e => .error (.config e)
    | .ok [] => .error (.noDefinition target)
    | .ok (d :: _) => .ok d

/-- Overrides that put another address in place of that of the site. -/
def addressOverride (url : String) : Json := .obj [("url", .str url), ("activateUrl", .str url)]

def Invocation.options (i : Invocation) (filters : FilterRegistry) : SiteOptions :=
  let o := SiteOptions.ofFilters filters
  let o := match i.cookie with
    | some c => o.withCookie c
    | none => o
  match i.url with
  | some url => o.override (addressOverride url)
  | none => o

/-- The site of a target. Its configuration has to hold before anything is done with it. -/
def Invocation.site (i : Invocation) (filters : FilterRegistry) (files : Files) (target : String) :
    Except Failure ReadySite := do
  let d ← definition files target
  (Site.ready ⟨d, i.options filters⟩).mapError .site

/-- What a group of fields extracts from a saved page. -/
def extractGroup (site : ReadySite) (group body : String) : Except Failure Json :=
  if group = SiteConfig.searchGroup then .ok (.arr ((site.searchPage body).map Entity.toJson))
  else if (site.config.group? group).isNone then .error (.noGroup site.config.name group)
  else .ok (site.sectionPage group body .document none).toJson

/-- A category constraint is written with an equals sign. -/
def constraint (text : String) : Except Failure (String × String) :=
  let cs := text.toList
  match cs.dropWhile (· ≠ '=') with
  | [] => .error (.badCategory text)
  | _ :: value =>
    let trimmed := fun (cs : List Char) => String.ofList (Text.trim cs)
    .ok (trimmed (cs.takeWhile (· ≠ '=')), trimmed value)

def searchFilter (keywords categories : List String) : Except Failure SearchFilter := do
  let constraints ← categories.mapM constraint
  return ⟨if keywords.isEmpty then none else some (" ".intercalate keywords), constraints⟩

/-- The list of the builtin definitions. -/
def siteList : Json :=
  .arr (Builtin.registry.sites.map fun d =>
    .obj [("name", .str d.name), ("aka", Json.ofStrings d.aka),
      ("url", SiteConfig.optionJson d.url), ("tags", Json.ofStrings d.tags)])

/-- What a command answers. -/
def Invocation.answer (i : Invocation) (filters : FilterRegistry) (files : Files) :
    Web.Visit Failure Json :=
  match i.command with
  | .extract target group html => do
    let site ← .done (i.site filters files target)
    match files html with
    | .text body => .done (extractGroup site group body)
    | _ => .fail (.unreadable html)
  | .search target categories keywords => do
    let site ← .done (i.site filters files target)
    let filter ← .done (searchFilter keywords categories)
    let rows ← (site.search filter).recover (·.mapError .site)
    return .arr (rows.map Entity.toJson)
  | .userInfo target => do
    let site ← .done (i.site filters files target)
    let profile ← site.userInfo.recover (·.mapError .site)
    return profile.toJson
  | .sites => return siteList

/-- The files that a command may read. -/
def Invocation.fileNames (i : Invocation) : List String :=
  match i.command with
  | .extract target _ html => [target, html]
  | .search target _ _ => [target]
  | .userInfo target => [target]
  | .sites => []

/-- How the program ends. -/
structure Outcome where
  code : Nat
  output : String
  error : String
  deriving DecidableEq, Repr

def usage : String :=
  "usage: trawl [--compact] [--cookie COOKIE] [--url URL] COMMAND\n\n" ++
  "  extract --site SITE [--group GROUP] --html FILE\n" ++
  "  search --site SITE [--cat KEY=VALUE]... [KEYWORDS]...\n" ++
  "  user-info --site SITE\n" ++
  "  sites\n"

def Refusal.outcome : Refusal → Outcome
  | .help => ⟨0, usage, ""⟩
  | .misuse => ⟨2, "", usage⟩

def Invocation.outcome (i : Invocation) : Except Failure Json → Outcome
  | .ok j => ⟨0, (if i.compact then j.compact else j.pretty) ++ "\n", ""⟩
  | .error e => ⟨1, "", "Error: " ++ e.message ++ "\n"⟩

/-- Carries an invocation out on a web. -/
def Invocation.run {σ : Type} (i : Invocation) (web : Web σ) (filters : FilterRegistry)
    (files : Files) (s : σ) : Outcome :=
  i.outcome ((i.answer filters files).run web s).1

end Gleaner.Cli
