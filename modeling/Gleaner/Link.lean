import Gleaner.Url.Parser
import Gleaner.Text.Case

/-!
Links as pages write them, made absolute against the address of their site.
-/
namespace Gleaner.Link

/-- The text without slashes at its end. -/
def withoutEndSlashes (cs : List Char) : List Char :=
  (cs.reverse.dropWhile (· = '/')).reverse

/-- Puts a path onto a base with one slash between them. The last segment of the base stays; a bare
query or fragment is attached as it is, and an empty path adds nothing. -/
def joinChars (base path : List Char) : List Char :=
  let base := withoutEndSlashes base
  match path with
  | [] => base
  | c :: _ =>
    if c = '?' || c = '#' then base ++ path else base ++ '/' :: path.dropWhile (· = '/')

def join (base path : String) : String := String.ofList (joinChars base.toList path.toList)

/-- Whether a text starts, in whatever case, with the scheme of a page. -/
def isWeb (cs : List Char) : Bool :=
  let lower := cs.map Char.toLower
  "http://".toList.isPrefixOf lower || "https://".toList.isPrefixOf lower

/-- The scheme of an address; that of secure pages when it has none. -/
def schemeOf (address : String) : List Char :=
  match Url.parse address with
  | .ok u => u.scheme
  | .error _ => "https".toList

/-- The absolute form of a link on a site. Magnet links and web addresses stay as they are, a link
without a scheme takes that of the site, and all else is a path on the site. -/
def normalize (active raw : String) : String :=
  let cs := Text.trim raw.toList
  if cs.isEmpty then ""
  else if "magnet:".toList.isPrefixOf cs then String.ofList cs
  else if ['/', '/'].isPrefixOf cs then String.ofList (schemeOf active ++ ':' :: cs)
  else if isWeb cs then String.ofList cs
  else String.ofList (joinChars active.toList cs)

end Gleaner.Link
