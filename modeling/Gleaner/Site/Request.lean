import Gleaner.Json.Printer
import Gleaner.Json.Record
import Gleaner.Link
import Gleaner.Web.Exchange

/-!
Requests to a site, and the templates that site data has for them.
-/
namespace Gleaner

/-- A request as written in site data. -/
structure RequestTemplate where
  url : Option String
  method : Option String
  baseUrl : Option String
  params : OrderedMap Json
  headers : OrderedMap String

namespace RequestTemplate

def empty : RequestTemplate := ⟨none, none, none, OrderedMap.empty, OrderedMap.empty⟩

def fieldNames : List String := ["url", "method", "baseUrl", "params", "headers"]

def toFields (t : RequestTemplate) : List (String × Option Json) :=
  [("url", t.url.map .str), ("method", t.method.map .str), ("baseUrl", t.baseUrl.map .str),
    ("params", Json.omitIf t.params.isEmpty (Json.ofMap id t.params)),
    ("headers", Json.omitIf t.headers.isEmpty (Json.ofMap .str t.headers))]

def toJson (t : RequestTemplate) : Json := .ofFields t.toFields

def ofFields? (field : String → Option Json) : Option RequestTemplate := do
  let url ← Json.optional Json.str? (field "url")
  let method ← Json.optional Json.str? (field "method")
  let baseUrl ← Json.optional Json.str? (field "baseUrl")
  let params ← Json.withDefault (Json.mapOf? Json.anyValue?) OrderedMap.empty (field "params")
  let headers ← Json.withDefault (Json.mapOf? Json.str?) OrderedMap.empty (field "headers")
  some ⟨url, method, baseUrl, params, headers⟩

def ofJson? : Json → Option RequestTemplate := Json.record? fieldNames ofFields?

end RequestTemplate

/-- A request to a site. Its address is absolute, or a path on a base. -/
structure Request where
  method : String
  url : String
  baseUrl : Option String
  params : List (String × String)
  headers : List (String × String)
  deriving DecidableEq, Repr

namespace Request

/-- A plain request for a page. -/
def get (url : String) : Request := ⟨"GET", url, none, [], []⟩

def withParam (r : Request) (key value : String) : Request :=
  { r with params := r.params ++ [(key, value)] }

def withBase (r : Request) (base : String) : Request := { r with baseUrl := some base }

/-- A parameter as it appears in a query. -/
def paramText : Json → String
  | .str s => s
  | .null => ""
  | j => j.compact

/-- The characters of methods and of header names. -/
def isTokenChar (c : Char) : Bool := c.isAlphanum || "!#$%&'*+-.^_|~".contains c || c.toNat = 0x60

def isToken (s : String) : Bool := !s.isEmpty && s.toList.all isTokenChar

/-- The method of a name, in upper case; `GET` for what is none. -/
def methodOf (name : Option String) : String :=
  match name.filter isToken with
  | some n => Text.asciiUpper n
  | none => "GET"

def ofTemplate (t : RequestTemplate) : Request :=
  ⟨methodOf t.method, t.url.getD "", t.baseUrl, t.params.entries.map fun p => (p.1, paramText p.2),
    t.headers.entries⟩

/-- The address that is asked for, without the parameters, as written. -/
def written (r : Request) (base : String) : String :=
  if Link.isWeb r.url.toList then r.url else Link.join base r.url

/-- The address that is asked for. -/
def resolve (r : Request) (base : String) : Except Web.FetchError Url :=
  match Url.parse (r.written base) with
  | .ok u => .ok (u.addPairs r.params)
  | .error _ => .error (.badAddress (r.written base))

end Request

end Gleaner
