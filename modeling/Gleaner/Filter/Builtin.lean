import Gleaner.Filter.Basic
import Gleaner.Pattern.Search
import Gleaner.Text.Case
import Gleaner.Text.Infix
import Gleaner.Units.Cloak
import Gleaner.Units.Duration
import Gleaner.Units.Moment
import Gleaner.Units.Number
import Gleaner.Units.Size
import Gleaner.Url.Parser

/-!
The builtin filters. Each is total: empty text becomes a zero value or stays as it is.
-/
namespace Gleaner.Filter

/-- The first value under a key in the query of a link, absolute or not. -/
def queryParam (key link : String) : String :=
  let address : Option Url :=
    match Url.parse link with
    | .ok u => some u
    | .error _ =>
      match Url.parse "http://localhost/" with
      | .ok base => (base.join link).toOption
      | .error _ => none
  ((address.bind fun u => u.queryPairs.lookup key)).getD ""

def ofText (f : String → String) : Filter := fun _ v => v.mapText f

def ofReader (f : String → Float) : Filter := fun _ v => v.readText f

/-- A filter of text whose first argument is needed; without it the value stays. -/
def withArgument (f : String → List String → String → String) : Filter := fun args v =>
  match args with
  | [] => v
  | a :: rest => v.mapText (f a rest)

/-- Text that names an instant becomes its milliseconds; other text stays. -/
def instant (now : Int) (offset : Option String) (v : FieldValue) : FieldValue :=
  match v with
  | .text s =>
    match Moment.parseAt? ⟨now, 0⟩ s offset with
    | some ms => .number (Float.ofInt ms)
    | none => .text s
  | .number x => .number x

/-- Text becomes the second that lies as far back as it says. -/
def elapsed (now : Int) (s : String) : Float :=
  if Text.blank s then 0.0 else Float.ofInt (Duration.before s now)

def groupNumber (args : List String) : Nat :=
  (args.head?.bind fun a => Decimal.natural? UInt64.size a.toList).getD 1

/-- The builtin filters, for a present given in seconds. -/
def builtin (now : Int) : List (String × Filter) :=
  [("trim", ofText Text.trimmed),
    ("lowercase", ofText Text.lower),
    ("parse_size", ofReader Size.parse),
    ("find_then_parse_size", ofReader Size.find),
    ("parse_number", ofReader Number.parse),
    ("find_then_parse_number", ofReader Number.find),
    ("parse_float", ofReader Number.leading),
    ("parse_int", ofReader fun s => Number.truncate (Number.leading s)),
    ("parse_ttl", ofReader (elapsed now)),
    ("parse_time", fun _ => instant now none),
    (FilterRegistry.zoneFilter, fun args => instant now args.head?),
    ("query_param", withArgument fun key _ => queryParam key),
    ("split_first", withArgument fun separator _ s =>
      String.ofList (Text.trim (Text.beforeFirst separator.toList s.toList))),
    ("regex", withArgument fun pattern rest => Pattern.capture pattern (groupNumber rest)),
    ("replace", withArgument fun old rest => Text.replaceAll old (rest.head?.getD "")),
    ("cf_decode_email", ofText Cloak.decode)]

/-- Filters that are not builtin, for callers that register their own: twice a number, text in upper
case, a value as it is, and always the same text. -/
def extra : List (String × Filter) :=
  [("double", fun _ v => match v with
      | .number x => .number (2.0 * x)
      | .text s => .text s),
    ("shout", ofText Text.upper),
    ("count", fun _ v => v),
    ("blank", fun args _ => .text (args.head?.getD ""))]

end Gleaner.Filter

namespace Gleaner.FilterRegistry

def builtin (now : Int) : FilterRegistry := ofList (Filter.builtin now)

end Gleaner.FilterRegistry
