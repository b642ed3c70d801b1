import Gleaner.Css.Matching
import Gleaner.Css.Parser
import Gleaner.Filter.Basic
import Gleaner.Html.Rules
import Gleaner.Json.Path

/-!
Extraction of one field. Selectors are tried in order; the first whose text is not empty, and not
blank after the filters, wins. When all miss, the filters run once on the empty text, so that a
missed number is 0.
-/
namespace Gleaner

/-- What a field is read from: what stands below some elements of a document, or a JSON value. -/
inductive Source where
  | html (document : Html.Document) (scope : List Nat)
  | json (value : Json)

namespace Extraction

/-- The attribute that holds a key of an element's data: `torrentId` is `data-torrent-id`. -/
def dataAttr (key : String) : String :=
  "data-" ++ String.ofList (key.toList.flatMap fun c => if c.isUpper then ['-', c.toLower] else [c])

/-- What a query reads of an element. -/
def readElement (d : Html.Document) (i : Nat) (q : FieldQuery) : String :=
  let attr := fun (name : String) =>
    Text.trimmed (((d.element? i).bind fun e => Html.Document.attr? e name).getD "")
  match q.dataKey, q.attr with
  | some key, _ => attr (dataAttr key)
  | none, some name => attr name
  | none, none => Text.singleSpaced (d.textOf i)

/-- The raw text at a selector. A selector that is malformed finds nothing. -/
def read (source : Source) (selector : String) (q : FieldQuery) : String :=
  match source with
  | .html d scope =>
    match (Css.Selector.parse? selector).bind fun s => s.first? d scope with
    | some i => readElement d i q
    | none => ""
  | .json j => Text.trimmed (Json.scalarText (j.at? selector))

end Extraction

/-- The extracted value, the selectors read for it, and the texts that the filters ran on. -/
structure Extraction where
  value : FieldValue
  reads : List String
  inputs : List String

namespace Extraction

/-- Tries selectors in order. -/
def firstHit (raw : String → String) (pipeline : FieldValue → FieldValue) : List String → Extraction
  | [] => ⟨pipeline (.text ""), [], [""]⟩
  | s :: rest =>
    if (raw s).isEmpty then
      let e := firstHit raw pipeline rest
      ⟨e.value, s :: e.reads, e.inputs⟩
    else
      let v := pipeline (.text (raw s))
      if v.isEmpty then
        let e := firstHit raw pipeline rest
        ⟨e.value, s :: e.reads, raw s :: e.inputs⟩
      else ⟨v, [s], [raw s]⟩

/-- Extracts one field. -/
def run (source : Source) (q : FieldQuery) (filters : FilterRegistry) : Extraction :=
  firstHit (fun s => read source s q) (filters.applyAll q.filters) q.selectors.toList

/-- How often the filter of a name was called. -/
def calls (e : Extraction) (q : FieldQuery) (filters : FilterRegistry) (name : String) : Nat :=
  if filters.contains name then e.inputs.length * (q.filters.countP fun f => f.name = name) else 0

end Extraction

/-- The value of one field. -/
def extract (source : Source) (q : FieldQuery) (filters : FilterRegistry) : FieldValue :=
  (Extraction.run source q filters).value

end Gleaner
