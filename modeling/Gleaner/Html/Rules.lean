import Gleaner.Html.Foreign

/-!
The rules of the insertion modes: what a token does to the document under construction. A rule may
ask for its token to be handled again, in the mode it has changed to.
-/
namespace Gleaner.Html

/-- The state after a token, and whether the token is handled again. -/
structure Step where
  builder : Builder
  again : Bool

namespace Builder

def done (b : Builder) : Step := ⟨b, false⟩

def again (b : Builder) (mode : Mode) : Step := ⟨{ b with mode }, true⟩

def headNames : List String :=
  ["base", "basefont", "bgsound", "link", "meta", "noframes", "script", "style", "template",
    "title"]

/-! ### Before the body -/

/-- Public identifiers, or their beginnings, of documents in the old style. -/
def oldPublicIds : List String :=
  ["-//advasoft ltd//dtd html 3.0 aswedit + extensions//",
    "-//as//dtd html 3.0 aswedit + extensions//", "-//ietf//dtd html 2.0 level 1//",
    "-//ietf//dtd html 2.0 level 2//", "-//ietf//dtd html 2.0 strict level 1//",
    "-//ietf//dtd html 2.0 strict level 2//", "-//ietf//dtd html 2.0 strict//",
    "-//ietf//dtd html 2.0//", "-//ietf//dtd html 2.1e//", "-//ietf//dtd html 3.0//",
    "-//ietf//dtd html 3.2 final//", "-//ietf//dtd html 3.2//", "-//ietf//dtd html 3//",
    "-//ietf//dtd html level 0//", "-//ietf//dtd html level 1//", "-//ietf//dtd html level 2//",
    "-//ietf//dtd html level 3//", "-//ietf//dtd html strict level 0//",
    "-//ietf//dtd html strict level 1//", "-//ietf//dtd html strict level 2//",
    "-//ietf//dtd html strict level 3//", "-//ietf//dtd html strict//", "-//ietf//dtd html//",
    "-//metrius//dtd metrius presentational//",
    "-//microsoft//dtd internet explorer 2.0 html strict//",
    "-//microsoft//dtd internet explorer 2.0 html//",
    "-//microsoft//dtd internet explorer 2.0 tables//",
    "-//microsoft//dtd internet explorer 3.0 html strict//",
    "-//microsoft//dtd internet explorer 3.0 html//",
    "-//microsoft//dtd internet explorer 3.0 tables//", "-//netscape comm. corp.//dtd html//",
    "-//netscape comm. corp.//dtd strict html//", "-//o'reilly and associates//dtd html 2.0//",
    "-//o'reilly and associates//dtd html extended 1.0//",
    "-//o'reilly and associates//dtd html extended relaxed 1.0//",
    "-//softquad software//dtd hotmetal pro 6.0::19990601::extensions to html 4.0//",
    "-//softquad//dtd hotmetal pro 4.0::19971010::extensions to html 4.0//",
    "-//spyglass//dtd html 2.0 extended//", "-//sq//dtd html 2.0 hotmetal + extensions//",
    "-//sun microsystems corp.//dtd hotjava html//",
    "-//sun microsystems corp.//dtd hotjava strict html//", "-//w3c//dtd html 3 1995-03-24//",
    "-//w3c//dtd html 3.2 draft//", "-//w3c//dtd html 3.2 final//", "-//w3c//dtd html 3.2//",
    "-//w3c//dtd html 3.2s draft//", "-//w3c//dtd html 4.0 frameset//",
    "-//w3c//dtd html 4.0 transitional//", "-//w3c//dtd html experimental 19960712//",
    "-//w3c//dtd html experimental 970421//", "-//w3c//dtd w3 html//", "-//w3o//dtd w3 html 3.0//",
    "-//webtechs//dtd mozilla html 2.0//", "-//webtechs//dtd mozilla html//"]

/-- Whether a document type asks for the old style. -/
def Doctype.isOld (d : Doctype) : Bool :=
  let lower := fun (s : String) => String.ofList (s.toList.map Char.toLower)
  let isPublic := fun (p : String → Bool) => match d.publicId with
    | some id => p (lower id)
    | none => false
  d.broken || d.name != "html" ||
    isPublic (fun id =>
      ["-//w3o//dtd w3 html strict 3.0//en//", "-/w3c/dtd html 4.0 transitional/en",
          "html"].contains id ||
        oldPublicIds.any fun old => old.toList.isPrefixOf id.toList) ||
    d.systemId.any (fun id =>
      lower id = "http://www.ibm.com/data/dtd/v11/ibmxhtml1-transitional.dtd") ||
    (d.systemId.isNone && isPublic fun id =>
      ["-//w3c//dtd html 4.01 frameset//", "-//w3c//dtd html 4.01 transitional//"].any fun old =>
        old.toList.isPrefixOf id.toList)

def onInitial (b : Builder) : Token → Step
  | .text cs => if cs.all isSpace then b.done else { b with quirks := true }.again .beforeHtml
  | .comment => (b.insertCommentIn Document.root).done
  | .doctype d =>
    let (doc, i) := b.doc.add .doctype
    let b := { b with doc := doc.append Document.root i, quirks := Doctype.isOld d }
    (b.withMode .beforeHtml).done
  | _ => { b with quirks := true }.again .beforeHtml

/-- Makes the outermost element. -/
def openHtml (b : Builder) (t : Tag) : Builder :=
  let (b, i) := b.makeFor t
  (b.insertAt (.last Document.root) i).push i

def onBeforeHtml (b : Builder) (token : Token) : Step :=
  let other := (b.openHtml ⟨"html", [], false⟩).again .beforeHead
  match token with
  | .doctype _ => b.done
  | .comment => (b.insertCommentIn Document.root).done
  | .text cs => if cs.all isSpace then b.done else other
  | .start t => if t.name = "html" then ((b.openHtml t).withMode .beforeHead).done else other
  | .stop name => if ["head", "body", "html", "br"].contains name then other else b.done
  | _ => other

/-- A second outermost tag: it can only add attributes. -/
def onHtmlTag (b : Builder) (t : Tag) : Step :=
  if b.hasOpen "template" then b.done
  else { b with doc := b.doc.addAttrs (b.openElements.getLastD Document.root) t.attrs }.done

def openHead (b : Builder) (t : Tag) : Builder :=
  let b := b.insert t
  { b with headElement := some b.current, mode := .inHead }

def onBeforeHead (b : Builder) (token : Token) : Step :=
  let other := (b.openHead ⟨"head", [], false⟩).again .inHead
  match token with
  | .doctype _ => b.done
  | .comment => b.insertComment.done
  | .text cs => if cs.all isSpace then b.done else other
  | .start t =>
    if t.name = "html" then b.onHtmlTag t
    else if t.name = "head" then (b.openHead t).done
    else other
  | .stop name => if ["head", "body", "html", "br"].contains name then other else b.done
  | _ => other

/-- A tag of those that belong into the head, wherever it stands. -/
def onHeadTag (b : Builder) (t : Tag) : Step :=
  match t.name with
  | "title" => (b.insertTextElement t .rcdata).done
  | "noframes" | "style" | "noscript" => (b.insertTextElement t .raw).done
  | "script" => (b.insertTextElement t .script).done
  | "template" =>
    let b := { (b.insert t).addMarker with framesetOk := false, mode := .inTemplate }
    { b with templateModes := .inTemplate :: b.templateModes }.done
  | _ => (b.insertEmpty t).done

def onTemplateEnd (b : Builder) : Step :=
  if b.hasOpen "template" then b.closeAllImplied.closeTemplate.resetMode.done else b.done

def onInHead (b : Builder) (token : Token) : Step :=
  let other := b.pop.again .afterHead
  match token with
  | .text cs => if cs.all isSpace then (b.insertText cs).done else other
  | .comment => b.insertComment.done
  | .doctype _ => b.done
  | .start t =>
    if t.name = "html" then b.onHtmlTag t
    else if t.name = "noscript" || headNames.contains t.name then b.onHeadTag t
    else if t.name = "head" then b.done
    else other
  | .stop name =>
    match name with
    | "head" => (b.pop.withMode .afterHead).done
    | "body" | "html" | "br" => other
    | "template" => b.onTemplateEnd
    | _ => b.done
  | _ => other

def onAfterHead (b : Builder) (token : Token) : Step :=
  let other := (b.insertNamed "body").again .inBody
  match token with
  | .text cs => if cs.all isSpace then (b.insertText cs).done else other
  | .comment => b.insertComment.done
  | .doctype _ => b.done
  | .start t =>
    if t.name = "html" then b.onHtmlTag t
    else if t.name = "body" then ({ b.insert t with framesetOk := false }.withMode .inBody).done
    else if t.name = "frameset" then ((b.insert t).withMode .inFrameset).done
    else if headNames.contains t.name then
      match b.headElement with
      | some head =>
        let s := (b.push head).onHeadTag t
        ⟨s.builder.removeOpen head, s.again⟩
      | none => other
    else if t.name = "head" then b.done
    else other
  | .stop name =>
    match name with
    | "template" => b.onTemplateEnd
    | "body" | "html" | "br" => other
    | _ => b.done
  | _ => other

/-! ### The body -/

def blockNames : List String :=
  ["address", "article", "aside", "blockquote", "center", "details", "dialog", "dir", "div", "dl",
    "fieldset", "figcaption", "figure", "footer", "header", "hgroup", "main", "menu", "nav", "ol",
    "search", "section", "summary", "ul"]

def formattingNames : List String :=
  ["b", "big", "code", "em", "font", "i", "s", "small", "strike", "strong", "tt", "u"]

def tableTags : List String :=
  ["caption", "col", "colgroup", "frame", "head", "tbody", "td", "tfoot", "th", "thead", "tr"]

/-- Closes an item that is open, for the next one: `li`, or one of `dd` and `dt`. -/
def closeItem (b : Builder) (names : List String) : Builder :=
  let stops := fun i => b.isSpecial i && !b.isAny ["address", "div", "p"] i
  match b.openElements.find? fun i => b.isAny names i || stops i with
  | some i =>
    if b.isAny names i then
      let name := b.nameOf i
      (b.closeImplied name).popUntil [name]
    else b
  | none => b

def isHiddenInput (t : Tag) : Bool :=
  (t.attrs.lookup "type").any fun v => String.ofList (v.toList.map Char.toLower) = "hidden"

def onBodyStart (b : Builder) (t : Tag) : Step :=
  let noFrameset := fun (b : Builder) => { b with framesetOk := false }
  let name := t.name
  if name = "html" then b.onHtmlTag t
  else if headNames.contains name then b.onHeadTag t
  else if blockNames.contains name || name = "p" then (b.closeOpenParagraph.insert t).done
  else if headings.contains name then
    let b := b.closeOpenParagraph
    let b := if headings.contains b.currentName then b.pop else b
    (b.insert t).done
  else if formattingNames.contains name then ((b.reconstruct.insert t).activate t).done
  else if tableTags.contains name then b.done
  else match name with
  | "body" =>
    match b.openElements.reverse with
    | _ :: body :: _ =>
      if b.nameOf body != "body" || b.hasOpen "template" then b.done
      else { noFrameset b with doc := b.doc.addAttrs body t.attrs }.done
    | _ => b.done
  | "frameset" =>
    match b.openElements.reverse with
    | html :: body :: _ =>
      if b.nameOf body != "body" || !b.framesetOk then b.done
      else
        let b := { b with doc := b.doc.detach body, openElements := [html] }
        ((b.insert t).withMode .inFrameset).done
    | _ => b.done
  | "pre" | "listing" => { noFrameset (b.closeOpenParagraph.insert t) with dropsLine := true }.done
  | "form" =>
    let apart := b.hasOpen "template"
    if b.formElement.isSome && !apart then b.done
    else
      let b := b.closeOpenParagraph.insert t
      (if apart then b else { b with formElement := some b.current }).done
  | "li" => (((noFrameset b).closeItem ["li"]).closeOpenParagraph.insert t).done
  | "dd" | "dt" => (((noFrameset b).closeItem ["dd", "dt"]).closeOpenParagraph.insert t).done
  | "plaintext" => { b.closeOpenParagraph.insert t with textMode := .plain }.done
  | "button" =>
    let b := if b.inScope ["button"] then (b.closeImplied "").popUntil ["button"] else b
    (noFrameset (b.reconstruct.insert t)).done
  | "a" =>
    let b := match b.lastActive? "a" with
      | some (i, _) => ((b.adopt "a").deactivate i).removeOpen i
      | none => b
    ((b.reconstruct.insert t).activate t).done
  | "nobr" =>
    let b := b.reconstruct
    let b := if b.inScope ["nobr"] then (b.adopt "nobr").reconstruct else b
    ((b.insert t).activate t).done
  | "applet" | "marquee" | "object" => (noFrameset (b.reconstruct.insert t).addMarker).done
  | "table" =>
    let b := if b.quirks then b else b.closeOpenParagraph
    ((noFrameset (b.insert t)).withMode .inTable).done
  | "area" | "br" | "embed" | "img" | "keygen" | "wbr" =>
    (noFrameset (b.reconstruct.insertEmpty t)).done
  | "input" =>
    let b := b.reconstruct.insertEmpty t
    (if isHiddenInput t then b else noFrameset b).done
  | "param" | "source" | "track" => (b.insertEmpty t).done
  | "hr" => (noFrameset (b.closeOpenParagraph.insertEmpty t)).done
  | "image" => (noFrameset (b.reconstruct.insertEmpty { t with name := "img" })).done
  | "textarea" => { noFrameset (b.insertTextElement t .rcdata) with dropsLine := true }.done
  | "xmp" => ((noFrameset b.closeOpenParagraph.reconstruct).insertTextElement t .raw).done
  | "iframe" => ((noFrameset b).insertTextElement t .raw).done
  | "noembed" | "noscript" => (b.insertTextElement t .raw).done
  | "select" =>
    let inTables := [Mode.inTable, .inCaption, .inTableBody, .inRow, .inCell].contains b.mode
    let b := noFrameset (b.reconstruct.insert t)
    (b.withMode (if inTables then .inSelectInTable else .inSelect)).done
  | "optgroup" | "option" =>
    let b := if b.currentName = "option" then b.pop else b
    (b.reconstruct.insert t).done
  | "rb" | "rtc" => ((if b.inScope ["ruby"] then b.closeImplied "" else b).insert t).done
  | "rp" | "rt" => ((if b.inScope ["ruby"] then b.closeImplied "rtc" else b).insert t).done
  | "math" => (b.reconstruct.insertForeign .math t).done
  | "svg" => (b.reconstruct.insertForeign .svg t).done
  | _ => (b.reconstruct.insert t).done

def onBodyStop (b : Builder) (name : String) : Step :=
  let close := fun (names : List String) =>
    if b.inScope names then ((b.closeImplied "").popUntil names).done else b.done
  if blockNames.contains name || ["button", "listing", "pre"].contains name then close [name]
  else if headings.contains name then close headings
  else if formattingNames.contains name || name = "a" || name = "nobr" then (b.adopt name).done
  else match name with
  | "template" => b.onTemplateEnd
  | "body" => if b.inScope ["body"] then (b.withMode .afterBody).done else b.done
  | "html" => if b.inScope ["body"] then b.again .afterBody else b.done
  | "form" =>
    if b.hasOpen "template" then close ["form"]
    else
      match b.formElement with
      | none => b.done
      | some form =>
        let b := { b with formElement := none }
        if inScopeOf (· = form) (b.endsScope []) b.openElements then
          ((b.closeImplied "").removeOpen form).done
        else b.done
  | "p" => (if b.inButtonScope ["p"] then b else b.insertNamed "p").closeParagraph.done
  | "li" =>
    if b.inListScope ["li"] then ((b.closeImplied "li").popUntil ["li"]).done else b.done
  | "dd" | "dt" =>
    if b.inScope [name] then ((b.closeImplied name).popUntil [name]).done else b.done
  | "applet" | "marquee" | "object" =>
    if b.inScope [name] then ((b.closeImplied "").popUntil [name]).clearToMarker.done else b.done
  | "br" => { b.reconstruct.insertEmpty ⟨"br", [], false⟩ with framesetOk := false }.done
  | _ => (b.closeAny name).done

/-- The end of the text within a template. -/
def onTemplateEof (b : Builder) : Step :=
  if b.hasOpen "template" then ⟨b.closeTemplate.resetMode, true⟩ else b.done

def onInBody (b : Builder) : Token → Step
  | .text cs =>
    if cs.all isNull then b.done
    else
      let b := b.reconstruct.insertText cs
      (if cs.all isSpace then b else { b with framesetOk := false }).done
  | .comment => b.insertComment.done
  | .start t => b.onBodyStart t
  | .stop name => b.onBodyStop name
  | .eof => if b.templateModes.isEmpty then b.done else b.onTemplateEof
  | _ => b.done

/-! ### Text and templates -/

/-- Leaves an element whose content was read in another way. -/
def leaveText (b : Builder) : Builder :=
  { b.pop with mode := b.outerMode, textMode := .data }

def onText (b : Builder) : Token → Step
  | .text cs => (b.insertText cs).done
  | .eof => ⟨b.leaveText, true⟩
  | .stop _ => b.leaveText.done
  | _ => b.done

def onInTemplate (b : Builder) (token : Token) : Step :=
  let turn := fun (mode : Mode) =>
    { b with templateModes := mode :: b.templateModes.drop 1 }.again mode
  match token with
  | .start t =>
    if headNames.contains t.name then b.onHeadTag t
    else match t.name with
    | "caption" | "colgroup" | "tbody" | "tfoot" | "thead" => turn .inTable
    | "col" => turn .inColumnGroup
    | "tr" => turn .inTableBody
    | "td" | "th" => turn .inRow
    | _ => turn .inBody
  | .stop name => if name = "template" then b.onTemplateEnd else b.done
  | .eof => b.onTemplateEof
  | token => b.onInBody token

/-! ### Tables -/

def tablePartNames : List String := ["table", "tbody", "template", "tfoot", "thead", "tr"]

/-- What does not belong into a table goes in front of it. -/
def fostered (b : Builder) (token : Token) : Step :=
  let s := { b with fostering := true }.onInBody token
  ⟨{ s.builder with fostering := false }, s.again⟩

def backToTable (b : Builder) : Builder := b.popBack ["table", "template", "html"]

def backToTableBody (b : Builder) : Builder :=
  b.popBack ["tbody", "tfoot", "thead", "template", "html"]

def backToRow (b : Builder) : Builder := b.popBack ["tr", "template", "html"]

def onTableStart (b : Builder) (t : Tag) : Step :=
  match t.name with
  | "caption" => ((b.backToTable.addMarker.insert t).withMode .inCaption).done
  | "colgroup" => ((b.backToTable.insert t).withMode .inColumnGroup).done
  | "col" => (b.backToTable.insertNamed "colgroup").again .inColumnGroup
  | "tbody" | "tfoot" | "thead" => ((b.backToTable.insert t).withMode .inTableBody).done
  | "td" | "th" | "tr" => (b.backToTable.insertNamed "tbody").again .inTableBody
  | "table" =>
    if b.inTableScope ["table"] then ⟨(b.popUntil ["table"]).resetMode, true⟩ else b.done
  | "style" | "script" | "template" => b.onHeadTag t
  | "input" => if isHiddenInput t then (b.insertEmpty t).done else b.fostered (.start t)
  | "form" =>
    if b.formElement.isSome || b.hasOpen "template" then b.done
    else
      let b := b.insert t
      { b with formElement := some b.current }.pop.done
  | _ => b.fostered (.start t)

def onInTable (b : Builder) : Token → Step
  | .text cs =>
    if tablePartNames.contains b.currentName then
      { b with tableText := [], outerMode := b.mode }.again .inTableText
    else b.fostered (.text cs)
  | .comment => b.insertComment.done
  | .doctype _ => b.done
  | .start t => b.onTableStart t
  | .stop name =>
    match name with
    | "table" =>
      if b.inTableScope ["table"] then (b.popUntil ["table"]).resetMode.done else b.done
    | "body" | "caption" | "col" | "colgroup" | "html" | "tbody" | "td" | "tfoot" | "th" | "thead"
    | "tr" => b.done
    | "template" => b.onTemplateEnd
    | _ => b.fostered (.stop name)
  | .eof => b.onInBody .eof
  | token => b.fostered token

/-- Text in a table is held back: blanks stay in the table, anything else is fostered. -/
def onInTableText (b : Builder) : Token → Step
  | .text cs =>
    (if cs.all isNull then b else { b with tableText := b.tableText ++ [cs] }).done
  | _ =>
    let held := b.tableText
    let b := if held.all fun cs => cs.all isSpace then held.foldl insertText b
      else held.foldl (fun b cs => (b.fostered (.text cs)).builder) b
    { b with tableText := [] }.again b.outerMode

def onInCaption (b : Builder) (token : Token) : Step :=
  let close := ((b.closeImplied "").popUntil ["caption"]).clearToMarker
  let leave := if b.inTableScope ["caption"] then close.again .inTable else b.done
  match token with
  | .start t =>
    if tableEnds.contains t.name || t.name = "col" then leave else b.onInBody token
  | .stop name =>
    match name with
    | "caption" =>
      if b.inTableScope ["caption"] then (close.withMode .inTable).done else b.done
    | "table" => leave
    | "body" | "col" | "colgroup" | "html" | "tbody" | "td" | "tfoot" | "th" | "thead"
    | "tr" => b.done
    | _ => b.onInBody token
  | _ => b.onInBody token

def onInColumnGroup (b : Builder) (token : Token) : Step :=
  let isHere := b.currentName = "colgroup"
  let other := if isHere then b.pop.again .inTable else b.done
  match token with
  | .text cs => if cs.all isSpace then (b.insertText cs).done else other
  | .comment => b.insertComment.done
  | .doctype _ => b.done
  | .start t =>
    match t.name with
    | "html" => b.onHtmlTag t
    | "col" => (b.insertEmpty t).done
    | "template" => b.onHeadTag t
    | _ => other
  | .stop name =>
    match name with
    | "colgroup" => if isHere then (b.pop.withMode .inTable).done else b.done
    | "col" => b.done
    | "template" => b.onTemplateEnd
    | _ => other
  | .eof => b.onInBody .eof
  | _ => other

def onInTableBody (b : Builder) (token : Token) : Step :=
  let parts := ["tbody", "tfoot", "thead"]
  let leave :=
    if b.inTableScope parts then b.backToTableBody.pop.again .inTable else b.done
  match token with
  | .start t =>
    match t.name with
    | "tr" => ((b.backToTableBody.insert t).withMode .inRow).done
    | "th" | "td" => (b.backToTableBody.insertNamed "tr").again .inRow
    | "caption" | "col" | "colgroup" | "tbody" | "tfoot" | "thead" => leave
    | _ => b.onInTable token
  | .stop name =>
    match name with
    | "tbody" | "tfoot" | "thead" =>
      if b.inTableScope [name] then (b.backToTableBody.pop.withMode .inTable).done else b.done
    | "table" => leave
    | "body" | "caption" | "col" | "colgroup" | "html" | "td" | "th" | "tr" => b.done
    | _ => b.onInTable token
  | _ => b.onInTable token

def onInRow (b : Builder) (token : Token) : Step :=
  let leave :=
    if b.inTableScope ["tr"] then b.backToRow.pop.again .inTableBody else b.done
  match token with
  | .start t =>
    match t.name with
    | "th" | "td" => ((b.backToRow.insert t).withMode .inCell).addMarker.done
    | "caption" | "col" | "colgroup" | "tbody" | "tfoot" | "thead" | "tr" => leave
    | _ => b.onInTable token
  | .stop name =>
    match name with
    | "tr" =>
      if b.inTableScope ["tr"] then (b.backToRow.pop.withMode .inTableBody).done else b.done
    | "table" => leave
    | "tbody" | "tfoot" | "thead" => if b.inTableScope [name] then leave else b.done
    | "body" | "caption" | "col" | "colgroup" | "html" | "td" | "th" => b.done
    | _ => b.onInTable token
  | _ => b.onInTable token

def closeCell (b : Builder) : Builder :=
  (((b.closeImplied "").popUntil ["td", "th"]).clearToMarker).withMode .inRow

def onInCell (b : Builder) (token : Token) : Step :=
  match token with
  | .start t =>
    if tableEnds.contains t.name || t.name = "col" then
      if b.inTableScope ["td", "th"] then ⟨b.closeCell, true⟩ else b.done
    else b.onInBody token
  | .stop name =>
    match name with
    | "td" | "th" =>
      if b.inTableScope [name] then
        ((((b.closeImplied "").popUntil [name]).clearToMarker).withMode .inRow).done
      else b.done
    | "body" | "caption" | "col" | "colgroup" | "html" => b.done
    | "table" | "tbody" | "tfoot" | "thead" | "tr" =>
      if b.inTableScope [name] then ⟨b.closeCell, true⟩ else b.done
    | _ => b.onInBody token
  | _ => b.onInBody token

/-! ### Choices -/

def closeOption (b : Builder) : Builder := if b.currentName = "option" then b.pop else b

def closeOptions (b : Builder) : Builder :=
  let b := b.closeOption
  if b.currentName = "optgroup" then b.pop else b

def onInSelect (b : Builder) (token : Token) : Step :=
  let isHere := b.inSelectScope ["select"]
  let close := (b.popUntil ["select"]).resetMode
  match token with
  | .text cs => (if cs.all isNull then b else b.insertText cs).done
  | .comment => b.insertComment.done
  | .start t =>
    match t.name with
    | "html" => b.onHtmlTag t
    | "option" => (b.closeOption.insert t).done
    | "optgroup" => (b.closeOptions.insert t).done
    | "hr" => (b.closeOptions.insertEmpty t).done
    | "select" => if isHere then close.done else b.done
    | "input" | "keygen" | "textarea" => if isHere then ⟨close, true⟩ else b.done
    | "script" | "template" => b.onHeadTag t
    | _ => b.done
  | .stop name =>
    match name with
    | "optgroup" =>
      let inGroup := match b.openElements with
        | _ :: next :: _ => b.nameOf next = "optgroup"
        | _ => false
      let b := if b.currentName = "option" && inGroup then b.pop else b
      (if b.currentName = "optgroup" then b.pop else b).done
    | "option" => b.closeOption.done
    | "select" => if isHere then close.done else b.done
    | "template" => b.onTemplateEnd
    | _ => b.done
  | .eof => b.onInBody .eof
  | _ => b.done

def onInSelectInTable (b : Builder) (token : Token) : Step :=
  let names := ["caption", "table", "tbody", "tfoot", "thead", "tr", "td", "th"]
  let leave : Step := ⟨(b.popUntil ["select"]).resetMode, true⟩
  match token with
  | .start t => if names.contains t.name then leave else b.onInSelect token
  | .stop name =>
    if names.contains name then if b.inTableScope [name] then leave else b.done
    else b.onInSelect token
  | _ => b.onInSelect token

/-! ### After the body -/

def onAfterBody (b : Builder) (token : Token) : Step :=
  match token with
  | .text cs => if cs.all isSpace then b.onInBody token else b.again .inBody
  | .comment => (b.insertCommentIn (b.openElements.getLastD Document.root)).done
  | .doctype _ => b.done
  | .start t => if t.name = "html" then b.onHtmlTag t else b.again .inBody
  | .stop name =>
    if name = "html" then (b.withMode .afterAfterBody).done else b.again .inBody
  | .eof => b.onInBody .eof
  | .nothing => b.done

def onInFrameset (b : Builder) (token : Token) : Step :=
  match token with
  | .text cs => (if cs.all isSpace then b.insertText cs else b).done
  | .comment => b.insertComment.done
  | .start t =>
    match t.name with
    | "html" => b.onHtmlTag t
    | "frameset" => (b.insert t).done
    | "frame" => (b.insertEmpty t).done
    | "noframes" => b.onHeadTag t
    | _ => b.done
  | .stop name =>
    if name = "frameset" && b.openElements.length != 1 then
      let b := b.pop
      (if b.currentName = "frameset" then b else b.withMode .afterFrameset).done
    else b.done
  | _ => b.done

def onAfterFrameset (b : Builder) (token : Token) : Step :=
  match token with
  | .text cs => (if cs.all isSpace then b.insertText cs else b).done
  | .comment => b.insertComment.done
  | .start t =>
    match t.name with
    | "html" => b.onHtmlTag t
    | "noframes" => b.onHeadTag t
    | _ => b.done
  | .stop name => (if name = "html" then b.withMode .afterAfterFrameset else b).done
  | _ => b.done

def onAfterAfterBody (b : Builder) (token : Token) : Step :=
  match token with
  | .comment => (b.insertCommentIn Document.root).done
  | .doctype _ => b.done
  | .text cs => if cs.all isSpace then b.onInBody token else b.again .inBody
  | .start t => if t.name = "html" then b.onHtmlTag t else b.again .inBody
  | .stop _ => b.again .inBody
  | .eof => b.done
  | .nothing => b.done

def onAfterAfterFrameset (b : Builder) (token : Token) : Step :=
  match token with
  | .comment => (b.insertCommentIn Document.root).done
  | .text cs => if cs.all isSpace then b.onInBody token else b.done
  | .start t =>
    match t.name with
    | "html" => b.onHtmlTag t
    | "noframes" => b.onHeadTag t
    | _ => b.done
  | _ => b.done

/-! ### All modes -/

def onMode (b : Builder) (token : Token) : Step :=
  match b.mode with
  | .initial => b.onInitial token
  | .beforeHtml => b.onBeforeHtml token
  | .beforeHead => b.onBeforeHead token
  | .inHead => b.onInHead token
  | .afterHead => b.onAfterHead token
  | .inBody => b.onInBody token
  | .text => b.onText token
  | .inTable => b.onInTable token
  | .inTableText => b.onInTableText token
  | .inCaption => b.onInCaption token
  | .inColumnGroup => b.onInColumnGroup token
  | .inTableBody => b.onInTableBody token
  | .inRow => b.onInRow token
  | .inCell => b.onInCell token
  | .inSelect => b.onInSelect token
  | .inSelectInTable => b.onInSelectInTable token
  | .inTemplate => b.onInTemplate token
  | .afterBody => b.onAfterBody token
  | .inFrameset => b.onInFrameset token
  | .afterFrameset => b.onAfterFrameset token
  | .afterAfterBody => b.onAfterAfterBody token
  | .afterAfterFrameset => b.onAfterAfterFrameset token

/-- One handling of a token. -/
def step (b : Builder) (token : Token) : Step :=
  if b.isForeignToken token then
    let (b, byMode) := b.inForeign token
    if byMode then b.onMode token else b.done
  else b.onMode token

/-- Handles a token until no rule asks for more. -/
def handle : (times : Nat) → Builder → Token → Builder
  | 0, b, _ => b
  | times + 1, b, token =>
    let s := b.step token
    if s.again then handle times s.builder token else s.builder

/-- Handles a token. Each further handling goes to another mode or closes an element. -/
def accept (b : Builder) (token : Token) : Builder :=
  match token with
  | .nothing => b
  | .text cs =>
    let cs := if b.dropsLine && cs.head? == some '\n' then cs.drop 1 else cs
    let b := { b with dropsLine := false }
    if cs.isEmpty then b else handle (32 + 4 * b.openElements.length) b (.text cs)
  | token => handle (32 + 4 * b.openElements.length) { b with dropsLine := false } token

end Builder

namespace Document

/-- Builds on, token by token. The name is that of the element that was opened last. -/
def parseFrom : (fuel : Nat) → Builder → (name : String) → List Char → Builder
  | 0, b, _, _ => b
  | fuel + 1, b, name, cs =>
    let (token, rest) := Token.next b.textMode name (b.isForeign b.current) cs
    let name := match token with
      | .start t => t.name
      | _ => name
    let b := b.accept token
    match token with
    | .eof => b
    | _ => parseFrom fuel b name rest

/-- The document of a text. Each token takes a character at least. -/
def parse (text : String) : Document :=
  let cs := unixLines text.toList
  let cs := if cs.head?.any (fun c => c.toNat = 0xfeff) then cs.drop 1 else cs
  (parseFrom (cs.length + 2) Builder.start "" cs).doc

end Document

end Gleaner.Html
