import Gleaner.Html.Reference

/-!
Tokens of markup. `Token.next` takes the first token off a text; how it reads depends on the element
that the text stands in.
-/
namespace Gleaner.Html

structure Tag where
  name : String
  attrs : List (String × String)
  selfClosing : Bool
  deriving DecidableEq, Repr

structure Doctype where
  name : String
  publicId : Option String
  systemId : Option String
  broken : Bool

/-- A text token holds blanks only, null characters only, or neither. -/
inductive Token where
  | doctype (d : Doctype)
  | start (t : Tag)
  | stop (name : String)
  | comment
  | text (cs : List Char)
  | eof
  /-- Markup that is dropped. -/
  | nothing

/-- How text is read: with markup and references, with references only, with neither up to an end
tag, as a script, or with neither up to the end. -/
inductive TextMode where
  | data
  | rcdata
  | raw
  | script
  | plain
  deriving DecidableEq, Repr

def isSpace (c : Char) : Bool := c = ' ' || c = '\t' || c = '\n' || c = '\x0c' || c = '\r'

def isNull (c : Char) : Bool := c.toNat = 0

def notNull (c : Char) : Char := if isNull c then Utf8.replacement else c

/-- Whether a character ends the name of a tag. -/
def endsName (c : Char) : Bool := isSpace c || c = '/' || c = '>'

/-- Where the reader stands in a tag, with what it has read there, last character first. -/
inductive TagPlace where
  | name (acc : List Char)
  | beforeAttr
  | attr (acc : List Char)
  | afterAttr (name : List Char)
  | beforeValue (name : List Char)
  | quoted (name : List Char) (quote : Char) (acc : List Char)
  | bare (name : List Char) (acc : List Char)
  | slash

/-- A tag under way; attributes last first. -/
structure OpenTag where
  name : String
  attrs : List (String × String)

def OpenTag.put (t : OpenTag) (name value : List Char) : OpenTag :=
  let key := String.ofList name.reverse
  if t.attrs.any fun a => a.1 = key then t
  else { t with attrs := (key, String.ofList (resolveReferences true value.reverse)) :: t.attrs }

def OpenTag.close (t : OpenTag) (selfClosing : Bool) : Tag := ⟨t.name, t.attrs.reverse, selfClosing⟩

def lowerChar (c : Char) : Char := notNull c.toLower

/-- Reads a tag up to its end. A tag that the text ends in is no tag. -/
def readTag (t : OpenTag) : TagPlace → List Char → Option (Tag × List Char)
  | _, [] => none
  | .name acc, c :: cs =>
    let named : OpenTag := ⟨String.ofList acc.reverse, []⟩
    if isSpace c then readTag named .beforeAttr cs
    else if c = '/' then readTag named .slash cs
    else if c = '>' then some (named.close false, cs)
    else readTag t (.name (lowerChar c :: acc)) cs
  | .beforeAttr, c :: cs =>
    if isSpace c then readTag t .beforeAttr cs
    else if c = '/' then readTag t .slash cs
    else if c = '>' then some (t.close false, cs)
    else readTag t (.attr [lowerChar c]) cs
  | .attr acc, c :: cs =>
    if isSpace c then readTag t (.afterAttr acc) cs
    else if c = '/' then readTag (t.put acc []) .slash cs
    else if c = '>' then some ((t.put acc []).close false, cs)
    else if c = '=' then readTag t (.beforeValue acc) cs
    else readTag t (.attr (lowerChar c :: acc)) cs
  | .afterAttr name, c :: cs =>
    if isSpace c then readTag t (.afterAttr name) cs
    else if c = '/' then readTag (t.put name []) .slash cs
    else if c = '=' then readTag t (.beforeValue name) cs
    else if c = '>' then some ((t.put name []).close false, cs)
    else readTag (t.put name []) (.attr [lowerChar c]) cs
  | .beforeValue name, c :: cs =>
    if isSpace c then readTag t (.beforeValue name) cs
    else if c = '"' || c = '\'' then readTag t (.quoted name c []) cs
    else if c = '>' then some ((t.put name []).close false, cs)
    else readTag t (.bare name [notNull c]) cs
  | .quoted name quote acc, c :: cs =>
    if c = quote then readTag (t.put name acc) .beforeAttr cs
    else readTag t (.quoted name quote (notNull c :: acc)) cs
  | .bare name acc, c :: cs =>
    if isSpace c then readTag (t.put name acc) .beforeAttr cs
    else if c = '>' then some ((t.put name acc).close false, cs)
    else readTag t (.bare name (notNull c :: acc)) cs
  | .slash, c :: cs =>
    if c = '>' then some (t.close true, cs)
    else if isSpace c then readTag t .beforeAttr cs
    else if c = '/' then readTag t .slash cs
    else readTag t (.attr [lowerChar c]) cs

/-- What follows a comment, whose opening is already read. -/
def afterComment : List Char → List Char
  | '-' :: '-' :: '>' :: cs => cs
  | '-' :: '-' :: '!' :: '>' :: cs => cs
  | _ :: cs => afterComment cs
  | [] => []

def commentRest : List Char → List Char
  | '>' :: cs => cs
  | '-' :: '>' :: cs => cs
  | cs => afterComment cs

/-- What follows the next closing bracket. -/
def afterBracket (cs : List Char) : List Char := (cs.dropWhile (· ≠ '>')).drop 1

/-- Whether a text starts with a word, in whatever case. -/
def startsWith (word : String) (cs : List Char) : Bool :=
  (cs.take word.length).map Char.toLower == word.toList

/-- A quoted identifier. A bracket ends it too soon. -/
def quotedId (quote : Char) (cs : List Char) : String × Bool × List Char :=
  let id := cs.takeWhile fun c => c ≠ quote && c ≠ '>'
  match cs.drop id.length with
  | c :: rest => (String.ofList (id.map notNull), c ≠ quote, if c = quote then rest else c :: rest)
  | [] => (String.ofList (id.map notNull), true, [])

def systemPart (d : Doctype) (cs : List Char) : Doctype × List Char :=
  match cs.dropWhile isSpace with
  | '>' :: rest => ({ d with broken := d.broken || d.publicId.isNone }, rest)
  | c :: rest =>
    if c = '"' || c = '\'' then
      let (id, broken, rest) := quotedId c rest
      ({ d with systemId := some id, broken }, afterBracket rest)
    else ({ d with broken := true }, afterBracket (c :: rest))
  | [] => ({ d with broken := true }, [])

def publicPart (d : Doctype) (cs : List Char) : Doctype × List Char :=
  match cs.dropWhile isSpace with
  | c :: rest =>
    if c = '"' || c = '\'' then
      let (id, broken, rest) := quotedId c rest
      let d := { d with publicId := some id, broken }
      if broken then (d, afterBracket rest) else systemPart d rest
    else ({ d with broken := true }, afterBracket (c :: rest))
  | [] => ({ d with broken := true }, [])

/-- Reads a document type behind its opening word. -/
def readDoctype (cs : List Char) : Doctype × List Char :=
  let rest := cs.dropWhile isSpace
  let name := rest.takeWhile fun c => !(isSpace c || c = '>')
  let d : Doctype := ⟨String.ofList (name.map lowerChar), none, none, name.isEmpty⟩
  match (rest.drop name.length).dropWhile isSpace with
  | '>' :: rest => (d, rest)
  | [] => ({ d with broken := true }, [])
  | rest =>
    if startsWith "public" rest then publicPart d (rest.drop 6)
    else if startsWith "system" rest then systemPart d (rest.drop 6)
    else ({ d with broken := true }, afterBracket rest)

/-- What follows a section of plain characters, and its text. -/
def readSection (acc : List Char) : List Char → List Char × List Char
  | ']' :: ']' :: '>' :: cs => (acc.reverse, cs)
  | c :: cs => readSection (c :: acc) cs
  | [] => (acc.reverse, [])

/-- Markup that opens with an exclamation mark. Only foreign elements hold sections. -/
def declaration (foreign : Bool) (cs : List Char) : Token × List Char :=
  match cs with
  | '-' :: '-' :: rest => (.comment, commentRest rest)
  | _ =>
    if startsWith "doctype" cs then
      let (d, rest) := readDoctype (cs.drop 7)
      (.doctype d, rest)
    else if foreign && "[CDATA[".toList.isPrefixOf cs then
      let (text, rest) := readSection [] (cs.drop 7)
      (.text text, rest)
    else (.comment, afterBracket cs)

def noTag : OpenTag := ⟨"", []⟩

/-- Markup, behind its opening bracket. What is no markup is text. -/
def markup (foreign : Bool) (cs : List Char) : Token × List Char :=
  match cs with
  | '!' :: rest => declaration foreign rest
  | '?' :: rest => (.comment, afterBracket rest)
  | '/' :: c :: rest =>
    if c.isAlpha then
      match readTag noTag (.name []) (c :: rest) with
      | some (t, rest) => (.stop t.name, rest)
      | none => (.nothing, [])
    else if c = '>' then (.nothing, rest)
    else (.comment, afterBracket (c :: rest))
  | c :: rest =>
    if c.isAlpha then
      match readTag noTag (.name []) (c :: rest) with
      | some (t, rest) => (.start t, rest)
      | none => (.nothing, [])
    else (.text ['<'], c :: rest)
  | [] => (.text ['<'], [])

/-- Whether a text starts with the end tag of an element. -/
def isEndTag (name : String) (cs : List Char) : Bool :=
  match cs with
  | '<' :: '/' :: rest =>
    startsWith name rest && ((rest.drop name.length).head?.any endsName)
  | _ => false

/-- The text up to the end tag of an element, onto what is read, and the rest. -/
def untilEnd (name : String) (acc : List Char) : List Char → List Char × List Char
  | [] => (acc.reverse, [])
  | c :: cs =>
    if c = '<' && isEndTag name (c :: cs) then (acc.reverse, c :: cs)
    else untilEnd name (notNull c :: acc) cs

/-- In a script: outside comments, in one, or in a script that stands in one. -/
inductive ScriptDepth where
  | outside
  | inComment
  | inScript
  deriving DecidableEq

/-- The text of a script up to its end tag, which does not end it in a script within a comment. -/
def scriptText (acc : List Char) (depth : ScriptDepth) (dashes : Nat) :
    List Char → List Char × List Char
  | [] => (acc.reverse, [])
  | c :: cs =>
    let go := fun depth dashes => scriptText (notNull c :: acc) depth dashes cs
    if c = '<' then
      let closes := isEndTag "script" (c :: cs)
      let opens := startsWith "script" cs && ((cs.drop 6).head?.any endsName)
      match depth with
      | .outside =>
        if closes then (acc.reverse, c :: cs)
        else if "!--".toList.isPrefixOf cs then go .inComment 0
        else go .outside 0
      | .inComment =>
        if closes then (acc.reverse, c :: cs)
        else if opens then go .inScript 0
        else go .inComment 0
      | .inScript => if closes then go .inComment 0 else go .inScript 0
    else if c = '-' then go depth (dashes + 1)
    else if c = '>' && 2 ≤ dashes then go .outside 0
    else go depth 0

/-- A run of text without markup and references. -/
def run (c : Char) (cs : List Char) : Token × List Char :=
  let inside := fun (d : Char) =>
    if isSpace c then isSpace d
    else if isNull c then isNull d
    else !(isSpace d || isNull d || d = '<' || d = '&')
  (.text (c :: cs.takeWhile inside), cs.dropWhile inside)

/-- The first token of a text in an element with the given name, and the rest. -/
def Token.next (mode : TextMode) (name : String) (foreign : Bool) (cs : List Char) :
    Token × List Char :=
  let content := fun (read : List Char × List Char) (text : List Char → List Char) =>
    match read with
    | ([], _ :: rest) => markup foreign rest
    | ([], []) => (.eof, [])
    | (found, rest) => (.text (text found), rest)
  match mode with
  | .data =>
    match cs with
    | [] => (.eof, [])
    | '<' :: rest => markup foreign rest
    | '&' :: rest =>
      let (found, rest) := afterAmpersand false rest
      (.text found, rest)
    | c :: rest => run c rest
  | .rcdata => content (untilEnd name [] cs) (resolveReferences false)
  | .raw => content (untilEnd name [] cs) id
  | .script => content (scriptText [] .outside 0 cs) id
  | .plain => if cs.isEmpty then (.eof, []) else (.text (cs.map notNull), [])

/-- Line ends written in one way, onto what is read, last character first. -/
def unixLinesOnto (acc : List Char) : List Char → List Char
  | '\r' :: '\n' :: cs => unixLinesOnto ('\n' :: acc) cs
  | '\r' :: cs => unixLinesOnto ('\n' :: acc) cs
  | c :: cs => unixLinesOnto (c :: acc) cs
  | [] => acc.reverse

def unixLines (cs : List Char) : List Char := unixLinesOnto [] cs

end Gleaner.Html
