import Gleaner.Charset.Basic
import Gleaner.Text.Blank
import Gleaner.Text.Infix
import Gleaner.Text.Ranges

/-!
The text of bodies. A byte order mark says how a body is encoded; else the content type says it by a
label. For a body without either the bytes are looked at.
-/
namespace Gleaner.Charset

/-- The charset that a byte order mark announces, and the bytes behind the mark. -/
def marked? : List Nat → Option (Charset × List Nat)
  | 0xef :: 0xbb :: 0xbf :: rest => some (utf8, rest)
  | 0xff :: 0xfe :: rest => some (utf16 false, rest)
  | 0xfe :: 0xff :: rest => some (utf16 true, rest)
  | _ => none

def isAsciiSpace (c : Char) : Bool := [' ', '\t', '\n', '\r', '\x0c'].contains c

/-- A text without what it has of some characters at both ends. -/
def strip (drop : Char → Bool) (cs : List Char) : List Char :=
  ((cs.dropWhile drop).reverse.dropWhile drop).reverse

/-- The first label in a content type, quotes around it left out. -/
def labelIn? (contentType : String) : Option (List Char) :=
  let mark := "charset=".toList
  (((Text.splitAtChar ';' contentType.toList).map Text.trim).find? mark.isPrefixOf).map fun part =>
    strip isAsciiSpace (strip (· = '\'') (strip (· = '"') (part.drop mark.length)))

/-- The charset that a content type declares. -/
def declared? (contentType : Option String) : Option Charset :=
  (contentType.bind labelIn?).bind ofLabel?

/-- The charset of bytes without a label: ISO-2022-JP and UTF-8 are seen in the bytes, and else it
is what statistics suggest. -/
def detected (suggested : Charset) (bytes : List Nat) : Charset :=
  if isIso2022Jp bytes then iso2022Jp
  else if Utf8.isWellFormed bytes then utf8
  else suggested

/-- The text of a body, given the charset that statistics of its bytes suggest. -/
def bodyText (suggested : Charset) (contentType : Option String) (bytes : List Nat) : String :=
  match marked? bytes with
  | some (charset, rest) => String.ofList (charset.decode rest)
  | none =>
    let charset := (declared? contentType).getD (detected suggested bytes)
    String.ofList (charset.decode bytes)

end Gleaner.Charset
