import Gleaner.Json.Record
import Gleaner.Text.Blank
import Gleaner.Text.Infix
import Gleaner.Web.Response

/-!
Whether a response was given to a session that is logged in. On public sites every one is; elsewhere
a few signs tell a session that is not.
-/
namespace Gleaner

inductive AuthPolicy where
  | everyone
  | members
  deriving DecidableEq, Repr

namespace AuthPolicy

def name : AuthPolicy → String
  | .everyone => "public"
  | .members => "authenticated"

def ofJson? : Json → Option AuthPolicy :=
  Json.choice? [("public", .everyone), ("authenticated", .members)]

/-- Whether one of some markers, written in lower case, stands in a text in whatever case. -/
def hasMarker (markers : List String) (cs : List Char) : Bool :=
  markers.any fun m => Text.isInfix m.toList (cs.map Char.toLower)

/-- Marks of addresses that ask for a login. -/
def redirectMarkers : List String := ["login", "verify", "checkpoint", "returnto"]

/-- Marks of short bodies that ask for a login. -/
def bodyMarkers : List String := ["login", "not authorized"]

/-- Bodies with fewer characters are searched for marks. -/
def shortBody : Nat := 800

def isQuote (c : Char) : Bool := c = '\'' || c = '"'

/-- The text behind the first `url=`, in whatever case. -/
def afterUrl? : List Char → Option (List Char)
  | [] => none
  | c :: cs =>
    if ['u', 'r', 'l', '='].isPrefixOf ((c :: cs).map Char.toLower) then some ((c :: cs).drop 4)
    else afterUrl? cs

/-- Where a refresh header leads. -/
def refreshTarget? (header : String) : Option (List Char) :=
  (afterUrl? header.toList).bind fun cs =>
    let target := ((Text.trim cs).dropWhile isQuote).reverse.dropWhile isQuote
    if target.isEmpty then none else some target.reverse

/-- Whether a response shows that nobody is logged in. -/
def looksLoggedOut (r : Web.Response) : Bool :=
  hasMarker redirectMarkers r.finalUrl.toList ||
    (((r.header? "refresh").bind refreshTarget?).any (hasMarker redirectMarkers)) ||
    match r.body with
    | none => true
    | some body => body.length < shortBody && hasMarker bodyMarkers body.toList

/-- Whether a response passes. -/
def accepts (p : AuthPolicy) (r : Web.Response) : Bool :=
  match p with
  | .everyone => true
  | .members => !looksLoggedOut r

end AuthPolicy

end Gleaner
