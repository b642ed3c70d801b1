/-!
Texts within texts: finding, cutting and replacing them. `isInfix_iff` says what is found.
-/
namespace Gleaner.Text

def isInfix (part : List Char) : List Char → Bool
  | [] => part.isEmpty
  | c :: cs => part.isPrefixOf (c :: cs) || isInfix part cs

def containsText (text part : String) : Bool := isInfix part.toList text.toList

/-- The text before the first place where the separator stands. -/
def beforeFirst (separator : List Char) : List Char → List Char
  | [] => []
  | c :: cs => if separator.isPrefixOf (c :: cs) then [] else c :: beforeFirst separator cs

/-- Replaces what is found from left to right; `skip` characters belong to the last find. -/
def replaceFrom (old new : List Char) : (skip : Nat) → List Char → List Char
  | _, [] => []
  | 0, c :: cs =>
    if old.isPrefixOf (c :: cs) then new ++ replaceFrom old new (old.length - 1) cs
    else c :: replaceFrom old new 0 cs
  | skip + 1, _ :: cs => replaceFrom old new skip cs

/-- Every `old` replaced by `new`. The empty text stands before each character and at the end. -/
def replaceAll (old new text : String) : String :=
  let cs := text.toList
  if old.isEmpty then String.ofList (new.toList ++ cs.flatMap (· :: new.toList))
  else String.ofList (replaceFrom old.toList new.toList 0 cs)

theorem isInfix_iff {part cs : List Char} : isInfix part cs = true ↔ part <:+: cs := by
  induction cs with
  | nil => simp [isInfix]
  | cons c cs ih => simp [isInfix, ih, List.infix_cons_iff]

end Gleaner.Text
