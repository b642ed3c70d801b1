import Gleaner.Json.Printer
import Gleaner.Decimal.Read
import Gleaner.Text.Blank

/-!
Paths into JSON values, such as `data.items[0]['name']`: keys between dots, and brackets around an
index or a quoted key.
-/
namespace Gleaner.Json

inductive Step where
  | key (name : String)
  | index (n : Nat)
  deriving DecidableEq, Repr

def index? (cs : List Char) : Option Nat := Decimal.natural? UInt64.size cs

/-- What stands between brackets: a key in quotes, or an index. -/
def bracketStep? (cs : List Char) : Option Step :=
  let inner := Text.trim cs
  let isQuoted := fun (q : Char) =>
    2 ≤ inner.length && inner.head? == some q && inner.getLast? == some q
  if isQuoted '\'' || isQuoted '"' then some (.key (String.ofList (inner.drop 1).dropLast))
  else (index? inner).map .index

/-- The key read so far, last character first, as a step; no step when it is empty. -/
def keyStep (key : List Char) : List Step :=
  if key.isEmpty then [] else [.key (String.ofList key.reverse)]

/-- Reads steps; `key` is the key, `inner` the bracket that has been started. -/
def stepsFrom? : (key : List Char) → (inner : Option (List Char)) → List Char → Option (List Step)
  | key, none, [] => some (keyStep key)
  | _, some _, [] => none
  | key, none, c :: cs =>
    if c = '.' then (stepsFrom? [] none cs).map (keyStep key ++ ·)
    else if c = '[' then (stepsFrom? [] (some []) cs).map (keyStep key ++ ·)
    else stepsFrom? (c :: key) none cs
  | _, some inner, c :: cs =>
    if c = ']' then do
      let step ← bracketStep? inner.reverse
      let rest ← stepsFrom? [] none cs
      some (step :: rest)
    else stepsFrom? [] (some (c :: inner)) cs

/-- The steps of a path. -/
def steps? (path : String) : Option (List Step) := stepsFrom? [] none (Text.trim path.toList)

/-- One step into a value. A key that is a number also counts in arrays. -/
def step? (j : Json) : Step → Option Json
  | .key k =>
    match j with
    | .obj members => members.lookup k
    | .arr items => (index? k.toList).bind fun i => items[i]?
    | _ => none
  | .index i =>
    match j with
    | .arr items => items[i]?
    | _ => none

/-- The value at a path. The empty path is the value itself. -/
def at? (j : Json) (path : String) : Option Json :=
  (steps? path).bind fun steps => steps.foldlM step? j

/-- The text of a scalar. What is absent, `null`, an array or an object has none. -/
def scalarText : Option Json → String
  | some (.str s) => s
  | some (.num n) => (Json.num n).compact
  | some (.bool b) => (Json.bool b).compact
  | _ => ""

end Gleaner.Json
