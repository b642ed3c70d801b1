import Gleaner.Keyed

/-!
JSON values. Objects keep their members in order. `WellKeyed` says that no object anywhere in a
value repeats a key; `dedupe` makes it so, a later member taking the place of an earlier one.
-/
namespace Gleaner

/-- A number is an integer of 64 bits, signed or unsigned, or a double. -/
inductive Json.Number where
  | int (n : Int)
  | real (x : Float)

inductive Json where
  | null
  | bool (b : Bool)
  | num (n : Json.Number)
  | str (s : String)
  | arr (items : List Json)
  | obj (members : List (String × Json))

namespace Json

instance : Inhabited Json := ⟨.null⟩

def isNull : Json → Bool
  | .null => true
  | _ => false

def Number.beq : Number → Number → Bool
  | .int a, .int b => a == b
  | .real x, .real y => x == y
  | _, _ => false

instance : BEq Number := ⟨Number.beq⟩

mutual

/-- Equality up to the order of object members. -/
def beq : Json → Json → Bool
  | .null, .null => true
  | .bool a, .bool b => a == b
  | .num a, .num b => a == b
  | .str a, .str b => a == b
  | .arr as, .arr bs => beqItems as bs
  | .obj as, .obj bs => as.length == bs.length && beqMembers as bs
  | _, _ => false

def beqItems : List Json → List Json → Bool
  | [], [] => true
  | a :: as, b :: bs => beq a b && beqItems as bs
  | _, _ => false

def beqMembers : List (String × Json) → List (String × Json) → Bool
  | [], _ => true
  | (k, a) :: as, bs =>
    (match bs.lookup k with
      | some b => beq a b
      | none => false) && beqMembers as bs

end

instance : BEq Json := ⟨beq⟩

/-- The member with a key, in an object. -/
def get? (key : String) : Json → Option Json
  | .obj members => members.lookup key
  | _ => none

mutual

/-- Keeps of members with one key the last value, at the place of the first. -/
def dedupe : Json → Json
  | .arr items => .arr (dedupeItems items)
  | .obj members => .obj ((dedupeMembers members).foldl (fun acc m => Keyed.put m.1 m.2 acc) [])
  | j => j

def dedupeItems : List Json → List Json
  | [] => []
  | j :: js => dedupe j :: dedupeItems js

def dedupeMembers : List (String × Json) → List (String × Json)
  | [] => []
  | (k, j) :: ms => (k, dedupe j) :: dedupeMembers ms

end

mutual

/-- No object in the value repeats a key. -/
def WellKeyed : Json → Prop
  | .arr items => WellKeyedItems items
  | .obj members => (members.map Prod.fst).Nodup ∧ WellKeyedMembers members
  | _ => True

def WellKeyedItems : List Json → Prop
  | [] => True
  | j :: js => WellKeyed j ∧ WellKeyedItems js

def WellKeyedMembers : List (String × Json) → Prop
  | [] => True
  | (_, j) :: ms => WellKeyed j ∧ WellKeyedMembers ms

end

end Json

end Gleaner
