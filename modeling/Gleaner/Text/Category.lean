import Gleaner.Text.Ranges
import Gleaner.Text.CategoryTable
import Gleaner.Text.ScriptTable
import Gleaner.Text.PropertyTable

/-!
Properties of characters by name: general categories, scripts and binary properties. Names are
compared without regard to case, spaces, hyphens and underscores.
-/
namespace Gleaner.Text

/-- The loose form of a property name. -/
def looseName (s : String) : String :=
  String.ofList ((s.toList.filter fun c => c ≠ ' ' && c ≠ '-' && c ≠ '_').map Char.toLower)

/-- The decimal digits of all scripts, the category `Nd`. -/
def decimalDigits : List (Nat × Nat) := [
  (0x30, 0x39), (0x660, 0x669), (0x6f0, 0x6f9), (0x7c0, 0x7c9), (0x966, 0x96f), (0x9e6, 0x9ef),
  (0xa66, 0xa6f), (0xae6, 0xaef), (0xb66, 0xb6f), (0xbe6, 0xbef), (0xc66, 0xc6f), (0xce6, 0xcef),
  (0xd66, 0xd6f), (0xde6, 0xdef), (0xe50, 0xe59), (0xed0, 0xed9), (0xf20, 0xf29), (0x1040, 0x1049),
  (0x1090, 0x1099), (0x17e0, 0x17e9), (0x1810, 0x1819), (0x1946, 0x194f), (0x19d0, 0x19d9),
  (0x1a80, 0x1a89), (0x1a90, 0x1a99), (0x1b50, 0x1b59), (0x1bb0, 0x1bb9), (0x1c40, 0x1c49),
  (0x1c50, 0x1c59), (0xa620, 0xa629), (0xa8d0, 0xa8d9), (0xa900, 0xa909), (0xa9d0, 0xa9d9),
  (0xa9f0, 0xa9f9), (0xaa50, 0xaa59), (0xabf0, 0xabf9), (0xff10, 0xff19), (0x104a0, 0x104a9),
  (0x10d30, 0x10d39), (0x10d40, 0x10d49), (0x11066, 0x1106f), (0x110f0, 0x110f9),
  (0x11136, 0x1113f), (0x111d0, 0x111d9), (0x112f0, 0x112f9), (0x11450, 0x11459),
  (0x114d0, 0x114d9), (0x11650, 0x11659), (0x116c0, 0x116c9), (0x116d0, 0x116e3),
  (0x11730, 0x11739), (0x118e0, 0x118e9), (0x11950, 0x11959), (0x11bf0, 0x11bf9),
  (0x11c50, 0x11c59), (0x11d50, 0x11d59), (0x11da0, 0x11da9), (0x11de0, 0x11de9),
  (0x11f50, 0x11f59), (0x16130, 0x16139), (0x16a60, 0x16a69), (0x16ac0, 0x16ac9),
  (0x16b50, 0x16b59), (0x16d70, 0x16d79), (0x1ccf0, 0x1ccf9), (0x1d7ce, 0x1d7ff),
  (0x1e140, 0x1e149), (0x1e2f0, 0x1e2f9), (0x1e4f0, 0x1e4f9), (0x1e5f1, 0x1e5fa),
  (0x1e950, 0x1e959), (0x1fbf0, 0x1fbf9)]

def isDecimalDigit (c : Char) : Bool :=
  decimalDigits.any fun r => r.1 ≤ c.toNat && c.toNat ≤ r.2

/-- The characters of the script `Han`. -/
def hanRanges : List (Nat × Nat) := [
  (0x2e80, 0x2e99), (0x2e9b, 0x2ef3), (0x2f00, 0x2fd5), (0x3005, 0x3005), (0x3007, 0x3007),
  (0x3021, 0x3029), (0x3038, 0x303b), (0x3400, 0x4dbf), (0x4e00, 0x9fff), (0xf900, 0xfa6d),
  (0xfa70, 0xfad9), (0x16fe2, 0x16fe3), (0x16ff0, 0x16ff6), (0x20000, 0x2a6df), (0x2a700, 0x2b81d),
  (0x2b820, 0x2cead), (0x2ceb0, 0x2ebe0), (0x2ebf0, 0x2ee5d), (0x2f800, 0x2fa1d),
  (0x30000, 0x3134a), (0x31350, 0x33479)]

def isHan (c : Char) : Bool := hanRanges.any fun r => r.1 ≤ c.toNat && c.toNat ≤ r.2

/-- The categories by their short names. -/
def categories : List (String × Ranges) := categoryTable.map fun c => (c.1, Ranges.ofText c.2)

def categoryRanges (short : String) : Ranges := (categories.lookup short).getD #[]

/-- Every character code: all code points but the surrogates. -/
def everyChar : List (Nat × Nat) := [(0, 0xd7ff), (0xe000, 0x10ffff)]

/-- The characters outside the given ranges. -/
def complement (rs : List (Nat × Nat)) : List (Nat × Nat) :=
  let cut := fun (acc : List (Nat × Nat) × Nat) (r : Nat × Nat) =>
    (if acc.2 < r.1 then (acc.2, r.1 - 1) :: acc.1 else acc.1, r.2 + 1)
  let (below, next) := (Ranges.normal ((0xd800, 0xdfff) :: rs)).foldl cut ([], 0)
  (if next ≤ 0x10ffff then (next, 0x10ffff) :: below else below).reverse

/-- Long and short names of the categories and of their unions. -/
def categoryNames : List (String × List String) := [
  ("lu", ["Lu"]), ("uppercaseletter", ["Lu"]), ("ll", ["Ll"]), ("lowercaseletter", ["Ll"]),
  ("lt", ["Lt"]), ("titlecaseletter", ["Lt"]), ("lm", ["Lm"]), ("modifierletter", ["Lm"]),
  ("lo", ["Lo"]), ("otherletter", ["Lo"]), ("mn", ["Mn"]), ("nonspacingmark", ["Mn"]),
  ("mc", ["Mc"]), ("spacingmark", ["Mc"]), ("me", ["Me"]), ("enclosingmark", ["Me"]),
  ("nd", ["Nd"]), ("decimalnumber", ["Nd"]), ("digit", ["Nd"]), ("nl", ["Nl"]),
  ("letternumber", ["Nl"]), ("no", ["No"]), ("othernumber", ["No"]), ("pc", ["Pc"]),
  ("connectorpunctuation", ["Pc"]), ("pd", ["Pd"]), ("dashpunctuation", ["Pd"]), ("ps", ["Ps"]),
  ("openpunctuation", ["Ps"]), ("pe", ["Pe"]), ("closepunctuation", ["Pe"]), ("pi", ["Pi"]),
  ("initialpunctuation", ["Pi"]), ("pf", ["Pf"]), ("finalpunctuation", ["Pf"]), ("po", ["Po"]),
  ("otherpunctuation", ["Po"]), ("sm", ["Sm"]), ("mathsymbol", ["Sm"]), ("sc", ["Sc"]),
  ("currencysymbol", ["Sc"]), ("sk", ["Sk"]), ("modifiersymbol", ["Sk"]), ("so", ["So"]),
  ("othersymbol", ["So"]), ("zs", ["Zs"]), ("spaceseparator", ["Zs"]), ("zl", ["Zl"]),
  ("lineseparator", ["Zl"]), ("zp", ["Zp"]), ("paragraphseparator", ["Zp"]), ("cc", ["Cc"]),
  ("control", ["Cc"]), ("cntrl", ["Cc"]), ("cf", ["Cf"]), ("format", ["Cf"]), ("co", ["Co"]),
  ("privateuse", ["Co"]), ("cs", ["Cs"]), ("surrogate", ["Cs"]),
  ("l", ["Lu", "Ll", "Lt", "Lm", "Lo"]), ("letter", ["Lu", "Ll", "Lt", "Lm", "Lo"]),
  ("lc", ["Lu", "Ll", "Lt"]), ("casedletter", ["Lu", "Ll", "Lt"]),
  ("m", ["Mn", "Mc", "Me"]), ("mark", ["Mn", "Mc", "Me"]), ("combiningmark", ["Mn", "Mc", "Me"]),
  ("n", ["Nd", "Nl", "No"]), ("number", ["Nd", "Nl", "No"]),
  ("p", ["Pc", "Pd", "Ps", "Pe", "Pi", "Pf", "Po"]),
  ("punctuation", ["Pc", "Pd", "Ps", "Pe", "Pi", "Pf", "Po"]),
  ("punct", ["Pc", "Pd", "Ps", "Pe", "Pi", "Pf", "Po"]),
  ("s", ["Sm", "Sc", "Sk", "So"]), ("symbol", ["Sm", "Sc", "Sk", "So"]),
  ("z", ["Zs", "Zl", "Zp"]), ("separator", ["Zs", "Zl", "Zp"])]

/-- The characters of a category or of a union of categories. -/
def categoryNamed? (loose : String) : Option (List (Nat × Nat)) :=
  let assigned := categories.flatMap fun c => if c.1 == "Cs" then [] else c.2.toList
  match loose with
  | "any" => some everyChar
  | "ascii" => some [(0, 0x7f)]
  | "assigned" => some assigned
  | "cn" | "unassigned" => some (complement assigned)
  | "c" | "other" =>
    some (complement (categories.flatMap fun c =>
      if c.1.toList.head? == some 'C' then [] else c.2.toList))
  | _ => (categoryNames.lookup loose).map fun shorts =>
      shorts.flatMap fun s => (categoryRanges s).toList

def scriptNamed? (loose : String) : Option (List (Nat × Nat)) :=
  (scriptTable.find? fun s => looseName s.1 == loose || looseName s.2.1 == loose).map fun s =>
    (Ranges.ofText s.2.2).toList

def propertyNamed? (loose : String) : Option (List (Nat × Nat)) :=
  match loose with
  | "whitespace" | "wspace" | "space" =>
    some [(9, 13), (0x20, 0x20), (0x85, 0x85), (0xa0, 0xa0), (0x1680, 0x1680), (0x2000, 0x200a),
      (0x2028, 0x2029), (0x202f, 0x202f), (0x205f, 0x205f), (0x3000, 0x3000)]
  | "alpha" => (propertyTable.lookup "Alphabetic").map fun t => (Ranges.ofText t).toList
  | "lower" => (propertyTable.lookup "Lowercase").map fun t => (Ranges.ofText t).toList
  | "upper" => (propertyTable.lookup "Uppercase").map fun t => (Ranges.ofText t).toList
  | "joincontrol" | "joinc" => some [(0x200c, 0x200d)]
  | _ => (propertyTable.find? fun p => looseName p.1 == loose).map fun p =>
      (Ranges.ofText p.2).toList

def propertyRanges (name : String) : Ranges :=
  match propertyTable.lookup name with
  | some t => Ranges.ofText t
  | none => #[]

/-- Letters, marks, decimal digits, connecting punctuation and the two joiners. -/
def wordRanges : Ranges :=
  (Ranges.normal ((propertyRanges "Alphabetic").toList ++
    ["Mn", "Mc", "Me", "Nd", "Pc"].flatMap (fun s => (categoryRanges s).toList) ++
    [(0x200c, 0x200d)])).toArray

def isWordChar (c : Char) : Bool :=
  if c.toNat < 128 then c.isAlphanum || c == '_' else wordRanges.contains c

/-- Characters that extend the one before them. -/
def graphemeExtend : Ranges := propertyRanges "Grapheme_Extend"

/-- Controls, format characters, separators other than the space, and codes without a character. -/
def unprintable : Ranges :=
  let visible := categories.flatMap fun c =>
    if c.1.toList.head? == some 'C' || c.1.toList.head? == some 'Z' then [] else c.2.toList
  (complement ((0x20, 0x20) :: visible)).toArray

def isPrintable (c : Char) : Bool :=
  if c.toNat < 128 then 0x20 ≤ c.toNat && c.toNat < 0x7f else !unprintable.contains c

end Gleaner.Text
