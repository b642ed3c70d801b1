/-!
The command line: its options, some of which may stand before the command or behind it, and what the
four commands take.
-/
namespace Gleaner.Cli

inductive Command where
  /-- Extracts a group of fields from a saved page. -/
  | extract (site group html : String)
  | search (site : String) (categories keywords : List String)
  | userInfo (site : String)
  /-- Lists the builtin definitions. -/
  | sites
  deriving DecidableEq, Repr

structure Invocation where
  compact : Bool
  cookie : Option String
  url : Option String
  command : Command
  deriving DecidableEq, Repr

/-- Why arguments are no invocation. -/
inductive Refusal where
  | help
  | misuse
  deriving DecidableEq, Repr

/-- What may stand in a part of the command line. -/
structure Shape where
  /-- Options without a value. -/
  flags : List String
  /-- Options with a value, at most once. -/
  single : List String
  /-- Options with a value, any number of times. -/
  repeated : List String
  /-- Whether words may stand between the options. -/
  words : Bool

/-- What was found in a part of the command line. -/
structure Found where
  flags : List String
  values : List (String × String)
  words : List String

namespace Found

def empty : Found := ⟨[], [], []⟩

def value? (f : Found) (name : String) : Option String := f.values.lookup name

def all (f : Found) (name : String) : List String :=
  (f.values.filter fun v => v.1 = name).map Prod.snd

/-- A value that has to be there. -/
def needed (f : Found) (name : String) : Except Refusal String :=
  match f.value? name with
  | some v => .ok v
  | none => .error .misuse

end Found

/-- What an argument looks like. -/
inductive Argument where
  | word
  /-- Two dashes alone: only words follow. -/
  | escape
  | long (name : String) (value : Option String)
  | short (name : Char)

def Argument.ofText (text : String) : Argument :=
  match text.toList with
  | ['-', '-'] => .escape
  | '-' :: '-' :: cs =>
    .long (String.ofList (cs.takeWhile (· ≠ '=')))
      (match cs.dropWhile (· ≠ '=') with
        | [] => none
        | _ :: value => some (String.ofList value))
  | '-' :: c :: _ => .short c
  | _ => .word

def Argument.isWord (text : String) : Bool :=
  match Argument.ofText text with
  | .word => true
  | _ => false

namespace Shape

def withFlag (f : Found) (name : String) : Except Refusal Found :=
  if f.flags.contains name then .error .misuse else .ok { f with flags := f.flags ++ [name] }

/-- Notes the value of an option. The name of a file is not empty. -/
def withValue (s : Shape) (f : Found) (name value : String) : Except Refusal Found :=
  if !s.repeated.contains name && (f.value? name).isSome then .error .misuse
  else if name = "html" && value.isEmpty then .error .misuse
  else .ok { f with values := f.values ++ [(name, value)] }

def takesValue (s : Shape) (name : String) : Bool :=
  s.single.contains name || s.repeated.contains name

/-- Reads arguments up to the first word that does not belong here, and gives back the rest. -/
def scan (s : Shape) (f : Found) : List String → Except Refusal (Found × List String)
  | [] => .ok (f, [])
  | arg :: rest =>
    match Argument.ofText arg with
    | .escape =>
      if s.words then .ok ({ f with words := f.words ++ rest }, [])
      else if rest.isEmpty then .ok (f, [])
      else .error .misuse
    | .short c => .error (if c = 'h' then .help else .misuse)
    | .long name none =>
      if name = "help" then .error .help
      else if s.flags.contains name then do s.scan (← withFlag f name) rest
      else if s.takesValue name then
        match rest with
        | [] => .error .misuse
        | value :: rest =>
          if Argument.isWord value then do s.scan (← s.withValue f name value) rest
          else .error .misuse
      else .error .misuse
    | .long name (some value) =>
      if s.takesValue name then do s.scan (← s.withValue f name value) rest else .error .misuse
    | .word =>
      if s.words then s.scan { f with words := f.words ++ [arg] } rest else .ok (f, arg :: rest)

end Shape

/-- What may stand before every command. -/
def common : Shape := ⟨["compact"], ["cookie", "url"], [], false⟩

/-- What may stand behind a command. -/
def Shape.ofCommand (single repeated : List String) (words : Bool) : Shape :=
  ⟨common.flags, common.single ++ single, repeated, words⟩

/-- Reads what stands behind a command; nothing may be left. -/
def Shape.scanAll (s : Shape) (args : List String) : Except Refusal Found := do
  match ← s.scan .empty args with
  | (f, []) => .ok f
  | _ => .error .misuse

/-- The command of a name, and what was found behind it. -/
def commandOf (name : String) (args : List String) : Except Refusal (Command × Found) :=
  match name with
  | "extract" => do
    let f ← (Shape.ofCommand ["site", "group", "html"] [] false).scanAll args
    return (.extract (← f.needed "site") ((f.value? "group").getD "search") (← f.needed "html"), f)
  | "search" => do
    let f ← (Shape.ofCommand ["site"] ["cat"] true).scanAll args
    return (.search (← f.needed "site") (f.all "cat") f.words, f)
  | "user-info" => do
    let f ← (Shape.ofCommand ["site"] [] false).scanAll args
    return (.userInfo (← f.needed "site"), f)
  | "sites" => do
    let f ← (Shape.ofCommand [] [] false).scanAll args
    return (.sites, f)
  | "help" => .error .help
  | _ => .error .misuse

/-- The invocation that arguments stand for. An option behind the command counts before one in front
of it. -/
def Invocation.ofArguments (args : List String) : Except Refusal Invocation := do
  match ← common.scan .empty args with
  | (_, []) => .error .misuse
  | (before, name :: args) =>
    let (command, behind) ← commandOf name args
    let value := fun (name : String) => (behind.value? name).or (before.value? name)
    return ⟨(behind.flags ++ before.flags).contains "compact", value "cookie", value "url", command⟩

end Gleaner.Cli
