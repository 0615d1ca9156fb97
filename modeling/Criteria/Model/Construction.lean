import Criteria.Model.Grammar.Text

/-! The written definition of what constructs a record. The definition names its arguments, their
hints and their defaults, and it is made of the names as they are. So a name that is no single word
can be read as something else, and the definition is refused as it is read.
-/

set_option autoImplicit false

namespace Criteria

structure Argument where
  name : String
  valued : Bool
  kept : Bool

/-- The construction of a record. -/
structure Construction where
  self : String
  arguments : List Argument
  /-- Whether the record does something of its own with the arguments that it does not keep. -/
  continued : Bool

namespace Construction

def typeName (name : String) : String := "_type_" ++ name

def defaultName (name : String) : String := "_dflt_" ++ name

def commonNames : List String :=
  ["MISSING", "_HAS_DEFAULT_FACTORY", "__dataclass_builtins_object__"]

def outerNames (c : Construction) : List String :=
  c.arguments.map (fun a => typeName a.name) ++ commonNames ++
    (c.arguments.filter Argument.valued).map (fun a => defaultName a.name) ++ ["_return_type"]

def argumentText (a : Argument) : String :=
  a.name ++ ":" ++ typeName a.name ++ if a.valued then "=" ++ defaultName a.name else ""

def continuedName : String := "__post_init__"

def bodyLines (c : Construction) : List String :=
  let dropped := (c.arguments.filter fun a => !a.kept).map Argument.name
  let lines := (c.arguments.filter Argument.kept).map (fun a =>
      s!"  {c.self}." ++ a.name ++ "=" ++ a.name) ++
    if c.continued then [s!"  {c.self}.{continuedName}(" ++ ",".intercalate dropped ++ ")"] else []
  if lines.isEmpty then ["  pass"] else lines

def makerName : String := "__create_fn__"

def text (c : Construction) : String :=
  "\n".intercalate
    ([s!"def {makerName}(" ++ ", ".intercalate c.outerNames ++ "):",
      " def __init__(" ++ ",".intercalate (c.self :: c.arguments.map argumentText) ++
        ")->_return_type:"]
      ++ c.bodyLines ++ [" return __init__"])

def repeated? : List String → List (String × Nat) → Option (String × Nat)
  | _, [] => none
  | seen, (n, line) :: rest =>
    if seen.contains n then some (n, line) else repeated? (n :: seen) rest

def debugName : String := "__debug__"

/-- What is wrong with the names of a definition that can be read. A name that is written in another
form than its standard one names no argument. -/
def nameFault? (c : Construction) (functions : List Grammar.Definition) : Option Fault :=
  match functions.findSome? fun d => repeated? [] d.parameters,
    functions.find? fun d => d.parameters.any fun p => p.1 = debugName with
  | some (n, line), _ => some (.repeatedParameter n line)
  | none, some d => some (.parameterName s!"cannot assign to {debugName}" d.line .writing)
  | none, none =>
    let known := functions.head?.elim [] fun d => d.parameters.map (·.1)
    (c.outerNames.find? fun n => !Text.standardName n || !known.contains n).map fun n =>
      .unexpectedArgument makerName n

def fault? (c : Construction) : Option Fault :=
  let text := c.text
  if text.contains '\x00' then some .nullInText
  else match Grammar.definitions text with
    | .error f => some (.parameterName f.reason f.line f.kind)
    | .ok functions => c.nameFault? functions

end Construction

end Criteria
