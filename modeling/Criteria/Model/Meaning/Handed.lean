import Criteria.Model.Meaning

set_option autoImplicit false

namespace Criteria

structure Handed where
  places : List Meaning := []
  names : List (String × Meaning) := []

namespace Handed

def all (h : Handed) : List Meaning := h.places ++ h.names.map (·.2)

def isUnknown (h : Handed) : Bool := h.all.any fun m => m matches .unknown

end Handed

inductive Reception where
  | nothing
  | one
  | placed (least most : Nat)
  | named (nameless required : Nat) (names : List String)

namespace Reception

def twice? (nameless : Nat) (names : List String) (h : Handed) : Option (String × Nat) :=
  ((names.zipIdx.take h.places.length).drop nameless).find? fun n =>
    (h.names.lookup n.1).isSome

def absent? (required : Nat) (names : List String) (h : Handed) : Option (String × Nat) :=
  ((names.zipIdx.take required).drop h.places.length).find? fun n => (h.names.lookup n.1).isNone

def take (r : Reception) (callee : String) (h : Handed) : Except Fault (List (Option Meaning)) :=
  let refused (f : ArgumentFault) : Except Fault (List (Option Meaning)) := .error (.argument f)
  let given := h.places.length
  let inPlaces : Except Fault (List (Option Meaning)) := .ok (h.places.map some)
  match r with
  | nothing =>
    if !h.names.isEmpty then refused (.nameless callee)
    else if given = 0 then .ok [] else .error (.noArguments callee given)
  | one =>
    if !h.names.isEmpty then refused (.nameless callee)
    else if given = 1 then inPlaces else .error (.oneArgument callee given)
  | placed least most =>
    if !h.names.isEmpty then refused (.nameless callee)
    else if given < least || most < given then refused (.places callee least most given)
    else inPlaces
  | named nameless required names =>
    let total := given + h.names.length
    let needed := min nameless required
    let named := names.drop nameless
    if names.length < total then refused (.atMost callee (given = 0) names.length total)
    else if given < needed then refused (.atLeast callee needed given)
    else match absent? required names h, twice? nameless names h,
        h.names.find? fun n => !named.contains n.1 with
      | some (n, place), _, _ => refused (.absent callee n (place + 1))
      | none, some (n, place), _ => refused (.namedAgain callee n (place + 1))
      | none, none, some (n, _) => refused (.foreignName callee n)
      | none, none, none =>
        .ok (h.places.map some ++ (names.drop given).map fun n => h.names.lookup n)

/-- How classes and functions take arguments that have no rule of their own. -/
def table : List (String × Reception) :=
  ["abs", "aiter", "all", "any", "ascii", "bin", "callable", "chr", "hash", "hex", "id", "len",
    "oct", "ord", "repr"].map (·, one) ++
  [("globals", nothing), ("locals", nothing), ("anext", placed 1 2), ("delattr", placed 2 2),
   ("dir", placed 0 1), ("divmod", placed 2 2), ("eval", placed 1 3), ("format", placed 1 2),
   ("getattr", placed 2 3), ("hasattr", placed 2 2), ("input", placed 0 1),
   ("isinstance", placed 2 2), ("issubclass", placed 2 2), ("iter", placed 1 2),
   ("next", placed 1 2), ("setattr", placed 3 3), ("vars", placed 0 1), ("bool", placed 0 1),
   ("classmethod", placed 1 1), ("filter", placed 2 2), ("float", placed 0 1),
   ("frozenset", placed 0 1), ("list", placed 0 1), ("range", placed 1 3), ("reversed", placed 1 1),
   ("set", placed 0 1), ("slice", placed 1 3), ("staticmethod", placed 1 1), ("tuple", placed 0 1),
   ("pow", named 0 2 ["base", "exp", "mod"]), ("round", named 0 1 ["number", "ndigits"]),
   ("sum", named 1 1 ["iterable", "start"]), ("int", named 1 0 ["x", "base"]),
   ("bytes", named 0 0 ["source", "encoding", "errors"]),
   ("bytearray", named 0 0 ["source", "encoding", "errors"]),
   ("complex", named 0 0 ["real", "imag"]), ("memoryview", named 0 1 ["object"]),
   ("property", named 0 0 ["fget", "fset", "fdel", "doc"]),
   ("str", named 0 0 ["object", "encoding", "errors"])]

def ofOperations : List (String × List (String × Reception)) :=
  [("int", ofNumbers ++ [("bit_count", nothing), ("bit_length", nothing)]),
   ("bool", ofNumbers ++ [("bit_count", nothing), ("bit_length", nothing)]),
   ("float", ofNumbers ++ [("hex", nothing), ("is_integer", nothing)]),
   ("set", ofSets ++ [("add", one), ("clear", nothing), ("discard", one), ("pop", nothing),
     ("remove", one)]),
   ("frozenset", ofSets),
   ("str", [("center", placed 1 2), ("ljust", placed 1 2), ("rjust", placed 1 2), ("zfill", one),
     ("removeprefix", one), ("removesuffix", one), ("rpartition", one), ("translate", one),
     ("format_map", one), ("expandtabs", named 0 0 ["tabsize"]),
     ("splitlines", named 0 0 ["keepends"]), ("rsplit", named 0 0 ["sep", "maxsplit"]),
     ("encode", named 0 0 ["encoding", "errors"])])]
where
  ofNumbers : List (String × Reception) := [("as_integer_ratio", nothing), ("conjugate", nothing)]
  ofSets : List (String × Reception) :=
    [("copy", nothing), ("isdisjoint", one), ("issubset", one), ("issuperset", one),
     ("symmetric_difference", one)]

end Reception

structure Parameters where
  callee : String
  required : List String
  optional : List (String × Meaning) := []
  filled : Nat := 0

namespace Parameters

def names (p : Parameters) : List String := p.required ++ p.optional.map (·.1)

def takeNamed (p : Parameters) (taken : List (String × Meaning)) :
    List (String × Meaning) → Except Fault (List (String × Meaning))
  | [] => .ok taken
  | (n, m) :: rest =>
    if (taken.lookup n).isSome then .error (.repeatedArgument p.callee n)
    else if p.names.contains n then takeNamed p (taken ++ [(n, m)]) rest
    else .error (.unexpectedArgument p.callee n)

/-- Gives a meaning to each parameter. Names are looked at before places are counted, and what is
missing is told last. -/
def take (p : Parameters) (h : Handed) : Except Fault (List (String × Meaning)) := do
  let most := p.names.length
  let taken ← p.takeNamed (p.names.zip h.places) h.names
  if most < h.places.length then
    .error (.tooManyArguments p.callee (p.required.length + p.filled) (most + p.filled)
      (h.places.length + p.filled))
  else
    let missing := p.required.filter fun n => (taken.lookup n).isNone
    if missing.isEmpty then .ok (taken ++ p.optional)
    else .error (.missingArguments p.callee missing)

end Parameters

end Criteria
