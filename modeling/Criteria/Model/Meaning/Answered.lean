import Criteria.Model.Meaning.Constructed
import Criteria.Model.Meaning.Member
import Criteria.Model.Meaning.Sorted
import Criteria.Number.Residue

set_option autoImplicit false

namespace Criteria

namespace Meaning

def magnitude (s : Store) (m : Meaning) : Except Fault Meaning :=
  match m.whole?, numeric? s m with
  | some n, _ => .ok (ofWhole n.natAbs)
  | none, some (.real (some (.finite _ n e))) => .ok (ofReal (.finite false n e))
  | none, some .complex => .ok (vague "float")
  | none, some (.whole _) => .ok (vague "int")
  | none, some _ => .ok (vague (m.kind s))
  | none, none => refusedWith (.magnitude (m.kind s))

def inBase (s : Store) (base : Nat) (mark : String) (m : Meaning) : Except Fault Meaning := do
  match ← wholeArgument s m with
  | none => .ok (vague "str")
  | some n =>
    let digits := String.ofList (Nat.toDigits base n.natAbs)
    .ok (ofPlainText ((if n < 0 then "-" else "") ++ mark ++ digits))

def character (s : Store) (m : Meaning) : Except Fault Meaning := do
  match ← wholeArgument s m with
  | none => .ok (vague "str")
  | some n =>
    if n < -Int.pow 2 31 || Int.pow 2 31 ≤ n then refusedWith .wideCharacter
    else if n < 0 || 0x110000 ≤ n then refusedWith .characterRange
    else if n.toNat.isValidChar then .ok (ofPlainText (String.singleton (Char.ofNat n.toNat)))
    else .ok (vague "str")

def codeOf (s : Store) (m : Meaning) : Except Fault Meaning :=
  let ofCodes (codes : List Nat) : Except Fault Meaning :=
    match codes with
    | [n] => .ok (ofWhole n)
    | codes => refusedWith (.characterLength codes.length)
  match m with
  | value (.text _ t) => ofCodes (t.toList.map Char.toNat)
  | m =>
    match numberText? s m with
    | some t => ofCodes (t.toList.map Char.toNat)
    | none =>
      if numberTexts.contains (m.kind s) then .ok (vague "int")
      else refusedWith (.character (m.kind s))

def roundedWhole (n : Int) (places : Int) : Meaning :=
  if 0 ≤ places then ofWhole n
  else
    let unit := Nat.pow 10 places.natAbs
    ofWhole (n.sign * (Binary64.roundHalfEven n.natAbs unit * unit : Nat))

def rounded (s : Store) (m : Meaning) (places? : Option Meaning) : Except Fault Meaning := do
  let places? := places?.filter fun p => !p.isNothing
  match numeric? s m with
  | none | some .complex => refusedWith (.rounding (m.kind s))
  | some x =>
    let places ← match places? with
      | none => .ok none
      | some p => wholeArgument s p
    match x, m.whole?, places?.isSome, places with
    | .whole _, some n, false, _ => .ok (ofWhole n)
    | .whole _, some n, true, some p =>
      if p.natAbs ≤ workedOutLimit then .ok (roundedWhole n p) else .ok (vague "int")
    | .real (some (.infinite _)), _, false, _ => refusedWith (.endlessNumber true)
    | .real (some x), _, false, _ =>
      match x.fraction? with
      | some (n, d) => .ok (ofWhole (n.sign * (Binary64.roundHalfEven n.natAbs d : Nat)))
      | none => .ok (vague "int")
    | .real none, _, false, _ =>
      if m.isUndefined s then refusedWith (.endlessNumber false) else .ok (vague "int")
    | _, _, told, _ => .ok (vague (if told then m.kind s else "int"))

def modularPower (a b c : Int) : Except Fault Meaning :=
  if c = 0 then refusedWith .modulusZero
  else if b < 0 then
    if Int.gcd a c = 1 then .ok (vague "int") else refusedWith .noInverse
  else .ok (ofWhole (Int.fmod (Number.powMod c.natAbs (Int.emod a c).toNat b.natAbs) c))

def raised (s : Store) (a b : Meaning) (c? : Option Meaning) : Except Fault Meaning :=
  match c?.filter fun c => !c.isNothing with
  | none => binary s "**" a b
  | some c =>
    match numeric? s a, numeric? s b, numeric? s c, a.whole?, b.whole?, c.whole? with
    | some (.whole _), some (.whole _), some (.whole _), some a, some b, some c =>
      modularPower a b c
    | some (.whole _), some (.whole _), some (.whole _), _, _, _ => .ok (vague "int")
    | some (.real _), _, _, _, _, _ | _, some (.real _), _, _, _, _
    | _, _, some (.real _), _, _, _ => refusedWith .moduli
    | some (.decimal _), _, _, _, _, _ | some .complex, _, _, _, _, _ => .ok unknown
    | _, _, _, _, _, _ => refusedWith (.operands (a.kind s) (b.kind s) (c.kind s))

def quotientAndRest (s : Store) (a b : Meaning) : Except Fault Meaning := do
  match numeric? s a, numeric? s b with
  | some .complex, some _ | some _, some .complex => unsupported s "divmod()" a b
  | some (.decimal _), some _ | some _, some (.decimal _) => .ok unknown
  | some (.real _), some _ | some _, some (.real _) =>
    if b.isZero then refusedWith .realQuotient
    else .ok (row [← binary s "//" a b, ← binary s "%" a b])
  | some _, some _ => .ok (row [← binary s "//" a b, ← binary s "%" a b])
  | _, _ => unsupported s "divmod()" a b

def passOf (s : Store) : Meaning → Except Fault (List Meaning × Option Fault)
  | stream _ items fault => .ok (items, fault)
  | m => do .ok (← m.items s, none)

def meets (s : Store) (wanted : Bool) : List Meaning × Option Fault → Except Fault Bool
  | (items, fault) => do
    match ← items.findM? fun m => do return (← m.holds s) = wanted, fault with
    | some _, _ => .ok true
    | none, some f => .error f
    | none, none => .ok false

def unsummed : List (String × String × String) :=
  [("str", "strings", "''"), ("bytes", "bytes", "b''"), ("bytearray", "bytearray", "b''")]

def summed (s : Store) (m : Meaning) (start? : Option Meaning) : Except Fault Meaning := do
  let items ← m.items s
  let start := start?.getD (ofWhole 0)
  match unsummed.lookup (start.kind s) with
  | some (what, joiner) => refusedWith (.texts what joiner)
  | none => items.foldlM (binary s "+") start

def keyChecked (s : Store) (m : Meaning) : Except Fault Unit :=
  if callable? s m = some false then .error (.notCallable (m.kind s)) else .ok ()

def extreme (s : Store) (callee op : String) (h : Handed) : Except Fault Meaning := do
  let key? := (h.names.lookup "key").filter fun m => !m.isNothing
  let default? := h.names.lookup "default"
  match h.places, h.names.find? fun n => n.1 != "key" && n.1 != "default" with
  | [], _ => refusedWith (.places callee 1 2 0)
  | _, some (n, _) => refusedWith (.foreignName callee n)
  | places, none =>
    if 1 < places.length && default?.isSome then refusedWith (.defaultAmongPlaces callee)
    else if h.isUnknown then .ok unknown
    else
      let items ← match places with
        | [m] => m.items s
        | ms => .ok ms
      match items, key?, default? with
      | [], _, some m => .ok m
      | [], _, none => refusedWith (.nothingChosen callee)
      | _ :: _, some k, _ =>
        keyChecked s k
        .ok unknown
      | m :: ms, none, _ => chosen s op m ms

def inOrder (s : Store) (h : Handed) : Except Fault Meaning := do
  match h.places, h.names.find? fun n => n.1 != "key" && n.1 != "reverse" with
  | [m], none =>
    if h.isUnknown then .ok unknown
    else
      let items ← m.items s
      let back ← match h.names.lookup "reverse" with
        | some r => do .ok ((← wholeArgument s r).any (· != 0))
        | none => .ok false
      match (h.names.lookup "key").filter fun k => !k.isNothing with
      | some k =>
        if !items.isEmpty then keyChecked s k
        .ok (list (items.map fun _ => unknown))
      | none =>
        if back then .ok (list (← sorted s items.reverse).reverse)
        else .ok (list (← sorted s items))
  | [m], some (n, _) => do
    let _ ← m.items s
    refusedWith (.foreignName "sort" n)
  | places, _ => refusedWith (.places "sorted" 1 1 places.length)

def turned (s : Store) : Meaning → Except Fault Meaning
  | stream c items fault =>
    .ok (stream (if isView c then c ++ "_iterator" else c) items fault)
  | m => do .ok (stream (m.kind s ++ "_iterator") (← m.items s) none)

def stepped (s : Store) (m : Meaning) (default? : Option Meaning) : Except Fault Meaning :=
  match m with
  | stream c items fault =>
    match isView c, items, fault, default? with
    | true, _, _, _ => refusedWith (.step c)
    | false, m :: _, _, _ => .ok m
    | false, [], some f, _ => .error f
    | false, [], none, some d => .ok d
    | false, [], none, none => refusedWith .exhausted
  | m =>
    if ["generator", "iterator"].any fun k => (m.kind s).endsWith k then .ok unknown
    else refusedWith (.step (m.kind s))

def heirOf? (kind className : String) : Option Bool :=
  if kind = className || className = "object" then some true
  else if kind = "bool" && className = "int" then some true
  else if (knownClasses.removeAll faultClasses).contains kind &&
      (knownClasses.removeAll faultClasses).contains className then some false
  else none

mutual

def fits? (callee : String) (bad : ArgumentFault) (kind : String) :
    Meaning → Except Fault (Option Bool)
  | known c => .ok (heirOf? kind c)
  | value (.classOf c) => .ok (heirOf? kind c.fullName)
  | row items | either items | applied .union items => fitsSome? callee bad kind items
  | value (.tuple ..) | unknown | vague _ => .ok none
  | generic .. | applied .starred _ => refusedWith (.parametrised callee)
  | applied f _ => if f = .construction then refusedWith bad else refusedWith .argumentsTested
  | form f =>
    match f.standing?, f.className? with
    | some c, _ => .ok (heirOf? kind c.fullName)
    | none, some _ => if f = .any then refusedWith (.formTested f.shown callee) else .ok none
    | none, none =>
      if f.kind = "_SpecialForm" || f.kind = "_LiteralSpecialForm" then
        refusedWith (.formTested f.shown callee)
      else refusedWith bad
  | _ => refusedWith bad

def fitsSome? (callee : String) (bad : ArgumentFault) (kind : String) :
    List Meaning → Except Fault (Option Bool)
  | [] => .ok (some false)
  | m :: ms => do
    match ← fits? callee bad kind m with
    | some true => .ok (some true)
    | some false => fitsSome? callee bad kind ms
    | none => .ok none

end

def truthIfKnown : Option Bool → Meaning
  | some b => ofTruth b
  | none => unknown

def isInstance (s : Store) (m c : Meaning) : Except Fault Meaning := do
  .ok (truthIfKnown (← fits? "isinstance" .instanceOf (m.fullKind s) c))

def isHeir (m c : Meaning) : Except Fault Meaning :=
  match m with
  | known k => do .ok (truthIfKnown (← fits? "issubclass" .heirOf k c))
  | value (.classOf _) | form _ | generic .. | unknown | vague _ => .ok unknown
  | _ => refusedWith .heir

def bareKinds : List String :=
  ["NoneType", "bool", "bytearray", "bytes", "complex", "dict", "float", "frozenset", "int", "list",
   "range", "set", "slice", "str", "tuple"]

def formLetters : List (String × String) :=
  [("str", "s"), ("int", "bcdoxXneEfFgG%"), ("bool", "bcdoxXneEfFgG%"), ("float", "neEfFgG%"),
   ("complex", "neEfFgG")]

/-- What stands behind the sign, the width and the places that a form tells. -/
def behindWidth (cs : List Char) : List Char :=
  let marks := "<>=^".toList
  let cs := match cs with
    | a :: b :: rest =>
      if marks.contains b then rest else if marks.contains a then b :: rest else a :: b :: rest
    | [a] => if marks.contains a then [] else [a]
    | [] => []
  let without (allowed : String) (cs : List Char) : List Char :=
    match cs with
    | c :: rest => if allowed.toList.contains c then rest else cs
    | [] => []
  let cs := without "#" (without "z" (without "+- " cs))
  let cs := without ",_" (cs.dropWhile Char.isDigit)
  match cs with
  | '.' :: d :: rest => if d.isDigit then rest.dropWhile Char.isDigit else cs
  | cs => cs

def written (s : Store) (m : Meaning) (form? : Option Meaning) : Except Fault Meaning :=
  match form? with
  | none => toText s (some m) none none
  | some f =>
    let kind := m.kind s
    if f.kind s != "str" then refusedWith (.textAt "format" "2" (kindOrNothing s f))
    else match f, formLetters.lookup kind with
      | value (.text _ ""), _ => toText s (some m) none none
      | value (.text _ t), some letters =>
        match behindWidth t.toList with
        | [c] =>
          if letters.toList.contains c || ".,_+- #<>=^".toList.contains c then .ok (vague "str")
          else refusedWith (.form (String.singleton c) kind)
        | _ => .ok (vague "str")
      | _, some _ => .ok (vague "str")
      | _, none =>
        if (numeric? s m).isSome || kind.startsWith "datetime." || (m matches unknown) then
          .ok (vague "str")
        else refusedWith (.formOf (lastPart kind))

def shownText (s : Store) (m : Meaning) : Except Fault Meaning := do
  if m.isPlain then .ok (ofPlainText (← m.shown s)) else .ok (vague "str")

def answerOf (s : Store) (name : String) (ms : List (Option Meaning)) : Except Fault Meaning :=
  match name, ms with
  | "abs", [some m] => magnitude s m
  | "aiter", [some m] => refusedWith (.waitingPass (m.kind s))
  | "anext", some m :: _ => refusedWith (.waitingStep (m.kind s))
  | "all", [some m] => do .ok (ofTruth !(← meets s false (← passOf s m)))
  | "any", [some m] => do .ok (ofTruth (← meets s true (← passOf s m)))
  | "ascii", [some m] => do
    let _ ← shownText s m
    .ok (vague "str")
  | "repr", [some m] => shownText s m
  | "bin", [some m] => inBase s 2 "0b" m
  | "hex", [some m] => inBase s 16 "0x" m
  | "oct", [some m] => inBase s 8 "0o" m
  | "chr", [some m] => character s m
  | "ord", [some m] => codeOf s m
  | "callable", [some m] => .ok (truthIfKnown (callable? s m))
  | "divmod", [some a, some b] => quotientAndRest s a b
  | "eval", some m :: _ =>
    if numberTexts.contains (m.kind s) then .ok unknown else refusedWith (.source name)
  | "format", some m :: rest => written s m (rest.head?.join)
  | "hash", [some m] => do
    distinguishable s m
    .ok (vague "int")
  | "id", _ => .ok (vague "int")
  | "isinstance", [some m, some c] => isInstance s m c
  | "issubclass", [some m, some c] => isHeir m c
  | "iter", [some m] => turned s m
  | "iter", some m :: _ =>
    if callable? s m = some false then refusedWith .sentinel else .ok unknown
  | "len", [some m] => do .ok (((← m.length s).map fun n => ofWhole n).getD (vague "int"))
  | "next", some m :: rest => stepped s m rest.head?.join
  | "pow", [some a, some b, c?] => raised s a b c?
  | "round", [some m, places?] => rounded s m places?
  | "sum", [some m, start?] => summed s m start?
  | "vars", [some m] =>
    if bareKinds.contains (m.kind s) then refusedWith .attributesOf else .ok unknown
  | "dir", _ => .ok (vague "list")
  | _, _ => .ok unknown

open Operation

def memberTold (m name : Meaning) : Operation Meaning := do
  match name with
  | value (.text _ n) => member m n
  | name =>
    let kind := name.kind (← theStore)
    if kind = "str" then return unknown else refuse (.memberNameKind kind)

def memberOr (m name : Meaning) (found : Meaning → Meaning) (other? : Option Meaning) :
    Operation Meaning := do
  try return found (← memberTold m name)
  catch f =>
    match other? with
    | some other => if f.kind = .member then return other else throw f
    | none => throw f

def keptFixed (m name : Meaning) : Operation Unit := do
  match m, name with
  | known c, value (.text _ n) => refuse (.fixedClass (briefName c) n)
  | _, name =>
    let kind := name.kind (← theStore)
    if kind = "str" || (name matches unknown) then return () else refuse (.memberNameKind kind)

def memberAnswer? (name : String) (ms : List (Option Meaning)) : Option (Operation Meaning) :=
  match name, ms with
  | "getattr", some m :: some n :: rest => some (memberOr m n id rest.head?.join)
  | "hasattr", [some m, some n] =>
    some (memberOr m n (fun _ => ofTruth true) (some (ofTruth false)))
  | "setattr", [some m, some n, some w] => some do
    match m, n, w.value? with
    | value v, value (.text _ t), some w => Attribute.assign v t w
    | m, n, _ => keptFixed m n
    return value .null
  | "delattr", [some m, some n] => some do
    match m, n with
    | value v, value (.text _ t) => Attribute.erase v t
    | m, n => keptFixed m n
    return value .null
  | _, _ => none

def answer (name : String) (h : Handed) : Operation Meaning := do
  match Reception.table.lookup name, name with
  | some r, name => do
    let ms ← asking fun _ => r.take name h
    if h.isUnknown then return unknown
    else match memberAnswer? name ms with
      | some found => found
      | none => asking fun s => answerOf s name ms
  | none, "max" => asking fun s => extreme s name ">" h
  | none, "min" => asking fun s => extreme s name "<" h
  | none, "sorted" => asking fun s => inOrder s h
  | none, _ => return unknown

end Meaning

end Criteria
