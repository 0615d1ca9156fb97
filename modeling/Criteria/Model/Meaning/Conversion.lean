import Criteria.Model.Meaning.Operator

set_option autoImplicit false

namespace Criteria

namespace Meaning

def refusedWith {α : Type} (f : ArgumentFault) : Except Fault α := .error (.argument f)

def kindOrNothing (s : Store) (m : Meaning) : String := if m.isNothing then "None" else m.kind s

def wholeArgument (s : Store) (m : Meaning) : Except Fault (Option Int) :=
  match m.whole?, numeric? s m with
  | some n, _ => .ok (some n)
  | none, some (.whole none) => .ok none
  | none, _ => .error (.notInteger (m.kind s))

def digitOf (c : Char) : Nat :=
  if c.isDigit then c.toNat - '0'.toNat
  else if c.isAlpha then c.toLower.toNat - 'a'.toNat + 10
  else 36

def toldBases : List (Char × Nat) := [('x', 16), ('o', 8), ('b', 2)]

/-- Digits of a base without their leading mark. Without a base of its own, the mark tells the base.
-/
def unmarked (base : Nat) (cs : List Char) : Nat × List Char :=
  match cs with
  | '0' :: c :: rest =>
    match toldBases.lookup c.toLower with
    | some b =>
      if base = 0 || base = b then (b, if rest.head? = some '_' then rest.drop 1 else rest)
      else (base, cs)
    | none => (if base = 0 then 10 else base, cs)
  | cs => (if base = 0 then 10 else base, cs)

def ofDigits? (base : Nat) : Nat → List Char → Option Nat
  | _, [] => none
  | n, [c] => if digitOf c < base then some (base * n + digitOf c) else none
  | n, c :: '_' :: cs => if digitOf c < base then ofDigits? base (base * n + digitOf c) cs else none
  | n, c :: cs => if digitOf c < base then ofDigits? base (base * n + digitOf c) cs else none

def wholeOfText (base : Nat) (shown text : String) : Except Fault Meaning :=
  let (negative, cs) := Scientific.splitSign (Number.trimmed text.toList)
  let (told, digits) := unmarked base cs
  match ofDigits? told 0 digits with
  | some n => .ok (ofWhole (if negative then -n else n))
  | none => refusedWith (.digits base shown)

def textOfBytes (data : List UInt8) : String :=
  String.ofList (data.map fun b => Char.ofNat b.toNat)

def numberText? (s : Store) : Meaning → Option String
  | value (.text _ t) => some t
  | value (.bytes _ data) => some (textOfBytes data)
  | value v =>
    match s.cellOf? v with
    | some (.byteArray data) => some (textOfBytes data)
    | _ => none
  | _ => none

def numberTexts : List String := ["str", "bytes", "bytearray"]

def toWhole (s : Store) (m : Meaning) : Except Fault Meaning := do
  match m.whole?, numeric? s m, m, numberText? s m with
  | some n, _, _, _ => .ok (ofWhole n)
  | none, _, value (.text _ t), _ => do .ok (ofWhole (← Whole.ofWritten t))
  | none, _, _, some t => wholeOfText 10 (← m.shown s) t
  | none, some (.real (some x)), _, _ =>
    match x, x.fraction? with
    | .infinite _, _ => refusedWith (.endlessNumber true)
    | _, some (n, d) => .ok (ofWhole (Int.tdiv n d))
    | _, none => .ok (vague "int")
  | none, some .complex, _, _ => .error (.notWhole "complex")
  | none, some (.real none), _, _ =>
    if m.isUndefined s then refusedWith (.endlessNumber false) else .ok (vague "int")
  | none, some _, _, _ => .ok (vague "int")
  | none, none, m, none =>
    if numberTexts.contains (m.kind s) then .ok (vague "int") else .error (.notWhole (m.kind s))

def toWholeOfBase (s : Store) (m base : Meaning) : Except Fault Meaning := do
  match ← wholeArgument s base with
  | none => .ok (vague "int")
  | some b =>
    if b != 0 && (b < 2 || 36 < b) then refusedWith .baseRange
    else match numberText? s m with
      | some t => wholeOfText b.toNat (← m.shown s) t
      | none =>
        if numberTexts.contains (m.kind s) then .ok (vague "int") else refusedWith .baseOfNumber

def toReal (s : Store) (m : Meaning) : Except Fault Meaning := do
  match numeric? s m, numberText? s m with
  | some .complex, _ => refusedWith (.realNumber "complex")
  | some (.decimal _), _ => .ok (vague "float")
  | some x, _ =>
    match ← real? x with
    | some y => .ok (ofReal y)
    | none => .ok (vague "float")
  | none, some t =>
    match Binary64.ofWritten? t with
    | some (some x) => .ok (ofReal x)
    | some none => .ok (vague "float")
    | none => .error (.binarySyntax (← m.shown s))
  | none, none =>
    if numberTexts.contains (m.kind s) then .ok (vague "float")
    else refusedWith (.realNumber (m.kind s))

def complexSigns : List Char := "0123456789.eE+-_jJinfatyINFATY()".toList

def toComplex (s : Store) (a? b? : Option Meaning) : Except Fault Meaning := do
  let a := a?.getD (ofWhole 0)
  match a.kind s, b?.map (·.kind s) with
  | "str", some _ => refusedWith (.complexTexts true)
  | _, some "str" => refusedWith (.complexTexts false)
  | "str", none =>
    match a with
    | value (.text _ t) =>
      let cs := Number.trimmed t.toList
      if cs.isEmpty || !cs.all complexSigns.contains then refusedWith .complexText
      else .ok (vague "complex")
    | _ => .ok (vague "complex")
  | kind, _ =>
    if (numeric? s a).isNone then refusedWith (.complexPart kind)
    else match b? with
      | some b =>
        if (numeric? s b).isNone then refusedWith (.complexSecond (b.kind s))
        else .ok (vague "complex")
      | none => .ok (vague "complex")

def textArgument (s : Store) (callee place : String) (m? : Option Meaning) : Except Fault Unit :=
  match m? with
  | some m => if m.kind s = "str" then .ok () else
      refusedWith (.textAt callee ("'" ++ place ++ "'") (kindOrNothing s m))
  | none => .ok ()

def toText (s : Store) (m? encoding? errors? : Option Meaning) : Except Fault Meaning := do
  textArgument s "str" "encoding" encoding?
  textArgument s "str" "errors" errors?
  match m?, encoding?.or errors? with
  | none, _ => .ok (ofPlainText "")
  | some m, none =>
    match m with
    | value v => do .ok (ofPlainText (← s.plain v))
    | m => if m.isPlain then do .ok (ofPlainText (← m.shown s)) else .ok (vague "str")
  | some m, some _ =>
    let kind := m.kind s
    if kind = "str" then refusedWith .decoded
    else if ["bytes", "bytearray", "memoryview"].contains kind then .ok (vague "str")
    else refusedWith (.decodedKind kind)

def byteNumber (s : Store) (className : String) (m : Meaning) : Except Fault (Option UInt8) := do
  match ← wholeArgument s m with
  | none => .ok none
  | some n =>
    if 0 ≤ n && n < 256 then .ok (some (UInt8.ofNat n.toNat))
    else if className = "bytes" then refusedWith .bytesRange
    else .error .byteRange

/-- Bytes of a class, which are only worked out for one that cannot change. -/
def bytesOfClass (className : String) (data : List UInt8) : Meaning :=
  if className = "bytes" then value (.bytes none data) else vague className

def bytesCounted (className : String) (n : Int) : Except Fault Meaning :=
  if (lengthLimit : Int) < n || n < -(lengthLimit + 1 : Int) then .error .lengthOverflow
  else if n < 0 then refusedWith .negativeCount
  else if n.toNat ≤ writtenOutSize then .ok (bytesOfClass className (List.replicate n.toNat 0))
  else .ok (vague className)

def toBytes (s : Store) (className : String) (m? encoding? errors? : Option Meaning) :
    Except Fault Meaning := do
  textArgument s className "encoding" encoding?
  textArgument s className "errors" errors?
  match m?, encoding?.or errors? with
  | none, none => .ok (bytesOfClass className [])
  | none, some _ => refusedWith .encodingGiven
  | some m, told? =>
    let kind := m.kind s
    if kind = "str" then
      if encoding?.isSome then .ok (vague className) else refusedWith .encodingAbsent
    else if told?.isSome then refusedWith .encodingGiven
    else match m.whole?, numeric? s m with
      | some n, _ => bytesCounted className n
      | none, some (.whole none) => .ok (vague className)
      | none, _ =>
        match m.items s with
        | .error (.notIterable kind) => refusedWith (.bytesOf className kind)
        | .error f => .error f
        | .ok items => do
          let data ← items.mapM (byteNumber s className)
          if data.all Option.isSome then .ok (bytesOfClass className (data.filterMap id))
          else .ok (vague className)

end Meaning

end Criteria
