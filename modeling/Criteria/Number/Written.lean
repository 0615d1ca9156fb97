import Criteria.Number
import Criteria.Text.Blank

set_option autoImplicit false

namespace Criteria

structure Scientific where
  negative : Bool
  digits : Nat
  exponent : Int
  deriving DecidableEq, Repr

namespace Scientific

def digitsValue (cs : List Char) : Nat :=
  cs.foldl (fun n c => n * 10 + (c.toNat - '0'.toNat)) 0

def splitSign : List Char → Bool × List Char
  | '-' :: cs => (true, cs)
  | '+' :: cs => (false, cs)
  | cs => (false, cs)

def ofChars? (cs : List Char) : Option Scientific :=
  let (negative, cs) := splitSign cs
  let whole := cs.takeWhile Char.isDigit
  let rest := cs.dropWhile Char.isDigit
  let (fraction, rest) := match rest with
    | '.' :: r => (r.takeWhile Char.isDigit, r.dropWhile Char.isDigit)
    | r => ([], r)
  if whole.isEmpty && fraction.isEmpty then none else
  let digits := digitsValue (whole ++ fraction)
  let shift : Int := fraction.length
  match rest with
  | [] => some ⟨negative, digits, -shift⟩
  | e :: r =>
    let (down, r) := splitSign r
    if (e = 'e' || e = 'E') && !r.isEmpty && r.all Char.isDigit then
      let n : Int := digitsValue r
      some ⟨negative, digits, (if down then -n else n) - shift⟩
    else none

def digitCount (s : Scientific) : Nat := (toString s.digits).length

def leading (s : Scientific) : Int := s.exponent + s.digitCount - 1

def number (s : Scientific) : Number := .ofParts s.negative s.digits s.exponent s.exponent

def signText (negative : Bool) : String := if negative then "-" else ""

def pointed (digits : List Char) (place : Int) : String :=
  let filled := if place ≤ 0 then List.replicate (1 - place).toNat '0' ++ digits else digits
  let whole := if place ≤ 0 then 1 else place.toNat
  let padded := filled ++ List.replicate (whole - filled.length) '0'
  let fraction := padded.drop whole
  String.ofList (padded.take whole ++ if fraction.isEmpty then [] else '.' :: fraction)

/-- The written form: without an exponent when the digits reach no further than the units and begin
within six places behind the point, otherwise with one digit before the point. -/
def written (s : Scientific) : String :=
  let digits := (toString s.digits).toList
  signText s.negative ++
    if s.exponent ≤ 0 && -6 ≤ s.leading then pointed digits (s.leading + 1)
    else pointed digits 1 ++ "E" ++ (if s.leading < 0 then "-" else "+") ++
      toString s.leading.natAbs

end Scientific

namespace Number

def trimmed (cs : List Char) : List Char :=
  ((cs.dropWhile Text.blankChar).reverse.dropWhile Text.blankChar).reverse

def lowered (cs : List Char) : List Char := cs.map Char.toLower

def infinity? (cs : List Char) : Option Bool :=
  let (negative, cs) := Scientific.splitSign cs
  let word := lowered cs
  if word = "inf".toList || word = "infinity".toList then some negative else none

end Number

/-- What a written decimal number stands for. A number that is not equal to itself may signal, and
may carry digits. -/
inductive Decimal where
  | finite (s : Scientific)
  | infinite (negative : Bool)
  | undefined (negative signals : Bool) (payload : Nat)
  deriving DecidableEq, Repr

namespace Decimal

def undefined? (cs : List Char) : Option Decimal :=
  let (negative, cs) := Scientific.splitSign cs
  let read (signals : Bool) (digits : List Char) : Option Decimal :=
    if digits.all Char.isDigit then
      some (.undefined negative signals (Scientific.digitsValue digits))
    else none
  match Number.lowered cs with
  | 'n' :: 'a' :: 'n' :: digits => read false digits
  | 's' :: 'n' :: 'a' :: 'n' :: digits => read true digits
  | _ => none

def ofWritten? (s : String) : Option Decimal :=
  let cs := (Number.trimmed s.toList).filter (· != '_')
  match Number.infinity? cs with
  | some negative => some (.infinite negative)
  | none =>
    match undefined? cs with
    | some d => some d
    | none => (Scientific.ofChars? cs).map .finite

def written : Decimal → String
  | finite s => s.written
  | infinite negative => Scientific.signText negative ++ "Infinity"
  | undefined negative signals payload =>
    Scientific.signText negative ++ (if signals then "sNaN" else "NaN") ++
      if payload = 0 then "" else toString payload

def number? : Decimal → Option Number
  | finite s => some s.number
  | infinite negative => some (.infinite negative)
  | undefined .. => none

end Decimal

end Criteria
