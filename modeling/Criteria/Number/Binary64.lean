import Criteria.Number.Written

/-! Binary64 numbers. A written number stands for the nearest of them. Such a number is written with
the fewest digits that stand for it, and of these with the nearest.
-/

set_option autoImplicit false

namespace Criteria

/-- A whole number times a power of two, or an infinity. -/
inductive Binary64 where
  | finite (negative : Bool) (significand : Nat) (exponent : Int)
  | infinite (negative : Bool)
  deriving DecidableEq, Repr

namespace Binary64

def scaled (base numerator denominator : Nat) : Int → Nat × Nat
  | .ofNat e => (numerator * Nat.pow base e, denominator)
  | .negSucc e => (numerator, denominator * Nat.pow base (e + 1))

def roundHalfEven (n d : Nat) : Nat :=
  let q := n / d
  let r := 2 * (n % d)
  if d < r || (r = d && q % 2 = 1) then q + 1 else q

def lastPlace (n d : Nat) : Int :=
  let guess : Int := max ((n.log2 : Int) - (d.log2 : Int) - 53) (-1074)
  let (a, b) := scaled 2 n d (-guess)
  if a / b < Nat.pow 2 53 then guess else guess + 1

def nearest (n d : Nat) : Nat × Int :=
  if n = 0 then (0, 0) else
  let e := lastPlace n d
  let (a, b) := scaled 2 n d (-e)
  let m := roundHalfEven a b
  if m = Nat.pow 2 53 then (Nat.pow 2 52, e + 1) else (m, e)

def topExponent : Int := 971

/-- Numbers far outside the range are not worked out. -/
def ofScientific (s : Scientific) : Binary64 :=
  if s.digits = 0 || s.leading < -330 then .finite s.negative 0 0
  else if 310 < s.leading then .infinite s.negative
  else
    let (n, d) := scaled 10 s.digits 1 s.exponent
    let (m, e) := nearest n d
    if topExponent < e then .infinite s.negative else .finite s.negative m e

def fraction? : Binary64 → Option (Int × Nat)
  | finite negative m e =>
    let (n, d) := scaled 2 m 1 e
    some (if negative then -n else n, d)
  | infinite _ => none

def ofFraction (n : Int) (d : Nat) : Binary64 :=
  let (m, e) := nearest n.natAbs d
  if topExponent < e then infinite (decide (n < 0)) else finite (decide (n < 0)) m e

def separated? : List Char → Option (List Char)
  | [] => some []
  | [c] => if c = '_' then none else some [c]
  | a :: '_' :: rest =>
    match rest with
    | b :: _ => if a.isDigit && b.isDigit then (separated? rest).map (a :: ·) else none
    | [] => none
  | a :: rest => if a = '_' then none else (separated? rest).map (a :: ·)

/-- Reads a binary number. The outer option is none for what is no number, the inner one for the
number that is not equal to itself. -/
def ofWritten? (s : String) : Option (Option Binary64) :=
  let cs := Number.trimmed s.toList
  match Number.infinity? cs with
  | some negative => some (some (.infinite negative))
  | none =>
    if Number.lowered (Scientific.splitSign cs).2 = "nan".toList then some none
    else ((separated? cs).bind Scientific.ofChars?).map fun x => some (ofScientific x)

def number : Binary64 → Number
  | finite negative m e => .ofParts negative m e 0
  | infinite negative => .infinite negative

def leadingPower (n d : Nat) : Int :=
  if d ≤ n then ((toString (n / d)).length : Int) - 1
  else
    let j := (toString d).length - (toString n).length
    if d ≤ n * Nat.pow 10 j then -(j : Int) else -(j : Int) - 1

def standIn? (m : Nat) (e : Int) (n d : Nat) (p : Int) : Option Nat :=
  let (a, b) := scaled 10 n d (-p)
  let low := a / b
  let candidates := if 2 * (a % b) ≤ b then [low, low + 1] else [low + 1, low]
  candidates.find? fun c =>
    let (x, y) := scaled 10 c 1 p
    nearest x y == (m, e)

def fewestDigits (m : Nat) (e : Int) (n d : Nat) (top : Int) : Nat → Nat → Nat × Int
  | 0, count => (m, top - count + 1)
  | tries + 1, count =>
    let p := top - count + 1
    match standIn? m e n d p with
    | some c => (c, p)
    | none => fewestDigits m e n d top tries (count + 1)

def shortest (m : Nat) (e : Int) : Nat × Int :=
  let (n, d) := scaled 2 m 1 e
  fewestDigits m e n d (leadingPower n d) 17 1

/-- Digits that begin at the power `leading` of ten: without an exponent from the fourth place
behind the point to the sixteenth before it. -/
def layout (digits : List Char) (leading : Int) : String :=
  if -4 ≤ leading && leading < 16 then
    let text := Scientific.pointed digits (leading + 1)
    if (digits.length : Int) ≤ leading + 1 then text ++ ".0" else text
  else
    let power := toString leading.natAbs
    Scientific.pointed digits 1 ++ "e" ++ (if leading < 0 then "-" else "+") ++
      (if power.length < 2 then "0" else "") ++ power

def withoutTrailing (digits : List Char) : List Char :=
  (digits.reverse.dropWhile (· == '0')).reverse

def written : Binary64 → String
  | infinite negative => Scientific.signText negative ++ "inf"
  | finite negative m e =>
    Scientific.signText negative ++
      if m = 0 then "0.0"
      else
        let (digits, power) := shortest m e
        let text := (toString digits).toList
        layout (withoutTrailing text) (power + text.length - 1)

end Binary64

end Criteria
