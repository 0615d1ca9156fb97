import Criteria.Number.Residue
import Criteria.Value

/-! Fingerprints, by which keys are found. Values of one fingerprint need not be equal: numbers have
residues, texts and bytes the bytes that hold them, and in a bunch two of one kind cancel out.
-/

set_option autoImplicit false

namespace Criteria

inductive Fingerprint where
  | number (residue : Int)
  | octets (data : List UInt8)
  | atom (label : String)
  | ofClass (c : ClassRef)
  | cell (h : Handle)
  | row (items : List Fingerprint)
  /-- How many there are, and those that occur an odd number of times. -/
  | bunch (size : Nat) (odd : List Fingerprint)
  deriving Repr

namespace Fingerprint

mutual

/-- A row agrees part by part, a bunch in any order. -/
def agrees : Fingerprint → Fingerprint → Bool
  | row xs => fun y => match y with
    | row ys => rowAgrees xs ys
    | _ => false
  | bunch m xs => fun y => match y with
    | bunch n ys => m == n && xs.length == ys.length && bunchWithin xs ys
    | _ => false
  | number a => fun y => match y with | number b => a == b | _ => false
  | octets a => fun y => match y with | octets b => a == b | _ => false
  | atom a => fun y => match y with | atom b => a == b | _ => false
  | ofClass a => fun y => match y with | ofClass b => a == b | _ => false
  | cell a => fun y => match y with | cell b => a == b | _ => false

def rowAgrees : List Fingerprint → List Fingerprint → Bool
  | [] => fun ys => ys.isEmpty
  | x :: xs => fun ys => match ys with
    | [] => false
    | y :: ys => agrees x y && rowAgrees xs ys

def bunchWithin : List Fingerprint → List Fingerprint → Bool
  | [] => fun _ => true
  | x :: xs => fun ys => ys.any (agrees x) && bunchWithin xs ys

end

def toggle (p : Fingerprint) : List Fingerprint → List Fingerprint
  | [] => [p]
  | q :: rest => if p.agrees q then rest else q :: toggle p rest

def ofBunch (prints : List Fingerprint) : Fingerprint :=
  bunch prints.length (prints.foldl (fun odd p => toggle p odd) [])

/-- The fingerprint of bytes. No bytes are like zero. -/
def ofOctets (data : List UInt8) : Fingerprint :=
  if data.isEmpty then number 0 else octets data

def lowBytes : Nat → Nat → List UInt8
  | 0, _ => []
  | width + 1, n => UInt8.ofNat (n % 256) :: lowBytes width (n / 256)

def textWidth (cs : List Char) : Nat :=
  if cs.all fun c => c.toNat < 0x100 then 1
  else if cs.all fun c => c.toNat < 0x10000 then 2
  else 4

def ofText (s : String) : Fingerprint :=
  let cs := s.toList
  ofOctets (cs.flatMap fun c => lowBytes (textWidth cs) c.toNat)

def ofNumber (n : Number) : Fingerprint := number n.residue

def ofInt (n : Int) : Fingerprint := ofNumber (.ofInt n)

def bytesHighFirst (width n : Nat) : List UInt8 := (lowBytes width n).reverse

def dateOctets (d : Date) : List UInt8 :=
  bytesHighFirst 2 d.year ++ bytesHighFirst 1 d.month ++ bytesHighFirst 1 d.day

def timeOctets (t : TimeOfDay) : List UInt8 :=
  [t.hour, t.minute, t.second].flatMap (bytesHighFirst 1) ++ bytesHighFirst 3 t.micro

/-- Ranges with the same numbers have the same row: the count, the first, the step, as far as there
are any. -/
def ofRange (first stop step : Int) : Fingerprint :=
  let given (asked : Bool) (n : Int) := if asked then ofInt n else atom "null"
  let size := rangeSize first stop step
  row [ofInt size, given (size != 0) first, given (2 ≤ size) step]

end Fingerprint

end Criteria
