import Criteria.Model.Meaning.Checked
import Criteria.Number.Binary64

set_option autoImplicit false

namespace Criteria

inductive Numeric where
  | whole (n? : Option Int)
  | real (x? : Option Binary64)
  | complex
  /-- A decimal number. One that signals refuses whatever is done with it. -/
  | decimal (signals : Bool)

namespace Meaning

def numeric? (s : Store) : Meaning → Option Numeric
  | value v =>
    match v, s.cellOf? v with
    | .truth b, _ => some (.whole (some (if b then 1 else 0)))
    | .int _ n, _ => some (.whole (some n))
    | .float _ w, _ => some (.real ((Binary64.ofWritten? w).bind id))
    | .decimal .., _ => some (.decimal false)
    | _, some (.undefined .binary _) => some (.real none)
    | _, some (.undefined k _) => some (.decimal (k = .signaling))
    | _, _ => none
  | imaginary _ => some .complex
  | vague k =>
    if k = "int" || k = "bool" then some (.whole none)
    else if k = "float" then some (.real none)
    else if k = "complex" then some .complex
    else if k = "decimal.Decimal" then some (.decimal false)
    else none
  | _ => none

def whole? : Meaning → Option Int
  | value (.int _ n) => some n
  | value (.truth b) => some (if b then 1 else 0)
  | _ => none

def isZero : Meaning → Bool
  | value v => v.number?.any fun x => x.isZero
  | _ => false

def ofWhole (n : Int) : Meaning := value (.int none n)

def ofTruth (b : Bool) : Meaning := value (.truth b)

def ofPlainText (t : String) : Meaning := value (.text none t)

def ofReal (x : Binary64) : Meaning := value (.float none x.written)

def unsupported (s : Store) (op : String) (a b : Meaning) : Except Fault Meaning :=
  .error (.unsupportedOperands op (a.kind s) (b.kind s))

/-- Numbers with more binary digits than this are not worked out. -/
def workedOutLimit : Nat := 20000

/-- Two whole numbers digit by digit, where a negative one has no first digit. -/
def digitwise (op : String) (m n : Int) : Int :=
  let width := max m.natAbs.log2 n.natAbs.log2 + 2
  let (a, b) := (BitVec.ofInt width m, BitVec.ofInt width n)
  (if op = "&" then a &&& b else if op = "|" then a ||| b else a ^^^ b).toInt

def shifted (op : String) (m n : Int) : Except Fault Meaning :=
  if n < 0 then .error .negativeShift
  else if op = ">>" then .ok (ofWhole (if workedOutLimit < n then min (Int.sign m) 0
    else Int.fdiv m (Int.pow 2 n.toNat)))
  else if m = 0 then .ok (ofWhole 0)
  else if workedOutLimit < n then .ok (vague "int")
  else .ok (ofWhole (m * Int.pow 2 n.toNat))

def quotient (m n : Int) : Except Fault Meaning :=
  match Binary64.ofFraction (m * n.sign) n.natAbs with
  | .infinite _ => .error .quotientTooLarge
  | x => .ok (ofReal x)

def power (m n : Int) : Except Fault Meaning :=
  if n < 0 then
    if m = 0 then .error .zeroPower
    else if m.natAbs.log2 * n.natAbs ≤ 1000 then quotient 1 (Int.pow m n.natAbs)
    else .ok (vague "float")
  else if m.natAbs ≤ 1 || m.natAbs.log2 * n.natAbs ≤ workedOutLimit then
    .ok (ofWhole (Int.pow m n.natAbs))
  else .ok (vague "int")

def wholeCalculated (op : String) (m n : Int) : Except Fault Meaning :=
  match op with
  | "+" => .ok (ofWhole (m + n))
  | "-" => .ok (ofWhole (m - n))
  | "*" => .ok (ofWhole (m * n))
  | "//" => if n = 0 then .error (.wholeDivisionByZero false) else .ok (ofWhole (Int.fdiv m n))
  | "%" => if n = 0 then .error (.wholeDivisionByZero true) else .ok (ofWhole (Int.fmod m n))
  | "/" => if n = 0 then .error .divisionByZero else quotient m n
  | "**" => power m n
  | "<<" | ">>" => shifted op m n
  | op => .ok (ofWhole (digitwise op m n))

def real? : Numeric → Except Fault (Option Binary64)
  | .whole (some n) =>
    match Binary64.ofFraction n 1 with
    | .infinite _ => .error .wholeTooLarge
    | x => .ok (some x)
  | .real x? => .ok x?
  | _ => .ok none

def fractionCalculated? (op : String) (a : Int) (b : Nat) (c : Int) (d : Nat) :
    Option (Int × Nat) :=
  match op with
  | "+" => some (a * d + c * b, b * d)
  | "-" => some (a * d - c * b, b * d)
  | "*" => some (a * c, b * d)
  | "/" => some (a * d * c.sign, b * c.natAbs)
  | "//" => some (Int.fdiv (a * d) (c * b), 1)
  | "%" => some (a * d - Int.fdiv (a * d) (c * b) * (c * b), b * d)
  | _ => none

def realCalculated (op : String) (x? y? : Option Binary64) : Meaning :=
  match x?.bind Binary64.fraction?, y?.bind Binary64.fraction? with
  | some (a, b), some (c, d) =>
    match fractionCalculated? op a b c d with
    | some (n, m) => ofReal (Binary64.ofFraction n m)
    | none => vague "float"
  | _, _ => vague "float"

def realOperators : List String := ["+", "-", "*", "/", "//", "%", "**"]

def divisions : List String := ["/", "//", "%"]

def ofReals (op : String) (zero : Bool) (negative : Bool) (base : Bool) (x y : Numeric) :
    Except Fault Meaning := do
  let x? ← real? x
  let y? ← real? y
  if divisions.contains op && zero then .error (.binaryDivisionByZero op)
  else if op = "**" && base && negative then .error .zeroPower
  else .ok (realCalculated op x? y?)

def ofDecimals (op : String) (zero base : Bool) : Except Fault Meaning :=
  if divisions.contains op && zero then
    .error (if base then .noQuotient else if op = "%" then .signalingComparison else .decimalByZero)
  else if op = "**" && zero && base then .error .signalingComparison
  else .ok (vague "decimal.Decimal")

def calculated (s : Store) (op : String) (a b : Meaning) (x y : Numeric) : Except Fault Meaning :=
  let named := if op = "**" then "** or pow()" else op
  let negative := match y with
    | .whole (some n) => decide (n < 0)
    | .real (some (.finite negative ..)) => negative
    | _ => false
  match x, y with
  | .decimal _, .real _ | .real _, .decimal _ | .decimal _, .complex | .complex, .decimal _ =>
    unsupported s named a b
  | .decimal p, y =>
    if !realOperators.contains op then unsupported s named a b
    else if p || (y matches .decimal true) then .error .signalingComparison
    else ofDecimals op b.isZero a.isZero
  | _, .decimal p =>
    if !realOperators.contains op then unsupported s named a b
    else if p then .error .signalingComparison
    else ofDecimals op b.isZero a.isZero
  | .complex, _ | _, .complex =>
    if !(["+", "-", "*", "/", "**"].contains op) then unsupported s named a b
    else if op = "/" && b.isZero then .error .complexByZero
    else .ok (vague "complex")
  | .real _, _ | _, .real _ =>
    if realOperators.contains op then ofReals op b.isZero negative a.isZero x y
    else unsupported s named a b
  | .whole m?, .whole n? =>
    if op = "@" then unsupported s named a b
    else match m?, n?, a, b with
      | some _, some _, value (.truth p), value (.truth q) =>
        if op = "&" then .ok (ofTruth (p && q))
        else if op = "|" then .ok (ofTruth (p || q))
        else if op = "^" then .ok (ofTruth (p != q))
        else wholeCalculated op (if p then 1 else 0) (if q then 1 else 0)
      | some m, some n, _, _ => wholeCalculated op m n
      | _, _, _, _ => .ok (vague (if op = "/" then "float" else "int"))

/-- The fraction that a number is, when it is one. An infinity is a fraction over zero. -/
def fraction? (m : Meaning) : Numeric → Option (Int × Nat)
  | .whole n? => n?.map fun n => (n, 1)
  | .real x? => x?.bind fun x => match x with
    | .infinite negative => some (if negative then -1 else 1, 0)
    | x => x.fraction?
  | .complex => none
  | .decimal _ =>
    match m with
    | value (.decimal _ w) =>
      match Decimal.ofWritten? w with
      | some (.finite d) =>
        if d.exponent.natAbs ≤ workedOutLimit then
          let (n, k) := Binary64.scaled 10 d.digits 1 d.exponent
          some (if d.negative then -n else n, k)
        else none
      | _ => none
    | _ => none

def orderings : List String := ["<", ">", "<=", ">="]

def compared (op : String) (m n : Int) : Bool :=
  match op with
  | "<" => m < n
  | ">" => n < m
  | "<=" => m ≤ n
  | _ => n ≤ m

def isUndefined (s : Store) : Meaning → Bool
  | value v =>
    match s.cellOf? v with
    | some (.undefined ..) => true
    | _ => false
  | _ => false

def numbersOrdered (s : Store) (op : String) (a b : Meaning) (x y : Numeric) :
    Except Fault Meaning :=
  match x, y with
  | .complex, _ | _, .complex => .error (.notOrdered op (a.kind s) (b.kind s))
  | x, y =>
    if a.isUndefined s || b.isUndefined s then
      if (x matches .decimal _) || (y matches .decimal _) then .error .signalingComparison
      else .ok (ofTruth false)
    else match fraction? a x, fraction? b y with
      | some (m, c), some (n, d) => .ok (ofTruth (compared op (m * d) (n * c)))
      | _, _ => .ok (vague "bool")

end Meaning

end Criteria
