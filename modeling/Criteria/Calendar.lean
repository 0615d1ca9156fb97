import Criteria.Fault
import Criteria.Text.Quoted

set_option autoImplicit false

namespace Criteria

def paddedDigits (width n : Nat) : String :=
  let digits := toString n
  String.ofList (List.replicate (width - digits.length) '0') ++ digits

def digitsOf? (width : Nat) (s : String) : Option Nat :=
  if s.length = width && s.toList.all Char.isDigit then s.toNat? else none

structure Date where
  year : Nat
  month : Nat
  day : Nat
  deriving DecidableEq, Repr

structure TimeOfDay where
  hour : Nat
  minute : Nat
  second : Nat
  micro : Nat
  deriving DecidableEq, Repr

def notWritten {α : Type} (s : String) : Except Fault α :=
  .error (.calendarSyntax (Text.quoted s))

namespace Date

def written (d : Date) : String :=
  paddedDigits 4 d.year ++ "-" ++ paddedDigits 2 d.month ++ "-" ++ paddedDigits 2 d.day

def ofParts? (s : String) : Option Date :=
  match s.splitOn "-" with
  | [y, m, d] => do pure ⟨← digitsOf? 4 y, ← digitsOf? 2 m, ← digitsOf? 2 d⟩
  | [_] => (digitsOf? 8 s).map fun n => ⟨n / 10000, n / 100 % 100, n % 100⟩
  | _ => none

def leapYear (y : Nat) : Bool := y % 4 = 0 && (y % 100 != 0 || y % 400 = 0)

def daysOfMonth (y m : Nat) : Nat :=
  if m = 2 then if leapYear y then 29 else 28
  else if m = 4 || m = 6 || m = 9 || m = 11 then 30 else 31

def checked (d : Date) : Except Fault Date :=
  if d.year = 0 then .error .yearZero
  else if d.month = 0 || 12 < d.month then .error .monthRange
  else if d.day = 0 || daysOfMonth d.year d.month < d.day then .error .dayRange
  else .ok d

def ofWritten (s : String) : Except Fault Date :=
  match ofParts? s with
  | some d => d.checked
  | none => notWritten s

def parts (d : Date) : List Nat := [d.year, d.month, d.day]

end Date

namespace TimeOfDay

def written (t : TimeOfDay) : String :=
  let whole := paddedDigits 2 t.hour ++ ":" ++ paddedDigits 2 t.minute ++ ":" ++
    paddedDigits 2 t.second
  if t.micro = 0 then whole else whole ++ "." ++ paddedDigits 6 t.micro

def midnight : TimeOfDay := ⟨0, 0, 0, 0⟩

/-- A fraction of fewer than six digits is filled on the right, one of more is cut. -/
def microOfFraction? (s : String) : Option Nat :=
  if s.isEmpty || !s.toList.all Char.isDigit then none
  else (String.ofList ((s.toList ++ List.replicate 6 '0').take 6)).toNat?

def ofParts? (s : String) : Option TimeOfDay :=
  match s.splitOn ":" with
  | [h] => do pure ⟨← digitsOf? 2 h, 0, 0, 0⟩
  | [h, m] => do pure ⟨← digitsOf? 2 h, ← digitsOf? 2 m, 0, 0⟩
  | [h, m, r] => do
    let h ← digitsOf? 2 h
    let m ← digitsOf? 2 m
    match r.splitOn "." with
    | [s] => pure ⟨h, m, ← digitsOf? 2 s, 0⟩
    | [s, f] => pure ⟨h, m, ← digitsOf? 2 s, ← microOfFraction? f⟩
    | _ => none
  | _ => none

def checked (t : TimeOfDay) : Except Fault TimeOfDay :=
  if 23 < t.hour then .error (.timePart "hour" 23)
  else if 59 < t.minute then .error (.timePart "minute" 59)
  else if 59 < t.second then .error (.timePart "second" 59)
  else .ok t

def ofWritten (s : String) : Except Fault TimeOfDay :=
  match ofParts? s with
  | some t => t.checked
  | none => notWritten s

/-- Hour and minute always, the second when it or the fraction is not zero, the fraction last. -/
def parts (t : TimeOfDay) : List Nat :=
  [t.hour, t.minute] ++
    if t.micro ≠ 0 then [t.second, t.micro] else if t.second ≠ 0 then [t.second] else []

end TimeOfDay

def momentOfWritten (s : String) : Except Fault (Date × TimeOfDay) := do
  let cs := s.toList
  match Date.ofParts? (String.ofList (cs.take 10)), cs.drop 10 with
  | some d, [] => .ok (← d.checked, .midnight)
  | some d, _ :: rest =>
    match TimeOfDay.ofParts? (String.ofList rest) with
    | some t => do
      let d ← d.checked
      .ok (d, ← t.checked)
    | none => notWritten s
  | none, _ => notWritten s

end Criteria
