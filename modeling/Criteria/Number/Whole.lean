import Criteria.Fault
import Criteria.Number.Written
import Criteria.Text.Quoted

set_option autoImplicit false

namespace Criteria.Whole

def digitLimit : Nat := 4300

def bound : Nat := Nat.pow (Nat.pow 10 100) 43

theorem bound_eq : bound = Nat.pow 10 digitLimit := by
  have h : digitLimit = 100 * 43 := rfl
  unfold bound
  -- Neither power is worked out.
  generalize digitLimit = k at h
  subst h
  generalize 10 = a, 100 = m, 43 = n
  exact (Nat.pow_mul a m n).symm

theorem two_le_bound : 2 ≤ bound := by decide +kernel

def written (n : Int) : Except Fault String :=
  if n.natAbs < bound then .ok (toString n) else .error (.tooManyDigits none)

theorem written_of_lt (n : Int) (h : n.natAbs < bound) : written n = .ok (toString n) := by
  simp [written, h]

/-- Digits, where one underscore may stand between two of them. -/
def digits? : List Char → Option (List Char)
  | [] => none
  | [c] => if c.isDigit then some [c] else none
  | c :: '_' :: cs => if c.isDigit then (digits? cs).map (c :: ·) else none
  | c :: cs => if c.isDigit then (digits? cs).map (c :: ·) else none

def ofWritten (text : String) : Except Fault Int :=
  let trimmed := (text.toList.dropWhile Text.blankChar).reverse.dropWhile Text.blankChar
  let (negative, cs) := Scientific.splitSign trimmed.reverse
  match digits? cs with
  | none => .error (.wholeSyntax (Text.quoted text))
  | some ds =>
    if digitLimit < ds.length then .error (.tooManyDigits (some ds.length))
    else
      let n : Int := Scientific.digitsValue ds
      .ok (if negative then -n else n)

end Criteria.Whole
