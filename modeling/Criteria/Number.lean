/-! Exact values of numbers. A value other than zero is in one way a whole number that neither two
nor five divides, times a power of two and a power of five. So equal values have one form, and no
power is multiplied out.
-/

set_option autoImplicit false

namespace Criteria

inductive Number where
  | zero
  | finite (negative : Bool) (core : Nat) (twos fives : Int)
  | infinite (negative : Bool)
  deriving DecidableEq, Repr

namespace Number

def factorOut (p n : Nat) : Nat × Nat :=
  if _h : 1 < p ∧ 0 < n ∧ n % p = 0 then
    let rest := factorOut p (n / p)
    (rest.1 + 1, rest.2)
  else (0, n)
termination_by n
decreasing_by exact Nat.div_lt_self _h.2.1 _h.1

theorem pow_mul_factorOut (p n : Nat) :
    Nat.pow p (factorOut p n).1 * (factorOut p n).2 = n := by
  fun_induction factorOut p n with
  | case1 n h rest ih =>
    have hd : p ∣ n := Nat.dvd_of_mod_eq_zero h.2.2
    calc Nat.pow p (rest.1 + 1) * rest.2 = p * (Nat.pow p rest.1 * rest.2) := by
          change Nat.pow p rest.1 * p * rest.2 = p * (Nat.pow p rest.1 * rest.2)
          rw [Nat.mul_comm (Nat.pow p rest.1) p, Nat.mul_assoc]
      _ = p * (n / p) := by rw [ih]
      _ = n := Nat.mul_div_cancel' hd
  | case2 n h => simp

def ofParts (negative : Bool) (digits : Nat) (twos fives : Int) : Number :=
  if digits = 0 then .zero else
  let (a, rest) := factorOut 2 digits
  let (b, core) := factorOut 5 rest
  .finite negative core (twos + a) (fives + b)

def ofInt (n : Int) : Number := ofParts (decide (n < 0)) n.natAbs 0 0

def isZero (n : Number) : Bool := n == .zero

theorem isZero_ofInt (n : Int) : (ofInt n).isZero = decide (n = 0) := by
  by_cases h : n = 0
  · subst h; rfl
  · have hn : n.natAbs ≠ 0 := by omega
    simp [ofInt, ofParts, isZero, hn, h]

end Number

end Criteria
