import Criteria.Number

/-! Residues of numbers, by which keys are found. A residue is taken modulo a prime, where the
powers of two and of five return after a fixed count of steps. Equal numbers have one residue.
-/

set_option autoImplicit false

namespace Criteria.Number

def residueModulus : Nat := Nat.pow 2 61 - 1

def powMod (modulus base exponent : Nat) : Nat :=
  if h : exponent = 0 then 1 % modulus
  else
    let half := powMod modulus (base * base % modulus) (exponent / 2)
    if exponent % 2 = 1 then base * half % modulus else half
termination_by exponent
decreasing_by omega

theorem powMod_eq (modulus base exponent : Nat) :
    powMod modulus base exponent = Nat.pow base exponent % modulus := by
  fun_induction powMod modulus base exponent with
  | case1 base => rfl
  | case2 base exponent h half hodd ih =>
    have he : exponent = 2 * (exponent / 2) + 1 := by omega
    have hh : half = (base * base % modulus) ^ (exponent / 2) % modulus := ih
    have hp : base ^ exponent = base * (base * base) ^ (exponent / 2) := by
      rw [he, Nat.pow_succ', Nat.pow_mul, Nat.pow_two, ← he]
    rw [Nat.pow_eq, hp, hh, Nat.mul_mod, Nat.mod_mod, ← Nat.pow_mod, ← Nat.mul_mod]
  | case3 base exponent h half heven ih =>
    have he : exponent = 2 * (exponent / 2) := by omega
    have hh : half = (base * base % modulus) ^ (exponent / 2) % modulus := ih
    have hp : base ^ exponent = (base * base) ^ (exponent / 2) := by
      rw [he, Nat.pow_mul, Nat.pow_two, ← he]
    rw [Nat.pow_eq, hp, hh, ← Nat.pow_mod]

def powResidue (base order : Nat) (exponent : Int) : Nat :=
  powMod residueModulus base (exponent % order).toNat

/-- The residue with the sign of the number. Minus one is no residue and gives way to minus two. -/
def residue : Number → Int
  | zero => 0
  | infinite false => 314159
  | infinite true => -314159
  | finite negative core twos fives =>
    let r : Int := (core * powResidue 2 61 twos * powResidue 5 (residueModulus - 1) fives %
      residueModulus : Nat)
    let signed := if negative then -r else r
    if signed = -1 then -2 else signed

end Criteria.Number
