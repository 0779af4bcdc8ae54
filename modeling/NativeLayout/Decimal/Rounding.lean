/-
# Rounding a quotient

The whole number nearest to a quotient, a tie going to the even one. Everything
that is printed or read with a limited number of digits is rounded by this rule.
-/

namespace NativeLayout.Decimal

/-- A quotient to the nearest whole number, a tie to the even one. -/
def nearest (num den : Nat) : Nat :=
  let q := num / den
  let twice := 2 * (num % den)
  if twice < den then q else if den < twice then q + 1 else q + q % 2

/-- The quotient that divides evenly is not changed. -/
theorem nearest_mul {den : Nat} (h : 0 < den) (q : Nat) : nearest (q * den) den = q := by
  simp [nearest, Nat.mul_div_cancel q h, h]

/-- Rounding moves a quotient by half a unit at most. -/
theorem two_mul_nearest_bounds {num den : Nat} (h : 0 < den) :
    2 * num ≤ 2 * (nearest num den * den) + den ∧ 2 * (nearest num den * den) ≤ 2 * num + den := by
  have split := Nat.div_add_mod num den
  have small := Nat.mod_lt num h
  have commute := Nat.mul_comm den (num / den)
  have step := Nat.add_mul (num / den) 1 den
  have parity : (num / den) % 2 = 0 ∨ (num / den) % 2 = 1 := by omega
  simp only [nearest]
  split
  · omega
  · split
    · omega
    · rcases parity with even | odd
      · rw [even, Nat.add_zero]
        omega
      · rw [odd]
        omega

end NativeLayout.Decimal
