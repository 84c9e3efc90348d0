/-!
# Dimension exponents

An exponent is an integer between -128 and 127. Arithmetic on exponents is done on integers, and its
result is an exponent only if it lies in that range.
-/

set_option autoImplicit false

namespace Circuitry

/-- The power to which a base dimension is raised. -/
structure Exponent where
  /-- The power itself. -/
  toInt : Int
  lower : -128 ≤ toInt
  upper : toInt ≤ 127
  deriving DecidableEq, Repr

namespace Exponent

/-- The exponent with a given value, if the value is in range. -/
def ofInt? (n : Int) : Option Exponent :=
  if h : -128 ≤ n ∧ n ≤ 127 then some ⟨n, h.1, h.2⟩ else none

/-- The exponent that leaves a dimension out. -/
def zero : Exponent := ⟨0, by decide, by decide⟩

theorem eq_of_toInt {a b : Exponent} (h : a.toInt = b.toInt) : a = b := by
  cases a
  cases b
  simpa using h

theorem ofInt?_eq_some_iff {n : Int} {e : Exponent} : ofInt? n = some e ↔ e.toInt = n := by
  unfold ofInt?
  split
  · rename_i inside
    rw [Option.some.injEq]
    exact ⟨fun h => by rw [← h], fun h => eq_of_toInt h.symm⟩
  · rename_i outside
    have low := e.lower
    have high := e.upper
    simp only [reduceCtorEq, false_iff]
    intro h
    exact outside (h ▸ ⟨low, high⟩)

theorem ofInt?_eq_none_iff {n : Int} : ofInt? n = none ↔ n < -128 ∨ 127 < n := by
  unfold ofInt?
  split <;> simp only [reduceCtorEq, false_iff, true_iff] <;> omega

end Exponent

end Circuitry
