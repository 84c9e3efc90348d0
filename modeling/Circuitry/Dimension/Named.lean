import Circuitry.Dimension.Basic

/-!
# Dimensions with names

The dimensions of the electrical, mechanical and optical quantities that circuit descriptions use.
-/

set_option autoImplicit false

namespace Circuitry.Dimensions

/-- Dimensions from powers that are all in range. -/
def ofPowers (mass length angle time current luminous : Int)
    (inRange : ∀ n ∈ [mass, length, angle, time, current, luminous], -128 ≤ n ∧ n ≤ 127 := by decide) :
    Dimensions :=
  have bound (n : Int) (h : n ∈ [mass, length, angle, time, current, luminous]) := inRange n h
  { mass := ⟨mass, (bound mass (by simp)).1, (bound mass (by simp)).2⟩
    length := ⟨length, (bound length (by simp)).1, (bound length (by simp)).2⟩
    angle := ⟨angle, (bound angle (by simp)).1, (bound angle (by simp)).2⟩
    time := ⟨time, (bound time (by simp)).1, (bound time (by simp)).2⟩
    current := ⟨current, (bound current (by simp)).1, (bound current (by simp)).2⟩
    luminous := ⟨luminous, (bound luminous (by simp)).1, (bound luminous (by simp)).2⟩ }

def ofMass : Dimensions := ofPowers 1 0 0 0 0 0
def ofLength : Dimensions := ofPowers 0 1 0 0 0 0
def ofAngle : Dimensions := ofPowers 0 0 1 0 0 0
def ofTime : Dimensions := ofPowers 0 0 0 1 0 0
def ofCurrent : Dimensions := ofPowers 0 0 0 0 1 0
def ofLuminous : Dimensions := ofPowers 0 0 0 0 0 1

/-- Hertz: `s^-1`. -/
def frequency : Dimensions := ofPowers 0 0 0 (-1) 0 0

/-- Coulomb: `s·A`. -/
def charge : Dimensions := ofPowers 0 0 0 1 1 0

/-- Newton: `kg·m·s^-2`. -/
def force : Dimensions := ofPowers 1 1 0 (-2) 0 0

/-- Joule: `kg·m^2·s^-2`. -/
def energy : Dimensions := ofPowers 1 2 0 (-2) 0 0

/-- Watt: `kg·m^2·s^-3`. -/
def electricPower : Dimensions := ofPowers 1 2 0 (-3) 0 0

/-- Volt: `kg·m^2·s^-3·A^-1`. -/
def voltage : Dimensions := ofPowers 1 2 0 (-3) (-1) 0

/-- Ohm: `kg·m^2·s^-3·A^-2`. -/
def resistance : Dimensions := ofPowers 1 2 0 (-3) (-2) 0

/-- Siemens: `s^3·A^2·kg^-1·m^-2`. -/
def conductance : Dimensions := ofPowers (-1) (-2) 0 3 2 0

/-- Farad: `s^4·A^2·kg^-1·m^-2`. -/
def capacitance : Dimensions := ofPowers (-1) (-2) 0 4 2 0

/-- Henry: `kg·m^2·s^-2·A^-2`. -/
def inductance : Dimensions := ofPowers 1 2 0 (-2) (-2) 0

end Circuitry.Dimensions
