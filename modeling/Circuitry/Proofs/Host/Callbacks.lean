import Circuitry.Host.Builtin
import Circuitry.Host.Script
import Circuitry.Proofs.Kernel.WellFormed

/-!
# What callbacks give back

Builtin functions and scripted callbacks give back quantities, one of their arguments, or a fixed value, so what
they give is well-formed if this is.
-/

set_option autoImplicit false

namespace Circuitry

variable {registry : Registry} {arguments : List Value} {value : Value}

/-- A quantity fits the type that is made for it. -/
@[simp] theorem Value.wellFormed_ofQuantity (quantity : Quantity) :
    (Value.ofQuantity quantity).wellFormed registry = true := by
  -- a quantity has no fields and no type inside
  exact wellFormed_known.2 ⟨by simp [Payload.fits], rfl, by simp, by simp⟩

theorem getElem?_wellFormed (sound : ∀ argument ∈ arguments, argument.wellFormed registry = true) (index : Nat) :
    ((arguments[index]?).getD .placeholder).wellFormed registry = true := by
  cases found : arguments[index]? with
  | none => rfl
  | some argument => exact sound argument (List.mem_of_getElem? found)

/-- What a sequence that may fail ends with, it ends with after its first part. -/
theorem CallResult.ok_of_bind {α : Type} {first : Except String α} {next : α → CallResult}
    (gave : (first >>= next) = .ok value) : ∃ made, next made = .ok value := by
  cases first with
  | error message => cases gave
  | ok made => exact ⟨made, gave⟩

theorem Builtin.pick_wellFormed (wanted : Ordering)
    (sound : ∀ argument ∈ arguments, argument.wellFormed registry = true)
    (gave : pick wanted arguments = .ok value) : value.wellFormed registry = true := by
  obtain ⟨a, gave⟩ := CallResult.ok_of_bind gave
  obtain ⟨b, gave⟩ := CallResult.ok_of_bind gave
  split at gave
  · cases gave
    exact getElem?_wellFormed sound _
  · cases gave

/-- A builtin function gives a quantity, or one of its arguments. -/
theorem Builtin.call_wellFormed (builtin : Builtin)
    (sound : ∀ argument ∈ arguments, argument.wellFormed registry = true)
    (gave : builtin.call arguments = .ok value) : value.wellFormed registry = true := by
  cases builtin with
  | abs =>
    obtain ⟨quantity, gave⟩ := CallResult.ok_of_bind gave
    cases gave
    exact Value.wellFormed_ofQuantity _
  | min => exact pick_wellFormed .lt sound gave
  | max => exact pick_wellFormed .gt sound gave
  | parallel =>
    obtain ⟨a, gave⟩ := CallResult.ok_of_bind gave
    obtain ⟨b, gave⟩ := CallResult.ok_of_bind gave
    obtain ⟨combined, gave⟩ := CallResult.ok_of_bind gave
    cases gave
    exact Value.wellFormed_ofQuantity _

/-- A scripted callback that is no object's gives a quantity, one of its arguments, or its constant. -/
theorem Script.wellFormed_of_run (script : Script)
    (sound : ∀ argument ∈ arguments, argument.wellFormed registry = true)
    (constants : ∀ value, script = .constant value → value.wellFormed registry = true)
    (gave : script.run [] arguments = .ok value) : value.wellFormed registry = true := by
  cases script with
  | count =>
    cases gave
    exact Value.wellFormed_ofQuantity _
  | constant fixed =>
    cases gave
    exact constants value rfl
  | argument index =>
    have given : argumentAt arguments index = .ok value := gave
    unfold argumentAt at given
    split at given
    · rename_i found
      cases given
      exact sound value (List.mem_of_getElem? found)
    · cases given
  | product first second =>
    obtain ⟨a, gave⟩ := CallResult.ok_of_bind gave
    obtain ⟨b, gave⟩ := CallResult.ok_of_bind gave
    obtain ⟨product, gave⟩ := CallResult.ok_of_bind gave
    cases gave
    exact Value.wellFormed_ofQuantity _
  | _ => cases gave

end Circuitry
