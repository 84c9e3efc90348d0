import Circuitry.Fault
import Circuitry.Report.Diagnostic

/-!
# Computations that report

A computation gives a value together with the diagnostics that it reported on the way, in order, unless a
fault ends it.
-/

set_option autoImplicit false

namespace Circuitry

/-- A value with the diagnostics reported before it, or the fault that ended the computation. -/
def Reporting (α : Type) : Type := Except Fault (α × List Diagnostic)

namespace Reporting

variable {α β : Type}

/-- Gives a value and reports nothing. -/
def give (value : α) : Reporting α := .ok (value, [])

/-- Goes on with the value of a computation; its diagnostics come first. -/
def andThen (first : Reporting α) (next : α → Reporting β) : Reporting β :=
  match first with
  | .error fault => .error fault
  | .ok (value, before) =>
    match next value with
    | .error fault => .error fault
    | .ok (result, after) => .ok (result, before ++ after)

instance : Monad Reporting where
  pure := give
  bind := andThen

/-- A computation that may end in a fault and reports nothing. -/
def ofExcept (result : Except Fault α) : Reporting α := result.map fun value => (value, [])

instance : MonadLift (Except Fault) Reporting where
  monadLift := ofExcept

/-- Reports one diagnostic. -/
def report (diagnostic : Diagnostic) : Reporting PUnit := .ok (⟨⟩, [diagnostic])

/-- Reports one diagnostic and gives a value in spite of it. -/
def recover (diagnostic : Diagnostic) (value : α) : Reporting α := .ok (value, [diagnostic])

/-- Gives the value only if nothing was reported. -/
def ifSilent (computation : Reporting α) : Reporting (Option α) :=
  match computation with
  | .error fault => .error fault
  | .ok (value, []) => .ok (some value, [])
  | .ok (_, diagnostics) => .ok (none, diagnostics)

end Reporting

theorem Reporting.andThen_give {α : Type} (computation : Reporting α) :
    computation.andThen Reporting.give = computation := by
  rcases computation with fault | ⟨value, diagnostics⟩
  · rfl
  · simp only [andThen, give, List.append_nil]
    rfl

theorem Reporting.give_andThen {α β : Type} (value : α) (next : α → Reporting β) :
    (Reporting.give value).andThen next = next value := by
  simp only [andThen, give]
  rcases next value with fault | ⟨result, after⟩ <;> rfl

theorem Reporting.andThen_assoc {α β γ : Type} (first : Reporting α) (next : α → Reporting β)
    (last : β → Reporting γ) :
    (first.andThen next).andThen last = first.andThen fun value => (next value).andThen last := by
  rcases first with fault | ⟨value, before⟩
  · rfl
  · simp only [andThen]
    rcases next value with fault | ⟨result, between⟩
    · rfl
    · simp only
      rcases last result with fault | ⟨final, after⟩
      · rfl
      · simp only [List.append_assoc]
        rfl

instance : LawfulMonad Reporting :=
  LawfulMonad.mk' Reporting (fun computation => computation.andThen_give)
    (fun value next => Reporting.give_andThen value next)
    (fun first next last => first.andThen_assoc next last)

end Circuitry
