import Circuitry.Block.Run
import Circuitry.Proofs.Report.Reporting

/-!
# Diagnostics without their notes

Notes are remarks, and suggestions are nothing but notes. Erasing the notes of all diagnostics leaves the value
of a computation, its fault, and all else that is reported as they are. A sequence without notes is the sequence
of its parts without notes, so two computations that agree but for notes can be compared part by part.
-/

set_option autoImplicit false

namespace Circuitry

/-- The diagnostic with all its notes erased. -/
def Diagnostic.withoutNotes (diagnostic : Diagnostic) : Diagnostic := { diagnostic with notes := [] }

namespace Reporting

variable {α β γ : Type}

/-- The computation with the notes of all its diagnostics erased. -/
def withoutNotes (computation : Reporting α) : Reporting α :=
  match computation with
  | .error fault => .error fault
  | .ok (value, diagnostics) => .ok (value, diagnostics.map Diagnostic.withoutNotes)

@[simp] theorem withoutNotes_recover (diagnostic : Diagnostic) (value : α) :
    (recover diagnostic value).withoutNotes = recover diagnostic.withoutNotes value := rfl

theorem withoutNotes_bind (first : Reporting α) (next : α → Reporting β) :
    (first >>= next).withoutNotes = (first.withoutNotes >>= fun value => (next value).withoutNotes) := by
  change (first.andThen next).withoutNotes =
    first.withoutNotes.andThen fun value => (next value).withoutNotes
  rcases first with fault | ⟨value, before⟩
  · rfl
  · rcases later : next value with fault | ⟨result, after⟩
    · simp only [andThen, withoutNotes, later]
      rfl
    · simp only [andThen, withoutNotes, later, List.map_append]
      rfl

/-- Sequences agree but for notes if their parts do. -/
theorem withoutNotes_bind_congr {first other : Reporting α} {next nextOther : α → Reporting β}
    (here : first.withoutNotes = other.withoutNotes)
    (further : ∀ value, (next value).withoutNotes = (nextOther value).withoutNotes) :
    (first >>= next).withoutNotes = (other >>= nextOther).withoutNotes := by
  rw [withoutNotes_bind, withoutNotes_bind, here]
  exact congrArg _ (funext further)

theorem withoutNotes_foldlM_congr {step stepOther : β → α → Reporting β}
    (agree : ∀ state item, (step state item).withoutNotes = (stepOther state item).withoutNotes)
    (items : List α) (state : β) :
    (items.foldlM step state).withoutNotes = (items.foldlM stepOther state).withoutNotes := by
  induction items generalizing state with
  | nil => rfl
  | cons item rest ih =>
    simp only [List.foldlM_cons]
    exact withoutNotes_bind_congr (agree state item) ih

/-- Whether anything is reported does not depend on notes. -/
theorem withoutNotes_ifSilent (computation : Reporting α) :
    (ifSilent computation).withoutNotes = ifSilent computation.withoutNotes := by
  rcases computation with fault | ⟨value, _ | ⟨first, rest⟩⟩ <;> rfl

theorem withoutNotes_ifSilent_congr {computation other : Reporting α}
    (agree : computation.withoutNotes = other.withoutNotes) :
    (ifSilent computation).withoutNotes = (ifSilent other).withoutNotes := by
  rw [withoutNotes_ifSilent, withoutNotes_ifSilent, agree]

end Reporting

namespace Run

variable {α β : Type}

/-- The run with the notes of all its diagnostics erased; the contexts change as they do. -/
def withoutNotes (run : Run α) : Run α := fun contexts =>
  ((run contexts).1, (run contexts).2.withoutNotes)

theorem withoutNotes_reading (computation : ContextForest → Reporting α) :
    (reading computation).withoutNotes = reading fun contexts => (computation contexts).withoutNotes := rfl

theorem withoutNotes_lift (computation : Reporting α) :
    (liftM computation : Run α).withoutNotes = (liftM computation.withoutNotes : Run α) := rfl

theorem withoutNotes_bind (first : Run α) (next : α → Run β) :
    (first >>= next).withoutNotes = (first.withoutNotes >>= fun value => (next value).withoutNotes) := by
  funext contexts
  change ((first.andThen next).withoutNotes) contexts =
    (first.withoutNotes.andThen fun value => (next value).withoutNotes) contexts
  rcases gave : first contexts with ⟨middle, fault | ⟨value, before⟩⟩
  · simp only [andThen, withoutNotes, Reporting.withoutNotes, gave]
  · rcases later : next value middle with ⟨last, fault | ⟨result, after⟩⟩
    · simp only [andThen, withoutNotes, Reporting.withoutNotes, gave, later]
    · simp only [andThen, withoutNotes, Reporting.withoutNotes, gave, later, List.map_append]

/-- Runs in sequence agree but for notes if their parts do. -/
theorem withoutNotes_bind_congr {first other : Run α} {next nextOther : α → Run β}
    (here : first.withoutNotes = other.withoutNotes)
    (further : ∀ value, (next value).withoutNotes = (nextOther value).withoutNotes) :
    (first >>= next).withoutNotes = (other >>= nextOther).withoutNotes := by
  rw [withoutNotes_bind, withoutNotes_bind, here]
  exact congrArg _ (funext further)

end Run

end Circuitry
