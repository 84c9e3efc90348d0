import Circuitry.Proofs.Report.Reporting

/-!
# What reports account for

Three more ways to speak of computations that report, which say nothing of faults. A computation *reports only*
what satisfies a condition, or *reports of a kind* certain diagnostics in order and no others. And it *vouches* for
a sort of values if it gives no value of another sort unless some diagnostic accounts for it. As long as nothing
that has been reported accounts for a missing value, every step of a sequence has given a value of the sort that it
vouches for, and only a report can end that.
-/

set_option autoImplicit false

namespace Circuitry

namespace Diagnostic

/-- An error accounts for a value that is missing, and so does the warning that its type is not determined. -/
def Accounts (diagnostic : Diagnostic) : Prop :=
  diagnostic.isError = true ∨ diagnostic.kind = .indeterminateType ∧ diagnostic.severity = .warning

theorem Alike.isError {diagnostic other : Diagnostic} (alike : diagnostic.Alike other) :
    diagnostic.isError = other.isError := by
  simp only [Diagnostic.isError, alike.severity]

theorem Alike.accounts {diagnostic other : Diagnostic} (alike : diagnostic.Alike other) (accounts : other.Accounts) :
    diagnostic.Accounts := by
  rw [Accounts, alike.isError, alike.kind, alike.severity]
  exact accounts

end Diagnostic

namespace Reporting

variable {α β : Type}

/-! ### Computations that report only some things -/

/-- Whatever a computation reports satisfies a condition. -/
def ReportsOnly (admissible : Diagnostic → Prop) (computation : Reporting α) : Prop :=
  ∀ value diagnostics, computation = .ok (value, diagnostics) → ∀ diagnostic ∈ diagnostics, admissible diagnostic

namespace ReportsOnly

variable {admissible : Diagnostic → Prop}

protected theorem give (value : α) : ReportsOnly admissible (give value) := by
  rintro _ _ ⟨⟩ _ member
  cases member

protected theorem recover {diagnostic : Diagnostic} (holds : admissible diagnostic) (value : α) :
    ReportsOnly admissible (recover diagnostic value) := by
  rintro _ _ ⟨⟩ _ member
  rwa [List.mem_singleton.1 member]

protected theorem report {diagnostic : Diagnostic} (holds : admissible diagnostic) :
    ReportsOnly admissible (report diagnostic) := .recover holds PUnit.unit

protected theorem bind {first : Reporting α} {next : α → Reporting β} (only : ReportsOnly admissible first)
    (further : ∀ value, ReportsOnly admissible (next value)) : ReportsOnly admissible (first >>= next) := by
  intro value diagnostics gave diagnostic member
  obtain ⟨middle, before, after, gaveFirst, gaveNext, rfl⟩ := bind_eq_ok.1 gave
  rcases List.mem_append.1 member with early | late
  · exact only middle before gaveFirst diagnostic early
  · exact further middle value after gaveNext diagnostic late

/-- What reports nothing itself leaves the reports to what follows. -/
protected theorem lift_bind {result : Except Fault α} {next : α → Reporting β}
    (further : ∀ value, result = .ok value → ReportsOnly admissible (next value)) :
    ReportsOnly admissible ((liftM result : Reporting α) >>= next) := by
  cases result with
  | error fault =>
    rintro _ _ ⟨⟩
  | ok value =>
    rw [Reporting.lift_bind]
    exact further value rfl

protected theorem imp {weaker : Diagnostic → Prop} {computation : Reporting α}
    (only : ReportsOnly admissible computation) (weaken : ∀ diagnostic, admissible diagnostic → weaker diagnostic) :
    ReportsOnly weaker computation :=
  fun value diagnostics gave diagnostic member => weaken diagnostic (only value diagnostics gave diagnostic member)

protected theorem foldlM {step : α → β → Reporting α} (only : ∀ state item, ReportsOnly admissible (step state item))
    (items : List β) (state : α) : ReportsOnly admissible (items.foldlM step state) := by
  induction items generalizing state with
  | nil => exact .give state
  | cons item rest ih => exact (only state item).bind ih

protected theorem ifSilent {computation : Reporting α} (only : ReportsOnly admissible computation) :
    ReportsOnly admissible (ifSilent computation) := by
  rcases computation with fault | ⟨given, _ | ⟨first, rest⟩⟩
  · rintro _ _ ⟨⟩
  · exact .give _
  · rintro _ _ ⟨⟩
    exact only given (first :: rest) rfl

end ReportsOnly

/-! ### Computations that report certain diagnostics of a kind -/

/-- Of one kind a computation reports exactly the given diagnostics, in order. -/
def ReportsOf (kind : DiagnosticKind) (reports : List Diagnostic) (computation : Reporting α) : Prop :=
  ∀ value diagnostics, computation = .ok (value, diagnostics) →
    diagnostics.filter (fun diagnostic => diagnostic.kind = kind) = reports

namespace ReportsOf

variable {kind : DiagnosticKind}

protected theorem give (value : α) : ReportsOf kind [] (give value) := by
  rintro _ _ ⟨⟩
  rfl

protected theorem recover {diagnostic : Diagnostic} (is : diagnostic.kind = kind) (value : α) :
    ReportsOf kind [diagnostic] (recover diagnostic value) := by
  rintro _ _ ⟨⟩
  simp [is]

protected theorem bind {reports others : List Diagnostic} {first : Reporting α} {next : α → Reporting β}
    (early : ReportsOf kind reports first) (late : ∀ value, ReportsOf kind others (next value)) :
    ReportsOf kind (reports ++ others) (first >>= next) := by
  intro value diagnostics gave
  obtain ⟨middle, before, after, gaveFirst, gaveNext, rfl⟩ := bind_eq_ok.1 gave
  rw [List.filter_append, early middle before gaveFirst, late middle value after gaveNext]

/-- What reports only other kinds adds nothing. -/
protected theorem bind_other {reports : List Diagnostic} {admissible : Diagnostic → Prop} {first : Reporting α}
    {next : α → Reporting β} (early : ReportsOf kind reports first)
    (only : ∀ value, ReportsOnly admissible (next value))
    (other : ∀ diagnostic, admissible diagnostic → diagnostic.kind ≠ kind) :
    ReportsOf kind reports (first >>= next) := by
  have late (value : α) : ReportsOf kind [] (next value) := fun result diagnostics gave =>
    List.filter_eq_nil_iff.2 fun diagnostic member =>
      by simpa using other diagnostic (only value result diagnostics gave diagnostic member)
  have together := early.bind late
  rwa [List.append_nil] at together

/-- Nor does giving a value in the end. -/
protected theorem bind_give {reports : List Diagnostic} {first : Reporting α} (early : ReportsOf kind reports first)
    (result : α → β) : ReportsOf kind reports (first >>= fun value => Reporting.give (result value)) :=
  early.bind_other (fun value => ReportsOnly.give (result value)) fun _ (impossible : False) => impossible.elim

end ReportsOf

/-! ### Computations that vouch for their values -/

/-- A computation gives values of some sort only, unless it accounts for something that is missing. -/
def Vouches (sort : α → Prop) (computation : Reporting α) : Prop :=
  ∀ value diagnostics, computation = .ok (value, diagnostics) →
    (∀ diagnostic ∈ diagnostics, ¬diagnostic.Accounts) → sort value

namespace Vouches

variable {sort : α → Prop} {sort' : β → Prop}

protected theorem give {value : α} (holds : sort value) : Vouches sort (give value) := by
  rintro _ _ ⟨⟩ _
  exact holds

/-- Once something is accounted for, any value will do. -/
protected theorem recover {diagnostic : Diagnostic} (accounts : diagnostic.Accounts) (value : α) :
    Vouches sort (recover diagnostic value) := by
  rintro _ _ ⟨⟩ unaccounted
  exact absurd accounts (unaccounted diagnostic List.mem_cons_self)

theorem of_recovers {exemplar : Diagnostic} {value : α} {computation : Reporting α}
    (recovers : Recovers exemplar value computation) (accounts : exemplar.Accounts) : Vouches sort computation := by
  obtain ⟨diagnostic, rfl, alike⟩ := recovers
  exact .recover (alike.accounts accounts) value

protected theorem bind {first : Reporting α} {next : α → Reporting β} (vouches : Vouches sort first)
    (further : ∀ value, sort value → Vouches sort' (next value)) : Vouches sort' (first >>= next) := by
  intro value diagnostics gave unaccounted
  obtain ⟨middle, before, after, gaveFirst, gaveNext, rfl⟩ := bind_eq_ok.1 gave
  obtain ⟨early, late⟩ := List.forall_mem_append.1 unaccounted
  exact further middle (vouches middle before gaveFirst early) value after gaveNext late

protected theorem imp {weaker : α → Prop} {computation : Reporting α} (vouches : Vouches sort computation)
    (weaken : ∀ value, sort value → weaker value) : Vouches weaker computation :=
  fun value diagnostics gave unaccounted => weaken value (vouches value diagnostics gave unaccounted)

/-- What a computation gives in any case may be added to what it vouches for. -/
theorem withSort {further : α → Prop} {computation : Reporting α} (vouches : Vouches sort computation)
    (gives : Gives further computation) : Vouches (fun value => further value ∧ sort value) computation :=
  fun value diagnostics gave unaccounted => ⟨gives.of_eq gave, vouches value diagnostics gave unaccounted⟩

end Vouches

end Reporting

end Circuitry
