import Circuitry.Report.Reporting
import Mathlib.Data.List.Forall2

/-!
# Reasoning about computations that report

Three ways to speak of such computations, each with a rule for sequences. A computation *gives* values of some
sort if no fault ends it; if it reports one mistake on the way, it *recovers* from it. Two computations run
*alike* if they give related values and report the same mistakes at the same places. A computation *foretells*
another one if what it gives is related to what the other one gives, and, as far as it reports nothing, the
other one reports nothing but what depends on data.
-/

set_option autoImplicit false

namespace Circuitry

/-- Whether a mistake of this kind may come to light only when data is known: a divisor that is zero, a key
that is missing, a callback that fails. -/
def DiagnosticKind.dependsOnData : DiagnosticKind → Bool
  | .divisionByZero | .invalidIndex | .callFailed => true
  | _ => false

theorem DiagnosticKind.dependsOnData_iff {kind : DiagnosticKind} :
    kind.dependsOnData = true ↔ kind = .divisionByZero ∨ kind = .invalidIndex ∨ kind = .callFailed := by
  cases kind <;> simp [dependsOnData]

/-- Two diagnostics report the same mistake at the same places, in whatever words. -/
structure Diagnostic.Alike (diagnostic other : Diagnostic) : Prop where
  kind : diagnostic.kind = other.kind
  severity : diagnostic.severity = other.severity
  span : diagnostic.span = other.span
  labels : diagnostic.labels.map Label.span = other.labels.map Label.span

theorem Diagnostic.Alike.symm {diagnostic other : Diagnostic} (alike : diagnostic.Alike other) :
    other.Alike diagnostic :=
  ⟨alike.kind.symm, alike.severity.symm, alike.span.symm, alike.labels.symm⟩

theorem Diagnostic.Alike.trans {diagnostic other further : Diagnostic} (alike : diagnostic.Alike other)
    (alike' : other.Alike further) : diagnostic.Alike further :=
  ⟨alike.kind.trans alike'.kind, alike.severity.trans alike'.severity, alike.span.trans alike'.span,
    alike.labels.trans alike'.labels⟩

theorem Diagnostic.Alike.error (kind : DiagnosticKind) (span : Option Span) (message message' : String) :
    (Diagnostic.error kind span message).Alike (.error kind span message') := ⟨rfl, rfl, rfl, rfl⟩

theorem Diagnostic.Alike.withLabel {diagnostic other : Diagnostic} (alike : diagnostic.Alike other)
    (span : Span) (message message' : String) :
    (diagnostic.withLabel span message).Alike (other.withLabel span message') :=
  ⟨alike.kind, alike.severity, alike.span, by simp [Diagnostic.withLabel, alike.labels]⟩

namespace Reporting

variable {α β γ δ : Type}

/-! ### Sequences -/

theorem bind_of_ok {first : Reporting α} {next : α → Reporting β} {value : α} {result : β}
    {before after : List Diagnostic} (gave : first = .ok (value, before))
    (gives : next value = .ok (result, after)) : (first >>= next) = .ok (result, before ++ after) := by
  change first.andThen next = _
  simp only [andThen, gave, gives]
  rfl

/-- A sequence gives a value only if both of its parts do; their diagnostics follow one another. -/
theorem bind_eq_ok {first : Reporting α} {next : α → Reporting β} {result : β}
    {diagnostics : List Diagnostic} :
    (first >>= next) = .ok (result, diagnostics) ↔
      ∃ value before after, first = .ok (value, before) ∧ next value = .ok (result, after) ∧
        diagnostics = before ++ after := by
  constructor
  · intro gives
    change first.andThen next = _ at gives
    rcases first with fault | ⟨value, before⟩
    · cases gives
    · simp only [andThen] at gives
      cases later : next value with
      | error fault =>
        rw [later] at gives
        cases gives
      | ok made =>
        obtain ⟨made, after⟩ := made
        rw [later] at gives
        cases gives
        exact ⟨value, before, after, rfl, later, rfl⟩
  · rintro ⟨value, before, after, gave, gives, rfl⟩
    exact bind_of_ok gave gives

/-- A sequence reports nothing if neither of its parts does. -/
theorem bind_silent {first : Reporting α} {next : α → Reporting β} {result : β} :
    (first >>= next) = .ok (result, []) ↔
      ∃ value, first = .ok (value, []) ∧ next value = .ok (result, []) := by
  rw [bind_eq_ok]
  constructor
  · rintro ⟨value, before, after, gave, gives, parts⟩
    obtain ⟨rfl, rfl⟩ := List.append_eq_nil_iff.1 parts.symm
    exact ⟨value, gave, gives⟩
  · rintro ⟨value, gave, gives⟩
    exact ⟨value, [], [], gave, gives, rfl⟩

@[simp] theorem lift_bind (value : α) (next : α → Reporting β) :
    (liftM (Except.ok value : Except Fault α) : Reporting α) >>= next = next value :=
  give_andThen value next

@[simp] theorem pure_eq_give (value : α) : (pure value : Reporting α) = give value := rfl

/-! ### Computations that no fault ends -/

/-- A computation gives a value of some sort. -/
def Gives (sort : α → Prop) (computation : Reporting α) : Prop :=
  ∃ value diagnostics, computation = .ok (value, diagnostics) ∧ sort value

namespace Gives

variable {sort : α → Prop} {sort' : β → Prop}

protected theorem give {value : α} (holds : sort value) : Gives sort (give value) :=
  ⟨value, [], rfl, holds⟩

protected theorem recover {value : α} (diagnostic : Diagnostic) (holds : sort value) :
    Gives sort (recover diagnostic value) := ⟨value, [diagnostic], rfl, holds⟩

protected theorem bind {first : Reporting α} {next : α → Reporting β} (gave : Gives sort first)
    (gives : ∀ value, sort value → Gives sort' (next value)) : Gives sort' (first >>= next) := by
  obtain ⟨value, before, gave, holds⟩ := gave
  obtain ⟨result, after, gives, holds'⟩ := gives value holds
  exact ⟨result, before ++ after, bind_of_ok gave gives, holds'⟩

/-- Taking items one after the other, a computation keeps giving a state of some sort. -/
protected theorem foldlM {step : α → β → Reporting α} {items : List β}
    (gives : ∀ state, sort state → ∀ item ∈ items, Gives sort (step state item)) {state : α} (holds : sort state) :
    Gives sort (items.foldlM step state) := by
  induction items generalizing state with
  | nil => exact .give holds
  | cons item rest ih =>
    have first := gives state holds item List.mem_cons_self
    exact first.bind fun _ holds' =>
      ih (fun state holds item member => gives state holds item (List.mem_cons_of_mem _ member)) holds'

protected theorem imp {weaker : α → Prop} {computation : Reporting α} (gives : Gives sort computation)
    (weaken : ∀ value, sort value → weaker value) : Gives weaker computation := by
  obtain ⟨value, diagnostics, given, holds⟩ := gives
  exact ⟨value, diagnostics, given, weaken value holds⟩

theorem of_eq {computation : Reporting α} (gives : Gives sort computation) {value : α}
    {diagnostics : List Diagnostic} (same : computation = .ok (value, diagnostics)) : sort value := by
  obtain ⟨_, _, given, holds⟩ := gives
  cases given.symm.trans same
  exact holds

end Gives

theorem ifSilent_eq_some {computation : Reporting α} {value : α} {diagnostics : List Diagnostic} :
    ifSilent computation = .ok (some value, diagnostics) ↔
      diagnostics = [] ∧ computation = .ok (value, []) := by
  rcases computation with fault | ⟨given, _ | ⟨first, rest⟩⟩
  · exact ⟨fun same => (nomatch same), fun same => (nomatch same.2)⟩
  · constructor
    · intro same
      cases same
      exact ⟨rfl, rfl⟩
    · rintro ⟨rfl, same⟩
      cases same
      rfl
  · exact ⟨fun same => (nomatch same), fun same => (nomatch same.2)⟩

/-- A computation whose value was held back has reported something. -/
theorem reported_of_ifSilent {computation : Reporting α} {diagnostics : List Diagnostic}
    (held : ifSilent computation = .ok (none, diagnostics)) : diagnostics ≠ [] := by
  rcases computation with fault | ⟨given, _ | ⟨first, rest⟩⟩ <;> cases held
  exact List.cons_ne_nil first rest

theorem Gives.ifSilent {sort : α → Prop} {computation : Reporting α} (gives : Gives sort computation) :
    Gives (fun bound => ∀ value, bound = some value → sort value) (ifSilent computation) := by
  obtain ⟨value, _ | ⟨first, rest⟩, rfl, holds⟩ := gives
  · exact ⟨some value, [], rfl, fun _ same => Option.some.inj same ▸ holds⟩
  · exact ⟨none, first :: rest, rfl, fun _ same => (nomatch same)⟩

/-- A computation reports one mistake, of which an exemplar tells all but the words, and gives a value in spite
of it. -/
def Recovers (exemplar : Diagnostic) (value : α) (computation : Reporting α) : Prop :=
  ∃ diagnostic, computation = recover diagnostic value ∧ diagnostic.Alike exemplar

theorem Recovers.gives {exemplar : Diagnostic} {value : α} {computation : Reporting α}
    (recovers : Recovers exemplar value computation) {sort : α → Prop} (holds : sort value) :
    Gives sort computation := by
  obtain ⟨diagnostic, rfl, -⟩ := recovers
  exact .recover diagnostic holds

/-! ### Computations that run alike -/

/-- Two computations give related values and report alike. -/
def Alike (related : α → β → Prop) (computation : Reporting α) (other : Reporting β) : Prop :=
  ∃ value diagnostics result reported, computation = .ok (value, diagnostics) ∧
    other = .ok (result, reported) ∧ related value result ∧
    List.Forall₂ Diagnostic.Alike diagnostics reported

namespace Alike

variable {related : α → β → Prop} {related' : γ → δ → Prop}

protected theorem give {value : α} {result : β} (holds : related value result) :
    Alike related (give value) (give result) := ⟨value, [], result, [], rfl, rfl, holds, .nil⟩

protected theorem recover {value : α} {result : β} {diagnostic reported : Diagnostic}
    (alike : diagnostic.Alike reported) (holds : related value result) :
    Alike related (recover diagnostic value) (recover reported result) :=
  ⟨value, [diagnostic], result, [reported], rfl, rfl, holds, .cons alike .nil⟩

protected theorem bind {first : Reporting α} {other : Reporting β} {next : α → Reporting γ}
    {nextOther : β → Reporting δ} (alike : Alike related first other)
    (further : ∀ value result, related value result → Alike related' (next value) (nextOther result)) :
    Alike related' (first >>= next) (other >>= nextOther) := by
  obtain ⟨middle, before, middle', before', gave, gave', holds, alike⟩ := alike
  obtain ⟨value, after, result, after', gives, gives', holds', alike'⟩ := further middle middle' holds
  exact ⟨value, before ++ after, result, before' ++ after', bind_of_ok gave gives, bind_of_ok gave' gives',
    holds', List.rel_append alike alike'⟩

/-- Two computations that recover from the same mistake run alike. -/
theorem of_recovers {exemplar : Diagnostic} {computation : Reporting α} {other : Reporting β} {value : α}
    {result : β} (recovers : Recovers exemplar value computation) (recovers' : Recovers exemplar result other)
    (holds : related value result) : Alike related computation other := by
  obtain ⟨diagnostic, rfl, alike⟩ := recovers
  obtain ⟨diagnostic', rfl, alike'⟩ := recovers'
  exact .recover (alike.trans alike'.symm) holds

/-- What is known of each value apart may be added to how the two are related. -/
theorem withSorts {sort : α → Prop} {sort' : β → Prop} {computation : Reporting α} {other : Reporting β}
    (alike : Alike related computation other) (gives : Gives sort computation) (gives' : Gives sort' other) :
    Alike (fun value result => related value result ∧ sort value ∧ sort' result) computation other := by
  obtain ⟨value, diagnostics, result, reported, gave, gave', holds, alike⟩ := alike
  exact ⟨value, diagnostics, result, reported, gave, gave', ⟨holds, gives.of_eq gave, gives'.of_eq gave'⟩,
    alike⟩

/-- Values of computations that run alike are both held back, or neither is. -/
protected theorem ifSilent {computation : Reporting α} {other : Reporting β}
    (alike : Alike related computation other) :
    Alike (Option.Rel related) (ifSilent computation) (ifSilent other) := by
  obtain ⟨value, diagnostics, result, reported, rfl, rfl, holds, alike⟩ := alike
  cases alike with
  | nil => exact ⟨some value, [], some result, [], rfl, rfl, .some holds, .nil⟩
  | cons head tail => exact ⟨none, _, none, _, rfl, rfl, .none, .cons head tail⟩

/-- If one of two computations that run alike reports nothing, neither does the other. -/
theorem silent {computation : Reporting α} {other : Reporting β} (alike : Alike related computation other)
    {value : α} (gave : computation = .ok (value, [])) :
    ∃ result, other = .ok (result, []) ∧ related value result := by
  obtain ⟨_, _, result, reported, given, gives, holds, alike⟩ := alike
  cases given.symm.trans gave
  cases alike
  exact ⟨result, gives, holds⟩

theorem gives {computation : Reporting α} {other : Reporting β} (alike : Alike related computation other) :
    Gives (fun value => ∃ result, related value result) computation := by
  obtain ⟨value, diagnostics, result, _, given, _, holds, _⟩ := alike
  exact ⟨value, diagnostics, given, result, holds⟩

end Alike

/-! ### Computations that foretell others -/

/-- What a computation gives is related to what another one gives. If it is lenient this holds whatever is
reported; otherwise it holds if the first reports nothing, and then the other one reports only what depends
on data. -/
def Foretells (lenient : Bool) (related : α → β → Prop) (computation : Reporting α)
    (other : Reporting β) : Prop :=
  ∀ value diagnostics result reported, computation = .ok (value, diagnostics) →
    other = .ok (result, reported) → lenient = true ∨ diagnostics = [] →
    related value result ∧
      (lenient = false → ∀ diagnostic ∈ reported, diagnostic.kind.dependsOnData = true)

namespace Foretells

variable {lenient : Bool} {related : α → β → Prop} {related' : γ → δ → Prop}

protected theorem give {value : α} {result : β} (holds : related value result) :
    Foretells lenient related (give value) (give result) := by
  intro _ _ _ _ gave gives _
  cases gave
  cases gives
  exact ⟨holds, fun _ _ member => (nomatch member)⟩

/-- Unless it is lenient, a computation that reports something foretells nothing. -/
protected theorem recover {value : α} {diagnostic : Diagnostic} {other : Reporting β}
    (holds : lenient = true → ∀ result reported, other = .ok (result, reported) → related value result) :
    Foretells lenient related (recover diagnostic value) other := by
  intro _ _ result reported gave gives quiet
  cases gave
  rcases quiet with rfl | silent
  · exact ⟨holds rfl result reported gives, fun strict => (nomatch strict)⟩
  · cases silent

/-- What depends on data may be reported whatever was foretold. -/
protected theorem recover_right {result : β} {diagnostic : Diagnostic}
    {computation : Reporting α} (data : diagnostic.kind.dependsOnData = true)
    (holds : ∀ value diagnostics, computation = .ok (value, diagnostics) → related value result) :
    Foretells lenient related computation (recover diagnostic result) := by
  intro value diagnostics _ _ gave gives _
  cases gives
  refine ⟨holds value diagnostics gave, fun _ _ member => ?_⟩
  obtain rfl := List.mem_singleton.1 member
  exact data

protected theorem bind {first : Reporting α} {other : Reporting β} {next : α → Reporting γ}
    {nextOther : β → Reporting δ} (foretells : Foretells lenient related first other)
    (further : ∀ value diagnostics result reported, first = .ok (value, diagnostics) →
      other = .ok (result, reported) → related value result →
      Foretells lenient related' (next value) (nextOther result)) :
    Foretells lenient related' (first >>= next) (other >>= nextOther) := by
  intro value diagnostics result reported gave gives quiet
  obtain ⟨middle, before, after, gaveFirst, gaveNext, rfl⟩ := bind_eq_ok.1 gave
  obtain ⟨middle', before', after', givesFirst, givesNext, rfl⟩ := bind_eq_ok.1 gives
  have quietFirst : lenient = true ∨ before = [] := quiet.imp_right fun silent => by simp_all
  have quietNext : lenient = true ∨ after = [] := quiet.imp_right fun silent => by simp_all
  obtain ⟨holds, dataFirst⟩ := foretells middle before middle' before' gaveFirst givesFirst quietFirst
  obtain ⟨holds', dataNext⟩ :=
    further middle before middle' before' gaveFirst givesFirst holds value after result after' gaveNext
      givesNext quietNext
  refine ⟨holds', fun strict diagnostic member => ?_⟩
  rcases List.mem_append.1 member with early | late
  · exact dataFirst strict diagnostic early
  · exact dataNext strict diagnostic late

end Foretells

end Reporting

end Circuitry
