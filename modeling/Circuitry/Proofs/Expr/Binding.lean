import Circuitry.Proofs.Expr.Placement
import Circuitry.Proofs.Kernel.Agreement

/-!
# Arguments that are bound

A call binds arguments exactly if nothing is reported while they are placed and every one of them satisfies its
constraint. Binding well-formed arguments to a well-formed signature never ends in a fault.
-/

set_option autoImplicit false

namespace Circuitry

variable {registry : Registry}

namespace Signature

/-- What fills a slot, or a placeholder. -/
def slotValue (slot : Option Filler) : Value := (slot.map Filler.value).getD .placeholder

theorem slotType?_eq (slot : Option Filler) : slotType? slot = (slotValue slot).ty? := by
  cases slot <;> rfl

theorem map_slotType? (slots : List (Option Filler)) :
    slots.map slotType? = (slots.map slotValue).map Value.ty? := by
  rw [List.map_map]
  exact List.map_congr_left fun slot _ => slotType?_eq slot

/-- The values in slots that are filled alike are related, if placeholders are. -/
theorem slotValues_alike {related : Value → Value → Prop} {slots slots' : List (Option Filler)}
    (alike : SlotsAlike related slots slots') (placeholders : related .placeholder .placeholder) :
    List.Forall₂ related (slots.map slotValue) (slots'.map slotValue) := by
  induction alike with
  | nil => exact .nil
  | cons head _ ih =>
    refine .cons ?_ ih
    cases head with
    | none => exact placeholders
    | some fillers => exact fillers.value

/-! ### Checking -/

/-- A parameter decides on the type of what fills its slot. -/
theorem checkSlot_some {signature : Signature} {types : List (Option Ty)} {index : Nat} {parameter : Parameter}
    (found : signature.parameters[index]? = some parameter) {filler : Filler} {ty : Ty}
    (has : filler.value.ty? = some ty) :
    signature.checkSlot types index parameter (some filler) =
      if parameter.constraint.accepts ty types then Reporting.give ⟨⟩
      else (do
        let expected ← signature.constraintText index
        let actual ← ty.text
        Reporting.report
          (Diagnostic.error .argumentType (some filler.span)
            ("argument '" ++ parameter.name ++ "' expects " ++ expected ++ ", found " ++ actual))) := by
  simp only [checkSlot, has, accepts, found, Reporting.lift_bind]
  rfl

theorem checkSlot_silent_iff {signature : Signature} {types : List (Option Ty)} {index : Nat}
    {parameter : Parameter} {slot : Option Filler} (found : signature.parameters[index]? = some parameter) :
    signature.checkSlot types index parameter slot = .ok (⟨⟩, []) ↔
      ∀ ty, (slotValue slot).ty? = some ty → parameter.constraint.accepts ty types = true := by
  cases slot with
  | none => exact ⟨fun _ _ same => (nomatch same), fun _ => rfl⟩
  | some filler =>
    simp only [slotValue, Option.map_some, Option.getD_some]
    cases has : filler.value.ty? with
    | none =>
      simp only [checkSlot, has]
      exact ⟨fun _ _ same => (nomatch same), fun _ => rfl⟩
    | some ty =>
      rw [checkSlot_some found has]
      by_cases accepted : parameter.constraint.accepts ty types = true
      · simp only [accepted, if_true]
        exact ⟨fun _ _ same => Option.some.inj same ▸ accepted, fun _ => rfl⟩
      · simp only [accepted, Bool.false_eq_true, if_false]
        refine ⟨fun silent => ?_, fun all => absurd (all ty rfl) accepted⟩
        obtain ⟨_, -, further⟩ := Reporting.bind_silent.1 silent
        obtain ⟨_, -, reported⟩ := Reporting.bind_silent.1 further
        cases reported

/-- The first of the parameters from a position on, and those after it. -/
theorem parameters_drop {signature : Signature} {index : Nat} {parameter : Parameter}
    {parameters : List Parameter} (suffix : signature.parameters.drop index = parameter :: parameters) :
    signature.parameters[index]? = some parameter ∧ signature.parameters.drop (index + 1) = parameters := by
  have here := congrArg List.head? suffix
  have further := congrArg List.tail suffix
  exact ⟨by simpa [List.head?_drop] using here, by simpa [List.tail_drop] using further⟩

theorem checkSlots_silent_iff {signature : Signature} {types : List (Option Ty)} {index : Nat}
    {parameters : List Parameter} {slots : List (Option Filler)}
    (suffix : signature.parameters.drop index = parameters) (length : slots.length = parameters.length) :
    signature.checkSlots types index parameters slots = .ok (⟨⟩, []) ↔
      List.Forall₂ (fun parameter value => ∀ ty, value.ty? = some ty →
        parameter.constraint.accepts ty types = true) parameters (slots.map slotValue) := by
  induction parameters generalizing slots index with
  | nil =>
    obtain rfl := List.length_eq_zero_iff.1 length
    exact ⟨fun _ => .nil, fun _ => rfl⟩
  | cons parameter parameters ih =>
    cases slots with
    | nil => cases length
    | cons slot slots =>
      have length' : slots.length = parameters.length := by simpa using length
      obtain ⟨here, further⟩ := parameters_drop suffix
      simp only [checkSlots, List.map_cons, List.forall₂_cons]
      rw [← ih further length', ← checkSlot_silent_iff here, Reporting.bind_silent]
      constructor
      · rintro ⟨_, first, rest⟩
        exact ⟨first, rest⟩
      · rintro ⟨first, rest⟩
        exact ⟨⟨⟩, first, rest⟩

/-! ### Binding -/

theorem bind_eq_filled (signature : Signature) (settings : Settings) (supplied : List Supplied)
    (span : Span) :
    signature.bind settings supplied span = Reporting.ifSilent (do
      let slots ← signature.filled settings supplied span
      signature.checkSlots (slots.map slotType?) 0 signature.parameters slots
      return slots.map slotValue) := by
  simp only [bind, filled, bind_assoc]
  rfl

theorem filled_length {signature : Signature} {settings : Settings} {supplied : List Supplied} {span : Span}
    {slots : List (Option Filler)} {diagnostics : List Diagnostic}
    (filled : signature.filled settings supplied span = .ok (slots, diagnostics)) :
    slots.length = signature.parameters.length := by
  have parameters : List.Forall₂ (Parameter.Alike fun _ _ => True) signature.parameters
      signature.parameters :=
    List.forall₂_same.2 fun parameter _ => ⟨rfl, by cases parameter.fallback <;> constructor; trivial⟩
  have pairs : List.Forall₂ (Supplied.Alike fun _ _ => True) supplied supplied :=
    List.forall₂_same.2 fun _ _ => ⟨rfl, trivial, rfl⟩
  obtain ⟨_, length, -⟩ := (filled_alike settings settings parameters pairs span).gives.of_eq filled
  exact length

/-- Arguments are bound if nothing is reported of their places and all of them are accepted. -/
theorem bind_eq_some {signature : Signature} {settings : Settings} {supplied : List Supplied} {span : Span}
    {arguments : List Value} {diagnostics : List Diagnostic} :
    signature.bind settings supplied span = .ok (some arguments, diagnostics) ↔
      diagnostics = [] ∧ ∃ slots, signature.filled settings supplied span = .ok (slots, []) ∧
        arguments = slots.map slotValue ∧ signature.AcceptsAll arguments := by
  have suffix : signature.parameters.drop 0 = signature.parameters := rfl
  rw [bind_eq_filled, Reporting.ifSilent_eq_some]
  refine and_congr_right fun _ => ⟨fun silent => ?_, ?_⟩
  · obtain ⟨slots, filled, further⟩ := Reporting.bind_silent.1 silent
    obtain ⟨_, checked, given⟩ := Reporting.bind_silent.1 further
    cases given
    refine ⟨slots, filled, rfl, ?_⟩
    have accepted := (checkSlots_silent_iff suffix (filled_length filled)).1 checked
    rwa [map_slotType?] at accepted
  · rintro ⟨slots, filled, rfl, accepted⟩
    refine Reporting.bind_silent.2 ⟨slots, filled, Reporting.bind_silent.2 ⟨⟨⟩, ?_, rfl⟩⟩
    rw [checkSlots_silent_iff suffix (filled_length filled), map_slotType?]
    exact accepted

/-! ### Well-formed arguments -/

theorem fallback_wellFormed {signature : Signature}
    (sound : (Ty.function signature).wellFormed registry = true) {parameter : Parameter}
    (member : parameter ∈ signature.parameters) {value : Value} (fallback : parameter.fallback = some value) :
    value.wellFormed registry = true :=
  (Parameter.wellFormed_iff.1 ((Ty.wellFormed_function.1 sound).2.1 parameter member)).2 value fallback

/-- The parameters of signatures that agree have the same names and defaults that agree. -/
theorem Agrees.parameters {signature other : Signature} (agrees : signature.Agrees registry other) :
    List.Forall₂ (Parameter.Alike (Value.Agrees registry)) signature.parameters other.parameters := by
  refine forall₂_imp (Signature.same_iff.1 agrees.same).1 fun parameter member parameter' member' same => ?_
  obtain ⟨name, -, fallbacks⟩ := Parameter.same_iff.1 same
  refine ⟨name, ?_⟩
  cases fallback : parameter.fallback <;> cases fallback' : parameter'.fallback <;>
    simp only [fallback, fallback', Value.sameFallback, Bool.false_eq_true] at fallbacks
  · exact .none
  · exact .some ⟨fallback_wellFormed agrees.sound member fallback,
      fallback_wellFormed agrees.sound' member' fallback', fallbacks⟩

theorem filled_gives {signature : Signature} (sound : (Ty.function signature).wellFormed registry = true)
    (settings : Settings) {supplied : List Supplied}
    (soundSupplied : ∀ argument ∈ supplied, argument.value.wellFormed registry = true) (span : Span) :
    Reporting.Gives
      (fun slots => slots.length = signature.parameters.length ∧
        ∀ value ∈ slots.map slotValue, value.wellFormed registry = true)
      (signature.filled settings supplied span) := by
  have parameters : List.Forall₂ (Parameter.Alike fun value _ => value.wellFormed registry = true)
      signature.parameters signature.parameters := by
    refine List.forall₂_same.2 fun parameter member => ⟨rfl, ?_⟩
    cases fallback : parameter.fallback with
    | none => exact .none
    | some value => exact .some (fallback_wellFormed sound member fallback)
  have pairs : List.Forall₂ (Supplied.Alike fun value _ => value.wellFormed registry = true) supplied
      supplied := List.forall₂_same.2 fun argument member => ⟨rfl, soundSupplied argument member, rfl⟩
  refine (filled_alike settings settings parameters pairs span).gives.imp fun slots => ?_
  rintro ⟨slots', length, alike⟩
  exact ⟨length, forall₂_each (slotValues_alike alike rfl) fun _ _ holds => holds⟩

theorem constraintText_ok {signature : Signature} (sound : (Ty.function signature).wellFormed registry = true)
    {index : Nat} {parameter : Parameter} (found : signature.parameters[index]? = some parameter) :
    ∃ text, signature.constraintText index = .ok text := by
  obtain ⟨closed, inParameters, -⟩ := Ty.wellFormed_function.1 sound
  have member := List.mem_of_getElem? found
  have mentioned := Parameter.wellFormed_iff.1 (inParameters parameter member)
  obtain ⟨text, written⟩ := Constraint.text_ok (signature.parameters.map Parameter.name)
    (by rw [List.length_map]; exact constraint_within closed member)
    fun ty is => Ty.text_ok (mentioned.1 ty is)
  exact ⟨text, by simp only [constraintText, found, written]⟩

theorem checkSlot_gives {signature : Signature} (sound : (Ty.function signature).wellFormed registry = true)
    (types : List (Option Ty)) {index : Nat} {parameter : Parameter} {slot : Option Filler}
    (found : signature.parameters[index]? = some parameter)
    (soundSlot : (slotValue slot).wellFormed registry = true) :
    Reporting.Gives (fun _ => True) (signature.checkSlot types index parameter slot) := by
  cases slot with
  | none => exact .give trivial
  | some filler =>
    cases has : filler.value.ty? with
    | none =>
      simp only [checkSlot, has]
      exact .give trivial
    | some ty =>
      rw [checkSlot_some found has]
      split
      · exact .give trivial
      · obtain ⟨expected, written⟩ := constraintText_ok sound found
        obtain ⟨foundText, written'⟩ := Ty.text_ok (Value.wellFormed_ty soundSlot has)
        simp only [written, written', Reporting.lift_bind]
        exact .recover _ trivial

theorem checkSlots_gives {signature : Signature} (sound : (Ty.function signature).wellFormed registry = true)
    (types : List (Option Ty)) (index : Nat) {parameters : List Parameter} {slots : List (Option Filler)}
    (suffix : signature.parameters.drop index = parameters)
    (soundSlots : ∀ value ∈ slots.map slotValue, value.wellFormed registry = true) :
    Reporting.Gives (fun _ => True) (signature.checkSlots types index parameters slots) := by
  induction parameters generalizing slots index with
  | nil => exact .give trivial
  | cons parameter parameters ih =>
    cases slots with
    | nil => exact .give trivial
    | cons slot slots =>
      have soundSlot := soundSlots (slotValue slot) (by simp)
      have soundRest : ∀ value ∈ slots.map slotValue, value.wellFormed registry = true :=
        fun value member => soundSlots value (List.mem_cons_of_mem _ member)
      obtain ⟨here, further⟩ := parameters_drop suffix
      exact (checkSlot_gives sound types here soundSlot).bind fun _ _ => ih (index + 1) further soundRest

/-- Binding well-formed arguments gives well-formed arguments that are accepted, or none. -/
theorem bind_gives {signature : Signature} (sound : (Ty.function signature).wellFormed registry = true)
    (settings : Settings) {supplied : List Supplied}
    (soundSupplied : ∀ argument ∈ supplied, argument.value.wellFormed registry = true) (span : Span) :
    Reporting.Gives
      (fun bound => ∀ arguments, bound = some arguments →
        (∀ value ∈ arguments, value.wellFormed registry = true) ∧ signature.AcceptsAll arguments)
      (signature.bind settings supplied span) := by
  have gives : Reporting.Gives
      (fun bound => ∀ arguments, bound = some arguments →
        ∀ value ∈ arguments, value.wellFormed registry = true)
      (signature.bind settings supplied span) := by
    rw [bind_eq_filled]
    refine ((filled_gives sound settings soundSupplied span).bind fun slots holds => ?_).ifSilent
    exact (checkSlots_gives sound _ 0 rfl holds.2).bind fun _ _ => .give holds.2
  obtain ⟨bound, diagnostics, made, soundBound⟩ := gives
  refine ⟨bound, diagnostics, made, ?_⟩
  rintro arguments rfl
  obtain ⟨-, _, -, -, accepted⟩ := bind_eq_some.1 made
  exact ⟨soundBound arguments rfl, accepted⟩

end Signature

end Circuitry
