import Circuitry.Proofs.Block.Forecast
import Circuitry.Template.Basic

/-!
# Instances of a template

An instance binds a value to every parameter and then runs the block. Whatever arguments are given, the value
of a parameter is one that its unknown foretells: the argument, if it has the right type; the default; or a
placeholder or an unknown in place of what was reported.
-/

set_option autoImplicit false

namespace Circuitry

variable {registry : Registry} {lenient : Bool}

/-- A parameter of a well-formed type, whose default is well-formed and has this type. -/
structure TemplateParameter.Sound (registry : Registry) (parameter : TemplateParameter) : Prop where
  ty : parameter.ty.wellFormed registry = true
  fallback : ∀ value, parameter.fallback = some value →
    value.wellFormed registry = true ∧ value.hasType parameter.ty = true

namespace TemplateParameter.Sound

variable {parameter : TemplateParameter}

theorem unknown (sound : parameter.Sound registry) :
    (Value.unknown parameter.ty).wellFormed registry = true := by simpa using sound.ty

/-- A value of a parameter's type is foretold by the unknown of this type. -/
theorem forecast (sound : parameter.Sound registry) {value : Value}
    (soundValue : value.wellFormed registry = true) (has : value.hasType parameter.ty = true) :
    (Value.unknown parameter.ty).Forecast registry lenient value :=
  ⟨sound.unknown, soundValue, .of_refined (.unknown soundValue has)⟩

/-- So is a placeholder. -/
theorem forecast_placeholder (sound : parameter.Sound registry) :
    (Value.unknown parameter.ty).Forecast registry lenient .placeholder := ⟨sound.unknown, rfl, .lost⟩

/-- The type of a value is compared with that of the parameter either way round. -/
theorem hasType_iff (sound : parameter.Sound registry) {value : Value}
    (soundValue : value.wellFormed registry = true) {ty : Ty} (has : value.ty? = some ty) :
    ty.same parameter.ty = true ↔ value.hasType parameter.ty = true := by
  have proper := Ty.proper_of_wellFormed sound.ty
  have properTy := Ty.proper_of_wellFormed (Value.wellFormed_ty soundValue has)
  constructor
  · exact fun same => Value.hasType_iff.2 ⟨ty, has, Ty.same_symm properTy proper same⟩
  · intro hasTy
    obtain ⟨found, is, same⟩ := Value.hasType_iff.1 hasTy
    cases is.symm.trans has
    exact Ty.same_symm proper properTy same

end TemplateParameter.Sound

namespace Template

variable {template : Template} {around : Surroundings} {settings : Settings}

/-! ### Arguments -/

/-- Well-formed values by position of the parameter. -/
def Given.Sound (registry : Registry) (given : Given) : Prop :=
  ∀ index value, given.lookup index = some value → value.wellFormed registry = true

theorem take_gives {holds : Value → Prop} {given : Given}
    (taken : ∀ index value, given.lookup index = some value → holds value) {argument : String × Value}
    (held : holds argument.2) :
    Reporting.Gives (fun next => ∀ index value, next.lookup index = some value → holds value)
      (template.take settings given argument) := by
  obtain ⟨name, value⟩ := argument
  unfold take
  simp only
  split
  · split <;> exact .recover _ taken
  · rename_i index _
    split
    · exact .recover _ taken
    · refine .give fun other found listed => ?_
      rw [List.lookup_append, Option.or_eq_some_iff] at listed
      rcases listed with before | ⟨-, added⟩
      · exact taken other found before
      · rw [List.lookup_cons] at added
        split at added
        · cases added
          exact held
        · cases added

variable (template settings) in
/-- Taking arguments never ends in a fault, and what holds of all of them holds of what is taken. -/
theorem takeAll_gives_of_forall {holds : Value → Prop} {arguments : List (String × Value)}
    (held : ∀ argument ∈ arguments, holds argument.2) :
    Reporting.Gives (fun given => ∀ index value, given.lookup index = some value → holds value)
      (template.takeAll settings arguments) :=
  .foldlM (fun _ taken argument member => take_gives taken (held argument member)) fun _ _ listed => (nomatch listed)

variable (template settings) in
/-- What is taken from well-formed arguments is well-formed. -/
theorem takeAll_gives {arguments : List (String × Value)}
    (sound : ∀ argument ∈ arguments, argument.2.wellFormed registry = true) :
    Reporting.Gives (Given.Sound registry) (template.takeAll settings arguments) :=
  template.takeAll_gives_of_forall settings sound

/-- An argument of the type of a parameter is its value. -/
theorem parameterValue_of_same (template : Template) {parameter : TemplateParameter} {value : Value} {ty : Ty}
    (has : value.ty? = some ty) (same : ty.same parameter.ty = true) :
    template.parameterValue parameter (some value) = .ok (value, []) := by
  simp only [parameterValue, has, same, if_true]
  rfl

/-- Without an argument, its default is. -/
theorem parameterValue_of_fallback (template : Template) {parameter : TemplateParameter} {value : Value}
    (fallback : parameter.fallback = some value) : template.parameterValue parameter none = .ok (value, []) := by
  simp only [parameterValue, fallback]
  rfl

/-- Whatever is given for a parameter, its value is foretold by the unknown of its type. -/
theorem parameterValue_gives (template : Template) (lenient : Bool) {parameter : TemplateParameter}
    (sound : parameter.Sound registry) {given : Option Value}
    (soundGiven : ∀ value, given = some value → value.wellFormed registry = true) :
    Reporting.Gives (fun value => (Value.unknown parameter.ty).Forecast registry lenient value)
      (template.parameterValue parameter given) := by
  cases given with
  | none =>
    simp only [parameterValue]
    cases fallback : parameter.fallback with
    | none => exact .recover _ ⟨sound.unknown, sound.unknown, .of_refined (.refl sound.unknown)⟩
    | some value =>
      obtain ⟨soundValue, has⟩ := sound.fallback value fallback
      exact .give (sound.forecast soundValue has)
  | some value =>
    have soundValue := soundGiven value rfl
    simp only [parameterValue]
    cases has : value.ty? with
    | none =>
      obtain rfl := Value.ty?_eq_none.1 has
      exact .give sound.forecast_placeholder
    | some ty =>
      simp only
      split
      · rename_i same
        exact .give (sound.forecast soundValue ((sound.hasType_iff soundValue has).1 same))
      · obtain ⟨expected, written⟩ := Ty.text_ok sound.ty
        obtain ⟨found, written'⟩ := Ty.text_ok (Value.wellFormed_ty soundValue has)
        simp only [written, written', Reporting.lift_bind]
        exact .recover _ sound.forecast_placeholder

/-! ### Parameters bound in a fresh context -/

variable {forest later : ContextForest} {parent : ContextId}

theorem bindFrom_cons_eq_ok {context : ContextId} {given : Given} {index : Nat}
    {parameter : TemplateParameter} {rest : List TemplateParameter} {contexts last : ContextForest}
    {diagnostics : List Diagnostic} :
    template.bindFrom context given index (parameter :: rest) contexts = (last, .ok (⟨⟩, diagnostics)) ↔
      ∃ value before after, template.parameterValue parameter (given.lookup index) = .ok (value, before) ∧
        contexts.isSealed context = false ∧ contexts.direct? context parameter.symbol = none ∧
        template.bindFrom context given (index + 1) rest
          (contexts.extend context [(parameter.symbol, value)]) = (last, .ok (⟨⟩, after)) ∧
        diagnostics = before ++ after := by
  change ((liftM (template.parameterValue parameter (given.lookup index)) : Run Value) >>= fun value =>
    Run.define context parameter.symbol value >>= fun _ =>
      template.bindFrom context given (index + 1) rest) contexts = _ ↔ _
  rw [Run.bind_eq_ok]
  constructor
  · rintro ⟨value, middle, before, after, lifted, further, rfl⟩
    obtain ⟨_, extended, between, final, defined, others, rfl⟩ := Run.bind_eq_ok.1 further
    obtain ⟨unsealed, free, rfl, rfl⟩ := Run.define_eq_ok.1 defined
    obtain ⟨rfl, made⟩ := Run.lift_eq_ok.1 lifted
    exact ⟨value, before, final, made, unsealed, free, others, by simp⟩
  · rintro ⟨value, before, after, made, unsealed, free, others, rfl⟩
    exact ⟨value, contexts, before, after, Run.lift_eq_ok.2 ⟨rfl, made⟩,
      Run.bind_of_ok (Run.define_eq_ok.2 ⟨unsealed, free, rfl, rfl⟩) others, rfl⟩

theorem bindUnknown_cons_eq_ok {context : ContextId} {parameter : TemplateParameter}
    {rest : List TemplateParameter} {contexts last : ContextForest} {diagnostics : List Diagnostic} :
    bindUnknown context (parameter :: rest) contexts = (last, .ok (⟨⟩, diagnostics)) ↔
      contexts.isSealed context = false ∧ contexts.direct? context parameter.symbol = none ∧
        bindUnknown context rest (contexts.extend context [(parameter.symbol, .unknown parameter.ty)]) =
          (last, .ok (⟨⟩, diagnostics)) := by
  change (Run.define context parameter.symbol (.unknown parameter.ty) >>= fun _ => bindUnknown context rest)
    contexts = _ ↔ _
  rw [Run.bind_eq_ok]
  constructor
  · rintro ⟨_, extended, before, after, defined, others, rfl⟩
    obtain ⟨unsealed, free, rfl, rfl⟩ := Run.define_eq_ok.1 defined
    exact ⟨unsealed, free, others⟩
  · rintro ⟨unsealed, free, others⟩
    exact ⟨⟨⟩, _, [], diagnostics, Run.define_eq_ok.2 ⟨unsealed, free, rfl, rfl⟩, others, rfl⟩

variable (template later) in
/-- The unknowns that an abstract evaluation binds foretell the values that an instance binds. -/
theorem bindFrom_forecast {given : Given} (soundGiven : Given.Sound registry given) (index : Nat)
    {parameters : List TemplateParameter} (sound : ∀ parameter ∈ parameters, parameter.Sound registry)
    {bindings others : List (Symbol × Value)} (pairs : BindingsForecast registry lenient bindings others)
    {last : ContextForest} {diagnostics : List Diagnostic}
    (bound : bindUnknown forest.child parameters ((forest.fresh parent).extend forest.child bindings) =
      (last, .ok (⟨⟩, diagnostics))) :
    ∃ bindings' others' reported,
      last = (forest.fresh parent).extend forest.child bindings' ∧
      template.bindFrom later.child given index parameters
          ((later.fresh parent).extend later.child others) =
        ((later.fresh parent).extend later.child others', .ok (⟨⟩, reported)) ∧
      BindingsForecast registry lenient bindings' others' ∧ diagnostics = [] := by
  induction parameters generalizing bindings others index with
  | nil =>
    cases bound
    exact ⟨bindings, others, [], rfl, rfl, pairs, rfl⟩
  | cons parameter rest ih =>
    obtain ⟨unsealed, free, bound⟩ := bindUnknown_cons_eq_ok.1 bound
    obtain ⟨value, before, made, forecast⟩ :=
      template.parameterValue_gives lenient (sound parameter (by simp)) (soundGiven index)
    rw [ContextForest.extend_extend] at bound
    obtain ⟨bindings', others', reported, rfl, bound', pairs', rfl⟩ :=
      ih (index + 1) (fun parameter member => sound parameter (List.mem_cons_of_mem _ member))
        (pairs.add parameter.symbol forecast) bound
    refine ⟨bindings', others', before ++ reported, rfl, bindFrom_cons_eq_ok.2 ⟨value, before, reported, made,
      ?_, free_of_forecast pairs free, ?_, rfl⟩, pairs', rfl⟩
    · rw [ContextForest.isSealed_extend, ContextForest.isSealed_fresh]
    · rw [ContextForest.extend_extend]
      exact bound'

end Template

end Circuitry
