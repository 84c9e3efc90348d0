import Circuitry.Kernel.Rendering
import Circuitry.Proofs.Kernel.Sameness

/-!
# Well-formed types and values

A value is well-formed when its payload fits its type at every depth: a quantity has the dimensions of its
number type, an object has a field of the right type for every attribute and no other field, and signatures
refer only to parameters that they have. What a function or a host object may be taken for is not in the
value, so it is read off a registry of what the host has made. Well-formed types and values can be written
without a fault.
-/

set_option autoImplicit false

namespace Circuitry

/-- What the host has made: the signatures under which a function may be called, and the kinds that an object
may be taken for. -/
structure Registry where
  allows : FunctionId → Signature → Bool
  holds : ObjectId → ModelType → Bool

/-! ### Signatures -/

/-- Whether a constraint refers at most to one of a number of parameters. -/
def Constraint.within (count : Nat) : Constraint → Bool
  | .sameAs index => index < count
  | _ => true

/-- Whether a result rule refers at most to one of a number of parameters. -/
def ResultRule.within (count : Nat) : ResultRule → Bool
  | .sameAs index => index < count
  | .fixed _ => true

/-- Whether a signature refers only to parameters that it has. -/
def Signature.closed (signature : Signature) : Bool :=
  (signature.parameters.all fun parameter => parameter.constraint.within signature.parameters.length) &&
    signature.returns.within signature.parameters.length

/-! ### Types, payloads and values -/

/-- Whether the type of a value is the given one. -/
def Value.hasType (value : Value) (ty : Ty) : Bool := value.ty?.any ty.same

/-- Whether the attributes of an object type are distinct, or a signature refers only to its own
parameters. -/
def Ty.sound : Ty → Bool
  | .object attributes => (Record.names attributes).Nodup
  | .function signature => signature.closed
  | _ => true

/-- Whether a payload is of the shape that a type asks for. -/
def Payload.fits (registry : Registry) : Payload → Ty → Bool
  | .bool _, .bool => true
  | .string _, .string => true
  | .quantity amount, .number dims => amount.dims = dims
  | .object fields, .object attributes =>
    (Record.names fields).Nodup && attributes.length = fields.length &&
      attributes.all fun entry => (fields.lookup entry.1).any fun value => value.hasType entry.2
  | .function id, .function signature => registry.allows id signature
  | .type _, .type => true
  | .model id, .model kind => registry.holds id kind
  | _, _ => false

/-- Whether the payload of a known value fits its type. -/
def Value.sound (registry : Registry) : Value → Bool
  | .known ty payload => payload.fits registry ty
  | _ => true

/-- Whether a type is sound at every depth. -/
def Ty.wellFormed (registry : Registry) (ty : Ty) : Bool := ty.everywhere Ty.sound (Value.sound registry)

/-- Whether a value is sound at every depth. -/
def Value.wellFormed (registry : Registry) (value : Value) : Bool :=
  value.everywhere Ty.sound (Value.sound registry)

/-- Whether a parameter is sound at every depth. -/
def Parameter.wellFormed (registry : Registry) (parameter : Parameter) : Bool :=
  parameter.everywhere Ty.sound (Value.sound registry)

variable {registry : Registry}

/-! ### One level down -/

theorem Value.ty?_placeholder : Value.placeholder.ty? = none := rfl

theorem Value.ty?_eq_none {value : Value} : value.ty? = none ↔ value = .placeholder := by
  cases value <;> simp [Value.ty?]

theorem Value.ty?_ne_none {value : Value} : value.ty? ≠ none ↔ value ≠ .placeholder :=
  not_congr Value.ty?_eq_none

theorem Value.hasType_iff {value : Value} {ty : Ty} :
    value.hasType ty = true ↔ ∃ found, value.ty? = some found ∧ ty.same found = true := by
  simp [Value.hasType, Option.any_eq_true]

theorem Payload.fits_object {fields : List (String × Value)} {attributes : List (String × Ty)} :
    (Payload.object fields).fits registry (.object attributes) = true ↔
      (Record.names fields).Nodup ∧
        Record.Matches (fun ty value => value.hasType ty = true) attributes fields := by
  simp [Payload.fits, Record.Matches, Option.any_eq_true, and_assoc]

theorem Ty.wellFormed_object {attributes : List (String × Ty)} :
    (Ty.object attributes).wellFormed registry = true ↔
      (Record.names attributes).Nodup ∧ ∀ entry ∈ attributes, entry.2.wellFormed registry = true := by
  simp [Ty.wellFormed, Ty.everywhere_object, Ty.sound]

theorem Ty.wellFormed_function {signature : Signature} :
    (Ty.function signature).wellFormed registry = true ↔
      signature.closed = true ∧ (∀ parameter ∈ signature.parameters, parameter.wellFormed registry = true) ∧
        ∀ ty, signature.returns = .fixed ty → ty.wellFormed registry = true := by
  simp [Ty.wellFormed, Parameter.wellFormed, Ty.everywhere_function, Ty.sound, ResultRule.everywhere_iff]

theorem Parameter.wellFormed_iff {parameter : Parameter} :
    parameter.wellFormed registry = true ↔
      parameter.Mentions (fun ty => ty.wellFormed registry = true)
        (fun value => value.wellFormed registry = true) :=
  Parameter.everywhere_iff

theorem Value.wellFormed_known {ty : Ty} {payload : Payload} :
    (Value.known ty payload).wellFormed registry = true ↔
      payload.fits registry ty = true ∧ ty.wellFormed registry = true ∧
        payload.Mentions (fun ty => ty.wellFormed registry = true)
          (fun value => value.wellFormed registry = true) := by
  simp [Value.wellFormed, Ty.wellFormed, Value.everywhere_known, Payload.everywhere_iff, Value.sound]

@[simp] theorem Value.wellFormed_unknown {ty : Ty} :
    (Value.unknown ty).wellFormed registry = ty.wellFormed registry := by
  simp [Value.wellFormed, Ty.wellFormed, Value.everywhere, Value.sound]

@[simp] theorem Value.wellFormed_placeholder : Value.placeholder.wellFormed registry = true := rfl

@[simp] theorem Ty.wellFormed_bool : Ty.bool.wellFormed registry = true := rfl

@[simp] theorem Ty.wellFormed_string : Ty.string.wellFormed registry = true := rfl

@[simp] theorem Ty.wellFormed_number {dims : Dimensions} :
    (Ty.number dims).wellFormed registry = true := rfl

theorem Value.wellFormed_ty {value : Value} {ty : Ty} (sound : value.wellFormed registry = true)
    (has : value.ty? = some ty) : ty.wellFormed registry = true := by
  cases value with
  | known ty' payload =>
    cases has
    exact (Value.wellFormed_known.1 sound).2.1
  | unknown ty' =>
    cases has
    simpa using sound
  | placeholder => cases has

/-! ### Well-formed means proper -/

theorem Ty.distinct_of_sound {ty : Ty} (sound : ty.sound = true) : ty.distinct = true := by
  cases ty <;> simp_all [Ty.sound, Ty.distinct]

theorem Value.distinct_of_sound {value : Value} (sound : value.sound registry = true) :
    value.distinct = true := by
  cases value with
  | known ty payload =>
    cases payload with
    | object fields => cases ty <;> simp_all [Value.sound, Payload.fits, Value.distinct]
    | _ => rfl
  | _ => rfl

theorem Ty.proper_of_wellFormed {ty : Ty} (sound : ty.wellFormed registry = true) : ty.proper = true :=
  (Kernel.everywhere_imp (fun _ => Ty.distinct_of_sound) fun _ => Value.distinct_of_sound).ty ty sound

theorem Value.proper_of_wellFormed {value : Value} (sound : value.wellFormed registry = true) :
    value.proper = true :=
  (Kernel.everywhere_imp (fun _ => Ty.distinct_of_sound) fun _ => Value.distinct_of_sound).value value sound

/-! ### Payloads that fit -/

theorem Payload.fits_string {payload : Payload} (fits : payload.fits registry .string = true) :
    ∃ text, payload = .string text := by
  cases payload with
  | string text => exact ⟨text, rfl⟩
  | _ => simp [Payload.fits] at fits

theorem Payload.fits_number {payload : Payload} {dims : Dimensions}
    (fits : payload.fits registry (.number dims) = true) :
    ∃ quantity, payload = .quantity quantity ∧ quantity.dims = dims := by
  cases payload with
  | quantity quantity => exact ⟨quantity, rfl, by simpa [Payload.fits] using fits⟩
  | _ => simp [Payload.fits] at fits

theorem Payload.fields_of_fits {payload : Payload} {attributes : List (String × Ty)}
    (fits : payload.fits registry (.object attributes) = true) : ∃ fields, payload = .object fields := by
  cases payload with
  | object fields => exact ⟨fields, rfl⟩
  | _ => simp [Payload.fits] at fits

theorem Payload.fits_function {payload : Payload} {signature : Signature}
    (fits : payload.fits registry (.function signature) = true) :
    ∃ id, payload = .function id ∧ registry.allows id signature = true := by
  cases payload with
  | function id => exact ⟨id, rfl, fits⟩
  | _ => simp [Payload.fits] at fits

theorem Payload.fits_model {payload : Payload} {kind : ModelType}
    (fits : payload.fits registry (.model kind) = true) :
    ∃ id, payload = .model id ∧ registry.holds id kind = true := by
  cases payload with
  | model id => exact ⟨id, rfl, fits⟩
  | _ => simp [Payload.fits] at fits

/-! ### Writing well-formed types and values -/

theorem Ty.attributeTexts_ok {attributes : List (String × Ty)}
    (written : ∀ entry ∈ attributes, ∃ text, entry.2.text = .ok text) :
    ∃ texts, Ty.attributeTexts attributes = .ok texts := by
  induction attributes with
  | nil => exact ⟨[], rfl⟩
  | cons head rest ih =>
    obtain ⟨name, ty⟩ := head
    obtain ⟨text, first⟩ := written (name, ty) (by simp)
    obtain ⟨texts, others⟩ := ih fun entry member => written entry (List.mem_cons_of_mem _ member)
    exact ⟨(name ++ ": " ++ text) :: texts, by
      simp [Ty.attributeTexts, Ty.attributeText, first, others, bind, Except.bind, pure, Except.pure]⟩

theorem typeOfParameter_ok {names : List String} {index : Nat} (inside : index < names.length) :
    ∃ text, typeOfParameter names index = .ok text := by
  simp [typeOfParameter, inside]

theorem Constraint.text_ok (names : List String) {constraint : Constraint}
    (inside : constraint.within names.length = true)
    (written : ∀ ty, constraint = .exactly ty → ∃ text, ty.text = .ok text) :
    ∃ text, constraint.text names = .ok text := by
  cases constraint with
  | any => exact ⟨_, rfl⟩
  | anyNumber => exact ⟨_, rfl⟩
  | exactly ty => exact written ty rfl
  | sameAs index => exact typeOfParameter_ok (by simpa [Constraint.within] using inside)

theorem ResultRule.text_ok (names : List String) {rule : ResultRule}
    (inside : rule.within names.length = true)
    (written : ∀ ty, rule = .fixed ty → ∃ text, ty.text = .ok text) :
    ∃ text, rule.text names = .ok text := by
  cases rule with
  | fixed ty => exact written ty rfl
  | sameAs index => exact typeOfParameter_ok (by simpa [ResultRule.within] using inside)

theorem Parameter.texts_ok (names : List String) {parameters : List Parameter}
    (written : ∀ parameter ∈ parameters, ∃ text, parameter.constraint.text names = .ok text) :
    ∃ texts, Parameter.texts parameters names = .ok texts := by
  induction parameters with
  | nil => exact ⟨[], rfl⟩
  | cons head rest ih =>
    obtain ⟨name, constraint, fallback⟩ := head
    obtain ⟨text, first⟩ := written ⟨name, constraint, fallback⟩ (by simp)
    obtain ⟨texts, others⟩ := ih fun parameter member => written parameter (List.mem_cons_of_mem _ member)
    exact ⟨(name ++ ": " ++ text) :: texts, by
      simp [Parameter.texts, Parameter.text, first, others, bind, Except.bind, pure, Except.pure]⟩

theorem Value.fieldTexts_ok {digits : Nat} {fields : List (String × Value)}
    (written : ∀ field ∈ fields, ∃ text, field.2.render digits = .ok text) :
    ∃ texts, Value.fieldTexts digits fields = .ok texts := by
  induction fields with
  | nil => exact ⟨[], rfl⟩
  | cons head rest ih =>
    obtain ⟨name, value⟩ := head
    obtain ⟨text, first⟩ := written (name, value) (by simp)
    obtain ⟨texts, others⟩ := ih fun field member => written field (List.mem_cons_of_mem _ member)
    exact ⟨(name ++ ": " ++ text) :: texts, by
      simp [Value.fieldTexts, Value.fieldText, first, others, bind, Except.bind, pure, Except.pure]⟩

theorem Signature.constraint_within {signature : Signature} (closed : signature.closed = true)
    {parameter : Parameter} (member : parameter ∈ signature.parameters) :
    parameter.constraint.within signature.parameters.length = true := by
  simp only [Signature.closed, Bool.and_eq_true, List.all_eq_true] at closed
  exact closed.1 parameter member

theorem Signature.returns_within {signature : Signature} (closed : signature.closed = true) :
    signature.returns.within signature.parameters.length = true := by
  simp only [Signature.closed, Bool.and_eq_true] at closed
  exact closed.2

theorem Kernel.text_ok (registry : Registry) (digits : Nat) :
    Kernel.Cases (fun ty => ty.wellFormed registry = true → ∃ text, ty.text = .ok text)
      (fun value => value.wellFormed registry = true → ∃ text, value.render digits = .ok text) where
  bool _ := ⟨_, rfl⟩
  string _ := ⟨_, rfl⟩
  number _ _ := ⟨_, rfl⟩
  type _ := ⟨_, rfl⟩
  model _ _ := ⟨_, rfl⟩
  object attributes ih sound := by
    obtain ⟨-, inside⟩ := Ty.wellFormed_object.1 sound
    obtain ⟨texts, written⟩ :=
      Ty.attributeTexts_ok fun entry member => ih entry member (inside entry member)
    exact ⟨braced texts, by simp [Ty.text, written, bind, Except.bind, pure, Except.pure]⟩
  function parameters returns ihParameters ihReturns sound := by
    obtain ⟨closed, inParameters, inReturns⟩ := Ty.wellFormed_function.1 sound
    have listed : (parameters.map Parameter.name).length = parameters.length := List.length_map _
    obtain ⟨texts, written⟩ :=
      Parameter.texts_ok (parameters.map Parameter.name) fun parameter member => by
        have mentioned := Parameter.wellFormed_iff.1 (inParameters parameter member)
        exact Constraint.text_ok _ (by rw [listed]; exact Signature.constraint_within closed member)
          fun ty is => (ihParameters parameter member).1 ty is (mentioned.1 ty is)
    obtain ⟨text, writtenReturns⟩ :=
      ResultRule.text_ok (parameters.map Parameter.name)
        (by rw [listed]; exact Signature.returns_within closed) fun ty is => ihReturns ty is (inReturns ty is)
    exact ⟨"fn(" ++ ", ".intercalate texts ++ ") -> " ++ text, by
      simp [Ty.text, Signature.text, written, writtenReturns, bind, Except.bind, pure, Except.pure]⟩
  known ty payload ihTy ihPayload sound := by
    obtain ⟨-, soundTy, mentioned⟩ := Value.wellFormed_known.1 sound
    obtain ⟨text, written⟩ := ihTy soundTy
    cases payload with
    | object fields =>
      obtain ⟨texts, writtenFields⟩ := Value.fieldTexts_ok fun field member =>
        ihPayload.1 fields rfl field member (mentioned.1 fields rfl field member)
      exact ⟨braced texts, by
        simp [Value.render, Payload.render, writtenFields, bind, Except.bind, pure, Except.pure]⟩
    | type inner => exact ihPayload.2 inner rfl (mentioned.2 inner rfl)
    | bool value => exact ⟨_, rfl⟩
    | string value => exact ⟨_, rfl⟩
    | quantity value => exact ⟨_, rfl⟩
    | function id | model id =>
      exact ⟨"<" ++ text ++ ">", by
        simp [Value.render, Payload.render, written, bind, Except.bind, pure, Except.pure]⟩
  unknown ty ihTy sound := by
    obtain ⟨text, written⟩ := ihTy (by simpa using sound)
    exact ⟨"<unknown " ++ text ++ ">", by
      simp [Value.render, written, bind, Except.bind, pure, Except.pure]⟩
  placeholder _ := ⟨_, rfl⟩

theorem Ty.text_ok {ty : Ty} (sound : ty.wellFormed registry = true) : ∃ text, ty.text = .ok text :=
  (Kernel.text_ok registry 0).ty ty sound

theorem Value.text_ok {value : Value} (sound : value.wellFormed registry = true) :
    ∃ text, value.text = .ok text :=
  (Kernel.text_ok registry Quantity.displayDigits).value value sound

end Circuitry
