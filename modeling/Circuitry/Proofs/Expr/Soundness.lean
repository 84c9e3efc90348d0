import Circuitry.Expr.Evaluation
import Circuitry.Proofs.Expr.Binding
import Circuitry.Proofs.Kernel.Capability
import Circuitry.Proofs.Operator.Typing

/-!
# Evaluation of well-formed expressions

An expression whose literals are well-formed, evaluated against well-formed bindings and a sound host, gives a
well-formed value: no payload is asked for in the wrong shape, and no signature for a parameter that it lacks.
Each kind of node is treated on its own, and the induction over the expression only puts them together.
-/

set_option autoImplicit false

namespace Circuitry

variable {registry : Registry}

/-! ### Calls of well-formed values -/

theorem Ty.callable?_eq_some {host : Host} {ty : Ty} {callable : Callable} :
    ty.callable? host = some callable ↔
      (∃ signature, ty = .function signature ∧ callable = .function signature) ∨
        ∃ kind signature, ty = .model kind ∧ (host.model kind).signature? = some signature ∧
          callable = .model kind signature := by
  cases ty <;> simp [Ty.callable?, eq_comm]

theorem Callable.signature_wellFormed {host : Host} (sound : host.Sound registry) {ty : Ty}
    {callable : Callable} (soundTy : ty.wellFormed registry = true)
    (callee : ty.callable? host = some callable) :
    (Ty.function callable.signature).wellFormed registry = true := by
  rcases Ty.callable?_eq_some.1 callee with ⟨signature, rfl, rfl⟩ | ⟨kind, signature, rfl, found, rfl⟩
  · exact soundTy
  · exact sound.signature kind signature found

/-- Types that agree are both callable, with signatures that agree, or neither is. -/
theorem Ty.callable?_agrees {host other : Host} (sound : host.Sound registry) (sound' : other.Sound registry)
    (signatures : ∀ kind kind' : ModelType, kind.index = kind'.index →
      Option.Rel (fun signature signature' => signature.same signature' = true)
        (host.model kind).signature? (other.model kind').signature?)
    {ty ty' : Ty} (types : ty.Agrees registry ty') :
    Option.Rel (fun callable callable' => callable.signature.Agrees registry callable'.signature)
      (ty.callable? host) (ty'.callable? other) := by
  obtain ⟨soundTy, soundTy', same⟩ := types
  cases ty with
  | function signature =>
    obtain ⟨signature', rfl, sameSignature⟩ := Ty.function_same same
    exact .some ⟨soundTy, soundTy', sameSignature⟩
  | model kind =>
    obtain ⟨kind', rfl, sameKind⟩ := Ty.model_same same
    have pair := rel_imp (signatures kind kind' sameKind) fun signature signature' found found' same =>
      Signature.Agrees.mk (sound.signature kind signature found) (sound'.signature kind' signature' found') same
    simp only [Ty.callable?]
    generalize (host.model kind).signature? = signature at pair
    generalize (other.model kind').signature? = signature' at pair
    cases pair with
    | some agrees => exact .some agrees
    | none => exact .none
  | _ => cases ty' <;> first | exact .none | simp [Ty.same] at same

/-- Two callables of types that are the same, called by the same payload. -/
inductive Callable.Paired (registry : Registry) (host other : Host) : Callable → Callable → Payload → Prop where
  | function {signature signature' : Signature} {id : FunctionId}
      (allowed : registry.allows id signature = true) (allowed' : registry.allows id signature' = true)
      (same : signature.same signature' = true) :
      Paired registry host other (.function signature) (.function signature') (.function id)
  | model {kind kind' : ModelType} {signature signature' : Signature} {id : ObjectId}
      (same : kind.index = kind'.index)
      (held : registry.holds id kind = true) (held' : registry.holds id kind' = true)
      (found : (host.model kind).signature? = some signature)
      (found' : (other.model kind').signature? = some signature') :
      Paired registry host other (.model kind signature) (.model kind' signature') (.model id)

/-- A callee that is refined is the same callee. -/
theorem Callable.paired {host other : Host} {ty ty' : Ty} {callable callable' : Callable}
    {payload payload' : Payload} (fits : payload.fits registry ty = true)
    (fits' : payload'.fits registry ty' = true) (same : ty.same ty' = true)
    (refined : payload.RefinedBy registry payload')
    (called : ty.callable? host = some callable) (called' : ty'.callable? other = some callable') :
    payload' = payload ∧ Paired registry host other callable callable' payload := by
  rcases Ty.callable?_eq_some.1 called with ⟨signature, rfl, rfl⟩ | ⟨kind, signature, rfl, found, rfl⟩
  · obtain ⟨signature', rfl, sameSignature⟩ := Ty.function_same same
    cases called'
    obtain ⟨id, rfl, allowed⟩ := Payload.fits_function fits
    obtain ⟨id', rfl, allowed'⟩ := Payload.fits_function fits'
    have sameId : (Payload.function id).same (.function id') = true := refined
    obtain rfl : id = id' := by simpa [Payload.same] using sameId
    exact ⟨rfl, .function allowed allowed' sameSignature⟩
  · obtain ⟨kind', rfl, sameKind⟩ := Ty.model_same same
    obtain ⟨_, impossible, -⟩ | ⟨_, signature', is, found', rfl⟩ := Ty.callable?_eq_some.1 called'
    · cases impossible
    · cases is
      obtain ⟨id, rfl, held⟩ := Payload.fits_model fits
      obtain ⟨id', rfl, held'⟩ := Payload.fits_model fits'
      have sameId : (Payload.model id).same (.model id') = true := refined
      obtain rfl : id = id' := by simpa [Payload.same] using sameId
      exact ⟨rfl, .model sameKind held held' found found'⟩

/-- A payload that fits a callable type can be called with arguments that its signature admits. -/
theorem Callable.call_sound {host : Host} (sound : host.Sound registry) {ty : Ty} {callable : Callable}
    {payload : Payload} {arguments : List Value} (fits : payload.fits registry ty = true)
    (callee : ty.callable? host = some callable) (admitted : callable.signature.Admits registry arguments) :
    ∃ result, callable.call host payload arguments = .ok result ∧
      ∀ value, result = .ok value → value.wellFormed registry = true := by
  rcases Ty.callable?_eq_some.1 callee with ⟨signature, rfl, rfl⟩ | ⟨kind, signature, rfl, found, rfl⟩
  · obtain ⟨id, rfl, allowed⟩ := Payload.fits_function fits
    exact sound.call id signature arguments allowed admitted
  · obtain ⟨id, rfl, held⟩ := Payload.fits_model fits
    exact ⟨_, rfl, fun value gave => sound.callModel kind id signature arguments value held found admitted gave⟩

theorem Value.length_filterMap_ty? {values : List Value} (typed : .placeholder ∉ values) :
    (values.filterMap Value.ty?).length = values.length := by
  induction values with
  | nil => rfl
  | cons value values ih =>
    simp only [List.mem_cons, not_or] at typed
    cases value with
    | placeholder => exact absurd rfl typed.1
    | known ty payload | unknown ty => simp [Value.ty?, ih typed.2]

/-- A well-formed signature predicts a well-formed type for as many arguments as it has parameters. -/
theorem Signature.resultType_ok {signature : Signature}
    (sound : (Ty.function signature).wellFormed registry = true) {arguments : List Value}
    (soundArguments : ∀ argument ∈ arguments, argument.wellFormed registry = true)
    (accepted : signature.AcceptsAll arguments) (typed : .placeholder ∉ arguments) :
    ∃ ty, signature.resultType (arguments.filterMap Value.ty?) = .ok ty ∧ ty.wellFormed registry = true := by
  obtain ⟨closed, -, inReturns⟩ := Ty.wellFormed_function.1 sound
  have within := returns_within closed
  unfold Signature.resultType
  cases returns : signature.returns with
  | fixed ty => exact ⟨ty, rfl, inReturns ty returns⟩
  | sameAs index =>
    have inside : index < (arguments.filterMap Value.ty?).length := by
      rw [Value.length_filterMap_ty? typed, ← accepted.length_eq]
      simpa [returns, ResultRule.within] using within
    have found := List.getElem?_eq_getElem inside
    obtain ⟨argument, member, has⟩ := List.mem_filterMap.1 (List.getElem_mem inside)
    exact ⟨_, by simp only [found], Value.wellFormed_ty (soundArguments argument member) has⟩

/-- With a known callee and admitted arguments nothing is left undecided. -/
theorem Signature.Admits.decided {signature : Signature} {arguments : List Value}
    (admitted : signature.Admits registry arguments) (ty : Ty) (payload : Payload) :
    ¬((Value.known ty payload).isUnknown = true ∨ ∃ argument ∈ arguments, argument.isUnknown = true) := by
  rintro (impossible | ⟨argument, member, unknown⟩)
  · cases impossible
  · have known := admitted.known argument member
    cases argument with
    | known _ _ => cases unknown
    | unknown _ | placeholder => cases known

/-! ### Attributes of well-formed values -/

/-- Types that agree have attributes of the same names, with types that agree. -/
theorem Ty.attributes?_agrees {host other : Host} (sound : host.Sound registry) (sound' : other.Sound registry)
    (attributeTypes : ∀ (kind kind' : ModelType) name, kind.index = kind'.index →
      Option.Rel (fun ty ty' => ty.same ty' = true)
        ((host.model kind).attributeType? name) ((other.model kind').attributeType? name))
    {ty ty' : Ty} (types : ty.Agrees registry ty') (name : String) :
    Option.Rel (Ty.Agrees registry) ((ty.attributes?).bind fun source => source.type? host name)
      ((ty'.attributes?).bind fun source => source.type? other name) := by
  have same := types.same
  cases ty with
  | object attributes =>
    obtain ⟨attributes', rfl, -⟩ := Ty.object_same same
    exact types.lookup name
  | model kind =>
    obtain ⟨kind', rfl, sameKind⟩ := Ty.model_same same
    exact rel_imp (attributeTypes kind kind' name sameKind) fun ty ty' found found' same =>
      ⟨sound.attributeType kind name ty found, sound'.attributeType kind' name ty' found', same⟩
  | _ => cases ty' <;> first | exact .none | simp [Ty.same] at same

theorem Value.eq_known {value : Value} {ty : Ty} {payload : Payload} (has : value.ty? = some ty)
    (carries : value.payload? = some payload) : value = .known ty payload := by
  cases value <;> simp_all [Value.ty?, Value.payload?]

theorem Value.eq_unknown {value : Value} {ty : Ty} (has : value.ty? = some ty)
    (bare : value.payload? = none) : value = .unknown ty := by
  cases value <;> simp_all [Value.ty?, Value.payload?]

theorem AttributeSource.value?_object (host : Host) (attributes : List (String × Ty))
    (fields : List (String × Value)) (name : String) :
    (AttributeSource.object attributes).value? host (.object fields) name = .ok (fields.lookup name) := rfl

theorem AttributeSource.value?_model (host : Host) (kind : ModelType) (id : ObjectId) (name : String) :
    (AttributeSource.model kind).value? host (.model id) name =
      .ok ((host.model kind).attribute? id name) := rfl

/-! ### Elements of well-formed values -/

theorem Indexable.of_filter {ty keyType : Ty} {indexable : Indexable}
    (accepted : (ty.indexable?).filter (fun indexable => indexable.canIndex keyType) = some indexable) :
    ty = .object indexable.attributes ∧ keyType = .string := by
  obtain ⟨attributes⟩ := indexable
  cases ty <;> simp_all [Ty.indexable?, Ty.object?, Option.filter_eq_some_iff, Indexable.canIndex]
  cases keyType <;> simp_all [Ty.isString]

theorem Indexable.elementType?_string (indexable : Indexable) (name : String) :
    indexable.elementType? (some (.string name)) = .ok (indexable.attributes.lookup name) := rfl

theorem Indexable.elementType?_none (indexable : Indexable) :
    indexable.elementType? none = .ok (uniformType? indexable.attributes) := rfl

theorem Indexable.element?_object (fields : List (String × Value)) (name : String) :
    Indexable.element? (.object fields) (.string name) = .ok (fields.lookup name) := rfl

/-! ### Nodes -/

/-- A computation that gives a well-formed value. -/
abbrev Reporting.GivesSound (registry : Registry) : Reporting Value → Prop :=
  Reporting.Gives fun value => value.wellFormed registry = true

namespace Environment

open Reporting (GivesSound Recovers)

/-- Evaluation depends on a sound host and well-formed bindings. -/
structure Sound (registry : Registry) (env : Environment) : Prop where
  host : env.host.Sound registry
  values : ∀ symbol value, env.value? symbol = some value → value.wellFormed registry = true

theorem symbol_gives {env : Environment} (sound : env.Sound registry) (symbol : Symbol) (span : Span) :
    GivesSound registry (env.symbol symbol span) := by
  unfold Environment.symbol
  split
  · rename_i value found
    exact .give (sound.values symbol value found)
  · exact .recover _ rfl

theorem unary_of_ok {operator : UnaryOperator} {operand value : Value}
    (applied : operator.apply operand = .ok (.ok value)) (span : Span) :
    unary operator operand span = Reporting.give value := by
  simp only [unary, applied, Reporting.lift_bind, Reporting.pure_eq_give]

theorem unary_of_error {operator : UnaryOperator} {operand : Value}
    (sound : operand.wellFormed registry = true) {error : OperatorError}
    (applied : operator.apply operand = .ok (.error error)) (span : Span) :
    Recovers (.error .invalidOperands (some span) "") operator.fallback (unary operator operand span) := by
  obtain ⟨_, applied', settled⟩ := operator.apply_settled sound
  cases applied.symm.trans applied'
  obtain ⟨message, written⟩ := settled.written error rfl
  simp only [unary, applied, written, Reporting.lift_bind]
  exact ⟨_, rfl, .error _ _ _ _⟩

theorem unary_gives (operator : UnaryOperator) {operand : Value}
    (sound : operand.wellFormed registry = true) (span : Span) :
    GivesSound registry (unary operator operand span) := by
  obtain ⟨result, applied, settled⟩ := operator.apply_settled sound
  cases result with
  | ok value =>
    rw [unary_of_ok applied]
    exact .give (settled.sound value rfl)
  | error error => exact (unary_of_error sound applied span).gives (operator.fallback_wellFormed)

/-- What a node makes of the result of an operator: the value, a placeholder for a division by zero, or else
what is certain after an error. -/
theorem binary_of_ok {operator : BinaryOperator} {left right value : Value}
    (applied : operator.apply left right = .ok (.ok value)) (leftSpan rightSpan span : Span) :
    binary operator left right leftSpan rightSpan span = Reporting.give value := by
  simp only [binary, applied, Reporting.lift_bind, Reporting.pure_eq_give]

/-- The report of a division by zero. -/
abbrev zeroReport (rightSpan span : Span) : Diagnostic :=
  (Diagnostic.error .divisionByZero (some span) "").withLabel rightSpan ""

theorem binary_of_zero {operator : BinaryOperator} {left right : Value}
    (applied : operator.apply left right = .ok (.error .divisionByZero)) (leftSpan rightSpan span : Span) :
    Recovers (zeroReport rightSpan span) .placeholder
      (binary operator left right leftSpan rightSpan span) := by
  simp only [binary, applied, Reporting.lift_bind]
  exact ⟨_, rfl, .withLabel (.error _ _ _ _) _ _ _⟩

/-- The report of operands that an operator refuses. -/
abbrev refusalReport (leftSpan rightSpan span : Span) : Diagnostic :=
  ((Diagnostic.error .invalidOperands (some span) "").withLabel leftSpan "").withLabel rightSpan ""

theorem labelOperands_ok {left right : Value} {leftTy rightTy : Ty} (has : left.ty? = some leftTy)
    (has' : right.ty? = some rightTy) (soundLeft : leftTy.wellFormed registry = true)
    (soundRight : rightTy.wellFormed registry = true) (message : String) (leftSpan rightSpan span : Span) :
    ∃ labelled,
      labelOperands (.error .invalidOperands (some span) message) left right leftSpan rightSpan = .ok labelled ∧
        labelled.Alike (refusalReport leftSpan rightSpan span) := by
  obtain ⟨first, written⟩ := Ty.text_ok soundLeft
  obtain ⟨second, written'⟩ := Ty.text_ok soundRight
  simp only [labelOperands, has, has', written, written']
  exact ⟨_, rfl, .withLabel (.withLabel (.error _ _ _ _) _ _ _) _ _ _⟩

theorem binary_of_error {operator : BinaryOperator} {left right : Value}
    (soundLeft : left.wellFormed registry = true) (soundRight : right.wellFormed registry = true)
    {error : OperatorError} (applied : operator.apply left right = .ok (.error error))
    (nonzero : error ≠ .divisionByZero) (leftSpan rightSpan span : Span) :
    Recovers (refusalReport leftSpan rightSpan span) operator.fallback
      (binary operator left right leftSpan rightSpan span) := by
  obtain ⟨_, applied', settled⟩ := operator.apply_settled soundLeft soundRight
  cases applied.symm.trans applied'
  obtain ⟨message, written⟩ := settled.written error rfl
  obtain ⟨leftTy, rightTy, has, has'⟩ := operator.typed_of_error applied
  obtain ⟨labelled, labels, alike⟩ := labelOperands_ok has has' (Value.wellFormed_ty soundLeft has)
    (Value.wellFormed_ty soundRight has') message leftSpan rightSpan span
  refine ⟨labelled, ?_, alike⟩
  cases error <;> first
    | exact absurd rfl nonzero
    | simp only [binary, applied, written, labels, Reporting.lift_bind]

theorem binary_gives (operator : BinaryOperator) {left right : Value}
    (soundLeft : left.wellFormed registry = true) (soundRight : right.wellFormed registry = true)
    (leftSpan rightSpan span : Span) :
    GivesSound registry (binary operator left right leftSpan rightSpan span) := by
  obtain ⟨result, applied, settled⟩ := operator.apply_settled soundLeft soundRight
  cases result with
  | ok value =>
    rw [binary_of_ok applied]
    exact .give (settled.sound value rfl)
  | error error =>
    by_cases zero : error = .divisionByZero
    · subst zero
      exact (binary_of_zero applied leftSpan rightSpan span).gives rfl
    · exact (binary_of_error soundLeft soundRight applied zero leftSpan rightSpan span).gives
        operator.fallback_wellFormed

theorem access_object {env : Environment} {target : Value} {attributes : List (String × Ty)}
    (sound : target.wellFormed registry = true) (has : target.ty? = some (.object attributes))
    {name : String} {ty : Ty} (listed : attributes.lookup name = some ty) (span : Span) :
    env.access target name span = Reporting.give (target.member name ty) := by
  cases target with
  | placeholder => cases has
  | unknown ty' =>
    cases has
    simp only [access, Value.ty?, Ty.attributes?, AttributeSource.type?, listed, Value.payload?,
      Value.member_of_unknown]
  | known ty' payload =>
    cases has
    obtain ⟨fields, value, rfl, found, -⟩ := Payload.field_of_attribute sound listed
    simp only [access, Value.ty?, Ty.attributes?, AttributeSource.type?, listed, Value.payload?,
      Value.member_of_known found, AttributeSource.value?_object, found, Reporting.lift_bind,
      Reporting.pure_eq_give]

/-- The attribute of a host object; without a value for it, the host has broken its word. -/
theorem access_model {env : Environment} {id : ObjectId} {kind : ModelType} {name : String} {ty : Ty}
    (typed : (env.host.model kind).attributeType? name = some ty) (span : Span) :
    env.access (.known (.model kind) (.model id)) name span =
      match (env.host.model kind).attribute? id name with
      | some value => Reporting.give value
      | none =>
        fail .internal span ("attribute '" ++ name ++ "' of " ++ kind.name ++ " has a type but no value") := by
  cases found : (env.host.model kind).attribute? id name <;>
    simp [access, Value.ty?, Ty.attributes?, AttributeSource.type?, typed, Value.payload?,
      AttributeSource.value?_model, found, Ty.text]

theorem access_unknown_model {env : Environment} {kind : ModelType} {name : String} {ty : Ty}
    (typed : (env.host.model kind).attributeType? name = some ty) (span : Span) :
    env.access (.unknown (.model kind)) name span = Reporting.give (.unknown ty) := by
  simp only [access, Value.ty?, Ty.attributes?, AttributeSource.type?, typed, Value.payload?]

/-- A value without an attribute of that name leaves a placeholder and a report. -/
theorem access_of_missing {env : Environment} {target : Value} {ty : Ty}
    (sound : target.wellFormed registry = true) (has : target.ty? = some ty) {name : String}
    (missing : ((ty.attributes?).bind fun source => source.type? env.host name) = none) (span : Span) :
    Recovers (.error .unknownAttribute (some span) "") .placeholder (env.access target name span) := by
  obtain ⟨text, written⟩ := Ty.text_ok (Value.wellFormed_ty sound has)
  simp only [access, has]
  cases attributed : ty.attributes? with
  | none =>
    simp only [written, Reporting.lift_bind]
    exact ⟨_, rfl, .error _ _ _ _⟩
  | some source =>
    rw [attributed, Option.bind_some] at missing
    simp only [missing, written, Reporting.lift_bind]
    exact ⟨_, rfl, (Filling.suggest_alike ..).trans (.error _ _ _ _)⟩

theorem access_gives {env : Environment} (sound : env.Sound registry) {target : Value}
    (soundTarget : target.wellFormed registry = true) (name : String) (span : Span) :
    GivesSound registry (env.access target name span) := by
  cases has : target.ty? with
  | none =>
    obtain rfl := Value.ty?_eq_none.1 has
    exact .give rfl
  | some ty =>
    cases typed : (ty.attributes?).bind fun source => source.type? env.host name with
    | none => exact (access_of_missing soundTarget has typed span).gives rfl
    | some attributeType =>
      cases ty <;> simp only [Ty.attributes?, Option.bind_none, Option.bind_some, reduceCtorEq] at typed
      case object attributes =>
        rw [access_object soundTarget has typed]
        exact .give (Value.member_wellFormed soundTarget has typed).1
      case model kind =>
        cases target with
        | placeholder => cases has
        | unknown ty' =>
          cases has
          rw [access_unknown_model typed]
          exact .give (by simpa using sound.host.attributeType kind name attributeType typed)
        | known ty' payload =>
          cases has
          obtain ⟨id, rfl, held⟩ := Payload.fits_model (Value.wellFormed_known.1 soundTarget).1
          rw [access_model typed]
          split
          · rename_i value found
            exact .give (sound.host.attributeValue kind id name attributeType value held typed found)
          · exact .recover _ rfl

theorem elementAnywhere_of_uniform {indexable : Indexable} {ty element : Ty}
    (uniform : uniformType? indexable.attributes = some element) (span : Span) :
    elementAnywhere indexable ty span = Reporting.give (.unknown element) := by
  simp only [elementAnywhere, Indexable.elementType?_none, uniform, Reporting.lift_bind,
    Reporting.pure_eq_give]

theorem elementAnywhere_of_mixed (indexable : Indexable) {ty : Ty} (sound : ty.wellFormed registry = true)
    (mixed : uniformType? indexable.attributes = none) (span : Span) :
    Recovers (.warning .indeterminateType (some span) "") .placeholder
      (elementAnywhere indexable ty span) := by
  obtain ⟨text, written⟩ := Ty.text_ok sound
  simp only [elementAnywhere, Indexable.elementType?_none, mixed, written, Reporting.lift_bind]
  exact ⟨_, rfl, rfl, rfl, rfl, rfl⟩

theorem elementAnywhere_gives {attributes : List (String × Ty)}
    (sound : (Ty.object attributes).wellFormed registry = true) (span : Span) :
    GivesSound registry (elementAnywhere ⟨attributes⟩ (.object attributes) span) := by
  cases uniform : uniformType? attributes with
  | none => exact (elementAnywhere_of_mixed ⟨attributes⟩ sound uniform span).gives rfl
  | some element =>
    obtain ⟨name, rest, rfl, -⟩ := uniformType?_eq_some.1 uniform
    rw [elementAnywhere_of_uniform uniform]
    exact .give (by simpa using (Ty.wellFormed_object.1 sound).2 (name, element) (by simp))

/-- Only objects can be accessed by key, and keys are strings. -/
theorem index_of_refused {target key : Value} (sound : target.wellFormed registry = true)
    (soundKey : key.wellFormed registry = true) {ty keyType : Ty} (has : target.ty? = some ty)
    (hasKey : key.ty? = some keyType) (refused : ¬∃ attributes, ty = .object attributes ∧ keyType = .string)
    (span : Span) :
    Recovers (.error .invalidIndex (some span) "") .placeholder (index target key span) := by
  obtain ⟨text, written⟩ := Ty.text_ok (Value.wellFormed_ty sound has)
  obtain ⟨keyText, writtenKey⟩ := Ty.text_ok (Value.wellFormed_ty soundKey hasKey)
  have none : ((ty.indexable?).filter fun indexable => indexable.canIndex keyType) = none :=
    Option.eq_none_iff_forall_ne_some.2 fun indexable accepted =>
      refused ⟨_, Indexable.of_filter accepted⟩
  simp only [index, has, hasKey, none, written, writtenKey, Reporting.lift_bind]
  exact ⟨_, rfl, .error _ _ _ _⟩

theorem index_placeholder_key (target : Value) (span : Span) :
    index target .placeholder span = Reporting.give .placeholder := by
  cases target <;> rfl

/-- Objects can be accessed by strings. -/
theorem object_canIndex (attributes : List (String × Ty)) :
    (((Ty.object attributes).indexable?).filter fun indexable => indexable.canIndex .string) =
      some ⟨attributes⟩ := rfl

theorem index_unknown_key {target : Value} {attributes : List (String × Ty)}
    (has : target.ty? = some (.object attributes)) (span : Span) :
    index target (.unknown .string) span = elementAnywhere ⟨attributes⟩ (.object attributes) span := by
  have hasKey : (Value.unknown .string).ty? = some .string := rfl
  simp only [index, has, hasKey, object_canIndex, Value.payload?]

theorem index_known_key {target : Value} {attributes : List (String × Ty)}
    (sound : target.wellFormed registry = true) (has : target.ty? = some (.object attributes))
    {name : String} {ty : Ty} (listed : attributes.lookup name = some ty) (span : Span) :
    index target (.known .string (.string name)) span = Reporting.give (target.member name ty) := by
  cases target with
  | placeholder => cases has
  | unknown ty' =>
    cases has
    simp only [index, Value.ty?, object_canIndex, Value.payload?, Indexable.elementType?_string, listed,
      Reporting.lift_bind, Reporting.pure_eq_give, Value.member_of_unknown]
  | known ty' payload =>
    cases has
    obtain ⟨fields, value, rfl, found, -⟩ := Payload.field_of_attribute sound listed
    simp only [index, Value.ty?, object_canIndex, Value.payload?, Indexable.elementType?_string, listed,
      Indexable.element?_object, found, Reporting.lift_bind, Reporting.pure_eq_give, Option.getD_some,
      Value.member_of_known found]

theorem index_missing_key {target : Value} {attributes : List (String × Ty)}
    (sound : target.wellFormed registry = true) (has : target.ty? = some (.object attributes))
    {name : String} (missing : attributes.lookup name = none) (span : Span) :
    Recovers (.error .invalidIndex (some span) "") .placeholder
      (index target (.known .string (.string name)) span) := by
  obtain ⟨text, written⟩ := Ty.text_ok (Value.wellFormed_ty sound has)
  have hasKey : (Value.known .string (.string name)).ty? = some .string := rfl
  have writtenKey : (Value.known .string (.string name)).text = .ok (Text.quote name) := rfl
  simp only [index, has, hasKey, object_canIndex, Value.payload?, Indexable.elementType?_string, missing,
    written, writtenKey, Reporting.lift_bind]
  exact ⟨_, rfl, .error _ _ _ _⟩

theorem index_gives {target key : Value} (soundTarget : target.wellFormed registry = true)
    (soundKey : key.wellFormed registry = true) (span : Span) :
    GivesSound registry (index target key span) := by
  cases has : target.ty? with
  | none =>
    obtain rfl := Value.ty?_eq_none.1 has
    exact .give rfl
  | some ty =>
    cases hasKey : key.ty? with
    | none =>
      obtain rfl := Value.ty?_eq_none.1 hasKey
      rw [index_placeholder_key]
      exact .give rfl
    | some keyType =>
      by_cases accepted : ∃ attributes, ty = .object attributes ∧ keyType = .string
      · obtain ⟨attributes, rfl, rfl⟩ := accepted
        cases key with
        | placeholder => cases hasKey
        | unknown ty' =>
          cases hasKey
          rw [index_unknown_key has]
          exact elementAnywhere_gives (Value.wellFormed_ty soundTarget has) span
        | known ty' payload =>
          cases hasKey
          obtain ⟨name, rfl⟩ := Payload.fits_string (Value.wellFormed_known.1 soundKey).1
          cases listed : attributes.lookup name with
          | none => exact (index_missing_key soundTarget has listed span).gives rfl
          | some element =>
            rw [index_known_key soundTarget has listed]
            exact .give (Value.member_wellFormed soundTarget has listed).1
      · exact (index_of_refused soundTarget soundKey has hasKey accepted span).gives rfl

theorem invoke_of_placeholder {env : Environment} {callable : Callable} {callee : Value}
    {arguments : List Value} (placed : .placeholder ∈ arguments) (span : Span) :
    env.invoke callable callee arguments span = Reporting.give .placeholder := by
  unfold invoke
  rw [if_pos (List.any_eq_true.2 ⟨_, placed, rfl⟩)]

/-- A function that is called with known values asks the host. -/
theorem invoke_known {env : Environment} {signature : Signature} {ty : Ty} {id : FunctionId} {values : List Value}
    (fixed : signature.returns = .fixed ty) (known : ∀ value ∈ values, value.isKnown = true) (span : Span) :
    env.invoke (.function signature) (.ofFunction signature id) values span =
      ((liftM (env.host.call id values) : Reporting CallResult) >>= fun result =>
        match result with
        | .ok value => Reporting.give value
        | .error message => fail .callFailed span ("call failed: " ++ message)) := by
  have present : values.any Value.isPlaceholder = false := List.any_eq_false.2 fun value member => by
    have is := known value member
    cases value <;> simp [Value.isKnown, Value.isPlaceholder] at is ⊢
  have settled : values.any Value.isUnknown = false := List.any_eq_false.2 fun value member => by
    have is := known value member
    cases value <;> simp [Value.isKnown, Value.isUnknown] at is ⊢
  have result : (Callable.function signature).signature.resultType (values.filterMap Value.ty?) = .ok ty := by
    simp only [Callable.signature, Signature.resultType, fixed]
  have callee : (Value.ofFunction signature id).payload? = some (.function id) := rfl
  simp only [invoke, present, settled, result, callee, Reporting.lift_bind, Bool.false_eq_true, if_false]
  rfl

/-- A call whose arguments all have a type is predicted by its signature, or runs the callback. -/
theorem invoke_cases {env : Environment} (sound : env.Sound registry) {callee : Value} {ty : Ty}
    {callable : Callable} {arguments : List Value} (soundCallee : callee.wellFormed registry = true)
    (has : callee.ty? = some ty) (called : ty.callable? env.host = some callable)
    (soundArguments : ∀ argument ∈ arguments, argument.wellFormed registry = true)
    (accepted : callable.signature.AcceptsAll arguments) (typed : .placeholder ∉ arguments) (span : Span) :
    ∃ resultType, callable.signature.resultType (arguments.filterMap Value.ty?) = .ok resultType ∧
      resultType.wellFormed registry = true ∧
      ((callee.isUnknown = true ∨ ∃ argument ∈ arguments, argument.isUnknown = true) ∧
          env.invoke callable callee arguments span = Reporting.give (.unknown resultType) ∨
        ∃ payload result, callee = .known ty payload ∧ callable.signature.Admits registry arguments ∧
          callable.call env.host payload arguments = .ok result ∧
          env.invoke callable callee arguments span =
            match result with
            | .ok value => Reporting.give value
            | .error message => fail .callFailed span ("call failed: " ++ message)) := by
  have soundSignature :=
    Callable.signature_wellFormed sound.host (Value.wellFormed_ty soundCallee has) called
  obtain ⟨resultType, predicted, soundResult⟩ :=
    Signature.resultType_ok soundSignature soundArguments accepted typed
  refine ⟨resultType, predicted, soundResult, ?_⟩
  have placed : arguments.any Value.isPlaceholder = false := by
    refine Bool.eq_false_iff.2 fun any => ?_
    obtain ⟨argument, member, is⟩ := List.any_eq_true.1 any
    cases argument with
    | placeholder => exact typed member
    | known _ _ | unknown _ => cases is
  simp only [invoke, placed, Bool.false_eq_true, if_false, predicted, Reporting.lift_bind]
  cases carries : callee.payload? with
  | none =>
    obtain rfl := Value.eq_unknown has carries
    exact .inl ⟨.inl rfl, rfl⟩
  | some payload =>
    obtain rfl := Value.eq_known has carries
    simp only
    split
    · rename_i undecided
      exact .inl ⟨.inr (List.any_eq_true.1 undecided), rfl⟩
    · rename_i decided
      have known : ∀ argument ∈ arguments, argument.isKnown = true := by
        intro argument member
        cases argument with
        | known _ _ => rfl
        | unknown ty' => exact absurd (List.any_eq_true.2 ⟨_, member, rfl⟩) decided
        | placeholder => exact absurd member typed
      have admitted : callable.signature.Admits registry arguments := ⟨known, soundArguments, accepted⟩
      obtain ⟨result, made, -⟩ :=
        Callable.call_sound sound.host (Value.wellFormed_known.1 soundCallee).1 called admitted
      refine .inr ⟨payload, result, rfl, admitted, made, ?_⟩
      simp only [made, Reporting.lift_bind]
      cases result <;> rfl

theorem invoke_gives {env : Environment} (sound : env.Sound registry) {callee : Value} {ty : Ty}
    {callable : Callable} {arguments : List Value} (soundCallee : callee.wellFormed registry = true)
    (has : callee.ty? = some ty) (called : ty.callable? env.host = some callable)
    (soundArguments : ∀ argument ∈ arguments, argument.wellFormed registry = true)
    (accepted : callable.signature.AcceptsAll arguments) (span : Span) :
    GivesSound registry (env.invoke callable callee arguments span) := by
  by_cases placed : .placeholder ∈ arguments
  · rw [invoke_of_placeholder placed]
    exact .give rfl
  · obtain ⟨resultType, -, soundResult, ⟨-, same⟩ | ⟨payload, result, rfl, admitted, made, same⟩⟩ :=
      invoke_cases sound soundCallee has called soundArguments accepted placed span
    · rw [same]
      exact .give (by simpa using soundResult)
    · obtain ⟨_, made', soundMade⟩ :=
        Callable.call_sound sound.host (Value.wellFormed_known.1 soundCallee).1 called admitted
      cases made.symm.trans made'
      rw [same]
      cases result with
      | ok value => exact .give (soundMade value rfl)
      | error message => exact .recover _ rfl

theorem call_of_uncallable {env : Environment} {callee : Value} {ty : Ty}
    (sound : callee.wellFormed registry = true) (has : callee.ty? = some ty)
    (uncallable : ty.callable? env.host = none) (supplied : List Supplied) (calleeSpan span : Span) :
    Recovers (.error .notCallable (some calleeSpan) "") .placeholder
      (env.call callee supplied calleeSpan span) := by
  obtain ⟨text, written⟩ := Ty.text_ok (Value.wellFormed_ty sound has)
  simp only [call, has, uncallable, written, Reporting.lift_bind]
  exact ⟨_, rfl, .error _ _ _ _⟩

/-- A call of a callable value binds its arguments; a call that binds none gives a placeholder. -/
theorem call_of_callable {env : Environment} {callee : Value} {ty : Ty} {callable : Callable}
    (has : callee.ty? = some ty) (called : ty.callable? env.host = some callable) (supplied : List Supplied)
    (calleeSpan span : Span) :
    env.call callee supplied calleeSpan span =
      (callable.signature.bind env.settings supplied span >>= fun bound =>
        match bound with
        | none => Reporting.give .placeholder
        | some arguments => env.invoke callable callee arguments span) := by
  simp only [call, has, called]
  rfl

/-- A call evaluates the callee and then its arguments, and adds its own reports to theirs. -/
theorem eval_call {env : Environment} {callee : Expr} {arguments : List Argument} {function : Value}
    {supplied : List Supplied} {early late : List Diagnostic}
    (evaluated : callee.eval env = .ok (function, early))
    (given : Argument.evalAll env arguments = .ok (supplied, late)) (span : Span) :
    (Expr.call callee arguments span).eval env =
      (env.call function supplied callee.span span).map fun (value, own) => (value, early ++ late ++ own) := by
  change (callee.eval env).andThen (fun value => (Argument.evalAll env arguments).andThen fun supplied =>
    env.call value supplied callee.span span) = _
  simp only [evaluated, given, Reporting.andThen, List.append_assoc]
  rcases env.call function supplied callee.span span with fault | ⟨value, own⟩ <;> rfl

theorem call_gives {env : Environment} (sound : env.Sound registry) {callee : Value}
    (soundCallee : callee.wellFormed registry = true) {supplied : List Supplied}
    (soundSupplied : ∀ argument ∈ supplied, argument.value.wellFormed registry = true)
    (calleeSpan span : Span) : GivesSound registry (env.call callee supplied calleeSpan span) := by
  cases has : callee.ty? with
  | none =>
    obtain rfl := Value.ty?_eq_none.1 has
    exact .give rfl
  | some ty =>
    have soundTy := Value.wellFormed_ty soundCallee has
    cases called : ty.callable? env.host with
    | none => exact (call_of_uncallable soundCallee has called supplied calleeSpan span).gives rfl
    | some callable =>
      rw [call_of_callable has called]
      have soundSignature := Callable.signature_wellFormed sound.host soundTy called
      refine (Signature.bind_gives soundSignature env.settings soundSupplied span).bind fun bound holds => ?_
      cases bound with
      | none => exact .give rfl
      | some arguments =>
        obtain ⟨soundArguments, accepted⟩ := holds arguments rfl
        exact invoke_gives sound soundCallee has called soundArguments accepted span

end Environment

/-! ### Expressions -/

mutual

/-- The literals of an expression, from left to right. -/
def Expr.literals : Expr → List Value
  | .literal value _ => [value]
  | .symbol _ _ => []
  | .unary _ operand _ => operand.literals
  | .binary _ left right _ => left.literals ++ right.literals
  | .call callee arguments _ => callee.literals ++ Argument.literals arguments
  | .access target _ _ => target.literals
  | .index target key _ => target.literals ++ key.literals
termination_by structural expr => expr

/-- The literals of some arguments. -/
def Argument.literals : List Argument → List Value
  | [] => []
  | argument :: rest => argument.ownLiterals ++ Argument.literals rest
termination_by structural arguments => arguments

/-- The literals of an argument. -/
def Argument.ownLiterals : Argument → List Value
  | ⟨_, value, _⟩ => value.literals
termination_by structural argument => argument

end

open Reporting (GivesSound)

mutual

/-- An expression of well-formed literals gives a well-formed value. -/
theorem Expr.eval_gives {env : Environment} (sound : env.Sound registry) :
    ∀ expr : Expr, (∀ value ∈ expr.literals, value.wellFormed registry = true) →
      GivesSound registry (expr.eval env)
  | .literal value _, literals => .give (literals value (by simp [Expr.literals]))
  | .symbol symbol span, _ => Environment.symbol_gives sound symbol span
  | .unary operator operand span, literals =>
    (operand.eval_gives sound literals).bind fun _ soundOperand =>
      Environment.unary_gives operator soundOperand span
  | .binary operator left right span, literals => by
    simp only [Expr.literals, List.forall_mem_append] at literals
    exact (left.eval_gives sound literals.1).bind fun _ soundLeft =>
      (right.eval_gives sound literals.2).bind fun _ soundRight =>
        Environment.binary_gives operator soundLeft soundRight left.span right.span span
  | .call callee arguments span, literals => by
    simp only [Expr.literals, List.forall_mem_append] at literals
    exact (callee.eval_gives sound literals.1).bind fun _ soundCallee =>
      (Argument.evalAll_gives sound arguments literals.2).bind fun _ soundSupplied =>
        Environment.call_gives sound soundCallee soundSupplied callee.span span
  | .access target name span, literals =>
    (target.eval_gives sound literals).bind fun _ soundTarget =>
      Environment.access_gives sound soundTarget name span
  | .index target key span, literals => by
    simp only [Expr.literals, List.forall_mem_append] at literals
    exact (target.eval_gives sound literals.1).bind fun _ soundTarget =>
      (key.eval_gives sound literals.2).bind fun _ soundKey =>
        Environment.index_gives soundTarget soundKey span
termination_by structural expr => expr

theorem Argument.evalAll_gives {env : Environment} (sound : env.Sound registry) :
    ∀ arguments : List Argument, (∀ value ∈ Argument.literals arguments, value.wellFormed registry = true) →
      Reporting.Gives (fun supplied => ∀ argument ∈ supplied, argument.value.wellFormed registry = true)
        (Argument.evalAll env arguments)
  | [], _ => .give (by simp)
  | argument :: rest, literals => by
    simp only [Argument.literals, List.forall_mem_append] at literals
    exact (argument.eval_gives sound literals.1).bind fun _ soundFirst =>
      (Argument.evalAll_gives sound rest literals.2).bind fun _ soundRest =>
        .give (List.forall_mem_cons.2 ⟨soundFirst, soundRest⟩)
termination_by structural arguments => arguments

theorem Argument.eval_gives {env : Environment} (sound : env.Sound registry) :
    ∀ argument : Argument, (∀ value ∈ argument.ownLiterals, value.wellFormed registry = true) →
      Reporting.Gives (fun supplied => supplied.value.wellFormed registry = true) (argument.eval env)
  | ⟨_, value, _⟩, literals => (value.eval_gives sound literals).bind fun _ soundValue => .give soundValue
termination_by structural argument => argument

end

end Circuitry
