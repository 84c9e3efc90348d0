import Circuitry.Proofs.Expr.Soundness
import Circuitry.Proofs.Kernel.Capability
import Circuitry.Proofs.Operator.Refinement

/-!
# What an evaluation foretells of later ones

An expression is evaluated once with little known and once with more. Every node keeps to what it foretold: the
second value refines the first, or something went wrong that only the data could show, and a placeholder stands
for it. Read leniently, a placeholder in the first evaluation says nothing of the second; read strictly, an
evaluation that reports nothing says all there is to say, placeholders included.
-/

set_option autoImplicit false

namespace Circuitry

variable {registry : Registry} {lenient : Bool}

/-- A computation that foretells another one's value. -/
abbrev Reporting.Forecasts (registry : Registry) (lenient : Bool) :
    Reporting Value → Reporting Value → Prop :=
  Reporting.Foretells lenient (Value.Forecast registry lenient)

namespace Reporting

theorem Foretells.sound {computation other : Reporting Value}
    (foretells : Foretells lenient (Value.Foretells registry lenient) computation other)
    (sound : GivesSound registry computation) (sound' : GivesSound registry other) :
    Forecasts registry lenient computation other := by
  intro value diagnostics result reported gave gives quiet
  obtain ⟨holds, data⟩ := foretells value diagnostics result reported gave gives quiet
  exact ⟨⟨sound.of_eq gave, sound'.of_eq gives, holds⟩, data⟩

/-- A lenient placeholder foretells anything. -/
theorem Foretells.silent {other : Reporting Value} (isLenient : lenient = true) :
    Foretells lenient (Value.Foretells registry lenient) (give .placeholder) other := by
  intro _ _ _ _ gave _ _
  cases gave
  exact ⟨.silent isLenient, fun strict => absurd (isLenient.symm.trans strict) (by simp)⟩

/-- So does a mistake that leaves a placeholder. -/
theorem Foretells.failed {diagnostic : Diagnostic} {other : Reporting Value} :
    Foretells lenient (Value.Foretells registry lenient) (recover diagnostic .placeholder) other :=
  .recover fun isLenient _ _ _ => .silent isLenient

/-- A placeholder turns out if one of its causes does. -/
theorem Foretells.lost {computation : Reporting Value} :
    Foretells lenient (Value.Foretells registry lenient) computation (give .placeholder) := by
  intro _ _ _ _ _ gives _
  cases gives
  exact ⟨.lost, fun _ _ member => (nomatch member)⟩

/-- What depends on data may fail. -/
theorem Foretells.failed_right {computation : Reporting Value} {diagnostic : Diagnostic}
    (data : diagnostic.kind.dependsOnData = true) :
    Foretells lenient (Value.Foretells registry lenient) computation (recover diagnostic .placeholder) :=
  .recover_right data fun _ _ _ => .lost

theorem Foretells.failed_of_recovers {exemplar : Diagnostic} {computation other : Reporting Value}
    (recovers : Recovers exemplar .placeholder computation) :
    Foretells lenient (Value.Foretells registry lenient) computation other := by
  obtain ⟨diagnostic, rfl, -⟩ := recovers
  exact .failed

theorem Foretells.failed_right_of_recovers {exemplar : Diagnostic} {computation other : Reporting Value}
    (recovers : Recovers exemplar .placeholder other) (data : exemplar.kind.dependsOnData = true) :
    Foretells lenient (Value.Foretells registry lenient) computation other := by
  obtain ⟨diagnostic, rfl, alike⟩ := recovers
  exact .failed_right (alike.kind ▸ data)

/-- Two mistakes foretell the same if the values given in spite of them do. -/
theorem Foretells.of_recovers {exemplar exemplar' : Diagnostic} {computation other : Reporting Value}
    {value result : Value} (recovers : Recovers exemplar value computation)
    (recovers' : Recovers exemplar' result other) (refined : value.RefinedBy registry result) :
    Foretells lenient (Value.Foretells registry lenient) computation other := by
  obtain ⟨diagnostic, rfl, -⟩ := recovers
  obtain ⟨diagnostic', rfl, -⟩ := recovers'
  refine .recover fun _ _ _ gives => ?_
  cases gives
  exact .of_refined refined

theorem Foretells.refined {value other : Value} (refined : value.RefinedBy registry other) :
    Foretells lenient (Value.Foretells registry lenient) (give value) (give other) :=
  .give (.of_refined refined)

end Reporting

/-- A second evaluation in which more is known: both are sound, the second host is honest, it answers as the
first one where less is known, and every binding keeps to what it foretold. -/
structure Environment.Forecast (registry : Registry) (lenient : Bool) (env other : Environment) : Prop where
  sound : env.Sound registry
  sound' : other.Sound registry
  honest : other.host.Honest registry
  complete : lenient = false → other.host.Complete registry
  host : env.host.RefinedBy registry other.host
  values : ∀ symbol, Option.Rel (Value.Foretells registry lenient) (env.value? symbol) (other.value? symbol)

namespace Environment

open Reporting (Foretells Forecasts)

theorem symbol_forecasts {env other : Environment} (forecast : env.Forecast registry lenient other)
    (symbol : Symbol) (span : Span) :
    Forecasts registry lenient (env.symbol symbol span) (other.symbol symbol span) := by
  refine .sound ?_ (symbol_gives forecast.sound symbol span) (symbol_gives forecast.sound' symbol span)
  have pair := forecast.values symbol
  unfold Environment.symbol
  generalize env.value? symbol = found at pair
  generalize other.value? symbol = found' at pair
  cases pair with
  | some foretells => exact .give foretells
  | none => exact .failed

theorem unary_forecasts (operator : UnaryOperator) {operand operand' : Value}
    (forecast : operand.Forecast registry lenient operand') (span : Span) :
    Forecasts registry lenient (unary operator operand span) (unary operator operand' span) := by
  refine .sound ?_ (unary_gives operator forecast.sound span) (unary_gives operator forecast.sound' span)
  obtain ⟨sound, sound', ⟨isLenient, rfl⟩ | rfl | refined⟩ := forecast
  · exact .silent isLenient
  · exact .lost
  obtain ⟨result, applied, -⟩ := operator.apply_settled sound
  obtain ⟨result', applied', -⟩ := operator.apply_settled sound'
  rcases operator.apply_refined sound sound' refined applied applied' with
    ⟨value, value', rfl, rfl, refinedValue⟩ | ⟨error, error', rfl, rfl⟩
  · rw [unary_of_ok applied, unary_of_ok applied']
    exact .refined refinedValue
  · exact .of_recovers (unary_of_error sound applied span) (unary_of_error sound' applied' span)
      (.refl operator.fallback_wellFormed)

theorem binary_placeholder_right (operator : BinaryOperator) (left : Value)
    (leftSpan rightSpan span : Span) :
    binary operator left .placeholder leftSpan rightSpan span = Reporting.give .placeholder :=
  binary_of_ok (by cases left <;> rfl) leftSpan rightSpan span

theorem binary_forecasts (operator : BinaryOperator) {left left' right right' : Value}
    (forecast : left.Forecast registry lenient left') (forecastRight : right.Forecast registry lenient right')
    (leftSpan rightSpan span : Span) :
    Forecasts registry lenient (binary operator left right leftSpan rightSpan span)
      (binary operator left' right' leftSpan rightSpan span) := by
  refine .sound ?_ (binary_gives operator forecast.sound forecastRight.sound leftSpan rightSpan span)
    (binary_gives operator forecast.sound' forecastRight.sound' leftSpan rightSpan span)
  obtain ⟨soundLeft, soundLeft', ⟨isLenient, rfl⟩ | rfl | refinedLeft⟩ := forecast
  · exact .silent isLenient
  · exact .lost
  obtain ⟨soundRight, soundRight', ⟨isLenient, rfl⟩ | rfl | refinedRight⟩ := forecastRight
  · rw [binary_placeholder_right]
    exact .silent isLenient
  · rw [binary_placeholder_right operator left']
    exact .lost
  obtain ⟨result, applied, -⟩ := operator.apply_settled soundLeft soundRight
  obtain ⟨result', applied', -⟩ := operator.apply_settled soundLeft' soundRight'
  cases operator.apply_refined soundLeft soundRight soundLeft' soundRight' refinedLeft refinedRight applied
    applied' with
  | value refined =>
    rw [binary_of_ok applied, binary_of_ok applied']
    exact .refined refined
  | refused nonzero nonzero' =>
    exact .of_recovers (binary_of_error soundLeft soundRight applied nonzero leftSpan rightSpan span)
      (binary_of_error soundLeft' soundRight' applied' nonzero' leftSpan rightSpan span)
      (.refl operator.fallback_wellFormed)
  | zero => exact .failed_right_of_recovers (binary_of_zero applied' leftSpan rightSpan span) rfl

/-! ### Attributes and elements -/

/-- The second host, if it is not read leniently, has a value for every attribute. -/
theorem attributeValue_found {env other : Environment} (forecast : env.Forecast registry lenient other)
    {kind : ModelType} {id : ObjectId} {name : String} {ty : Ty} (held : registry.holds id kind = true)
    (typed : (other.host.model kind).attributeType? name = some ty)
    (missing : (other.host.model kind).attribute? id name = none) : lenient = true := by
  by_contra strict
  obtain ⟨value, found⟩ := forecast.complete (by simpa using strict) kind id name ty held typed
  cases missing.symm.trans found

/-- A host that breaks its word foretells nothing, and nothing is foretold of it unless read leniently. -/
theorem access_model_forecasts {env other : Environment} (forecast : env.Forecast registry lenient other)
    {kind kind' : ModelType} (sameKind : kind.index = kind'.index) {target : Value} {id : ObjectId}
    (sound : target.wellFormed registry = true) (has : target.ty? = some (.model kind))
    (held' : registry.holds id kind' = true)
    (refined : target.RefinedBy registry (.known (.model kind') (.model id))) {name : String} {ty ty' : Ty}
    (typed : (env.host.model kind).attributeType? name = some ty)
    (typed' : (other.host.model kind').attributeType? name = some ty') (sameTy : ty.same ty' = true)
    (span : Span) :
    Foretells lenient (Value.Foretells registry lenient) (env.access target name span)
      (other.access (.known (.model kind') (.model id)) name span) := by
  rw [access_model typed']
  cases found' : (other.host.model kind').attribute? id name with
  | none =>
    have isLenient := attributeValue_found forecast held' typed' found'
    intro _ _ _ _ _ gives _
    cases gives
    exact ⟨.lost, fun strict => absurd (isLenient.symm.trans strict) (by simp)⟩
  | some value' =>
    have soundValue' := forecast.sound'.host.attributeValue kind' id name ty' value' held' typed' found'
    cases target with
    | placeholder => cases has
    | unknown _ =>
      cases has
      rw [access_unknown_model typed]
      exact .refined (.of_hasType sameTy soundValue'
        (forecast.honest.attributeValue kind' id name ty' value' held' typed' found'))
    | known _ payload =>
      cases has
      obtain ⟨id', rfl, held⟩ := Payload.fits_model (Value.wellFormed_known.1 sound).1
      obtain ⟨_, _, same, -, refinedPayload⟩ := refined.known
      cases same
      have sameId : (Payload.model id').same (.model id) = true := refinedPayload
      obtain rfl : id' = id := by simpa [Payload.same] using sameId
      rw [access_model typed]
      cases found : (env.host.model kind).attribute? id' name with
      | none => exact .failed
      | some value =>
        exact .refined (forecast.host.attributeValue kind kind' id' name value value' sameKind held held'
          found found')

theorem access_forecasts {env other : Environment} (forecast : env.Forecast registry lenient other)
    {target target' : Value} (forecastTarget : target.Forecast registry lenient target') (name : String)
    (span : Span) :
    Forecasts registry lenient (env.access target name span) (other.access target' name span) := by
  refine .sound ?_ (access_gives forecast.sound forecastTarget.sound name span)
    (access_gives forecast.sound' forecastTarget.sound' name span)
  obtain ⟨sound, sound', ⟨isLenient, rfl⟩ | rfl | refined⟩ := forecastTarget
  · exact .silent isLenient
  · exact .lost
  cases has : target.ty? with
  | none =>
    obtain rfl := Value.ty?_eq_none.1 has
    obtain rfl := Value.placeholder_refinedBy.1 refined
    exact .lost
  | some found =>
    obtain ⟨found', has', same⟩ := refined.ty has
    cases typed : (found.attributes?).bind fun source => source.type? env.host name with
    | none => exact .failed_of_recovers (access_of_missing sound has typed span)
    | some ty =>
      have types : found.Agrees registry found' :=
        ⟨Value.wellFormed_ty sound has, Value.wellFormed_ty sound' has', same⟩
      obtain ⟨ty', typed', agrees⟩ := rel_some (Ty.attributes?_agrees forecast.sound.host forecast.sound'.host
        forecast.host.attributeType types name) typed
      cases found <;> simp only [Ty.attributes?, Option.bind_none, Option.bind_some, reduceCtorEq] at typed
      case object attributes =>
        obtain ⟨attributes', rfl, -⟩ := Ty.object_same same
        rw [access_object sound has typed, access_object sound' has' typed']
        exact .refined (refined.member sound sound' has has' typed typed' agrees.same)
      case model kind =>
        obtain ⟨kind', rfl, sameKind⟩ := Ty.model_same same
        cases target' with
        | placeholder => cases has'
        | unknown _ =>
          cases has'
          obtain ⟨_, rfl, -⟩ := refined.of_unknown
          cases has
          rw [access_unknown_model typed, access_unknown_model typed']
          exact .refined (.unknown_of_same agrees.same)
        | known _ payload =>
          cases has'
          obtain ⟨id, rfl, held'⟩ := Payload.fits_model (Value.wellFormed_known.1 sound').1
          exact access_model_forecasts forecast sameKind sound has held' refined typed typed' agrees.same span

/-- Under a known key, the element is the one foretold, or the key turns out to be missing. -/
theorem index_known_forecasts {target' : Value} {attributes' : List (String × Ty)}
    {computation : Reporting Value} (sound' : target'.wellFormed registry = true)
    (has' : target'.ty? = some (.object attributes')) {name : String} {span : Span}
    (foretells : ∀ ty', attributes'.lookup name = some ty' →
      Foretells lenient (Value.Foretells registry lenient) computation
        (Reporting.give (target'.member name ty'))) :
    Foretells lenient (Value.Foretells registry lenient) computation
      (index target' (.known .string (.string name)) span) := by
  cases listed' : attributes'.lookup name with
  | none => exact .failed_right_of_recovers (index_missing_key sound' has' listed' span) rfl
  | some ty' =>
    rw [index_known_key sound' has' listed']
    exact foretells ty' listed'

theorem index_object_forecasts {target target' key key' : Value} {attributes attributes' : List (String × Ty)}
    (sound : target.wellFormed registry = true) (sound' : target'.wellFormed registry = true)
    (soundKey : key.wellFormed registry = true) (soundKey' : key'.wellFormed registry = true)
    (refined : target.RefinedBy registry target') (refinedKey : key.RefinedBy registry key')
    (has : target.ty? = some (.object attributes)) (has' : target'.ty? = some (.object attributes'))
    (same : (Ty.object attributes).same (.object attributes') = true)
    (hasKey : key.ty? = some .string) (hasKey' : key'.ty? = some .string) (span : Span) :
    Foretells lenient (Value.Foretells registry lenient) (index target key span)
      (index target' key' span) := by
  have soundTy := Value.wellFormed_ty sound has
  have soundTy' := Value.wellFormed_ty sound' has'
  cases key with
  | placeholder => cases hasKey
  | unknown _ =>
    cases hasKey
    rw [index_unknown_key has]
    cases uniform : uniformType? attributes with
    | none => exact .failed_of_recovers (elementAnywhere_of_mixed ⟨attributes⟩ soundTy uniform span)
    | some ty =>
      obtain ⟨ty', uniform', shared⟩ := uniformType?_same soundTy soundTy' same uniform
      rw [elementAnywhere_of_uniform uniform]
      cases key' with
      | placeholder => cases hasKey'
      | unknown _ =>
        cases hasKey'
        rw [index_unknown_key has', elementAnywhere_of_uniform uniform']
        obtain ⟨name, rest, rfl, -⟩ := uniformType?_eq_some.1 uniform'
        exact .refined (.unknown_of_same (shared name ty' (by simp)))
      | known _ payload =>
        cases hasKey'
        obtain ⟨name, rfl⟩ := Payload.fits_string (Value.wellFormed_known.1 soundKey').1
        refine index_known_forecasts sound' has' fun ty'' listed' => ?_
        obtain ⟨soundMember, hasTy⟩ := Value.member_wellFormed sound' has' listed'
        exact .refined (.of_hasType (shared name ty'' listed') soundMember hasTy)
  | known _ payload =>
    cases hasKey
    obtain ⟨name, rfl⟩ := Payload.fits_string (Value.wellFormed_known.1 soundKey).1
    obtain rfl := refinedKey.string
    cases listed : attributes.lookup name with
    | none => exact .failed_of_recovers (index_missing_key sound has listed span)
    | some ty =>
      obtain ⟨ty', listed', sameTy⟩ := (Ty.same_object.1 same).lookup_some listed
      rw [index_known_key sound has listed, index_known_key sound' has' listed']
      exact .refined (refined.member sound sound' has has' listed listed' sameTy)

theorem index_forecasts {target target' key key' : Value}
    (forecastTarget : target.Forecast registry lenient target')
    (forecastKey : key.Forecast registry lenient key') (span : Span) :
    Forecasts registry lenient (index target key span) (index target' key' span) := by
  refine .sound ?_ (index_gives forecastTarget.sound forecastKey.sound span)
    (index_gives forecastTarget.sound' forecastKey.sound' span)
  obtain ⟨sound, sound', ⟨isLenient, rfl⟩ | rfl | refined⟩ := forecastTarget
  · exact .silent isLenient
  · exact .lost
  obtain ⟨soundKey, soundKey', ⟨isLenient, rfl⟩ | rfl | refinedKey⟩ := forecastKey
  · rw [index_placeholder_key]
    exact .silent isLenient
  · rw [index_placeholder_key target']
    exact .lost
  cases has : target.ty? with
  | none =>
    obtain rfl := Value.ty?_eq_none.1 has
    obtain rfl := Value.placeholder_refinedBy.1 refined
    exact .lost
  | some ty =>
    cases hasKey : key.ty? with
    | none =>
      obtain rfl := Value.ty?_eq_none.1 hasKey
      obtain rfl := Value.placeholder_refinedBy.1 refinedKey
      rw [index_placeholder_key target']
      exact .lost
    | some keyType =>
      by_cases accepted : ∃ attributes, ty = .object attributes ∧ keyType = .string
      · obtain ⟨attributes, rfl, rfl⟩ := accepted
        obtain ⟨ty', has', same⟩ := refined.ty has
        obtain ⟨attributes', rfl, -⟩ := Ty.object_same same
        obtain ⟨keyType', hasKey', sameKey⟩ := refinedKey.ty hasKey
        obtain rfl := Ty.string_same.1 sameKey
        exact index_object_forecasts sound sound' soundKey soundKey' refined refinedKey has has' same hasKey
          hasKey' span
      · exact .failed_of_recovers (index_of_refused sound soundKey has hasKey accepted span)

end Environment

end Circuitry
