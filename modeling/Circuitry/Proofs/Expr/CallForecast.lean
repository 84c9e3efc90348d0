import Circuitry.Proofs.Expr.Forecast

/-!
# What a call foretells of later ones

Once more is known, a call goes to the same callee, binds the same arguments and has the result type that was
predicted for it. Where arguments were unknown the callback may run for the first time, and then the host is
taken at its word; where they were known, it is assumed to say no less when it is told more.
-/

set_option autoImplicit false

namespace Circuitry

variable {registry : Registry} {lenient : Bool}

/-! ### Arguments -/

/-- Where no later argument is a placeholder, no earlier one was. -/
theorem Value.Foretells.typed_before {arguments arguments' : List Value}
    (foretold : List.Forall₂ (Value.Foretells registry false) arguments arguments')
    (typed' : .placeholder ∉ arguments') : .placeholder ∉ arguments := by
  intro placed
  obtain ⟨argument', member', pair⟩ := forall₂_left foretold placed
  exact typed' (pair.of_placeholder ▸ member')

theorem Value.Foretells.refined_all {arguments arguments' : List Value}
    (foretold : List.Forall₂ (Value.Foretells registry false) arguments arguments')
    (typed' : .placeholder ∉ arguments') :
    List.Forall₂ (Value.RefinedBy registry) arguments arguments' := by
  have typed := typed_before foretold typed'
  refine forall₂_imp foretold fun argument member argument' member' pair => ?_
  refine (pair.strict fun placeholder => typed (placeholder ▸ member)).resolve_left fun lost => ?_
  exact typed' (lost ▸ member')

namespace Environment

open Reporting (Foretells Forecasts)

/-! ### Callees -/

/-- What an honest host returns has the predicted type. -/
theorem callable_honest {env : Environment} (honest : env.host.Honest registry) {ty : Ty}
    {callable : Callable} {payload : Payload} {arguments : List Value} {value : Value}
    (fits : payload.fits registry ty = true) (called : ty.callable? env.host = some callable)
    (admitted : callable.signature.Admits registry arguments)
    (made : callable.call env.host payload arguments = .ok (.ok value)) :
    ∃ resultType, callable.signature.resultType (arguments.filterMap Value.ty?) = .ok resultType ∧
      value.hasType resultType = true := by
  rcases Ty.callable?_eq_some.1 called with ⟨signature, rfl, rfl⟩ | ⟨kind, signature, rfl, found, rfl⟩
  · obtain ⟨id, rfl, allowed⟩ := Payload.fits_function fits
    exact honest.call id signature arguments value allowed admitted made
  · obtain ⟨id, rfl, held⟩ := Payload.fits_model fits
    exact honest.callModel kind id signature arguments value held found admitted (Except.ok.inj made)

/-- Calls of the same callee with refined arguments give refined results. -/
theorem callable_refined {env other : Environment} (forecast : env.Forecast registry lenient other)
    {ty ty' : Ty} {callable callable' : Callable} {payload payload' : Payload}
    {arguments arguments' : List Value} {value value' : Value}
    (fits : payload.fits registry ty = true) (fits' : payload'.fits registry ty' = true)
    (refined : (Value.known ty payload).RefinedBy registry (.known ty' payload'))
    (called : ty.callable? env.host = some callable) (called' : ty'.callable? other.host = some callable')
    (admitted : callable.signature.Admits registry arguments)
    (admitted' : callable'.signature.Admits registry arguments')
    (refinedArguments : List.Forall₂ (Value.RefinedBy registry) arguments arguments')
    (made : callable.call env.host payload arguments = .ok (.ok value))
    (made' : callable'.call other.host payload' arguments' = .ok (.ok value')) :
    value.RefinedBy registry value' := by
  obtain ⟨_, _, parts, same, refinedPayload⟩ := refined.known
  cases parts
  obtain ⟨rfl, paired⟩ := Callable.paired fits fits' same refinedPayload called called'
  cases paired with
  | function allowed allowed' same =>
    exact forecast.host.call _ _ _ arguments arguments' value value' allowed allowed' same admitted admitted'
      refinedArguments made made'
  | model same held held' found found' =>
    exact forecast.host.callModel _ _ _ _ _ arguments arguments' value value' same held held' found found'
      admitted admitted' refinedArguments (Except.ok.inj made) (Except.ok.inj made')

theorem invoke_forecasts {env other : Environment} (forecast : env.Forecast registry lenient other)
    {callee callee' : Value} {ty ty' : Ty} {callable callable' : Callable} {arguments arguments' : List Value}
    (sound : callee.wellFormed registry = true) (sound' : callee'.wellFormed registry = true)
    (refined : callee.RefinedBy registry callee')
    (has : callee.ty? = some ty) (has' : callee'.ty? = some ty')
    (called : ty.callable? env.host = some callable) (called' : ty'.callable? other.host = some callable')
    (agrees : callable.signature.Agrees registry callable'.signature)
    (soundArguments : ∀ argument ∈ arguments, argument.wellFormed registry = true)
    (soundArguments' : ∀ argument ∈ arguments', argument.wellFormed registry = true)
    (accepted : callable.signature.AcceptsAll arguments)
    (foretold : List.Forall₂ (Value.Foretells registry false) arguments arguments') (span : Span) :
    Foretells lenient (Value.Foretells registry lenient) (env.invoke callable callee arguments span)
      (other.invoke callable' callee' arguments' span) := by
  by_cases placed' : .placeholder ∈ arguments'
  · rw [invoke_of_placeholder placed']
    exact .lost
  have typed : .placeholder ∉ arguments := Value.Foretells.typed_before foretold placed'
  have refinedArguments := Value.Foretells.refined_all foretold placed'
  obtain ⟨resultType, predicted, -, outcome⟩ :=
    invoke_cases forecast.sound sound has called soundArguments accepted typed span
  obtain ⟨resultType', predicted', -, outcome'⟩ :=
    invoke_cases forecast.sound' sound' has' called' soundArguments'
      (accepted.foretold agrees soundArguments soundArguments' foretold) placed' span
  have sameResult := Signature.resultType_refined agrees refinedArguments predicted predicted'
  rcases outcome' with ⟨undecided', same'⟩ | ⟨payload', result', rfl, admitted', made', same'⟩
  · have undecided := Value.undecided_of_refined refined refinedArguments undecided'
    rcases outcome with ⟨-, same⟩ | ⟨payload, result, rfl, admitted, -, -⟩
    · rw [same, same']
      exact .refined (.unknown_of_same sameResult)
    · exact absurd undecided (admitted.decided ty payload)
  · cases has'
    have fits' := (Value.wellFormed_known.1 sound').1
    cases result' with
    | error message =>
      rw [same']
      exact .failed_right rfl
    | ok value' =>
      rw [same']
      obtain ⟨_, soundResult⟩ := Callable.call_sound forecast.sound'.host fits' called' admitted'
      obtain ⟨made'', soundValue'⟩ := soundResult
      cases made'.symm.trans made''
      rcases outcome with ⟨-, same⟩ | ⟨payload, result, rfl, admitted, made, same⟩
      · rw [same]
        obtain ⟨_, predicted'', hasTy⟩ := callable_honest forecast.honest fits' called' admitted' made'
        cases predicted'.symm.trans predicted''
        exact .refined (.of_hasType sameResult (soundValue' value' rfl) hasTy)
      · rw [same]
        cases result with
        | error message => exact .failed
        | ok value =>
          cases has
          exact .refined (callable_refined forecast (Value.wellFormed_known.1 sound).1 fits' refined called
            called' admitted admitted' refinedArguments made made')

end Environment

/-! ### Binding -/

/-- An argument that foretells the value of another one. -/
abbrev Supplied.Forecast (registry : Registry) (lenient : Bool) : Supplied → Supplied → Prop :=
  Supplied.Alike (Value.Forecast registry lenient)

theorem Signature.Agrees.parametersForecast {signature other : Signature}
    (agrees : signature.Agrees registry other) :
    List.Forall₂ (Parameter.Alike (Value.Forecast registry lenient)) signature.parameters other.parameters :=
  forall₂_imp agrees.parameters fun _ _ _ _ alike => alike.imp fun _ _ values =>
    ⟨values.sound, values.sound', .of_refined values.refined⟩

/-- If a call binds its arguments, so does a later one, and they turn out as foretold; unless a placeholder
among them says nothing. -/
theorem Signature.bind_forecasts {signature other : Signature} (agrees : signature.Agrees registry other)
    (settings settings' : Settings) {supplied supplied' : List Supplied}
    (pairs : List.Forall₂ (Supplied.Forecast registry lenient) supplied supplied') {span : Span}
    {arguments : List Value} {diagnostics : List Diagnostic}
    (bound : signature.bind settings supplied span = .ok (some arguments, diagnostics)) :
    (lenient = true ∧ .placeholder ∈ arguments) ∨
      ∃ arguments', other.bind settings' supplied' span = .ok (some arguments', []) ∧
        List.Forall₂ (Value.Foretells registry false) arguments arguments' := by
  obtain ⟨-, slots, filled, rfl, accepted⟩ := bind_eq_some.1 bound
  obtain ⟨slots', filled', -, alike⟩ :=
    (filled_alike settings settings' agrees.parametersForecast pairs span).silent filled
  have values := slotValues_alike alike ⟨rfl, rfl, .lost⟩
  by_cases silent : lenient = true ∧ .placeholder ∈ slots.map slotValue
  · exact .inl silent
  have foretold : List.Forall₂ (Value.Foretells registry false) (slots.map slotValue)
      (slots'.map slotValue) := by
    refine forall₂_imp values fun value member value' _ pair => ?_
    rcases pair.foretells with ⟨isLenient, rfl⟩ | lost | refined
    · exact absurd ⟨isLenient, member⟩ silent
    · exact .inr (.inl lost)
    · exact .of_refined refined
  refine .inr ⟨_, bind_eq_some.2 ⟨rfl, slots', filled', rfl, ?_⟩, foretold⟩
  exact accepted.foretold agrees (forall₂_each values fun _ _ pair => pair.sound)
    (forall₂_each values.flip fun _ _ pair => pair.sound') foretold

/-- What follows the binding of arguments is foretold, if it is foretold for arguments that are bound on both
sides and gives a placeholder for those that hold one. -/
theorem Signature.bind_foretells {signature other : Signature} (agrees : signature.Agrees registry other)
    (settings settings' : Settings) {supplied supplied' : List Supplied}
    (pairs : List.Forall₂ (Supplied.Forecast registry lenient) supplied supplied') (span : Span)
    {next next' : List Value → Reporting Value}
    (lost : ∀ arguments, .placeholder ∈ arguments → next arguments = .give .placeholder)
    (each : ∀ arguments arguments', signature.bind settings supplied span = .ok (some arguments, []) →
      other.bind settings' supplied' span = .ok (some arguments', []) →
      List.Forall₂ (Value.Foretells registry false) arguments arguments' →
      Reporting.Foretells lenient (Value.Foretells registry lenient) (next arguments) (next' arguments')) :
    Reporting.Foretells lenient (Value.Foretells registry lenient)
      (signature.bind settings supplied span >>= fun bound =>
        match bound with
        | none => Reporting.give .placeholder
        | some arguments => next arguments)
      (other.bind settings' supplied' span >>= fun bound =>
        match bound with
        | none => Reporting.give .placeholder
        | some arguments => next' arguments) := by
  intro value diagnostics result reported gave gives quiet
  obtain ⟨bound, before, after, made, gaveNext, rfl⟩ := Reporting.bind_eq_ok.1 gave
  obtain ⟨bound', before', after', made', givesNext, rfl⟩ := Reporting.bind_eq_ok.1 gives
  cases bound with
  | none =>
    cases gaveNext
    rcases quiet with isLenient | silent
    · exact ⟨.inl ⟨isLenient, rfl⟩, fun strict => absurd (isLenient.symm.trans strict) (by simp)⟩
    · exact absurd (List.append_eq_nil_iff.1 silent).1 (Reporting.reported_of_ifSilent made)
  | some arguments =>
    obtain rfl : before = [] := (bind_eq_some.1 made).1
    rcases bind_forecasts agrees settings settings' pairs made with
      ⟨isLenient, placed⟩ | ⟨arguments', bound', foretold⟩
    · have gaveNext : next arguments = .ok (value, after) := gaveNext
      rw [lost arguments placed] at gaveNext
      cases gaveNext
      exact ⟨.inl ⟨isLenient, rfl⟩, fun strict => absurd (isLenient.symm.trans strict) (by simp)⟩
    · cases made'.symm.trans bound'
      exact each arguments arguments' made bound' foretold value after result after' gaveNext givesNext quiet

/-! ### Calls -/

namespace Environment

open Reporting (Foretells Forecasts)

theorem call_forecasts {env other : Environment} (forecast : env.Forecast registry lenient other)
    {callee callee' : Value} (forecastCallee : callee.Forecast registry lenient callee')
    {supplied supplied' : List Supplied}
    (pairs : List.Forall₂ (Supplied.Forecast registry lenient) supplied supplied') (calleeSpan span : Span) :
    Forecasts registry lenient (env.call callee supplied calleeSpan span)
      (other.call callee' supplied' calleeSpan span) := by
  have soundSupplied : ∀ argument ∈ supplied, argument.value.wellFormed registry = true :=
    forall₂_each pairs fun _ _ pair => pair.value.sound
  have soundSupplied' : ∀ argument ∈ supplied', argument.value.wellFormed registry = true :=
    forall₂_each pairs.flip fun _ _ pair => pair.value.sound'
  refine .sound ?_ (call_gives forecast.sound forecastCallee.sound soundSupplied calleeSpan span)
    (call_gives forecast.sound' forecastCallee.sound' soundSupplied' calleeSpan span)
  obtain ⟨sound, sound', ⟨isLenient, rfl⟩ | rfl | refined⟩ := forecastCallee
  · exact .silent isLenient
  · exact .lost
  cases has : callee.ty? with
  | none =>
    obtain rfl := Value.ty?_eq_none.1 has
    obtain rfl := Value.placeholder_refinedBy.1 refined
    exact .lost
  | some ty =>
    cases called : ty.callable? env.host with
    | none => exact .failed_of_recovers (call_of_uncallable sound has called supplied calleeSpan span)
    | some callable =>
      obtain ⟨ty', has', same⟩ := refined.ty has
      have types : ty.Agrees registry ty' :=
        ⟨Value.wellFormed_ty sound has, Value.wellFormed_ty sound' has', same⟩
      obtain ⟨callable', called', agrees⟩ :=
        rel_some (Ty.callable?_agrees forecast.sound.host forecast.sound'.host forecast.host.signature types)
          called
      rw [call_of_callable has called, call_of_callable has' called']
      refine Signature.bind_foretells agrees env.settings other.settings pairs span
        (fun arguments placed => invoke_of_placeholder placed span) ?_
      intro arguments arguments' bound bound' foretold
      obtain ⟨soundArguments, accepted⟩ :=
        (Signature.bind_gives agrees.sound env.settings soundSupplied span).of_eq bound arguments rfl
      obtain ⟨soundArguments', -⟩ :=
        (Signature.bind_gives agrees.sound' other.settings soundSupplied' span).of_eq bound' arguments' rfl
      exact invoke_forecasts forecast sound sound' refined has has' called called' agrees soundArguments
        soundArguments' accepted foretold span

end Environment

end Circuitry
