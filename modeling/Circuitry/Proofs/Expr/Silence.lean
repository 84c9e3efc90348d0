import Circuitry.Proofs.Expr.Reports
import Circuitry.Proofs.Expr.Slots
import Circuitry.Proofs.Expr.Soundness
import Circuitry.Proofs.Kernel.Whole
import Circuitry.Proofs.Operator.Refinement

/-!
# What is missing is accounted for

A placeholder among the operands of a node silences it, so a placeholder that comes from nowhere would hide a
mistake for good. None does. Where literals, bindings, defaults and the answers of the host are whole, every node
of whole operands gives a whole value, unless it reports an error or the warning that an element has no certain
type. So an evaluation that accounts for nothing has met no placeholder on the way, and its value is whole.
-/

set_option autoImplicit false

namespace Circuitry

variable {registry : Registry}

open Reporting (GivesSound Vouches)

/-- A well-formed value in which no placeholder stands. -/
structure Value.Intact (registry : Registry) (value : Value) : Prop where
  sound : value.wellFormed registry = true
  whole : value.whole = true

theorem Value.Intact.ty {value : Value} (intact : value.Intact registry) : ∃ ty, value.ty? = some ty := by
  obtain ⟨ty, has, -⟩ := ty_of_whole intact.whole
  exact ⟨ty, has⟩

/-! ### Operators -/

/-- Truth values, strings and numbers have types that mention nothing. -/
def Ty.isScalar : Ty → Bool
  | .bool | .string | .number _ => true
  | _ => false

theorem Value.whole_of_scalar {value : Value} (sound : value.wellFormed registry = true) {ty : Ty}
    (has : value.ty? = some ty) (scalar : ty.isScalar = true) : value.whole = true := by
  cases value with
  | placeholder => cases has
  | unknown ty' =>
    cases has
    cases ty with
    | bool | string | number _ => rfl
    | _ => cases scalar
  | known ty' payload =>
    cases has
    have fits := (wellFormed_known.1 sound).1
    cases ty with
    | bool | string | number _ => cases payload <;> first | rfl | simp [Payload.fits] at fits
    | _ => cases scalar

theorem ArithmeticOperator.Typed.scalar {operator : ArithmeticOperator} {left right ty : Ty}
    (typed : operator.Typed left right ty) : ty.isScalar = true := by
  cases typed <;> rfl

theorem UnaryOperator.apply_scalar {operator : UnaryOperator} {operand value : Value} {ty : Ty}
    (sound : operand.wellFormed registry = true) (has : operand.ty? = some ty)
    (applied : operator.apply operand = .ok (.ok value)) : ∃ ty', value.ty? = some ty' ∧ ty'.isScalar = true := by
  by_cases accepts : operator.Accepts ty
  · cases operator with
    | neg =>
      obtain ⟨dims, rfl⟩ := accepts
      obtain ⟨_, applied', -, hasTy⟩ := neg_of_number sound has
      cases applied.symm.trans applied'
      exact ⟨_, hasTy, rfl⟩
    | not =>
      cases applied.symm.trans (not_of_bool has accepts)
      exact ⟨_, Value.ty?_ofAnswer _, rfl⟩
  · cases applied.symm.trans (apply_refuses has accepts)

theorem BinaryOperator.apply_scalar {operator : BinaryOperator} {a b value : Value} {left right : Ty}
    (soundA : a.wellFormed registry = true) (soundB : b.wellFormed registry = true) (has : a.ty? = some left)
    (has' : b.ty? = some right) (applied : operator.apply a b = .ok (.ok value)) :
    ∃ ty, value.ty? = some ty ∧ ty.isScalar = true := by
  simp only [apply, has, has'] at applied
  have equal : a.equal b = .ofAnswer (a.decideEqual b) :=
    Value.equal_of_typed (Value.ty?_ne_none.1 (by simp [has])) (Value.ty?_ne_none.1 (by simp [has']))
  cases operator with
  | arithmetic operator =>
    rcases operator.resultType_cases left right with ⟨ty, -, typed⟩ | ⟨error, refused, -⟩
    · rcases operator.apply_of_typed soundA soundB has has' typed with ⟨_, made, -, hasTy⟩ | zero
      · cases applied.symm.trans made
        exact ⟨ty, hasTy, typed.scalar⟩
      · cases applied.symm.trans zero
    · cases applied.symm.trans (operator.apply_of_error refused a b)
  | equal =>
    cases applied
    exact ⟨_, by rw [equal, Value.ty?_ofAnswer], rfl⟩
  | notEqual =>
    cases applied
    exact ⟨_, by rw [equal, Value.opposite_ofAnswer, Value.ty?_ofAnswer], rfl⟩
  | order operator =>
    by_cases applies : ∃ dims, left = .number dims ∧ right = .number dims
    · obtain ⟨dims, rfl, rfl⟩ := applies
      obtain ⟨_, made, -, hasTy⟩ := operator.apply_of_numbers soundA soundB has has'
      cases applied.symm.trans made
      exact ⟨_, hasTy, rfl⟩
    · simp [OrderOperator.apply, Bool.eq_false_iff.2 (mt OrderOperator.applies_iff.1 applies)] at applied
  | logic operator =>
    change Except.ok (operator.apply left right a b) = _ at applied
    by_cases applies : (left.isBool && right.isBool) = true
    · rw [LogicOperator.apply_of_bools applies] at applied
      cases applied
      exact ⟨_, Value.ty?_ofAnswer _, rfl⟩
    · simp [LogicOperator.apply, Bool.eq_false_iff.2 applies] at applied

/-! ### Arguments -/

theorem Signature.holder?_mem {signature : Signature} {supplied : List Supplied} {slot : Nat} {argument : Supplied}
    (holds : signature.holder? supplied slot = some argument) : argument ∈ supplied := by
  rcases Option.or_eq_some_iff.1 holds with positional | ⟨-, named⟩
  · exact List.mem_of_mem_filter (List.mem_of_getElem? positional)
  · exact List.mem_of_find?_eq_some named

/-- Whole arguments and defaults are bound to whole values. -/
theorem Signature.Binds.whole {signature : Signature} {supplied : List Supplied} {values : List Value}
    (binds : signature.Binds supplied values) (wholeSignature : (Ty.function signature).whole = true)
    (wholeSupplied : ∀ argument ∈ supplied, argument.value.whole = true) : ∀ value ∈ values, value.whole = true := by
  intro value member
  obtain ⟨slot, found⟩ := List.mem_iff_getElem?.1 member
  have inside : slot < signature.parameters.length := binds.length ▸ (List.getElem?_eq_some_iff.1 found).1
  have given := binds.each slot _ (List.getElem?_eq_getElem inside)
  rw [found] at given
  rcases Option.or_eq_some_iff.1 given.symm with held | ⟨-, fallback⟩
  · obtain ⟨argument, holds, rfl⟩ := Option.map_eq_some_iff.1 held
    exact wholeSupplied argument (holder?_mem holds)
  · exact ((Ty.whole_function.1 wholeSignature).1 _ (List.getElem_mem inside)).2 value fallback

/-- Binding whole arguments gives whole values, or else reports an error. -/
theorem Signature.bind_vouches {signature : Signature} (wholeSignature : (Ty.function signature).whole = true)
    (settings : Settings) {supplied : List Supplied}
    (wholeSupplied : ∀ argument ∈ supplied, argument.value.whole = true) (span : Span) :
    Vouches (fun bound => ∃ values, bound = some values ∧ ∀ value ∈ values, value.whole = true)
      (signature.bind settings supplied span) := by
  intro bound diagnostics made unaccounted
  cases bound with
  | none =>
    obtain ⟨diagnostic, member⟩ := List.exists_mem_of_ne_nil _ (Reporting.reported_of_ifSilent made)
    have ofArguments := signature.bind_reports settings supplied span _ _ made diagnostic member
    exact absurd (.inl ofArguments.1) (unaccounted diagnostic member)
  | some values =>
    obtain ⟨-, binds⟩ := bind_eq_some_iff.1 made
    exact ⟨values, rfl, binds.whole wholeSignature wholeSupplied⟩

/-! ### Calls -/

theorem Callable.signature_whole {host : Host} (whole : host.Whole registry) {ty : Ty} {callable : Callable}
    (wholeTy : ty.whole = true) (callee : ty.callable? host = some callable) :
    (Ty.function callable.signature).whole = true := by
  rcases Ty.callable?_eq_some.1 callee with ⟨signature, rfl, rfl⟩ | ⟨kind, signature, rfl, found, rfl⟩
  · exact wholeTy
  · exact whole.signature kind signature found

/-- What a call of a payload returns is whole, if its arguments are. -/
theorem Callable.call_whole {host : Host} (whole : host.Whole registry) {ty : Ty} {callable : Callable}
    {payload : Payload} {arguments : List Value} {value : Value} (fits : payload.fits registry ty = true)
    (callee : ty.callable? host = some callable) (admitted : callable.signature.Admits registry arguments)
    (wholeArguments : ∀ argument ∈ arguments, argument.whole = true)
    (returned : callable.call host payload arguments = .ok (.ok value)) : value.whole = true := by
  rcases Ty.callable?_eq_some.1 callee with ⟨signature, rfl, rfl⟩ | ⟨kind, signature, rfl, found, rfl⟩
  · obtain ⟨id, rfl, allowed⟩ := Payload.fits_function fits
    exact whole.call id signature arguments value allowed admitted wholeArguments returned
  · obtain ⟨id, rfl, held⟩ := Payload.fits_model fits
    exact whole.callModel kind id signature arguments value held found admitted wholeArguments
      (Except.ok.inj returned)

/-! ### Nodes -/

namespace Environment

/-- Evaluation depends on a sound host and on bindings, in none of which a placeholder stands. -/
structure Intact (registry : Registry) (env : Environment) : Prop where
  sound : env.Sound registry
  host : env.host.Whole registry
  values : ∀ symbol value, env.value? symbol = some value → value.whole = true

variable {env : Environment}

theorem symbol_vouches (intact : env.Intact registry) (symbol : Symbol) (span : Span) :
    Vouches (fun value => value.whole = true) (env.symbol symbol span) := by
  unfold Environment.symbol
  split
  · rename_i value found
    exact .give (intact.values symbol value found)
  · exact .recover (.inl rfl) _

theorem unary_vouches (operator : UnaryOperator) {operand : Value} (intact : operand.Intact registry) (span : Span) :
    Vouches (fun value => value.whole = true) (unary operator operand span) := by
  obtain ⟨ty, has⟩ := intact.ty
  obtain ⟨result, applied, settled⟩ := operator.apply_settled intact.sound
  cases result with
  | ok value =>
    obtain ⟨_, hasTy, scalar⟩ := UnaryOperator.apply_scalar intact.sound has applied
    rw [unary_of_ok applied]
    exact .give (Value.whole_of_scalar (settled.sound value rfl) hasTy scalar)
  | error error => exact .of_recovers (unary_of_error intact.sound applied span) (.inl rfl)

theorem binary_vouches (operator : BinaryOperator) {left right : Value} (intactLeft : left.Intact registry)
    (intactRight : right.Intact registry) (leftSpan rightSpan span : Span) :
    Vouches (fun value => value.whole = true) (binary operator left right leftSpan rightSpan span) := by
  obtain ⟨_, has⟩ := intactLeft.ty
  obtain ⟨_, has'⟩ := intactRight.ty
  obtain ⟨result, applied, settled⟩ := operator.apply_settled intactLeft.sound intactRight.sound
  cases result with
  | ok value =>
    obtain ⟨_, hasTy, scalar⟩ := BinaryOperator.apply_scalar intactLeft.sound intactRight.sound has has' applied
    rw [binary_of_ok applied]
    exact .give (Value.whole_of_scalar (settled.sound value rfl) hasTy scalar)
  | error error =>
    by_cases zero : error = .divisionByZero
    · subst zero
      exact .of_recovers (binary_of_zero applied leftSpan rightSpan span) (.inl rfl)
    · exact .of_recovers (binary_of_error intactLeft.sound intactRight.sound applied zero leftSpan rightSpan span)
        (.inl rfl)

theorem access_vouches (intact : env.Intact registry) {target : Value} (intactTarget : target.Intact registry)
    (name : String) (span : Span) : Vouches (fun value => value.whole = true) (env.access target name span) := by
  obtain ⟨ty, has⟩ := intactTarget.ty
  cases typed : (ty.attributes?).bind fun source => source.type? env.host name with
  | none => exact .of_recovers (access_of_missing intactTarget.sound has typed span) (.inl rfl)
  | some attributeType =>
    cases ty <;> simp only [Ty.attributes?, Option.bind_none, Option.bind_some, reduceCtorEq] at typed
    case object attributes =>
      rw [access_object intactTarget.sound has typed]
      exact .give (Value.member_whole intactTarget.sound intactTarget.whole has typed)
    case model kind =>
      rcases Value.known_or_unknown has with ⟨payload, rfl⟩ | rfl
      · obtain ⟨id, rfl, held⟩ := Payload.fits_model (Value.wellFormed_known.1 intactTarget.sound).1
        rw [access_model typed]
        split
        · rename_i value found
          exact .give (intact.host.attributeValue kind id name attributeType value held typed found)
        · exact .recover (.inl rfl) _
      · rw [access_unknown_model typed]
        exact .give (by simpa using intact.host.attributeType kind name attributeType typed)

theorem elementAnywhere_vouches {attributes : List (String × Ty)}
    (sound : (Ty.object attributes).wellFormed registry = true) (whole : (Ty.object attributes).whole = true)
    (span : Span) :
    Vouches (fun value => value.whole = true) (elementAnywhere ⟨attributes⟩ (.object attributes) span) := by
  cases uniform : uniformType? attributes with
  | none => exact .of_recovers (elementAnywhere_of_mixed ⟨attributes⟩ sound uniform span) (.inr ⟨rfl, rfl⟩)
  | some element =>
    obtain ⟨name, rest, rfl, -⟩ := uniformType?_eq_some.1 uniform
    rw [elementAnywhere_of_uniform uniform]
    exact .give (by simpa using Ty.whole_object.1 whole (name, element) List.mem_cons_self)

theorem index_vouches {target key : Value} (intactTarget : target.Intact registry) (intactKey : key.Intact registry)
    (span : Span) : Vouches (fun value => value.whole = true) (index target key span) := by
  obtain ⟨ty, has⟩ := intactTarget.ty
  obtain ⟨keyType, hasKey⟩ := intactKey.ty
  by_cases accepted : ∃ attributes, ty = .object attributes ∧ keyType = .string
  · obtain ⟨attributes, rfl, rfl⟩ := accepted
    rcases Value.known_or_unknown hasKey with ⟨payload, rfl⟩ | rfl
    · obtain ⟨name, rfl⟩ := Payload.fits_string (Value.wellFormed_known.1 intactKey.sound).1
      cases listed : attributes.lookup name with
      | none => exact .of_recovers (index_missing_key intactTarget.sound has listed span) (.inl rfl)
      | some element =>
        rw [index_known_key intactTarget.sound has listed]
        exact .give (Value.member_whole intactTarget.sound intactTarget.whole has listed)
    · rw [index_unknown_key has]
      exact elementAnywhere_vouches (Value.wellFormed_ty intactTarget.sound has)
        (Value.whole_ty intactTarget.whole has) span
  · exact .of_recovers (index_of_refused intactTarget.sound intactKey.sound has hasKey accepted span) (.inl rfl)

theorem invoke_vouches (intact : env.Intact registry) {callee : Value} {ty : Ty} {callable : Callable}
    {arguments : List Value} (intactCallee : callee.Intact registry) (has : callee.ty? = some ty)
    (called : ty.callable? env.host = some callable)
    (soundArguments : ∀ argument ∈ arguments, argument.wellFormed registry = true)
    (wholeArguments : ∀ argument ∈ arguments, argument.whole = true)
    (accepted : callable.signature.AcceptsAll arguments) (span : Span) :
    Vouches (fun value => value.whole = true) (env.invoke callable callee arguments span) := by
  have typed : .placeholder ∉ arguments := fun placed => nomatch wholeArguments _ placed
  obtain ⟨resultType, predicted, -, ⟨-, same⟩ | ⟨payload, result, rfl, admitted, made, same⟩⟩ :=
    invoke_cases intact.sound intactCallee.sound has called soundArguments accepted typed span
  · have wholeSignature :=
      Callable.signature_whole intact.host (Value.whole_ty intactCallee.whole has) called
    rw [same]
    exact .give (by simpa using Signature.resultType_whole wholeSignature wholeArguments predicted)
  · rw [same]
    cases result with
    | ok value =>
      exact .give (Callable.call_whole intact.host (Value.wellFormed_known.1 intactCallee.sound).1 called admitted
        wholeArguments made)
    | error message => exact .recover (.inl rfl) _

theorem call_vouches (intact : env.Intact registry) {callee : Value} (intactCallee : callee.Intact registry)
    {supplied : List Supplied} (intactSupplied : ∀ argument ∈ supplied, argument.value.Intact registry)
    (calleeSpan span : Span) :
    Vouches (fun value => value.whole = true) (env.call callee supplied calleeSpan span) := by
  obtain ⟨ty, has⟩ := intactCallee.ty
  have soundTy := Value.wellFormed_ty intactCallee.sound has
  cases called : ty.callable? env.host with
  | none => exact .of_recovers (call_of_uncallable intactCallee.sound has called supplied calleeSpan span) (.inl rfl)
  | some callable =>
    have soundSignature := Callable.signature_wellFormed intact.sound.host soundTy called
    have wholeSignature := Callable.signature_whole intact.host (Value.whole_ty intactCallee.whole has) called
    have vouches := Signature.bind_vouches wholeSignature env.settings
      (fun argument member => (intactSupplied argument member).whole) span
    have gives := Signature.bind_gives soundSignature env.settings
      (fun argument member => (intactSupplied argument member).sound) span
    rw [call_of_callable has called]
    refine (vouches.withSort gives).bind ?_
    rintro _ ⟨sound, values, rfl, wholeValues⟩
    obtain ⟨soundValues, accepted⟩ := sound values rfl
    exact invoke_vouches intact intactCallee has called soundValues wholeValues accepted span

end Environment

/-! ### Expressions -/

/-- What gives a well-formed value and vouches for a whole one vouches for an intact one. -/
theorem Reporting.Vouches.intact {computation : Reporting Value}
    (vouches : Vouches (fun value => value.whole = true) computation) (gives : GivesSound registry computation) :
    Vouches (Value.Intact registry) computation :=
  (vouches.withSort gives).imp fun _ both => ⟨both.1, both.2⟩

open Environment

mutual

/-- An expression of intact literals gives an intact value, unless something is accounted for. -/
theorem Expr.eval_vouches {env : Environment} (intact : env.Intact registry) :
    ∀ expr : Expr, (∀ value ∈ expr.literals, value.Intact registry) →
      Vouches (Value.Intact registry) (expr.eval env)
  | .literal value _, literals => .give (literals value (by simp [Expr.literals]))
  | .symbol symbol span, _ => (symbol_vouches intact symbol span).intact (symbol_gives intact.sound symbol span)
  | .unary operator operand span, literals =>
    (operand.eval_vouches intact literals).bind fun _ intactOperand =>
      (unary_vouches operator intactOperand span).intact (unary_gives operator intactOperand.sound span)
  | .binary operator left right span, literals => by
    simp only [Expr.literals, List.forall_mem_append] at literals
    exact (left.eval_vouches intact literals.1).bind fun _ intactLeft =>
      (right.eval_vouches intact literals.2).bind fun _ intactRight =>
        (binary_vouches operator intactLeft intactRight left.span right.span span).intact
          (binary_gives operator intactLeft.sound intactRight.sound left.span right.span span)
  | .call callee arguments span, literals => by
    simp only [Expr.literals, List.forall_mem_append] at literals
    exact (callee.eval_vouches intact literals.1).bind fun _ intactCallee =>
      (Argument.evalAll_vouches intact arguments literals.2).bind fun _ intactSupplied =>
        (call_vouches intact intactCallee intactSupplied callee.span span).intact
          (call_gives intact.sound intactCallee.sound (fun argument member => (intactSupplied argument member).sound)
            callee.span span)
  | .access target name span, literals =>
    (target.eval_vouches intact literals).bind fun _ intactTarget =>
      (access_vouches intact intactTarget name span).intact (access_gives intact.sound intactTarget.sound name span)
  | .index target key span, literals => by
    simp only [Expr.literals, List.forall_mem_append] at literals
    exact (target.eval_vouches intact literals.1).bind fun _ intactTarget =>
      (key.eval_vouches intact literals.2).bind fun _ intactKey =>
        (index_vouches intactTarget intactKey span).intact (index_gives intactTarget.sound intactKey.sound span)
termination_by structural expr => expr

theorem Argument.evalAll_vouches {env : Environment} (intact : env.Intact registry) :
    ∀ arguments : List Argument, (∀ value ∈ Argument.literals arguments, value.Intact registry) →
      Vouches (fun supplied => ∀ argument ∈ supplied, argument.value.Intact registry) (Argument.evalAll env arguments)
  | [], _ => .give (by simp)
  | argument :: rest, literals => by
    simp only [Argument.literals, List.forall_mem_append] at literals
    exact (argument.eval_vouches intact literals.1).bind fun _ intactFirst =>
      (Argument.evalAll_vouches intact rest literals.2).bind fun _ intactRest =>
        .give (List.forall_mem_cons.2 ⟨intactFirst, intactRest⟩)
termination_by structural arguments => arguments

theorem Argument.eval_vouches {env : Environment} (intact : env.Intact registry) :
    ∀ argument : Argument, (∀ value ∈ argument.ownLiterals, value.Intact registry) →
      Vouches (fun supplied => supplied.value.Intact registry) (argument.eval env)
  | ⟨_, value, _⟩, literals => (value.eval_vouches intact literals).bind fun _ intactValue => .give intactValue
termination_by structural argument => argument

end

end Circuitry
