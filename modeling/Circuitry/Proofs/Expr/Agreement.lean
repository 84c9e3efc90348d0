import Circuitry.Proofs.Expr.Soundness
import Circuitry.Proofs.Operator.Refinement

/-!
# Expressions that agree

An expression is evaluated twice: what it says and what symbols are bound to may be written in other units, and
objects in another order, but values agree throughout. Then so do the two results, and the same mistakes are
reported at the same places. A node whose operands agree is the same node with refined operands, read in both
directions; what it reports is described by exemplars that do not mention values at all.
-/

set_option autoImplicit false

namespace Circuitry

variable {registry : Registry}

/-- Two computations that give values that agree and report alike. -/
abbrev Reporting.Agrees (registry : Registry) : Reporting Value → Reporting Value → Prop :=
  Reporting.Alike (Value.Agrees registry)

/-- A second evaluation that meets the same values: both are sound, the hosts answer alike, and bindings are the
same. -/
structure Environment.Agrees (registry : Registry) (env other : Environment) : Prop where
  sound : env.Sound registry
  sound' : other.Sound registry
  host : env.host.Agrees registry other.host
  values : ∀ symbol, Option.Rel (fun value value' => value.same value' = true)
    (env.value? symbol) (other.value? symbol)

/-! ### Arguments -/

namespace Signature

variable {signature other : Signature} {arguments arguments' : List Value}

/-- Slots whose fillers agree pass the same check, or fail it with the same report. -/
theorem checkSlot_agrees (agrees : signature.Agrees registry other)
    (pairs : ArgumentsAgree registry arguments arguments') {index : Nat} {parameter parameter' : Parameter}
    (found : signature.parameters[index]? = some parameter)
    (found' : other.parameters[index]? = some parameter') {slot slot' : Option Filler}
    (slots : Option.Rel (Filler.Alike (Value.Agrees registry)) slot slot') :
    Reporting.Alike (fun _ _ => True)
      (signature.checkSlot (arguments.map Value.ty?) index parameter slot)
      (other.checkSlot (arguments'.map Value.ty?) index parameter' slot') := by
  cases slots with
  | none => exact .give trivial
  | @some filler filler' fillers =>
    have types := fillers.value.ty
    cases has : filler.value.ty? with
    | none =>
      have has' := rel_none types has
      simp only [checkSlot, has, has']
      exact .give trivial
    | some ty =>
      obtain ⟨ty', has', agreesTy⟩ := rel_some types has
      rw [checkSlot_some found has, checkSlot_some found' has',
        agrees.accepts found found' agreesTy pairs, fillers.span]
      split
      · exact .give trivial
      · obtain ⟨expected, written⟩ := constraintText_ok agrees.sound found
        obtain ⟨expected', written'⟩ := constraintText_ok agrees.sound' found'
        obtain ⟨text, actual⟩ := Ty.text_ok agreesTy.sound
        obtain ⟨text', actual'⟩ := Ty.text_ok agreesTy.sound'
        simp only [written, written', actual, actual', Reporting.lift_bind]
        exact .recover (.error _ _ _ _) trivial

theorem checkSlots_agrees (agrees : signature.Agrees registry other)
    (pairs : ArgumentsAgree registry arguments arguments') {index : Nat}
    {parameters parameters' : List Parameter} (suffix : signature.parameters.drop index = parameters)
    (suffix' : other.parameters.drop index = parameters') (length : parameters.length = parameters'.length)
    {slots slots' : List (Option Filler)} (alike : SlotsAlike (Value.Agrees registry) slots slots') :
    Reporting.Alike (fun _ _ => True)
      (signature.checkSlots (arguments.map Value.ty?) index parameters slots)
      (other.checkSlots (arguments'.map Value.ty?) index parameters' slots') := by
  induction alike generalizing index parameters parameters' with
  | nil => cases parameters <;> cases parameters' <;> exact .give trivial
  | cons head _ ih =>
    cases parameters with
    | nil =>
      obtain rfl := List.length_eq_zero_iff.1 length.symm
      exact .give trivial
    | cons parameter rest =>
      cases parameters' with
      | nil => cases length
      | cons parameter' rest' =>
        obtain ⟨found, further⟩ := parameters_drop suffix
        obtain ⟨found', further'⟩ := parameters_drop suffix'
        exact (checkSlot_agrees agrees pairs found found' head).bind fun _ _ _ =>
          ih further further' (by simpa using length)

/-- The same arguments are bound, or the same mistakes are reported. -/
theorem bind_agrees (agrees : signature.Agrees registry other) (settings settings' : Settings)
    {supplied supplied' : List Supplied}
    (pairs : List.Forall₂ (Supplied.Alike (Value.Agrees registry)) supplied supplied') (span : Span) :
    Reporting.Alike (Option.Rel (ArgumentsAgree registry)) (signature.bind settings supplied span)
      (other.bind settings' supplied' span) := by
  rw [bind_eq_filled, bind_eq_filled]
  refine ((filled_alike settings settings' agrees.parameters pairs span).bind
    fun slots slots' alike => ?_).ifSilent
  have values := slotValues_alike alike.2 .placeholder
  have suffix : ∀ s : Signature, s.parameters.drop 0 = s.parameters := fun _ => rfl
  rw [map_slotType?, map_slotType?]
  exact (checkSlots_agrees agrees values (suffix _) (suffix _) agrees.parameters.length_eq alike.2).bind
    fun _ _ _ => .give values

end Signature

/-! ### Nodes -/

namespace Environment

variable {env other : Environment}

theorem Agrees.value (agrees : env.Agrees registry other) (symbol : Symbol) :
    Option.Rel (Value.Agrees registry) (env.value? symbol) (other.value? symbol) :=
  rel_imp (agrees.values symbol) fun value value' found found' same =>
    ⟨agrees.sound.values symbol value found, agrees.sound'.values symbol value' found', same⟩

theorem symbol_agrees (agrees : env.Agrees registry other) (symbol : Symbol) (span : Span) :
    Reporting.Agrees registry (env.symbol symbol span) (other.symbol symbol span) := by
  have pair := agrees.value symbol
  unfold Environment.symbol
  generalize env.value? symbol = found at pair
  generalize other.value? symbol = found' at pair
  cases pair with
  | some values => exact .give values
  | none => exact .recover (.error _ _ _ _) .placeholder

theorem unary_agrees (operator : UnaryOperator) {operand operand' : Value}
    (operands : operand.Agrees registry operand') (span : Span) :
    Reporting.Agrees registry (unary operator operand span) (unary operator operand' span) := by
  obtain ⟨result, applied, settled⟩ := operator.apply_settled operands.sound
  obtain ⟨result', applied', settled'⟩ := operator.apply_settled operands.sound'
  have forth := operator.apply_refined operands.sound operands.sound' operands.refined applied applied'
  have back := operator.apply_refined operands.sound' operands.sound operands.symm.refined applied' applied
  -- refused operands are refused both ways, so only two values are left to compare, each refining the other
  rcases forth with ⟨value, value', rfl, rfl, refined⟩ | ⟨error, error', rfl, rfl⟩
  · obtain ⟨_, _, same', same, refined'⟩ | ⟨_, _, impossible, -⟩ := back
    · cases same
      cases same'
      rw [unary_of_ok applied, unary_of_ok applied']
      exact .give (.of_refined (settled.sound value rfl) (settled'.sound value' rfl) refined refined')
    · cases impossible
  · exact .of_recovers (unary_of_error operands.sound applied span)
      (unary_of_error operands.sound' applied' span) (.refl operator.fallback_wellFormed)

/-- Operands that agree are combined to values that agree, or refused alike, or both divided by zero. -/
theorem binary_agrees (operator : BinaryOperator) {left left' right right' : Value}
    (lefts : left.Agrees registry left') (rights : right.Agrees registry right')
    (leftSpan rightSpan span : Span) :
    Reporting.Agrees registry (binary operator left right leftSpan rightSpan span)
      (binary operator left' right' leftSpan rightSpan span) := by
  obtain ⟨result, applied, settled⟩ := operator.apply_settled lefts.sound rights.sound
  obtain ⟨result', applied', settled'⟩ := operator.apply_settled lefts.sound' rights.sound'
  have forth := operator.apply_refined lefts.sound rights.sound lefts.sound' rights.sound' lefts.refined
    rights.refined applied applied'
  have back := operator.apply_refined lefts.sound' rights.sound' lefts.sound rights.sound lefts.symm.refined
    rights.symm.refined applied' applied
  cases forth with
  | @value value value' refined =>
    cases back with
    | value refined' =>
      rw [binary_of_ok applied, binary_of_ok applied']
      exact .give (.of_refined (settled.sound value rfl) (settled'.sound value' rfl) refined refined')
  | refused nonzero nonzero' =>
    exact .of_recovers
      (binary_of_error lefts.sound rights.sound applied nonzero leftSpan rightSpan span)
      (binary_of_error lefts.sound' rights.sound' applied' nonzero' leftSpan rightSpan span)
      (.refl operator.fallback_wellFormed)
  | zero =>
    -- read backwards, a divisor that is zero in the second run is zero in the first
    cases back with
    | refused nonzero _ => exact absurd rfl nonzero
    | zero =>
      exact .of_recovers (binary_of_zero applied leftSpan rightSpan span)
        (binary_of_zero applied' leftSpan rightSpan span) .placeholder

theorem access_model_agrees (agrees : env.Agrees registry other) {target target' : Value}
    (targets : target.Agrees registry target') {kind kind' : ModelType} (sameKind : kind.index = kind'.index)
    (has : target.ty? = some (.model kind)) (has' : target'.ty? = some (.model kind')) {name : String}
    {ty ty' : Ty} (typed : (env.host.model kind).attributeType? name = some ty)
    (typed' : (other.host.model kind').attributeType? name = some ty') (types : ty.Agrees registry ty')
    (span : Span) :
    Reporting.Agrees registry (env.access target name span) (other.access target' name span) := by
  cases target with
  | placeholder => cases has
  | unknown _ =>
    cases has
    obtain ⟨_, rfl, -⟩ := Value.unknown_same targets.same
    cases has'
    rw [access_unknown_model typed, access_unknown_model typed']
    exact .give (.unknown types)
  | known _ payload =>
    cases has
    obtain ⟨_, payload', rfl, -, samePayload⟩ := Value.known_same targets.same
    cases has'
    obtain ⟨id, rfl, held⟩ := Payload.fits_model (Value.wellFormed_known.1 targets.sound).1
    obtain ⟨id', rfl, held'⟩ := Payload.fits_model (Value.wellFormed_known.1 targets.sound').1
    obtain rfl : id = id' := by simpa [Payload.same] using samePayload
    have pair := rel_imp (agrees.host.attributeValue kind kind' id name sameKind held held')
      fun value value' found found' same => Value.Agrees.mk
        (agrees.sound.host.attributeValue kind id name ty value held typed found)
        (agrees.sound'.host.attributeValue kind' id name ty' value' held' typed' found') same
    rw [access_model typed, access_model typed']
    generalize (env.host.model kind).attribute? id name = found at pair
    generalize (other.host.model kind').attribute? id name = found' at pair
    cases pair with
    | some values => exact .give values
    | none => exact .recover (.error _ _ _ _) .placeholder

theorem access_agrees (agrees : env.Agrees registry other) {target target' : Value}
    (targets : target.Agrees registry target') (name : String) (span : Span) :
    Reporting.Agrees registry (env.access target name span) (other.access target' name span) := by
  cases has : target.ty? with
  | none =>
    obtain rfl := Value.ty?_eq_none.1 has
    obtain rfl := Value.placeholder_same.1 targets.same
    exact .give .placeholder
  | some found =>
    obtain ⟨found', has', agreesFound⟩ := rel_some targets.ty has
    have attributes := Ty.attributes?_agrees agrees.sound.host agrees.sound'.host agrees.host.attributeType
      agreesFound name
    cases typed : (found.attributes?).bind fun source => source.type? env.host name with
    | none =>
      exact .of_recovers (access_of_missing targets.sound has typed span)
        (access_of_missing targets.sound' has' (rel_none attributes typed) span) .placeholder
    | some ty =>
      obtain ⟨ty', typed', types⟩ := rel_some attributes typed
      cases found <;> simp only [Ty.attributes?, Option.bind_none, Option.bind_some, reduceCtorEq] at typed
      case object attributes =>
        obtain ⟨attributes', rfl, -⟩ := Ty.object_same agreesFound.same
        rw [access_object targets.sound has typed, access_object targets.sound' has' typed']
        exact .give (targets.member has has' typed typed' types)
      case model kind =>
        obtain ⟨kind', rfl, sameKind⟩ := Ty.model_same agreesFound.same
        exact access_model_agrees agrees targets sameKind has has' typed typed' types span

/-- Elements of objects that agree, under keys that agree. -/
theorem index_object_agrees {target target' key key' : Value} (targets : target.Agrees registry target')
    (keys : key.Agrees registry key') {attributes attributes' : List (String × Ty)}
    (has : target.ty? = some (.object attributes)) (has' : target'.ty? = some (.object attributes'))
    (types : (Ty.object attributes).Agrees registry (.object attributes'))
    (hasKey : key.ty? = some .string) (span : Span) :
    Reporting.Agrees registry (index target key span) (index target' key' span) := by
  cases key with
  | placeholder => cases hasKey
  | unknown _ =>
    cases hasKey
    obtain ⟨_, rfl, same⟩ := Value.unknown_same keys.same
    obtain rfl := Ty.string_same.1 same
    rw [index_unknown_key has, index_unknown_key has']
    cases shared : uniformType? attributes with
    | none =>
      exact .of_recovers (elementAnywhere_of_mixed ⟨attributes⟩ types.sound shared span)
        (elementAnywhere_of_mixed ⟨attributes'⟩ types.sound' (rel_none types.uniform shared) span) .placeholder
    | some element =>
      obtain ⟨element', shared', elements⟩ := rel_some types.uniform shared
      rw [elementAnywhere_of_uniform shared, elementAnywhere_of_uniform shared']
      exact .give (.unknown elements)
  | known _ payload =>
    cases hasKey
    obtain ⟨name, rfl⟩ := Payload.fits_string (Value.wellFormed_known.1 keys.sound).1
    obtain rfl := keys.refined.string
    cases listed : attributes.lookup name with
    | none =>
      exact .of_recovers (index_missing_key targets.sound has listed span)
        (index_missing_key targets.sound' has' (rel_none (types.lookup name) listed) span) .placeholder
    | some ty =>
      obtain ⟨ty', listed', agreesTy⟩ := rel_some (types.lookup name) listed
      rw [index_known_key targets.sound has listed, index_known_key targets.sound' has' listed']
      exact .give (targets.member has has' listed listed' agreesTy)

theorem index_agrees {target target' key key' : Value} (targets : target.Agrees registry target')
    (keys : key.Agrees registry key') (span : Span) :
    Reporting.Agrees registry (index target key span) (index target' key' span) := by
  cases has : target.ty? with
  | none =>
    obtain rfl := Value.ty?_eq_none.1 has
    obtain rfl := Value.placeholder_same.1 targets.same
    exact .give .placeholder
  | some ty =>
    cases hasKey : key.ty? with
    | none =>
      obtain rfl := Value.ty?_eq_none.1 hasKey
      obtain rfl := Value.placeholder_same.1 keys.same
      rw [index_placeholder_key, index_placeholder_key target']
      exact .give .placeholder
    | some keyType =>
      obtain ⟨ty', has', types⟩ := rel_some targets.ty has
      obtain ⟨keyType', hasKey', keyTypes⟩ := rel_some keys.ty hasKey
      by_cases accepted : ∃ attributes, ty = .object attributes ∧ keyType = .string
      · obtain ⟨attributes, rfl, rfl⟩ := accepted
        obtain ⟨attributes', rfl, -⟩ := Ty.object_same types.same
        exact index_object_agrees targets keys has has' types hasKey span
      · have refused : ¬∃ attributes, ty' = .object attributes ∧ keyType' = .string := by
          rintro ⟨attributes', rfl, rfl⟩
          obtain ⟨attributes, rfl, -⟩ := Ty.object_same types.symm.same
          exact accepted ⟨attributes, rfl, Ty.same_string.1 keyTypes.same⟩
        exact .of_recovers (index_of_refused targets.sound keys.sound has hasKey accepted span)
          (index_of_refused targets.sound' keys.sound' has' hasKey' refused span) .placeholder

/-! ### Calls -/

/-- Calls of callees that are paired, with arguments that agree, end alike. -/
theorem callable_alike (agrees : env.Agrees registry other) {callable callable' : Callable} {payload : Payload}
    (paired : Callable.Paired registry env.host other.host callable callable' payload)
    {arguments arguments' : List Value} (pairs : ArgumentsAgree registry arguments arguments')
    (admitted : callable.signature.Admits registry arguments)
    (admitted' : callable'.signature.Admits registry arguments') {result result' : CallResult}
    (made : callable.call env.host payload arguments = .ok result)
    (made' : callable'.call other.host payload arguments' = .ok result') : CallResult.Alike result result' := by
  cases paired with
  | function allowed allowed' same =>
    exact agrees.host.call _ _ _ arguments arguments' result result' allowed allowed' same admitted admitted'
      pairs.same made made'
  | model same held held' found found' =>
    cases made
    cases made'
    exact agrees.host.callModel _ _ _ _ _ arguments arguments' same held held' found found' admitted admitted'
      pairs.same

theorem invoke_agrees (agrees : env.Agrees registry other) {callee callee' : Value}
    (callees : callee.Agrees registry callee') {ty ty' : Ty} {callable callable' : Callable}
    (has : callee.ty? = some ty) (has' : callee'.ty? = some ty')
    (called : ty.callable? env.host = some callable) (called' : ty'.callable? other.host = some callable')
    (signatures : callable.signature.Agrees registry callable'.signature) {arguments arguments' : List Value}
    (pairs : ArgumentsAgree registry arguments arguments') (accepted : callable.signature.AcceptsAll arguments)
    (accepted' : callable'.signature.AcceptsAll arguments') (span : Span) :
    Reporting.Agrees registry (env.invoke callable callee arguments span)
      (other.invoke callable' callee' arguments' span) := by
  by_cases placed : .placeholder ∈ arguments
  · rw [invoke_of_placeholder placed, invoke_of_placeholder (pairs.placeholder_mem placed)]
    exact .give .placeholder
  have placed' : .placeholder ∉ arguments' := mt pairs.symm.placeholder_mem placed
  obtain ⟨resultType, predicted, sound, outcome⟩ :=
    invoke_cases agrees.sound callees.sound has called pairs.sound accepted placed span
  obtain ⟨resultType', predicted', sound', outcome'⟩ :=
    invoke_cases agrees.sound' callees.sound' has' called' pairs.symm.sound accepted' placed' span
  have sameResult := Signature.resultType_refined signatures pairs.refined predicted predicted'
  -- the callback runs on both sides or on neither, since what is unknown agrees as well
  rcases outcome with ⟨undecided, same⟩ | ⟨payload, result, rfl, admitted, made, same⟩
  · have undecided' := Value.undecided_of_refined callees.symm.refined pairs.symm.refined undecided
    rcases outcome' with ⟨-, same'⟩ | ⟨payload', -, rfl, admitted', -⟩
    · rw [same, same']
      exact .give (.unknown ⟨sound, sound', sameResult⟩)
    · exact absurd undecided' (admitted'.decided ty' payload')
  · rcases outcome' with ⟨undecided', -⟩ | ⟨payload', result', rfl, admitted', made', same'⟩
    · exact absurd (Value.undecided_of_refined callees.refined pairs.refined undecided')
        (admitted.decided ty payload)
    · obtain ⟨sameTy, samePayload⟩ := Value.same_known.1 callees.same
      have fits := (Value.wellFormed_known.1 callees.sound).1
      have fits' := (Value.wellFormed_known.1 callees.sound').1
      obtain ⟨rfl, paired⟩ := Callable.paired fits fits' sameTy (.of_same samePayload) called called'
      obtain ⟨_, again, soundMade⟩ := Callable.call_sound agrees.sound.host fits called admitted
      obtain ⟨_, again', soundMade'⟩ := Callable.call_sound agrees.sound'.host fits' called' admitted'
      cases made.symm.trans again
      cases made'.symm.trans again'
      rw [same, same']
      cases callable_alike agrees paired pairs admitted admitted' made made' with
      | returned sameValue => exact .give ⟨soundMade _ rfl, soundMade' _ rfl, sameValue⟩
      | failed => exact .recover (.error _ _ _ _) .placeholder

theorem call_agrees (agrees : env.Agrees registry other) {callee callee' : Value}
    (callees : callee.Agrees registry callee') {supplied supplied' : List Supplied}
    (pairs : List.Forall₂ (Supplied.Alike (Value.Agrees registry)) supplied supplied')
    (calleeSpan span : Span) :
    Reporting.Agrees registry (env.call callee supplied calleeSpan span)
      (other.call callee' supplied' calleeSpan span) := by
  cases has : callee.ty? with
  | none =>
    obtain rfl := Value.ty?_eq_none.1 has
    obtain rfl := Value.placeholder_same.1 callees.same
    exact .give .placeholder
  | some ty =>
    obtain ⟨ty', has', types⟩ := rel_some callees.ty has
    have callables := Ty.callable?_agrees agrees.sound.host agrees.sound'.host agrees.host.signature types
    cases called : ty.callable? env.host with
    | none =>
      exact .of_recovers (call_of_uncallable callees.sound has called supplied calleeSpan span)
        (call_of_uncallable callees.sound' has' (rel_none callables called) supplied' calleeSpan span)
        .placeholder
    | some callable =>
      obtain ⟨callable', called', signatures⟩ := rel_some callables called
      have soundSupplied : ∀ argument ∈ supplied, argument.value.wellFormed registry = true :=
        forall₂_each pairs fun _ _ pair => pair.value.sound
      have soundSupplied' : ∀ argument ∈ supplied', argument.value.wellFormed registry = true :=
        forall₂_each pairs.flip fun _ _ pair => pair.value.sound'
      rw [call_of_callable has called, call_of_callable has' called']
      refine ((Signature.bind_agrees signatures env.settings other.settings pairs span).withSorts
        (Signature.bind_gives signatures.sound env.settings soundSupplied span)
        (Signature.bind_gives signatures.sound' other.settings soundSupplied' span)).bind ?_
      rintro _ _ ⟨bound, accepted, accepted'⟩
      cases bound with
      | none => exact .give .placeholder
      | some arguments =>
        exact invoke_agrees agrees callees has has' called called' signatures arguments
          (accepted _ rfl).2 (accepted' _ rfl).2 span

end Environment

/-! ### Expressions -/

mutual

/-- Expressions of the same shape at the same places, with the same names and operators and related literals. -/
inductive Expr.Alike (related : Value → Value → Prop) : Expr → Expr → Prop where
  | literal {value value' : Value} (span : Span) (holds : related value value') :
      Expr.Alike related (.literal value span) (.literal value' span)
  | symbol (symbol : Symbol) (span : Span) : Expr.Alike related (.symbol symbol span) (.symbol symbol span)
  | unary (operator : UnaryOperator) {operand operand' : Expr} (span : Span)
      (operands : Expr.Alike related operand operand') :
      Expr.Alike related (.unary operator operand span) (.unary operator operand' span)
  | binary (operator : BinaryOperator) {left left' right right' : Expr} (span : Span)
      (lefts : Expr.Alike related left left') (rights : Expr.Alike related right right') :
      Expr.Alike related (.binary operator left right span) (.binary operator left' right' span)
  | call {callee callee' : Expr} {arguments arguments' : List Argument} (span : Span)
      (callees : Expr.Alike related callee callee') (pairs : Argument.AllAlike related arguments arguments') :
      Expr.Alike related (.call callee arguments span) (.call callee' arguments' span)
  | access {target target' : Expr} (name : String) (span : Span)
      (targets : Expr.Alike related target target') :
      Expr.Alike related (.access target name span) (.access target' name span)
  | index {target target' key key' : Expr} (span : Span) (targets : Expr.Alike related target target')
      (keys : Expr.Alike related key key') :
      Expr.Alike related (.index target key span) (.index target' key' span)

/-- Equally many arguments, each like the other in its place. -/
inductive Argument.AllAlike (related : Value → Value → Prop) : List Argument → List Argument → Prop where
  | nil : Argument.AllAlike related [] []
  | cons {argument argument' : Argument} {rest rest' : List Argument}
      (first : Argument.Alike related argument argument') (others : Argument.AllAlike related rest rest') :
      Argument.AllAlike related (argument :: rest) (argument' :: rest')

/-- Arguments under the same name, if any, and at the same place. -/
inductive Argument.Alike (related : Value → Value → Prop) : Argument → Argument → Prop where
  | mk (name : Option String) {value value' : Expr} (span : Span) (values : Expr.Alike related value value') :
      Argument.Alike related ⟨name, value, span⟩ ⟨name, value', span⟩

end

theorem Expr.Alike.span {related : Value → Value → Prop} {expr other : Expr} (alike : expr.Alike related other) :
    expr.span = other.span := by
  cases alike <;> rfl

mutual

/-- An expression whose literals are written in another way comes to the same value and reports alike. The
recursion is on the first expression; that the two are alike fixes the form of the second. -/
theorem Expr.eval_agrees {env other : Environment} (agrees : env.Agrees registry other) :
    ∀ expr expr' : Expr, expr.Alike (Value.Agrees registry) expr' →
      Reporting.Agrees registry (expr.eval env) (expr'.eval other)
  | .literal _ _, _, .literal _ holds => .give holds
  | .symbol symbol span, _, .symbol _ _ => Environment.symbol_agrees agrees symbol span
  | .unary operator operand span, _, .unary _ _ operands =>
    (operand.eval_agrees agrees _ operands).bind fun _ _ values =>
      Environment.unary_agrees operator values span
  | .binary operator left right span, _, .binary _ _ lefts rights => by
    simp only [Expr.eval, ← lefts.span, ← rights.span]
    exact (left.eval_agrees agrees _ lefts).bind fun _ _ leftValues =>
      (right.eval_agrees agrees _ rights).bind fun _ _ rightValues =>
        Environment.binary_agrees operator leftValues rightValues left.span right.span span
  | .call callee arguments span, _, .call _ callees pairs => by
    simp only [Expr.eval, ← callees.span]
    exact (callee.eval_agrees agrees _ callees).bind fun _ _ values =>
      (Argument.evalAll_agrees agrees arguments _ pairs).bind fun _ _ supplied =>
        Environment.call_agrees agrees values supplied callee.span span
  | .access target name span, _, .access _ _ targets =>
    (target.eval_agrees agrees _ targets).bind fun _ _ values =>
      Environment.access_agrees agrees values name span
  | .index target key span, _, .index _ targets keys =>
    (target.eval_agrees agrees _ targets).bind fun _ _ values =>
      (key.eval_agrees agrees _ keys).bind fun _ _ keyValues =>
        Environment.index_agrees values keyValues span
termination_by structural expr => expr

theorem Argument.evalAll_agrees {env other : Environment} (agrees : env.Agrees registry other) :
    ∀ arguments arguments' : List Argument, Argument.AllAlike (Value.Agrees registry) arguments arguments' →
      Reporting.Alike (List.Forall₂ (Supplied.Alike (Value.Agrees registry)))
        (Argument.evalAll env arguments) (Argument.evalAll other arguments')
  | [], _, .nil => .give .nil
  | argument :: rest, _, .cons first others =>
    (argument.eval_agrees agrees _ first).bind fun _ _ supplied =>
      (Argument.evalAll_agrees agrees rest _ others).bind fun _ _ further => .give (.cons supplied further)
termination_by structural arguments => arguments

theorem Argument.eval_agrees {env other : Environment} (agrees : env.Agrees registry other) :
    ∀ argument argument' : Argument, argument.Alike (Value.Agrees registry) argument' →
      Reporting.Alike (Supplied.Alike (Value.Agrees registry)) (argument.eval env) (argument'.eval other)
  | ⟨_, value, _⟩, _, .mk _ _ values =>
    (value.eval_agrees agrees _ values).bind fun _ _ agreed => .give ⟨rfl, agreed, rfl⟩
termination_by structural argument => argument

end

end Circuitry
