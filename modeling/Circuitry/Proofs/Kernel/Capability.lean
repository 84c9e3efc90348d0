import Circuitry.Proofs.Host.Contract

/-!
# Capabilities when more is known

Refinement keeps the type of a value, so a refined value has the same attributes, elements and signature as
before, up to the order of attributes. What is read off it refines what was read before; and where nothing but
a type was known, anything that has this type will do.
-/

set_option autoImplicit false

namespace Circuitry

variable {registry : Registry}

/-! ### Values of a type -/

theorem Value.RefinedBy.of_hasType {ty ty' : Ty} {value : Value} (sameTy : ty.same ty' = true)
    (sound : value.wellFormed registry = true) (has : value.hasType ty' = true) :
    (Value.unknown ty).RefinedBy registry value := by
  obtain ⟨found, is, same⟩ := Value.hasType_iff.1 has
  exact .unknown sound (Value.hasType_iff.2 ⟨found, is, Ty.same_trans sameTy same⟩)

theorem Value.RefinedBy.unknown_of_same {ty ty' : Ty} (sameTy : ty.same ty' = true) :
    (Value.unknown ty).RefinedBy registry (.unknown ty') := .of_same (by simpa using sameTy)

/-! ### Fields -/

/-- The field of an object, or an unknown of the attribute's type if only the type of the object is known. -/
def Value.member (target : Value) (name : String) (ty : Ty) : Value :=
  match target.object? with
  | some fields => (fields.lookup name).getD .placeholder
  | none => .unknown ty

/-- A well-formed object has a field of the right type for every attribute. -/
theorem Payload.field_of_attribute {payload : Payload} {attributes : List (String × Ty)}
    (sound : (Value.known (.object attributes) payload).wellFormed registry = true) {name : String} {ty : Ty}
    (listed : attributes.lookup name = some ty) :
    ∃ fields value, payload = .object fields ∧ fields.lookup name = some value ∧
      value.wellFormed registry = true ∧ value.hasType ty = true := by
  obtain ⟨fits, -, inPayload⟩ := Value.wellFormed_known.1 sound
  obtain ⟨fields, rfl⟩ := Payload.fields_of_fits fits
  obtain ⟨value, found, has⟩ := (Payload.fits_object.1 fits).2.lookup_some listed
  exact ⟨fields, value, rfl, found, inPayload.1 fields rfl _ (Record.mem_of_lookup found), has⟩

theorem Value.member_of_known {ty ty' : Ty} {fields : List (String × Value)} {name : String} {value : Value}
    (found : fields.lookup name = some value) :
    (Value.known ty (.object fields)).member name ty' = value := by
  simp [Value.member, Value.object?, found]

theorem Value.member_of_unknown (ty ty' : Ty) (name : String) :
    (Value.unknown ty).member name ty' = .unknown ty' := rfl

theorem Value.member_wellFormed {target : Value} {attributes : List (String × Ty)}
    (sound : target.wellFormed registry = true) (has : target.ty? = some (.object attributes))
    {name : String} {ty : Ty} (listed : attributes.lookup name = some ty) :
    (target.member name ty).wellFormed registry = true ∧ (target.member name ty).hasType ty = true := by
  have soundTy := (Ty.wellFormed_object.1 (wellFormed_ty sound has)).2 _ (Record.mem_of_lookup listed)
  cases target with
  | placeholder => cases has
  | unknown ty' =>
    rw [member_of_unknown]
    exact ⟨by simpa using soundTy,
      hasType_iff.2 ⟨ty, rfl, Ty.same_refl (Ty.proper_of_wellFormed soundTy)⟩⟩
  | known ty' payload =>
    cases has
    obtain ⟨fields, value, rfl, found, soundValue, hasTy⟩ := Payload.field_of_attribute sound listed
    rw [member_of_known found]
    exact ⟨soundValue, hasTy⟩

/-- The fields of refined objects refine one another. -/
theorem Value.RefinedBy.member {target target' : Value} {attributes attributes' : List (String × Ty)}
    (refined : target.RefinedBy registry target') (sound : target.wellFormed registry = true)
    (sound' : target'.wellFormed registry = true) (has : target.ty? = some (.object attributes))
    (has' : target'.ty? = some (.object attributes')) {name : String} {ty ty' : Ty}
    (listed : attributes.lookup name = some ty) (listed' : attributes'.lookup name = some ty')
    (sameTy : ty.same ty' = true) :
    (target.member name ty).RefinedBy registry (target'.member name ty') := by
  cases target with
  | placeholder => cases has
  | unknown found =>
    rw [member_of_unknown]
    obtain ⟨soundMember, hasTy⟩ := member_wellFormed sound' has' listed'
    exact .of_hasType sameTy soundMember hasTy
  | known found payload =>
    cases has
    obtain ⟨fields, value, rfl, at', -⟩ := Payload.field_of_attribute sound listed
    obtain ⟨found', payload', rfl, -, fields', rfl, matching⟩ := refined.known
    obtain ⟨value', at'', refinedValue⟩ := matching.lookup_some at'
    rw [member_of_known at', member_of_known at'']
    exact refinedValue

/-! ### Element types -/

theorem uniformType?_eq_some {attributes : List (String × Ty)} {ty : Ty} :
    uniformType? attributes = some ty ↔
      ∃ name rest, attributes = (name, ty) :: rest ∧ ∀ entry ∈ rest, entry.2.same ty = true := by
  cases attributes with
  | nil => exact ⟨fun none => (nomatch none), fun ⟨_, _, same, _⟩ => (nomatch same)⟩
  | cons head rest =>
    obtain ⟨name, first⟩ := head
    simp only [uniformType?, Option.ite_none_right_eq_some, Option.some.injEq, List.all_eq_true]
    constructor
    · rintro ⟨uniform, rfl⟩
      exact ⟨name, rest, rfl, uniform⟩
    · rintro ⟨_, _, same, uniform⟩
      cases same
      exact ⟨uniform, rfl⟩

/-- Attributes that share a type share it with the attributes of every type that is the same. -/
theorem uniformType?_same {attributes others : List (String × Ty)}
    (sound : (Ty.object attributes).wellFormed registry = true)
    (sound' : (Ty.object others).wellFormed registry = true)
    (same : (Ty.object attributes).same (.object others) = true) {ty : Ty}
    (uniform : uniformType? attributes = some ty) :
    ∃ ty', uniformType? others = some ty' ∧ ∀ name other, others.lookup name = some other →
      ty.same other = true := by
  obtain ⟨distinct, inside⟩ := Ty.wellFormed_object.1 sound
  obtain ⟨distinct', inside'⟩ := Ty.wellFormed_object.1 sound'
  have proper : ∀ entry ∈ attributes, entry.2.proper = true :=
    fun entry member => Ty.proper_of_wellFormed (inside entry member)
  have proper' : ∀ entry ∈ others, entry.2.proper = true :=
    fun entry member => Ty.proper_of_wellFormed (inside' entry member)
  have matching := Ty.same_object.1 same
  obtain ⟨first, rest, rfl, sameRest⟩ := uniformType?_eq_some.1 uniform
  have properTy : ty.proper = true := proper (first, ty) (by simp)
  have all : ∀ entry ∈ (first, ty) :: rest, entry.2.same ty = true :=
    List.forall_mem_cons.2 ⟨Ty.same_refl properTy, sameRest⟩
  have shared : ∀ entry ∈ others, ty.same entry.2 = true := by
    intro entry member
    have listed := matching.names_subset distinct (List.mem_map_of_mem (f := Prod.fst) member)
    obtain ⟨before, found⟩ := Option.isSome_iff_exists.1 (Record.lookup_isSome.2 listed)
    obtain ⟨after, found', sameEntry⟩ := matching.lookup_some found
    obtain rfl : after = entry.2 :=
      Option.some.inj (found'.symm.trans (Record.lookup_of_mem distinct' member))
    have inAttributes := Record.mem_of_lookup found
    exact Ty.same_trans (Ty.same_symm (proper _ inAttributes) properTy (all _ inAttributes)) sameEntry
  cases others with
  | nil => cases matching.1
  | cons head tail =>
    obtain ⟨name, ty'⟩ := head
    have properHead := proper' (name, ty') (by simp)
    refine ⟨ty', uniformType?_eq_some.2 ⟨name, tail, rfl, fun entry member => ?_⟩,
      fun name' other found => shared _ (Record.mem_of_lookup found)⟩
    have inOthers : entry ∈ (name, ty') :: tail := List.mem_cons_of_mem _ member
    exact Ty.same_trans (Ty.same_symm properTy (proper' _ inOthers) (shared _ inOthers))
      (shared (name, ty') (by simp))

/-! ### Constraints and result types -/

theorem Ty.isNumber_of_same {ty ty' : Ty} (same : ty.same ty' = true) : ty.isNumber = ty'.isNumber := by
  cases ty <;> cases ty' <;> simp_all [Ty.same, Ty.isNumber]

/-- Whether an argument is accepted does not change when types are replaced by ones that are the same, or are
missing. -/
theorem Constraint.accepts_of_same {constraint constraint' : Constraint} {ty ty' : Ty}
    {types types' : List (Option Ty)} (same : constraint.same constraint' = true)
    (proper : ∀ expected, constraint = .exactly expected → expected.proper = true)
    (proper' : ∀ expected, constraint' = .exactly expected → expected.proper = true)
    (sameTy : ty.same ty' = true)
    (kept : ∀ (index : Nat) (expected' : Ty), types'[index]? = some (some expected') → expected'.proper = true ∧
      ∃ expected : Ty, types[index]? = some (some expected) ∧ expected.proper = true ∧
        expected.same expected' = true)
    (accepted : constraint.accepts ty types = true) : constraint'.accepts ty' types' = true := by
  cases constraint <;> cases constraint' <;> simp only [Constraint.same, Bool.false_eq_true] at same
  case any.any => rfl
  case anyNumber.anyNumber => exact (Ty.isNumber_of_same sameTy).symm.trans accepted
  case exactly.exactly expected expected' =>
    exact Ty.same_trans (Ty.same_symm (proper _ rfl) (proper' _ rfl) same) (Ty.same_trans accepted sameTy)
  case sameAs.sameAs index index' =>
    obtain rfl : index = index' := by simpa using same
    simp only [Constraint.accepts] at accepted ⊢
    split
    · rename_i expected' found'
      obtain ⟨properExpected', expected, found, properExpected, sameExpected⟩ := kept index expected' found'
      simp only [found] at accepted
      exact Ty.same_trans (Ty.same_symm properExpected properExpected' sameExpected)
        (Ty.same_trans accepted sameTy)
    · rfl

/-! ### Foretold values -/

/-- What may be said of a value before more is known: what turns out is a placeholder, or refines it. If it is
lenient, a placeholder says nothing. -/
def Value.Foretells (registry : Registry) (lenient : Bool) (value other : Value) : Prop :=
  (lenient = true ∧ value = .placeholder) ∨ other = .placeholder ∨ value.RefinedBy registry other

namespace Value.Foretells

variable {lenient : Bool} {value other : Value}

theorem silent (isLenient : lenient = true) : Value.placeholder.Foretells registry lenient other :=
  .inl ⟨isLenient, rfl⟩

theorem lost : value.Foretells registry lenient .placeholder := .inr (.inl rfl)

theorem of_refined (refined : value.RefinedBy registry other) : value.Foretells registry lenient other :=
  .inr (.inr refined)

theorem strict (foretells : value.Foretells registry lenient other) (typed : value ≠ .placeholder) :
    other = .placeholder ∨ value.RefinedBy registry other :=
  foretells.resolve_left fun placeholder => typed placeholder.2

/-- If a placeholder says something, it says that a placeholder turns out. -/
theorem of_placeholder (foretells : Value.placeholder.Foretells registry false other) :
    other = .placeholder := by
  rcases foretells with ⟨impossible, -⟩ | lost | refined
  · cases impossible
  · exact lost
  · exact Value.placeholder_refinedBy.1 refined

/-- A type that turns out was known before. -/
theorem ty (foretells : value.Foretells registry false other) {ty' : Ty} (has' : other.ty? = some ty') :
    ∃ ty, value.ty? = some ty ∧ ty.same ty' = true := by
  rcases foretells with ⟨impossible, -⟩ | rfl | refined
  · cases impossible
  · cases has'
  · cases has : value.ty? with
    | none =>
      obtain rfl := Value.ty?_eq_none.1 has
      obtain rfl := Value.placeholder_refinedBy.1 refined
      cases has'
    | some ty =>
      obtain ⟨found, is, same⟩ := refined.ty has
      cases is.symm.trans has'
      exact ⟨ty, rfl, same⟩

end Value.Foretells

/-- Two well-formed values, of which the first foretells the second. -/
structure Value.Forecast (registry : Registry) (lenient : Bool) (value other : Value) : Prop where
  sound : value.wellFormed registry = true
  sound' : other.wellFormed registry = true
  foretells : value.Foretells registry lenient other

/-! ### Arguments and result types -/

/-- Two signatures are the same, and both are well-formed. -/
structure Signature.Agrees (registry : Registry) (signature other : Signature) : Prop where
  sound : (Ty.function signature).wellFormed registry = true
  sound' : (Ty.function other).wellFormed registry = true
  same : signature.same other = true

theorem Parameter.proper_constraint {signature : Signature}
    (sound : (Ty.function signature).wellFormed registry = true) {parameter : Parameter}
    (member : parameter ∈ signature.parameters) {expected : Ty}
    (exact : parameter.constraint = .exactly expected) : expected.proper = true :=
  Ty.proper_of_wellFormed
    ((Parameter.wellFormed_iff.1 ((Ty.wellFormed_function.1 sound).2.1 parameter member)).1 expected exact)

/-- The types of arguments that turn out were known before. -/
theorem Value.Foretells.types {arguments arguments' : List Value}
    (sound : ∀ argument ∈ arguments, argument.wellFormed registry = true)
    (sound' : ∀ argument ∈ arguments', argument.wellFormed registry = true)
    (foretold : List.Forall₂ (Value.Foretells registry false) arguments arguments') (index : Nat)
    (expected' : Ty) (found' : (arguments'.map Value.ty?)[index]? = some (some expected')) :
    expected'.proper = true ∧ ∃ expected : Ty, (arguments.map Value.ty?)[index]? = some (some expected) ∧
      expected.proper = true ∧ expected.same expected' = true := by
  obtain ⟨argument', at', has'⟩ : ∃ argument', arguments'[index]? = some argument' ∧
      argument'.ty? = some expected' := by simpa using found'
  obtain ⟨argument, before, pair⟩ := rel_some_right (forall₂_getElem? foretold index) at'
  obtain ⟨expected, has, same⟩ := pair.ty has'
  refine ⟨?_, expected, by simp [before, has], ?_, same⟩
  · exact Ty.proper_of_wellFormed (Value.wellFormed_ty (sound' _ (List.mem_of_getElem? at')) has')
  · exact Ty.proper_of_wellFormed (Value.wellFormed_ty (sound _ (List.mem_of_getElem? before)) has)

/-- Arguments that turn out as foretold are accepted if those before were. -/
theorem Signature.AcceptsAll.foretold {signature other : Signature} (agrees : signature.Agrees registry other)
    {arguments arguments' : List Value}
    (sound : ∀ argument ∈ arguments, argument.wellFormed registry = true)
    (sound' : ∀ argument ∈ arguments', argument.wellFormed registry = true)
    (foretold : List.Forall₂ (Value.Foretells registry false) arguments arguments')
    (accepted : signature.AcceptsAll arguments) : other.AcceptsAll arguments' := by
  have parameters : List.Forall₂ (fun parameter parameter' => ∀ ty ty', ty.same ty' = true →
      parameter.constraint.accepts ty (arguments.map Value.ty?) = true →
      parameter'.constraint.accepts ty' (arguments'.map Value.ty?) = true)
      signature.parameters other.parameters :=
    forall₂_imp (Signature.same_iff.1 agrees.same).1
      fun parameter member parameter' member' same ty ty' sameTy =>
      Constraint.accepts_of_same (Parameter.same_iff.1 same).2.1
        (fun _ => Parameter.proper_constraint agrees.sound member)
        (fun _ => Parameter.proper_constraint agrees.sound' member') sameTy
        (Value.Foretells.types sound sound' foretold)
  have carried : List.Forall₂ (fun parameter argument' => ∀ ty', argument'.ty? = some ty' →
      ∃ ty, ty.same ty' = true ∧ parameter.constraint.accepts ty (arguments.map Value.ty?) = true)
      signature.parameters arguments' := by
    refine forall₂_trans accepted foretold fun parameter _ argument argument' accepts pair ty' has' => ?_
    obtain ⟨ty, has, same⟩ := pair.ty has'
    exact ⟨ty, same, accepts ty has⟩
  refine forall₂_trans parameters.flip carried
    fun parameter' _ parameter argument' accepts further ty' has' => ?_
  obtain ⟨ty, same, accepted⟩ := further ty' has'
  exact accepts ty ty' same accepted

/-- The predicted result type does not change. -/
theorem Signature.resultType_refined {signature other : Signature} (agrees : signature.Agrees registry other)
    {arguments arguments' : List Value}
    (refined : List.Forall₂ (Value.RefinedBy registry) arguments arguments') {ty ty' : Ty}
    (predicted : signature.resultType (arguments.filterMap Value.ty?) = .ok ty)
    (predicted' : other.resultType (arguments'.filterMap Value.ty?) = .ok ty') : ty.same ty' = true := by
  have types : List.Forall₂ (fun ty ty' => Ty.same ty ty' = true) (arguments.filterMap Value.ty?)
      (arguments'.filterMap Value.ty?) := by
    refine List.rel_filterMap (fun value other refined => ?_) refined
    cases has : value.ty? with
    | none =>
      obtain rfl := Value.ty?_eq_none.1 has
      obtain rfl := Value.placeholder_refinedBy.1 refined
      exact .none
    | some ty =>
      obtain ⟨ty', has', same⟩ := refined.ty has
      rw [has']
      exact .some same
  have sameReturns := (Signature.same_iff.1 agrees.same).2
  unfold Signature.resultType at predicted predicted'
  cases returns : signature.returns <;> cases returns' : other.returns <;>
    simp only [returns, returns', ResultRule.same, Bool.false_eq_true, decide_eq_true_eq]
      at predicted predicted' sameReturns
  case fixed.fixed =>
    cases predicted
    cases predicted'
    exact sameReturns
  case sameAs.sameAs index index' =>
    subst sameReturns
    cases found : (arguments.filterMap Value.ty?)[index]? with
    | none => simp [found] at predicted
    | some predictedTy =>
      obtain ⟨predictedTy', found', same⟩ := rel_some (forall₂_getElem? types index) found
      simp only [found, Except.ok.injEq] at predicted
      simp only [found', Except.ok.injEq] at predicted'
      exact predicted ▸ predicted' ▸ same

end Circuitry
