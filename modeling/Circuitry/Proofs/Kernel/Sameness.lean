import Circuitry.Kernel.Equality
import Circuitry.Proofs.Kernel.Everywhere
import Circuitry.Proofs.Kernel.Matching

/-!
# Sameness is an equivalence

Sameness of types and of values goes through records by name, so that it is reflexive and symmetric rests on
names being distinct in every record, at whatever depth: `Ty.proper` and `Value.proper` say so. It is
transitive without that. The first part puts sameness in terms of `Record.Matches` and of lists compared
position by position; nothing after it looks at how sameness is computed.
-/

set_option autoImplicit false

namespace Circuitry

/-! ### Sameness, one level at a time -/

theorem Ty.allIn_iff {record other : List (String × Ty)} :
    Ty.allIn record other = true ↔
      ∀ entry ∈ record, ∃ ty, other.lookup entry.1 = some ty ∧ entry.2.same ty = true := by
  induction record with
  | nil => simp [Ty.allIn]
  | cons head rest ih =>
    obtain ⟨name, ty⟩ := head
    simp only [Ty.allIn, Bool.and_eq_true, ih, List.forall_mem_cons, and_congr_left_iff, Ty.isIn]
    intro _
    cases other.lookup name <;> simp

theorem Value.allIn_iff {record other : List (String × Value)} :
    Value.allIn record other = true ↔
      ∀ field ∈ record, ∃ value, other.lookup field.1 = some value ∧ field.2.same value = true := by
  induction record with
  | nil => simp [Value.allIn]
  | cons head rest ih =>
    obtain ⟨name, value⟩ := head
    simp only [Value.allIn, Bool.and_eq_true, ih, List.forall_mem_cons, and_congr_left_iff, Value.isIn]
    intro _
    cases other.lookup name <;> simp

theorem Parameter.allSame_iff {parameters others : List Parameter} :
    Parameter.allSame parameters others = true ↔
      List.Forall₂ (fun parameter other => parameter.same other = true) parameters others := by
  induction parameters generalizing others with
  | nil => cases others <;> simp [Parameter.allSame]
  | cons head rest ih => cases others <;> simp [Parameter.allSame, ih]

theorem Ty.same_object {record other : List (String × Ty)} :
    (Ty.object record).same (.object other) = true ↔
      Record.Matches (fun ty ty' => ty.same ty' = true) record other := by
  simp [Ty.same, Ty.allIn_iff, Record.Matches]

theorem Payload.same_object {record other : List (String × Value)} :
    (Payload.object record).same (.object other) = true ↔
      Record.Matches (fun value value' => value.same value' = true) record other := by
  simp [Payload.same, Value.allIn_iff, Record.Matches]

theorem Signature.same_iff {signature other : Signature} :
    signature.same other = true ↔
      List.Forall₂ (fun p q => p.same q = true) signature.parameters other.parameters ∧
        signature.returns.same other.returns = true := by
  obtain ⟨parameters, returns⟩ := signature
  obtain ⟨others, returns'⟩ := other
  simp [Signature.same, Parameter.allSame_iff]

theorem Parameter.same_iff {parameter other : Parameter} :
    parameter.same other = true ↔
      parameter.name = other.name ∧ parameter.constraint.same other.constraint = true ∧
        Value.sameFallback parameter.fallback other.fallback = true := by
  obtain ⟨name, constraint, fallback⟩ := parameter
  obtain ⟨name', constraint', fallback'⟩ := other
  simp [Parameter.same, and_assoc]

theorem Value.same_known {ty ty' : Ty} {payload payload' : Payload} :
    (Value.known ty payload).same (.known ty' payload') = true ↔
      ty.same ty' = true ∧ payload.same payload' = true := by
  simp [Value.same]

@[simp] theorem Value.same_unknown {ty ty' : Ty} :
    (Value.unknown ty).same (.unknown ty') = ty.same ty' := rfl

/-! ### Types that are the same as one of a given form -/

@[simp] theorem Ty.bool_same {ty : Ty} : Ty.bool.same ty = true ↔ ty = .bool := by
  cases ty <;> simp [Ty.same]

@[simp] theorem Ty.string_same {ty : Ty} : Ty.string.same ty = true ↔ ty = .string := by
  cases ty <;> simp [Ty.same]

@[simp] theorem Ty.number_same {dims : Dimensions} {ty : Ty} :
    (Ty.number dims).same ty = true ↔ ty = .number dims := by
  cases ty <;> simp [Ty.same, eq_comm]

@[simp] theorem Ty.type_same {ty : Ty} : Ty.type.same ty = true ↔ ty = .type := by
  cases ty <;> simp [Ty.same]

@[simp] theorem Ty.same_string {ty : Ty} : ty.same .string = true ↔ ty = .string := by
  cases ty <;> simp [Ty.same]

@[simp] theorem Ty.same_number {ty : Ty} {dims : Dimensions} :
    ty.same (.number dims) = true ↔ ty = .number dims := by
  cases ty <;> simp [Ty.same]

theorem Ty.isBool_of_same {ty ty' : Ty} (same : ty.same ty' = true) : ty.isBool = ty'.isBool := by
  cases ty <;> cases ty' <;> simp_all [Ty.same, Ty.isBool]

theorem Ty.object_same {record : List (String × Ty)} {ty : Ty} (same : (Ty.object record).same ty = true) :
    ∃ other, ty = .object other ∧ Record.Matches (fun ty ty' => ty.same ty' = true) record other := by
  cases ty with
  | object other => exact ⟨other, rfl, Ty.same_object.1 same⟩
  | _ => simp [Ty.same] at same

theorem Ty.function_same {signature : Signature} {ty : Ty}
    (same : (Ty.function signature).same ty = true) :
    ∃ other, ty = .function other ∧ signature.same other = true := by
  cases ty with
  | function other => exact ⟨other, rfl, same⟩
  | _ => simp [Ty.same] at same

theorem Ty.model_same {kind : ModelType} {ty : Ty} (same : (Ty.model kind).same ty = true) :
    ∃ other, ty = .model other ∧ kind.index = other.index := by
  cases ty with
  | model other => exact ⟨other, rfl, by simpa [Ty.same] using same⟩
  | _ => simp [Ty.same] at same

theorem Value.placeholder_same {value : Value} : Value.placeholder.same value = true ↔
    value = .placeholder := by
  cases value <;> simp [Value.same]

theorem Value.unknown_same {ty : Ty} {value : Value} (same : (Value.unknown ty).same value = true) :
    ∃ ty', value = .unknown ty' ∧ ty.same ty' = true := by
  cases value with
  | unknown ty' => exact ⟨ty', rfl, same⟩
  | _ => simp [Value.same] at same

theorem Value.known_same {ty : Ty} {payload : Payload} {value : Value}
    (same : (Value.known ty payload).same value = true) :
    ∃ ty' payload', value = .known ty' payload' ∧ ty.same ty' = true ∧ payload.same payload' = true := by
  cases value with
  | known ty' payload' => exact ⟨ty', payload', rfl, Value.same_known.1 same⟩
  | _ => simp [Value.same] at same

/-! ### Distinct names at every depth -/

/-- Whether the attributes of an object type have distinct names. -/
def Ty.distinct : Ty → Bool
  | .object attributes => (Record.names attributes).Nodup
  | _ => true

/-- Whether the fields of an object have distinct names. -/
def Value.distinct : Value → Bool
  | .known _ (.object fields) => (Record.names fields).Nodup
  | _ => true

/-- Whether all records that a type mentions have distinct names. -/
def Ty.proper (ty : Ty) : Bool := ty.everywhere Ty.distinct Value.distinct

/-- Whether all records that a value mentions have distinct names. -/
def Value.proper (value : Value) : Bool := value.everywhere Ty.distinct Value.distinct

/-- Whether all records that a parameter mentions have distinct names. -/
def Parameter.proper (parameter : Parameter) : Bool := parameter.everywhere Ty.distinct Value.distinct

theorem Ty.proper_object {attributes : List (String × Ty)} :
    (Ty.object attributes).proper = true ↔
      (Record.names attributes).Nodup ∧ ∀ entry ∈ attributes, entry.2.proper = true := by
  simp [Ty.proper, Ty.everywhere_object, Ty.distinct]

theorem Ty.proper_function {signature : Signature} :
    (Ty.function signature).proper = true ↔
      (∀ parameter ∈ signature.parameters, parameter.proper = true) ∧
        ∀ ty, signature.returns = .fixed ty → ty.proper = true := by
  simp [Ty.proper, Parameter.proper, Ty.everywhere_function, Ty.distinct, ResultRule.everywhere_iff]

theorem Parameter.proper_iff {parameter : Parameter} :
    parameter.proper = true ↔
      parameter.Mentions (fun ty => ty.proper = true) (fun value => value.proper = true) :=
  Parameter.everywhere_iff

theorem Value.proper_known {ty : Ty} {payload : Payload} :
    (Value.known ty payload).proper = true ↔
      (Value.known ty payload).distinct = true ∧ ty.proper = true ∧
        payload.Mentions (fun ty => ty.proper = true) (fun value => value.proper = true) := by
  simp [Value.proper, Ty.proper, Value.everywhere_known, Payload.everywhere_iff]

theorem Value.proper_unknown {ty : Ty} : (Value.unknown ty).proper = true ↔ ty.proper = true := by
  simp [Value.proper, Ty.proper, Value.everywhere_unknown, Value.distinct]

/-! ### Reflexivity -/

theorem Constraint.same_refl {constraint : Constraint}
    (ih : ∀ ty, constraint = .exactly ty → ty.same ty = true) : constraint.same constraint = true := by
  cases constraint with
  | exactly ty => exact ih ty rfl
  | _ => simp [Constraint.same]

theorem ResultRule.same_refl {rule : ResultRule}
    (ih : ∀ ty, rule = .fixed ty → ty.same ty = true) : rule.same rule = true := by
  cases rule with
  | fixed ty => exact ih ty rfl
  | sameAs index => simp [ResultRule.same]

theorem Parameter.same_refl {parameter : Parameter}
    (ih : parameter.Mentions (fun ty => ty.same ty = true) (fun value => value.same value = true)) :
    parameter.same parameter = true := by
  refine Parameter.same_iff.2 ⟨rfl, Constraint.same_refl ih.1, ?_⟩
  cases fallback : parameter.fallback with
  | none => rfl
  | some value => exact ih.2 value fallback

theorem Payload.same_refl {payload : Payload}
    (distinct : ∀ fields, payload = .object fields → (Record.names fields).Nodup)
    (ih : payload.Mentions (fun ty => ty.same ty = true) (fun value => value.same value = true)) :
    payload.same payload = true := by
  cases payload with
  | object fields => exact Payload.same_object.2 (.refl (distinct fields rfl) (ih.1 fields rfl))
  | type ty => exact ih.2 ty rfl
  | _ => simp [Payload.same, Quantity.equivalent]

theorem Kernel.same_refl : Kernel.Cases (fun ty => ty.proper = true → ty.same ty = true)
    (fun value => value.proper = true → value.same value = true) where
  bool _ := rfl
  string _ := rfl
  number dims _ := by simp
  type _ := rfl
  model kind _ := by simp [Ty.same]
  object attributes ih proper := by
    obtain ⟨distinct, inside⟩ := Ty.proper_object.1 proper
    exact Ty.same_object.2 (.refl distinct fun entry member => ih entry member (inside entry member))
  function parameters returns ihParameters ihReturns proper := by
    obtain ⟨inParameters, inReturns⟩ := Ty.proper_function.1 proper
    refine Signature.same_iff.2 ⟨List.forall₂_same.2 fun parameter member => ?_, ?_⟩
    · have mentioned := Parameter.proper_iff.1 (inParameters parameter member)
      obtain ⟨ihTy, ihValue⟩ := ihParameters parameter member
      exact Parameter.same_refl
        ⟨fun ty same => ihTy ty same (mentioned.1 ty same),
          fun value same => ihValue value same (mentioned.2 value same)⟩
    · exact ResultRule.same_refl fun ty same => ihReturns ty same (inReturns ty same)
  known ty payload ihTy ihPayload proper := by
    obtain ⟨distinct, properTy, mentioned⟩ := Value.proper_known.1 proper
    refine Value.same_known.2 ⟨ihTy properTy, Payload.same_refl ?_ ?_⟩
    · rintro fields rfl
      simpa [Value.distinct] using distinct
    · exact ⟨fun fields same field member =>
        ihPayload.1 fields same field member (mentioned.1 fields same field member),
        fun inner same => ihPayload.2 inner same (mentioned.2 inner same)⟩
  unknown ty ihTy proper := ihTy (Value.proper_unknown.1 proper)
  placeholder _ := rfl

theorem Ty.same_refl {ty : Ty} (proper : ty.proper = true) : ty.same ty = true :=
  Kernel.same_refl.ty ty proper

theorem Value.same_refl {value : Value} (proper : value.proper = true) : value.same value = true :=
  Kernel.same_refl.value value proper

/-! ### Transitivity -/

theorem Constraint.same_trans {first second third : Constraint}
    (ih : ∀ ty, first = .exactly ty → ∀ ty' ty'', ty.same ty' = true → ty'.same ty'' = true →
      ty.same ty'' = true)
    (same : first.same second = true) (same' : second.same third = true) : first.same third = true := by
  cases first <;> cases second <;> cases third <;> simp_all [Constraint.same]
  exact ih _ _ same same'

theorem ResultRule.same_trans {first second third : ResultRule}
    (ih : ∀ ty, first = .fixed ty → ∀ ty' ty'', ty.same ty' = true → ty'.same ty'' = true →
      ty.same ty'' = true)
    (same : first.same second = true) (same' : second.same third = true) : first.same third = true := by
  cases first <;> cases second <;> cases third <;> simp_all [ResultRule.same]
  exact ih _ _ same same'

theorem Value.sameFallback_trans {first second third : Option Value}
    (ih : ∀ value, first = some value → ∀ value' value'', value.same value' = true →
      value'.same value'' = true → value.same value'' = true)
    (same : Value.sameFallback first second = true) (same' : Value.sameFallback second third = true) :
    Value.sameFallback first third = true := by
  cases first <;> cases second <;> cases third <;> simp_all [Value.sameFallback]
  exact ih _ _ same same'

theorem Payload.same_trans {first second third : Payload}
    (ih : first.Mentions
      (fun ty => ∀ ty' ty'', ty.same ty' = true → ty'.same ty'' = true → ty.same ty'' = true)
      (fun value => ∀ value' value'', value.same value' = true → value'.same value'' = true →
        value.same value'' = true))
    (same : first.same second = true) (same' : second.same third = true) : first.same third = true := by
  cases first with
  | object fields =>
    cases second with
    | object fields' =>
      cases third with
      | object fields'' =>
        rw [Payload.same_object] at same same' ⊢
        exact same.trans same' fun field member => ih.1 fields rfl field member
      | _ => simp [Payload.same] at same'
    | _ => simp [Payload.same] at same
  | type ty => cases second <;> cases third <;> simp_all [Payload.same]; exact ih.2 ty rfl _ _ same same'
  | _ => cases second <;> cases third <;> simp_all [Payload.same, Quantity.equivalent]

theorem Kernel.same_trans :
    Kernel.Cases
      (fun ty => ∀ ty' ty'', ty.same ty' = true → ty'.same ty'' = true → ty.same ty'' = true)
      (fun value => ∀ value' value'', value.same value' = true → value'.same value'' = true →
        value.same value'' = true) where
  bool ty' ty'' same same' := by simp_all
  string ty' ty'' same same' := by simp_all
  number dims ty' ty'' same same' := by simp_all
  type ty' ty'' same same' := by simp_all
  model kind ty' ty'' same same' := by
    obtain ⟨kind', rfl, index⟩ := Ty.model_same same
    obtain ⟨kind'', rfl, index'⟩ := Ty.model_same same'
    simp [Ty.same, index, index']
  object attributes ih ty' ty'' same same' := by
    obtain ⟨attributes', rfl, matching⟩ := Ty.object_same same
    obtain ⟨attributes'', rfl, matching'⟩ := Ty.object_same same'
    exact Ty.same_object.2 (matching.trans matching' ih)
  function parameters returns ihParameters ihReturns ty' ty'' same same' := by
    obtain ⟨signature', rfl, first⟩ := Ty.function_same same
    obtain ⟨signature'', rfl, second⟩ := Ty.function_same same'
    rw [Signature.same_iff] at first second
    refine Signature.same_iff.2 ⟨forall₂_trans first.1 second.1 ?_, ?_⟩
    · intro parameter member middle other firstSame secondSame
      rw [Parameter.same_iff] at firstSame secondSame ⊢
      obtain ⟨ihTy, ihValue⟩ := ihParameters parameter member
      exact ⟨firstSame.1.trans secondSame.1, Constraint.same_trans ihTy firstSame.2.1 secondSame.2.1,
        Value.sameFallback_trans ihValue firstSame.2.2 secondSame.2.2⟩
    · exact ResultRule.same_trans ihReturns first.2 second.2
  known ty payload ihTy ihPayload value' value'' same same' := by
    obtain ⟨ty', payload', rfl, sameTy, samePayload⟩ := Value.known_same same
    obtain ⟨ty'', payload'', rfl, sameTy', samePayload'⟩ := Value.known_same same'
    exact Value.same_known.2
      ⟨ihTy ty' ty'' sameTy sameTy', Payload.same_trans ihPayload samePayload samePayload'⟩
  unknown ty ihTy value' value'' same same' := by
    obtain ⟨ty', rfl, sameTy⟩ := Value.unknown_same same
    obtain ⟨ty'', rfl, sameTy'⟩ := Value.unknown_same same'
    exact ihTy ty' ty'' sameTy sameTy'
  placeholder value' value'' same same' := by
    obtain rfl := Value.placeholder_same.1 same
    exact same'

theorem Ty.same_trans {ty ty' ty'' : Ty} (same : ty.same ty' = true) (same' : ty'.same ty'' = true) :
    ty.same ty'' = true :=
  Kernel.same_trans.ty ty ty' ty'' same same'

theorem Value.same_trans {value value' value'' : Value} (same : value.same value' = true)
    (same' : value'.same value'' = true) : value.same value'' = true :=
  Kernel.same_trans.value value value' value'' same same'

/-! ### Symmetry -/

theorem Constraint.same_symm {constraint other : Constraint}
    (ih : ∀ ty ty', constraint = .exactly ty → other = .exactly ty' → ty.same ty' = true →
      ty'.same ty = true)
    (same : constraint.same other = true) : other.same constraint = true := by
  cases constraint <;> cases other <;> simp_all [Constraint.same]

theorem ResultRule.same_symm {rule other : ResultRule}
    (ih : ∀ ty ty', rule = .fixed ty → other = .fixed ty' → ty.same ty' = true → ty'.same ty = true)
    (same : rule.same other = true) : other.same rule = true := by
  cases rule <;> cases other <;> simp_all [ResultRule.same]

theorem Value.sameFallback_symm {fallback other : Option Value}
    (ih : ∀ value value', fallback = some value → other = some value' → value.same value' = true →
      value'.same value = true)
    (same : Value.sameFallback fallback other = true) : Value.sameFallback other fallback = true := by
  cases fallback <;> cases other <;> simp_all [Value.sameFallback]

theorem Kernel.same_symm :
    Kernel.Cases
      (fun ty => ∀ ty', ty.proper = true → ty'.proper = true → ty.same ty' = true → ty'.same ty = true)
      (fun value => ∀ value', value.proper = true → value'.proper = true → value.same value' = true →
        value'.same value = true) where
  bool ty' _ _ same := by simp_all
  string ty' _ _ same := by simp_all
  number dims ty' _ _ same := by simp_all
  type ty' _ _ same := by simp_all
  model kind ty' _ _ same := by
    obtain ⟨kind', rfl, index⟩ := Ty.model_same same
    simp [Ty.same, index]
  object attributes ih ty' proper proper' same := by
    obtain ⟨attributes', rfl, matching⟩ := Ty.object_same same
    obtain ⟨distinct, inside⟩ := Ty.proper_object.1 proper
    obtain ⟨distinct', inside'⟩ := Ty.proper_object.1 proper'
    refine Ty.same_object.2 (matching.symm distinct distinct' fun entry member ty listed sameEntry => ?_)
    exact ih entry member ty (inside entry member) (inside' _ listed) sameEntry
  function parameters returns ihParameters ihReturns ty' proper proper' same := by
    obtain ⟨signature', rfl, sameSignature⟩ := Ty.function_same same
    obtain ⟨sameParameters, sameReturns⟩ := Signature.same_iff.1 sameSignature
    obtain ⟨inParameters, inReturns⟩ := Ty.proper_function.1 proper
    obtain ⟨inParameters', inReturns'⟩ := Ty.proper_function.1 proper'
    refine Signature.same_iff.2 ⟨List.Forall₂.flip (forall₂_imp sameParameters ?_), ?_⟩
    · intro parameter member other member' sameParameter
      obtain ⟨name, constraint, fallback⟩ := Parameter.same_iff.1 sameParameter
      have mentioned := Parameter.proper_iff.1 (inParameters parameter member)
      have mentioned' := Parameter.proper_iff.1 (inParameters' other member')
      obtain ⟨ihTy, ihValue⟩ := ihParameters parameter member
      refine Parameter.same_iff.2
        ⟨name.symm, Constraint.same_symm ?_ constraint, Value.sameFallback_symm ?_ fallback⟩
      · exact fun ty ty' is is' => ihTy ty is ty' (mentioned.1 ty is) (mentioned'.1 ty' is')
      · exact fun value value' is is' =>
          ihValue value is value' (mentioned.2 value is) (mentioned'.2 value' is')
    · exact ResultRule.same_symm
        (fun ty ty' is is' => ihReturns ty is ty' (inReturns ty is) (inReturns' ty' is')) sameReturns
  known ty payload ihTy ihPayload value' proper proper' same := by
    obtain ⟨ty', payload', rfl, sameTy, samePayload⟩ := Value.known_same same
    obtain ⟨distinct, properTy, mentioned⟩ := Value.proper_known.1 proper
    obtain ⟨distinct', properTy', mentioned'⟩ := Value.proper_known.1 proper'
    refine Value.same_known.2 ⟨ihTy ty' properTy properTy' sameTy, ?_⟩
    cases payload with
    | object fields =>
      cases payload' with
      | object fields' =>
        rw [Payload.same_object] at samePayload ⊢
        refine samePayload.symm (by simpa [Value.distinct] using distinct)
          (by simpa [Value.distinct] using distinct') fun field member value listed sameField => ?_
        exact ihPayload.1 fields rfl field member value (mentioned.1 fields rfl field member)
          (mentioned'.1 fields' rfl _ listed) sameField
      | _ => simp [Payload.same] at samePayload
    | type inner =>
      cases payload' with
      | type inner' =>
        exact ihPayload.2 inner rfl inner' (mentioned.2 inner rfl) (mentioned'.2 inner' rfl) samePayload
      | _ => simp [Payload.same] at samePayload
    | _ => cases payload' <;> simp_all [Payload.same, Quantity.equivalent]
  unknown ty ihTy value' proper proper' same := by
    obtain ⟨ty', rfl, sameTy⟩ := Value.unknown_same same
    exact ihTy ty' (Value.proper_unknown.1 proper) (Value.proper_unknown.1 proper') sameTy
  placeholder value' _ _ same := by
    obtain rfl := Value.placeholder_same.1 same
    rfl

theorem Ty.same_symm {ty ty' : Ty} (proper : ty.proper = true) (proper' : ty'.proper = true)
    (same : ty.same ty' = true) : ty'.same ty = true :=
  Kernel.same_symm.ty ty ty' proper proper' same

theorem Value.same_symm {value value' : Value} (proper : value.proper = true)
    (proper' : value'.proper = true) (same : value.same value' = true) : value'.same value = true :=
  Kernel.same_symm.value value value' proper proper' same

theorem Ty.same_comm {ty ty' : Ty} (proper : ty.proper = true) (proper' : ty'.proper = true) :
    ty.same ty' = ty'.same ty :=
  Bool.eq_iff_iff.2 ⟨Ty.same_symm proper proper', Ty.same_symm proper' proper⟩

theorem Value.same_comm {a b : Value} (proper : a.proper = true) (proper' : b.proper = true) :
    a.same b = b.same a :=
  Bool.eq_iff_iff.2 ⟨Value.same_symm proper proper', Value.same_symm proper' proper⟩

/-- Whether two things are the same does not change when each is replaced by one that it is the same as. -/
theorem same_congr {α : Type} (proper : α → Bool) (same : α → α → Bool)
    (symm : ∀ {a b}, proper a = true → proper b = true → same a b = true → same b a = true)
    (trans : ∀ {a b c}, same a b = true → same b c = true → same a c = true) {a a' b b' : α}
    (properA : proper a = true) (properA' : proper a' = true) (properB : proper b = true)
    (properB' : proper b' = true) (sameA : same a a' = true) (sameB : same b b' = true) :
    same a b = same a' b' := by
  rw [Bool.eq_iff_iff]
  constructor
  · intro here
    exact trans (symm properA properA' sameA) (trans here sameB)
  · intro there
    exact trans sameA (trans there (symm properB properB' sameB))

theorem Ty.same_congr {a a' b b' : Ty} (properA : a.proper = true) (properA' : a'.proper = true)
    (properB : b.proper = true) (properB' : b'.proper = true) (sameA : a.same a' = true)
    (sameB : b.same b' = true) : a.same b = a'.same b' :=
  Circuitry.same_congr Ty.proper Ty.same Ty.same_symm Ty.same_trans properA properA' properB properB' sameA sameB

theorem Value.same_congr {a a' b b' : Value} (properA : a.proper = true) (properA' : a'.proper = true)
    (properB : b.proper = true) (properB' : b'.proper = true) (sameA : a.same a' = true)
    (sameB : b.same b' = true) : a.same b = a'.same b' :=
  Circuitry.same_congr Value.proper Value.same Value.same_symm Value.same_trans properA properA' properB properB'
    sameA sameB

end Circuitry
