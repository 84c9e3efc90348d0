import Circuitry.Proofs.Kernel.WellFormed

/-!
# Layers of functions

A registry says which functions a value may hold. Here registries are compared and cut down: functions lie in
layers, and the registry up to a layer allows those of this layer and the ones below. What is well-formed for
less is well-formed for more; and a value of a data type, which has no place for a function or a host object,
is well-formed whatever is allowed.
-/

set_option autoImplicit false

namespace Circuitry

/-- Another registry allows and holds all that this one does. -/
structure Registry.Grows (registry later : Registry) : Prop where
  allows : ∀ id signature, registry.allows id signature = true → later.allows id signature = true
  holds : ∀ id kind, registry.holds id kind = true → later.holds id kind = true

/-- The registry that allows only the functions of a layer and of those below it. -/
def Registry.upTo (registry : Registry) (layer : FunctionId → Nat) (top : Nat) : Registry where
  allows id signature := registry.allows id signature && layer id ≤ top
  holds := registry.holds

namespace Registry

variable {registry : Registry} {layer : FunctionId → Nat} {low high top : Nat}

theorem allows_upTo {id : FunctionId} {signature : Signature} :
    (registry.upTo layer top).allows id signature = true ↔
      registry.allows id signature = true ∧ layer id ≤ top := by
  simp [upTo]

/-- More layers allow more. -/
theorem upTo_grows (le : low ≤ high) : (registry.upTo layer low).Grows (registry.upTo layer high) where
  allows id signature allowed := by
    obtain ⟨allowed, below⟩ := allows_upTo.1 allowed
    exact allows_upTo.2 ⟨allowed, Nat.le_trans below le⟩
  holds _ _ held := held

theorem upTo_grows_self (registry : Registry) (layer : FunctionId → Nat) (top : Nat) :
    (registry.upTo layer top).Grows registry where
  allows _ _ allowed := (allows_upTo.1 allowed).1
  holds _ _ held := held

/-- If no function lies above the top layer, nothing is cut off. -/
theorem grows_upTo (bounded : ∀ id signature, registry.allows id signature = true → layer id ≤ top) :
    registry.Grows (registry.upTo layer top) where
  allows id signature allowed := allows_upTo.2 ⟨allowed, bounded id signature allowed⟩
  holds _ _ held := held

end Registry

/-! ### Well-formed for more -/

section Grows

variable {registry later : Registry} (grows : registry.Grows later)
include grows

theorem Payload.fits_grows {payload : Payload} {ty : Ty} (fits : payload.fits registry ty = true) :
    payload.fits later ty = true := by
  cases ty with
  | function signature =>
    obtain ⟨id, rfl, allowed⟩ := Payload.fits_function fits
    exact grows.allows id signature allowed
  | model kind =>
    obtain ⟨id, rfl, held⟩ := Payload.fits_model fits
    exact grows.holds id kind held
  | _ => cases payload <;> exact fits

theorem Value.sound_grows {value : Value} (sound : value.sound registry = true) :
    value.sound later = true := by
  cases value with
  | known ty payload => exact Payload.fits_grows grows sound
  | unknown ty => rfl
  | placeholder => rfl

theorem Ty.wellFormed_grows {ty : Ty} (sound : ty.wellFormed registry = true) :
    ty.wellFormed later = true :=
  (Kernel.everywhere_imp (fun _ here => here) fun _ => Value.sound_grows grows).ty ty sound

theorem Value.wellFormed_grows {value : Value} (sound : value.wellFormed registry = true) :
    value.wellFormed later = true :=
  (Kernel.everywhere_imp (fun _ here => here) fun _ => Value.sound_grows grows).value value sound

end Grows

/-! ### Data -/

/-- Whether a type is one of truth values, strings, numbers or objects. -/
def Ty.isPlain : Ty → Bool
  | .bool | .string | .number _ | .object _ => true
  | .function _ | .type | .model _ => false

/-- Whether the values of a type are made of truth values, strings and numbers. -/
def Ty.isData (ty : Ty) : Bool := ty.everywhere Ty.isPlain fun _ => true

theorem Ty.isData_object {attributes : List (String × Ty)} :
    (Ty.object attributes).isData = true ↔ ∀ entry ∈ attributes, entry.2.isData = true := by
  simp [Ty.isData, Ty.everywhere_object, Ty.isPlain]

variable {registry other : Registry}

theorem Kernel.isData_same (registry : Registry) :
    Kernel.Cases
      (fun ty => ty.isData = true → ty.wellFormed registry = true → ∀ ty', ty'.wellFormed registry = true →
        ty.same ty' = true → ty'.isData = true)
      fun _ => True where
  bool _ _ ty' _ same := by
    rw [Ty.bool_same.1 same]
    rfl
  string _ _ ty' _ same := by
    rw [Ty.string_same.1 same]
    rfl
  number dims _ _ ty' _ same := by
    rw [Ty.number_same.1 same]
    rfl
  type data := by simp [Ty.isData, Ty.everywhere, Ty.isPlain] at data
  model _ data := by simp [Ty.isData, Ty.everywhere, Ty.isPlain] at data
  function _ _ _ _ data := by simp [Ty.isData, Ty.everywhere, Ty.isPlain] at data
  object attributes ih data sound ty' sound' same := by
    obtain ⟨others, rfl, matching⟩ := Ty.object_same same
    obtain ⟨distinct, inside⟩ := Ty.wellFormed_object.1 sound
    obtain ⟨distinct', inside'⟩ := Ty.wellFormed_object.1 sound'
    refine Ty.isData_object.2 fun entry' member' => ?_
    -- an attribute of the one type has its counterpart under the same name in the other
    obtain ⟨ty, listed, sameTy⟩ :=
      rel_some_right (matching.lookup distinct entry'.1) (Record.lookup_of_mem distinct' member')
    have member := Record.mem_of_lookup listed
    exact ih _ member (Ty.isData_object.1 data _ member) (inside _ member) entry'.2 (inside' entry' member')
      sameTy
  known _ _ _ _ := trivial
  unknown _ _ := trivial
  placeholder := trivial

/-- A type that is the same as a data type is one. -/
theorem Ty.isData_of_same {ty ty' : Ty} (sound : ty.wellFormed registry = true)
    (sound' : ty'.wellFormed registry = true) (same : ty.same ty' = true) (data : ty.isData = true) :
    ty'.isData = true :=
  (Kernel.isData_same registry).ty ty data sound ty' sound' same

theorem Kernel.wellFormed_data (registry other : Registry) :
    Kernel.Cases (fun ty => ty.isData = true → ty.wellFormed registry = true → ty.wellFormed other = true)
      fun value => (∀ ty, value.ty? = some ty → ty.isData = true) → value.wellFormed registry = true →
        value.wellFormed other = true where
  bool _ _ := rfl
  string _ _ := rfl
  number _ _ _ := rfl
  type data := by simp [Ty.isData, Ty.everywhere, Ty.isPlain] at data
  model _ data := by simp [Ty.isData, Ty.everywhere, Ty.isPlain] at data
  function _ _ _ _ data := by simp [Ty.isData, Ty.everywhere, Ty.isPlain] at data
  object attributes ih data sound := by
    obtain ⟨distinct, inside⟩ := Ty.wellFormed_object.1 sound
    have datas := Ty.isData_object.1 data
    exact Ty.wellFormed_object.2 ⟨distinct, fun entry member => ih entry member (datas entry member)
      (inside entry member)⟩
  known ty payload ihTy ihPayload data sound := by
    have dataTy := data ty rfl
    obtain ⟨fits, soundTy, mentions⟩ := Value.wellFormed_known.1 sound
    have soundTy' := ihTy dataTy soundTy
    refine Value.wellFormed_known.2 ?_
    cases payload with
    | object fields =>
      cases ty with
      | object attributes =>
        refine ⟨fits, soundTy', ⟨fun _ same field member => ?_, by simp⟩⟩
        cases same
        obtain ⟨distinct, matching⟩ := Payload.fits_object.1 fits
        obtain ⟨distinctTypes, inside⟩ := Ty.wellFormed_object.1 soundTy
        have soundField := mentions.1 fields rfl field member
        -- a field has the type of the attribute of its name, which is a data type
        obtain ⟨expected, listed, has⟩ :=
          rel_some_right (matching.lookup distinctTypes field.1) (Record.lookup_of_mem distinct member)
        have entry := Record.mem_of_lookup listed
        refine ihPayload.1 fields rfl field member (fun found is => ?_) soundField
        obtain ⟨_, is', same⟩ := Value.hasType_iff.1 has
        cases is.symm.trans is'
        exact Ty.isData_of_same (inside _ entry) (Value.wellFormed_ty soundField is) same
          (Ty.isData_object.1 dataTy _ entry)
      | _ => cases fits
    | function id | type inner | model id =>
      -- none of these is of a data type
      cases ty <;> simp_all [Payload.fits, Ty.isData, Ty.everywhere, Ty.isPlain]
    | bool value | string value | quantity value =>
      refine ⟨?_, soundTy', by simp, by simp⟩
      cases ty <;> exact fits
  unknown ty ihTy data sound := by
    rw [Value.wellFormed_unknown] at sound ⊢
    exact ihTy (data ty rfl) sound
  placeholder _ _ := rfl

/-- A well-formed value of a data type holds no function, so it is well-formed whatever functions are allowed. -/
theorem Value.wellFormed_of_data {value : Value} {ty : Ty} (sound : value.wellFormed registry = true)
    (soundTy : ty.wellFormed registry = true) (has : value.hasType ty = true) (data : ty.isData = true) :
    value.wellFormed other = true := by
  obtain ⟨found, is, same⟩ := Value.hasType_iff.1 has
  have dataFound := Ty.isData_of_same soundTy (Value.wellFormed_ty sound is) same data
  refine (Kernel.wellFormed_data registry other).value value (fun ty' is' => ?_) sound
  cases is.symm.trans is'
  exact dataFound

end Circuitry
