import Circuitry.Proofs.Kernel.Capability

/-!
# Values that agree

Two values agree if both are well-formed and they are the same: a quantity is written in whatever unit, an
object in whatever order, but they measure and hold the same. To agree is to refine each other, so whatever
respects refinement respects agreement, and what is read off values that agree agrees.
-/

set_option autoImplicit false

namespace Circuitry

variable {registry : Registry}

/-- Two well-formed types that are the same. -/
structure Ty.Agrees (registry : Registry) (ty other : Ty) : Prop where
  sound : ty.wellFormed registry = true
  sound' : other.wellFormed registry = true
  same : ty.same other = true

/-- Two well-formed values that are the same. -/
structure Value.Agrees (registry : Registry) (value other : Value) : Prop where
  sound : value.wellFormed registry = true
  sound' : other.wellFormed registry = true
  same : value.same other = true

namespace Ty.Agrees

theorem symm {ty other : Ty} (agrees : ty.Agrees registry other) : other.Agrees registry ty where
  sound := agrees.sound'
  sound' := agrees.sound
  same := Ty.same_symm (proper_of_wellFormed agrees.sound) (proper_of_wellFormed agrees.sound') agrees.same

variable {attributes others : List (String × Ty)}

/-- Attributes of the same name agree, and none is on one side only. -/
theorem lookup (agrees : (Ty.object attributes).Agrees registry (.object others)) (name : String) :
    Option.Rel (Ty.Agrees registry) (attributes.lookup name) (others.lookup name) := by
  obtain ⟨distinct, inside⟩ := wellFormed_object.1 agrees.sound
  obtain ⟨-, inside'⟩ := wellFormed_object.1 agrees.sound'
  exact rel_imp ((same_object.1 agrees.same).lookup distinct name) fun _ _ found found' same =>
    ⟨inside _ (Record.mem_of_lookup found), inside' _ (Record.mem_of_lookup found'), same⟩

/-- The type that all attributes share does not depend on which of them comes first. -/
theorem uniform (agrees : (Ty.object attributes).Agrees registry (.object others)) :
    Option.Rel (Ty.Agrees registry) (uniformType? attributes) (uniformType? others) := by
  cases shared : uniformType? attributes with
  | none =>
    cases shared' : uniformType? others with
    | none => exact .none
    | some ty' =>
      obtain ⟨ty, found, -⟩ := uniformType?_same agrees.sound' agrees.sound agrees.symm.same shared'
      cases shared.symm.trans found
  | some ty =>
    obtain ⟨ty', shared', each⟩ := uniformType?_same agrees.sound agrees.sound' agrees.same shared
    obtain ⟨name, _, rfl, -⟩ := uniformType?_eq_some.1 shared
    obtain ⟨name', _, rfl, -⟩ := uniformType?_eq_some.1 shared'
    rw [shared']
    exact .some ⟨(wellFormed_object.1 agrees.sound).2 (name, ty) (by simp),
      (wellFormed_object.1 agrees.sound').2 (name', ty') (by simp), each name' ty' (by simp)⟩

end Ty.Agrees

namespace Value.Agrees

variable {value other : Value}

theorem symm (agrees : value.Agrees registry other) : other.Agrees registry value where
  sound := agrees.sound'
  sound' := agrees.sound
  same := Value.same_symm (proper_of_wellFormed agrees.sound) (proper_of_wellFormed agrees.sound') agrees.same

protected theorem refl (sound : value.wellFormed registry = true) : value.Agrees registry value :=
  ⟨sound, sound, Value.same_refl (proper_of_wellFormed sound)⟩

protected theorem placeholder : Value.placeholder.Agrees registry .placeholder := .refl rfl

protected theorem unknown {ty ty' : Ty} (agrees : ty.Agrees registry ty') :
    (Value.unknown ty).Agrees registry (.unknown ty') :=
  ⟨by simpa using agrees.sound, by simpa using agrees.sound', by simpa using agrees.same⟩

/-- A quantity agrees with itself in any other unit. -/
protected theorem ofQuantity {quantity quantity' : Quantity} (equivalent : quantity.equivalent quantity' = true) :
    (Value.ofQuantity quantity).Agrees registry (.ofQuantity quantity') := by
  have sameDims : quantity.dims = quantity'.dims := by
    simp only [Quantity.equivalent, Bool.and_eq_true, decide_eq_true_eq] at equivalent
    exact equivalent.1
  refine ⟨?_, ?_, Value.same_known.2 ⟨by simp [sameDims], equivalent⟩⟩ <;>
    simp [Value.ofQuantity, Value.wellFormed_known, Payload.fits, Payload.Mentions]

theorem refined (agrees : value.Agrees registry other) : value.RefinedBy registry other := .of_same agrees.same

theorem of_refined (sound : value.wellFormed registry = true) (sound' : other.wellFormed registry = true)
    (refined : value.RefinedBy registry other) (back : other.RefinedBy registry value) :
    value.Agrees registry other := ⟨sound, sound', refined.antisymm sound back⟩

/-- Values that agree have types that agree, or none. -/
theorem ty (agrees : value.Agrees registry other) : Option.Rel (Ty.Agrees registry) value.ty? other.ty? := by
  cases has : value.ty? with
  | none =>
    obtain rfl := Value.ty?_eq_none.1 has
    obtain rfl := Value.placeholder_same.1 agrees.same
    exact .none
  | some ty =>
    obtain ⟨ty', has', same⟩ := agrees.refined.ty has
    rw [has']
    exact .some ⟨Value.wellFormed_ty agrees.sound has, Value.wellFormed_ty agrees.sound' has', same⟩

/-- Attributes of objects that agree agree. -/
theorem member (agrees : value.Agrees registry other) {attributes attributes' : List (String × Ty)}
    (has : value.ty? = some (.object attributes)) (has' : other.ty? = some (.object attributes'))
    {name : String} {ty ty' : Ty} (listed : attributes.lookup name = some ty)
    (listed' : attributes'.lookup name = some ty') (types : ty.Agrees registry ty') :
    (value.member name ty).Agrees registry (other.member name ty') :=
  .of_refined (Value.member_wellFormed agrees.sound has listed).1
    (Value.member_wellFormed agrees.sound' has' listed').1
    (agrees.refined.member agrees.sound agrees.sound' has has' listed listed' types.same)
    (agrees.symm.refined.member agrees.sound' agrees.sound has' has listed' listed types.symm.same)

end Value.Agrees

/-! ### Arguments and signatures -/

/-- Arguments that agree, position by position. -/
abbrev ArgumentsAgree (registry : Registry) : List Value → List Value → Prop :=
  List.Forall₂ (Value.Agrees registry)

namespace ArgumentsAgree

variable {arguments arguments' : List Value}

theorem symm (pairs : ArgumentsAgree registry arguments arguments') :
    ArgumentsAgree registry arguments' arguments :=
  List.Forall₂.flip (forall₂_imp pairs fun _ _ _ _ agrees => agrees.symm)

theorem same (pairs : ArgumentsAgree registry arguments arguments') :
    List.Forall₂ (fun argument argument' => argument.same argument' = true) arguments arguments' :=
  forall₂_imp pairs fun _ _ _ _ agrees => agrees.same

theorem sound (pairs : ArgumentsAgree registry arguments arguments') :
    ∀ argument ∈ arguments, argument.wellFormed registry = true :=
  forall₂_each pairs fun _ _ agrees => agrees.sound

theorem refined (pairs : ArgumentsAgree registry arguments arguments') :
    List.Forall₂ (Value.RefinedBy registry) arguments arguments' :=
  forall₂_imp pairs fun _ _ _ _ agrees => agrees.refined

theorem placeholder_mem (pairs : ArgumentsAgree registry arguments arguments')
    (placed : .placeholder ∈ arguments) : .placeholder ∈ arguments' := by
  obtain ⟨argument', member', agrees⟩ := forall₂_left pairs placed
  exact Value.placeholder_same.1 agrees.same ▸ member'

end ArgumentsAgree

namespace Signature.Agrees

variable {signature other : Signature}

theorem symm (agrees : signature.Agrees registry other) : other.Agrees registry signature :=
  have types : (Ty.function other).Agrees registry (.function signature) :=
    Ty.Agrees.symm ⟨agrees.sound, agrees.sound', agrees.same⟩
  ⟨types.sound, types.sound', types.same⟩

variable {index : Nat} {parameter parameter' : Parameter} {ty ty' : Ty} {arguments arguments' : List Value}

theorem accepts_of (agrees : signature.Agrees registry other)
    (found : signature.parameters[index]? = some parameter)
    (found' : other.parameters[index]? = some parameter') (types : ty.Agrees registry ty')
    (pairs : ArgumentsAgree registry arguments arguments')
    (accepted : parameter.constraint.accepts ty (arguments.map Value.ty?) = true) :
    parameter'.constraint.accepts ty' (arguments'.map Value.ty?) = true := by
  obtain ⟨_, is, same⟩ := rel_some (forall₂_getElem? (Signature.same_iff.1 agrees.same).1 index) found
  cases found'.symm.trans is
  exact Constraint.accepts_of_same (Parameter.same_iff.1 same).2.1
    (fun _ => Parameter.proper_constraint agrees.sound (List.mem_of_getElem? found))
    (fun _ => Parameter.proper_constraint agrees.sound' (List.mem_of_getElem? found')) types.same
    (Value.Foretells.types pairs.sound pairs.symm.sound
      (forall₂_imp pairs.refined fun _ _ _ _ => .of_refined)) accepted

/-- Of types that agree, both are accepted or neither is. -/
theorem accepts (agrees : signature.Agrees registry other)
    (found : signature.parameters[index]? = some parameter)
    (found' : other.parameters[index]? = some parameter') (types : ty.Agrees registry ty')
    (pairs : ArgumentsAgree registry arguments arguments') :
    parameter.constraint.accepts ty (arguments.map Value.ty?) =
      parameter'.constraint.accepts ty' (arguments'.map Value.ty?) :=
  Bool.eq_iff_iff.2 ⟨agrees.accepts_of found found' types pairs,
    agrees.symm.accepts_of found' found types.symm pairs.symm⟩

end Signature.Agrees

end Circuitry
