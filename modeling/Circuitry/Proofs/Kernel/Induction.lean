import Circuitry.Kernel.Basic

/-!
# Induction over types and values

Types mention values, because a parameter may have a default, and values mention types, so what holds of all
types and all values is shown for both at once. `Kernel.Cases` lists what has to be shown, with lists of
attributes, fields and parameters reduced to their members; `Cases.ty` and `Cases.value` conclude.
-/

set_option autoImplicit false

namespace Circuitry

/-- What a parameter mentions has a property: the type of its constraint and its default. -/
def Parameter.Mentions (onTy : Ty → Prop) (onValue : Value → Prop) (parameter : Parameter) : Prop :=
  (∀ ty, parameter.constraint = .exactly ty → onTy ty) ∧
    ∀ value, parameter.fallback = some value → onValue value

/-- What a payload mentions has a property: its fields, or the type that it is. -/
def Payload.Mentions (onTy : Ty → Prop) (onValue : Value → Prop) (payload : Payload) : Prop :=
  (∀ fields, payload = .object fields → ∀ field ∈ fields, onValue field.2) ∧
    ∀ ty, payload = .type ty → onTy ty

namespace Kernel

/-- The cases of an induction over types and values. -/
structure Cases (onTy : Ty → Prop) (onValue : Value → Prop) : Prop where
  bool : onTy .bool
  string : onTy .string
  number : ∀ dims, onTy (.number dims)
  object : ∀ attributes, (∀ entry ∈ attributes, onTy entry.2) → onTy (.object attributes)
  function : ∀ parameters returns,
    (∀ parameter ∈ parameters, parameter.Mentions onTy onValue) →
    (∀ ty, returns = .fixed ty → onTy ty) → onTy (.function ⟨parameters, returns⟩)
  type : onTy .type
  model : ∀ kind, onTy (.model kind)
  known : ∀ ty payload, onTy ty → payload.Mentions onTy onValue → onValue (.known ty payload)
  unknown : ∀ ty, onTy ty → onValue (.unknown ty)
  placeholder : onValue .placeholder

variable {onTy : Ty → Prop} {onValue : Value → Prop}

mutual

/-- What the cases show holds of every type. -/
theorem Cases.ty (cases : Cases onTy onValue) : (ty : Ty) → onTy ty
  | .bool => cases.bool
  | .string => cases.string
  | .number dims => cases.number dims
  | .object attributes => cases.object attributes (Cases.attributes cases attributes)
  | .function ⟨parameters, returns⟩ =>
    cases.function parameters returns (Cases.parameters cases parameters) (Cases.rule cases returns)
  | .type => cases.type
  | .model kind => cases.model kind
termination_by structural ty => ty

theorem Cases.attributes (cases : Cases onTy onValue) :
    (attributes : List (String × Ty)) → ∀ entry ∈ attributes, onTy entry.2
  | [], _, member => nomatch member
  | first :: rest, entry, member => by
    rcases List.mem_cons.1 member with same | later
    · exact same ▸ Cases.attribute cases first
    · exact Cases.attributes cases rest entry later
termination_by structural attributes => attributes

theorem Cases.attribute (cases : Cases onTy onValue) : (entry : String × Ty) → onTy entry.2
  | (_, ty) => Cases.ty cases ty
termination_by structural entry => entry

theorem Cases.parameters (cases : Cases onTy onValue) :
    (parameters : List Parameter) → ∀ parameter ∈ parameters, parameter.Mentions onTy onValue
  | [], _, member => nomatch member
  | first :: rest, parameter, member => by
    rcases List.mem_cons.1 member with same | later
    · exact same ▸ Cases.parameter cases first
    · exact Cases.parameters cases rest parameter later
termination_by structural parameters => parameters

theorem Cases.parameter (cases : Cases onTy onValue) :
    (parameter : Parameter) → parameter.Mentions onTy onValue
  | ⟨_, constraint, fallback⟩ => ⟨Cases.constraint cases constraint, Cases.fallback cases fallback⟩
termination_by structural parameter => parameter

theorem Cases.constraint (cases : Cases onTy onValue) :
    (constraint : Constraint) → ∀ ty, constraint = .exactly ty → onTy ty
  | .exactly ty, _, same => Constraint.exactly.inj same ▸ Cases.ty cases ty
  | .any, _, same => nomatch same
  | .anyNumber, _, same => nomatch same
  | .sameAs _, _, same => nomatch same
termination_by structural constraint => constraint

theorem Cases.fallback (cases : Cases onTy onValue) :
    (fallback : Option Value) → ∀ value, fallback = some value → onValue value
  | some value, _, same => Option.some.inj same ▸ Cases.value cases value
  | none, _, same => nomatch same
termination_by structural fallback => fallback

theorem Cases.rule (cases : Cases onTy onValue) :
    (rule : ResultRule) → ∀ ty, rule = .fixed ty → onTy ty
  | .fixed ty, _, same => ResultRule.fixed.inj same ▸ Cases.ty cases ty
  | .sameAs _, _, same => nomatch same
termination_by structural rule => rule

/-- What the cases show holds of every value. -/
theorem Cases.value (cases : Cases onTy onValue) : (value : Value) → onValue value
  | .known ty payload => cases.known ty payload (Cases.ty cases ty) (Cases.payload cases payload)
  | .unknown ty => cases.unknown ty (Cases.ty cases ty)
  | .placeholder => cases.placeholder
termination_by structural value => value

theorem Cases.payload (cases : Cases onTy onValue) :
    (payload : Payload) → payload.Mentions onTy onValue
  | .object fields =>
    ⟨fun _ same => Payload.object.inj same ▸ Cases.fields cases fields, fun _ same => (nomatch same)⟩
  | .type ty => ⟨fun _ same => (nomatch same), fun _ same => Payload.type.inj same ▸ Cases.ty cases ty⟩
  | .bool _ => ⟨fun _ same => (nomatch same), fun _ same => (nomatch same)⟩
  | .string _ => ⟨fun _ same => (nomatch same), fun _ same => (nomatch same)⟩
  | .quantity _ => ⟨fun _ same => (nomatch same), fun _ same => (nomatch same)⟩
  | .function _ => ⟨fun _ same => (nomatch same), fun _ same => (nomatch same)⟩
  | .model _ => ⟨fun _ same => (nomatch same), fun _ same => (nomatch same)⟩
termination_by structural payload => payload

theorem Cases.fields (cases : Cases onTy onValue) :
    (fields : List (String × Value)) → ∀ field ∈ fields, onValue field.2
  | [], _, member => nomatch member
  | first :: rest, field, member => by
    rcases List.mem_cons.1 member with same | later
    · exact same ▸ Cases.field cases first
    · exact Cases.fields cases rest field later
termination_by structural fields => fields

theorem Cases.field (cases : Cases onTy onValue) : (field : String × Value) → onValue field.2
  | (_, value) => Cases.value cases value
termination_by structural field => field

end

end Kernel

/-- Induction over values alone, through the fields of objects. -/
theorem Value.byFields {motive : Value → Prop}
    (known : ∀ ty payload, (∀ fields, payload = .object fields → ∀ field ∈ fields, motive field.2) →
      motive (.known ty payload))
    (unknown : ∀ ty, motive (.unknown ty)) (placeholder : motive .placeholder) (value : Value) : motive value :=
  have cases : Kernel.Cases (fun _ => True) motive :=
    { bool := trivial, string := trivial, number := fun _ => trivial, object := fun _ _ => trivial,
      function := fun _ _ _ _ => trivial, type := trivial, model := fun _ => trivial,
      known := fun ty payload _ ih => known ty payload ih.1, unknown := fun ty _ => unknown ty, placeholder }
  cases.value value

end Circuitry
