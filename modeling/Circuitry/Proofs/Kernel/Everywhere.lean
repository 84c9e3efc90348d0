import Circuitry.Proofs.Kernel.Induction

/-!
# Conditions at every depth

A condition on types and one on values, asked of a type or a value and of all that it mentions, at whatever
depth. The laws say what it comes to one level down, and that weaker conditions hold where stronger ones do.
-/

set_option autoImplicit false

namespace Circuitry

mutual

/-- Whether a condition on types and one on values hold of a type and of all that it mentions. -/
def Ty.everywhere (onTy : Ty → Bool) (onValue : Value → Bool) : Ty → Bool
  | .object attributes => onTy (.object attributes) && Ty.everywhereIn onTy onValue attributes
  | .function signature => onTy (.function signature) && signature.everywhere onTy onValue
  | ty => onTy ty
termination_by structural ty => ty

def Ty.everywhereIn (onTy : Ty → Bool) (onValue : Value → Bool) : List (String × Ty) → Bool
  | [] => true
  | entry :: rest => Ty.everywhereAt onTy onValue entry && Ty.everywhereIn onTy onValue rest
termination_by structural attributes => attributes

def Ty.everywhereAt (onTy : Ty → Bool) (onValue : Value → Bool) : String × Ty → Bool
  | (_, ty) => ty.everywhere onTy onValue
termination_by structural entry => entry

def Signature.everywhere (onTy : Ty → Bool) (onValue : Value → Bool) : Signature → Bool
  | ⟨parameters, returns⟩ =>
    Parameter.everywhereIn onTy onValue parameters && returns.everywhere onTy onValue
termination_by structural signature => signature

def Parameter.everywhereIn (onTy : Ty → Bool) (onValue : Value → Bool) : List Parameter → Bool
  | [] => true
  | parameter :: rest => parameter.everywhere onTy onValue && Parameter.everywhereIn onTy onValue rest
termination_by structural parameters => parameters

def Parameter.everywhere (onTy : Ty → Bool) (onValue : Value → Bool) : Parameter → Bool
  | ⟨_, constraint, fallback⟩ =>
    constraint.everywhere onTy onValue && Value.everywhereInFallback onTy onValue fallback
termination_by structural parameter => parameter

def Constraint.everywhere (onTy : Ty → Bool) (onValue : Value → Bool) : Constraint → Bool
  | .exactly ty => ty.everywhere onTy onValue
  | _ => true
termination_by structural constraint => constraint

def Value.everywhereInFallback (onTy : Ty → Bool) (onValue : Value → Bool) : Option Value → Bool
  | some value => value.everywhere onTy onValue
  | none => true
termination_by structural fallback => fallback

def ResultRule.everywhere (onTy : Ty → Bool) (onValue : Value → Bool) : ResultRule → Bool
  | .fixed ty => ty.everywhere onTy onValue
  | .sameAs _ => true
termination_by structural rule => rule

/-- Whether a condition on types and one on values hold of a value and of all that it mentions. -/
def Value.everywhere (onTy : Ty → Bool) (onValue : Value → Bool) : Value → Bool
  | .known ty payload =>
    onValue (.known ty payload) && ty.everywhere onTy onValue && payload.everywhere onTy onValue
  | .unknown ty => onValue (.unknown ty) && ty.everywhere onTy onValue
  | .placeholder => onValue .placeholder
termination_by structural value => value

def Payload.everywhere (onTy : Ty → Bool) (onValue : Value → Bool) : Payload → Bool
  | .object fields => Value.everywhereIn onTy onValue fields
  | .type ty => ty.everywhere onTy onValue
  | _ => true
termination_by structural payload => payload

def Value.everywhereIn (onTy : Ty → Bool) (onValue : Value → Bool) : List (String × Value) → Bool
  | [] => true
  | field :: rest => Value.everywhereAt onTy onValue field && Value.everywhereIn onTy onValue rest
termination_by structural fields => fields

def Value.everywhereAt (onTy : Ty → Bool) (onValue : Value → Bool) : String × Value → Bool
  | (_, value) => value.everywhere onTy onValue
termination_by structural field => field

end

variable {onTy : Ty → Bool} {onValue : Value → Bool}

/-! ### One level down -/

theorem Ty.everywhereIn_iff {attributes : List (String × Ty)} :
    Ty.everywhereIn onTy onValue attributes = true ↔
      ∀ entry ∈ attributes, entry.2.everywhere onTy onValue = true := by
  induction attributes with
  | nil => simp [Ty.everywhereIn]
  | cons head rest ih =>
    obtain ⟨name, ty⟩ := head
    simp [Ty.everywhereIn, Ty.everywhereAt, ih]

theorem Value.everywhereIn_iff {fields : List (String × Value)} :
    Value.everywhereIn onTy onValue fields = true ↔
      ∀ field ∈ fields, field.2.everywhere onTy onValue = true := by
  induction fields with
  | nil => simp [Value.everywhereIn]
  | cons head rest ih =>
    obtain ⟨name, value⟩ := head
    simp [Value.everywhereIn, Value.everywhereAt, ih]

theorem Parameter.everywhere_iff {parameter : Parameter} :
    parameter.everywhere onTy onValue = true ↔
      parameter.Mentions (fun ty => ty.everywhere onTy onValue = true)
        (fun value => value.everywhere onTy onValue = true) := by
  obtain ⟨name, constraint, fallback⟩ := parameter
  simp only [Parameter.everywhere, Bool.and_eq_true, Parameter.Mentions]
  cases constraint <;> cases fallback <;> simp [Constraint.everywhere, Value.everywhereInFallback]

theorem Parameter.everywhereIn_iff {parameters : List Parameter} :
    Parameter.everywhereIn onTy onValue parameters = true ↔
      ∀ parameter ∈ parameters, parameter.everywhere onTy onValue = true := by
  induction parameters with
  | nil => simp [Parameter.everywhereIn]
  | cons head rest ih => simp [Parameter.everywhereIn, ih]

theorem ResultRule.everywhere_iff {rule : ResultRule} :
    rule.everywhere onTy onValue = true ↔
      ∀ ty, rule = .fixed ty → ty.everywhere onTy onValue = true := by
  cases rule <;> simp [ResultRule.everywhere]

theorem Payload.everywhere_iff {payload : Payload} :
    payload.everywhere onTy onValue = true ↔
      payload.Mentions (fun ty => ty.everywhere onTy onValue = true)
        (fun value => value.everywhere onTy onValue = true) := by
  cases payload <;> simp [Payload.everywhere, Payload.Mentions, Value.everywhereIn_iff]

theorem Ty.everywhere_object {attributes : List (String × Ty)} :
    (Ty.object attributes).everywhere onTy onValue = true ↔
      onTy (.object attributes) = true ∧
        ∀ entry ∈ attributes, entry.2.everywhere onTy onValue = true := by
  simp [Ty.everywhere, Ty.everywhereIn_iff]

theorem Ty.everywhere_function {signature : Signature} :
    (Ty.function signature).everywhere onTy onValue = true ↔
      onTy (.function signature) = true ∧
        (∀ parameter ∈ signature.parameters, parameter.everywhere onTy onValue = true) ∧
          signature.returns.everywhere onTy onValue = true := by
  obtain ⟨parameters, returns⟩ := signature
  simp [Ty.everywhere, Signature.everywhere, Parameter.everywhereIn_iff]

theorem Value.everywhere_known {ty : Ty} {payload : Payload} :
    (Value.known ty payload).everywhere onTy onValue = true ↔
      onValue (.known ty payload) = true ∧ ty.everywhere onTy onValue = true ∧
        payload.everywhere onTy onValue = true := by
  simp [Value.everywhere, and_assoc]

theorem Value.everywhere_unknown {ty : Ty} :
    (Value.unknown ty).everywhere onTy onValue = true ↔
      onValue (.unknown ty) = true ∧ ty.everywhere onTy onValue = true := by
  simp [Value.everywhere]

/-! ### Weaker conditions -/

theorem Kernel.everywhere_imp {onTy onTy' : Ty → Bool} {onValue onValue' : Value → Bool}
    (weakerTy : ∀ ty, onTy ty = true → onTy' ty = true)
    (weakerValue : ∀ value, onValue value = true → onValue' value = true) :
    Kernel.Cases
      (fun ty => ty.everywhere onTy onValue = true → ty.everywhere onTy' onValue' = true)
      (fun value => value.everywhere onTy onValue = true → value.everywhere onTy' onValue' = true) where
  bool := weakerTy _
  string := weakerTy _
  number _ := weakerTy _
  type := weakerTy _
  model _ := weakerTy _
  object attributes ih holds := by
    rw [Ty.everywhere_object] at holds ⊢
    exact ⟨weakerTy _ holds.1, fun entry member => ih entry member (holds.2 entry member)⟩
  function parameters returns ihParameters ihReturns holds := by
    rw [Ty.everywhere_function] at holds ⊢
    obtain ⟨here, inParameters, inReturns⟩ := holds
    refine ⟨weakerTy _ here, fun parameter member => ?_, ?_⟩
    · have mentioned := Parameter.everywhere_iff.1 (inParameters parameter member)
      obtain ⟨ihTy, ihValue⟩ := ihParameters parameter member
      exact Parameter.everywhere_iff.2
        ⟨fun ty same => ihTy ty same (mentioned.1 ty same),
          fun value same => ihValue value same (mentioned.2 value same)⟩
    · rw [ResultRule.everywhere_iff] at inReturns ⊢
      exact fun ty same => ihReturns ty same (inReturns ty same)
  known ty payload ihTy ihPayload holds := by
    rw [Value.everywhere_known] at holds ⊢
    obtain ⟨here, inTy, inPayload⟩ := holds
    rw [Payload.everywhere_iff] at inPayload ⊢
    exact ⟨weakerValue _ here, ihTy inTy,
      fun fields same field member =>
        ihPayload.1 fields same field member (inPayload.1 fields same field member),
      fun inner same => ihPayload.2 inner same (inPayload.2 inner same)⟩
  unknown ty ihTy holds := by
    rw [Value.everywhere_unknown] at holds ⊢
    exact ⟨weakerValue _ holds.1, ihTy holds.2⟩
  placeholder := weakerValue _

end Circuitry
