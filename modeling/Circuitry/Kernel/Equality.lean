import Circuitry.Kernel.Basic

/-!
# Sameness and equality

Two types are the same when they are built alike; the order of attributes does not matter, models are told
apart by identity, and defaults of parameters count. Two values are the same when they are known alike:
quantities by base value, functions and host objects by identity, and an unknown only to an unknown of the
same type.

Equality in the language is three-valued. It is undecided as long as an unknown could still decide it, and
a definite difference between attributes decides it whatever else is unknown.
-/

set_option autoImplicit false

namespace Circuitry

mutual

/-- Whether two types are the same. -/
def Ty.same : Ty → Ty → Bool
  | .bool, .bool => true
  | .string, .string => true
  | .number a, .number b => a = b
  | .object as, .object bs => as.length = bs.length && Ty.allIn as bs
  | .function f, .function g => f.same g
  | .type, .type => true
  | .model m, .model n => m.index = n.index
  | _, _ => false
termination_by structural ty => ty

/-- Whether every attribute occurs among others with the same type. -/
def Ty.allIn : List (String × Ty) → List (String × Ty) → Bool
  | [], _ => true
  | entry :: rest, others => Ty.isIn entry others && Ty.allIn rest others
termination_by structural attributes => attributes

/-- Whether an attribute occurs among others with the same type. -/
def Ty.isIn : String × Ty → List (String × Ty) → Bool
  | (name, ty), others =>
    match others.lookup name with
    | some other => ty.same other
    | none => false
termination_by structural entry => entry

/-- Whether two signatures are the same, parameter by parameter. -/
def Signature.same : Signature → Signature → Bool
  | ⟨ps, r⟩, ⟨qs, s⟩ => Parameter.allSame ps qs && r.same s
termination_by structural signature => signature

/-- Whether two parameter lists are the same. -/
def Parameter.allSame : List Parameter → List Parameter → Bool
  | [], [] => true
  | p :: ps, q :: qs => p.same q && Parameter.allSame ps qs
  | _, _ => false
termination_by structural parameters => parameters

/-- Whether two parameters have the same name, constraint and default. -/
def Parameter.same : Parameter → Parameter → Bool
  | ⟨name, constraint, fallback⟩, ⟨other, constraint', fallback'⟩ =>
    name = other && constraint.same constraint' && Value.sameFallback fallback fallback'
termination_by structural parameter => parameter

/-- Whether two defaults are the same or both missing. -/
def Value.sameFallback : Option Value → Option Value → Bool
  | none, none => true
  | some v, some w => v.same w
  | _, _ => false
termination_by structural fallback => fallback

/-- Whether two constraints are the same. -/
def Constraint.same : Constraint → Constraint → Bool
  | .any, .any => true
  | .anyNumber, .anyNumber => true
  | .exactly a, .exactly b => a.same b
  | .sameAs i, .sameAs j => i = j
  | _, _ => false
termination_by structural constraint => constraint

/-- Whether two result rules are the same. -/
def ResultRule.same : ResultRule → ResultRule → Bool
  | .fixed a, .fixed b => a.same b
  | .sameAs i, .sameAs j => i = j
  | _, _ => false
termination_by structural rule => rule

/-- Whether two values are the same. -/
def Value.same : Value → Value → Bool
  | .placeholder, .placeholder => true
  | .unknown a, .unknown b => a.same b
  | .known a p, .known b q => a.same b && p.same q
  | _, _ => false
termination_by structural value => value

/-- Whether two payloads are the same. -/
def Payload.same : Payload → Payload → Bool
  | .bool a, .bool b => a = b
  | .string a, .string b => a = b
  | .quantity a, .quantity b => a.equivalent b
  | .object as, .object bs => as.length = bs.length && Value.allIn as bs
  | .function f, .function g => f = g
  | .type a, .type b => a.same b
  | .model a, .model b => a = b
  | _, _ => false
termination_by structural payload => payload

/-- Whether every field occurs among others with the same value. -/
def Value.allIn : List (String × Value) → List (String × Value) → Bool
  | [], _ => true
  | field :: rest, others => Value.isIn field others && Value.allIn rest others
termination_by structural fields => fields

/-- Whether a field occurs among others with the same value. -/
def Value.isIn : String × Value → List (String × Value) → Bool
  | (name, value), others =>
    match others.lookup name with
    | some other => value.same other
    | none => false
termination_by structural field => field

end

mutual

/-- Whether two values are equal, if that is decided. Two known values of the same type are compared by
payload; otherwise only a difference of types decides, and against a placeholder nothing does. -/
def Value.decideEqual : Value → Value → Option Bool
  | .known a payload, .known b payload' =>
    if a.same b then payload.decideEqual payload' else some false
  | value, other =>
    match value.ty?, other.ty? with
    | some a, some b => if a.same b then none else some false
    | _, _ => none
termination_by structural value => value

/-- Whether two payloads are equal, if that is decided. -/
def Payload.decideEqual : Payload → Payload → Option Bool
  | .object fields, .object others => Value.fieldsEqual fields others
  | payload, other => some (payload.same other)
termination_by structural payload => payload

/-- Whether all fields equal those of another object, if that is decided: a difference anywhere wins over
a field that is undecided. -/
def Value.fieldsEqual : List (String × Value) → List (String × Value) → Option Bool
  | [], _ => some true
  | field :: rest, others =>
    match Value.fieldEqual field others with
    | some false => some false
    | some true => Value.fieldsEqual rest others
    | none => (Value.fieldsEqual rest others).filter (! ·)
termination_by structural fields => fields

/-- Whether a field equals the one of the same name, if that is decided; a missing field differs. -/
def Value.fieldEqual : String × Value → List (String × Value) → Option Bool
  | (name, value), others =>
    match others.lookup name with
    | some other => value.decideEqual other
    | none => some false
termination_by structural field => field

end

/-- Equality in the language. -/
def Value.equal (a b : Value) : Value :=
  if a.isPlaceholder || b.isPlaceholder then .placeholder
  else
    match a.decideEqual b with
    | some answer => .ofBool answer
    | none => .unknown .bool

end Circuitry
