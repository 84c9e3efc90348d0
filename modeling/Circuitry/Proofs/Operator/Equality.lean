import Circuitry.Proofs.Operator.Refinement

/-!
# Equality is exact

Equality in the language has three answers. It is true of values that say everything and are the same, and of
no others; and where it is false, the values stay apart however their unknowns are filled in. `CompletedBy`
fills in all of them, in the value itself or in its fields at any depth. The types of values, with the
defaults that signatures have, are not filled in.
-/

set_option autoImplicit false

namespace Circuitry

variable {registry : Registry}

/-! ### Completions -/

mutual

/-- Every unknown in a value is replaced by a known well-formed value of its type. -/
inductive Value.CompletedBy (registry : Registry) : Value → Value → Prop where
  | unknown {ty : Ty} {value : Value} (known : value.isKnown = true)
    (sound : value.wellFormed registry = true) (has : value.hasType ty = true) :
    Value.CompletedBy registry (.unknown ty) value
  | object {ty : Ty} {fields others : List (String × Value)}
    (inside : Value.FieldsCompletedBy registry fields others) :
    Value.CompletedBy registry (.known ty (.object fields)) (.known ty (.object others))
  | plain {ty : Ty} {payload : Payload} (plain : ∀ fields, payload ≠ .object fields) :
    Value.CompletedBy registry (.known ty payload) (.known ty payload)

/-- Every unknown in a record of fields is replaced by a known well-formed value of its type. -/
inductive Value.FieldsCompletedBy (registry : Registry) :
    List (String × Value) → List (String × Value) → Prop where
  | nil : Value.FieldsCompletedBy registry [] []
  | cons {name : String} {value other : Value} {rest others : List (String × Value)}
    (first : Value.CompletedBy registry value other) (later : Value.FieldsCompletedBy registry rest others) :
    Value.FieldsCompletedBy registry ((name, value) :: rest) ((name, other) :: others)

end

theorem Value.RefinedBy.hasType {value other : Value} (refined : value.RefinedBy registry other) {ty : Ty}
    (has : value.hasType ty = true) : other.hasType ty = true := by
  obtain ⟨found, is, same⟩ := Value.hasType_iff.1 has
  obtain ⟨found', is', same'⟩ := refined.ty is
  exact Value.hasType_iff.2 ⟨found', is', Ty.same_trans same same'⟩

/-- An object whose fields are refined by well-formed ones, in their order, is refined by a well-formed one. -/
theorem Value.RefinedBy.fields {ty : Ty} {fields others : List (String × Value)}
    (sound : (Value.known ty (.object fields)).wellFormed registry = true)
    (aligned : Record.Aligned
      (fun value other => other.wellFormed registry = true ∧ value.RefinedBy registry other) fields others) :
    (Value.known ty (.object others)).wellFormed registry = true ∧
      (Value.known ty (.object fields)).RefinedBy registry (.known ty (.object others)) := by
  obtain ⟨fits, soundTy, -⟩ := Value.wellFormed_known.1 sound
  obtain ⟨attributes, rfl⟩ := Payload.attributes_of_fits fits
  obtain ⟨distinct, typed⟩ := Payload.fits_object.1 fits
  have matching := aligned.matches_of_nodup distinct
  constructor
  · refine Value.wellFormed_known.2 ⟨Payload.fits_object.2 ⟨aligned.names_eq ▸ distinct, ?_⟩, soundTy, ?_⟩
    · exact typed.trans matching fun _ _ _ _ has pair => pair.2.hasType has
    · refine ⟨fun _ same => ?_, fun _ same => by cases same⟩
      cases same
      exact forall₂_each aligned.flip fun _ _ pair => pair.2.1
  · exact .object (Ty.same_refl (Ty.proper_of_wellFormed soundTy)) (matching.imp fun _ _ _ pair => pair.2)

mutual

/-- A completion of a well-formed value is well-formed, and only fills in what is unknown. -/
theorem Value.CompletedBy.refined {value other : Value} : value.CompletedBy registry other →
    value.wellFormed registry = true → other.wellFormed registry = true ∧ value.RefinedBy registry other
  | .unknown _ sound has, _ => ⟨sound, .unknown sound has⟩
  | .object inside, sound => Value.RefinedBy.fields sound
    (Value.FieldsCompletedBy.refined inside ((Value.wellFormed_known.1 sound).2.2.1 _ rfl))
  | .plain _, sound => ⟨sound, .refl sound⟩

theorem Value.FieldsCompletedBy.refined {fields others : List (String × Value)} :
    Value.FieldsCompletedBy registry fields others →
    (∀ field ∈ fields, field.2.wellFormed registry = true) →
    Record.Aligned (fun value other => other.wellFormed registry = true ∧ value.RefinedBy registry other)
      fields others
  | .nil, _ => .nil
  | .cons first later, sound =>
    .cons ⟨rfl, Value.CompletedBy.refined first (sound _ (by simp))⟩
      (Value.FieldsCompletedBy.refined later fun field member => sound field (List.mem_cons_of_mem _ member))

end

/-! ### Exactness -/

variable {a b : Value}

/-- Only values that say everything are decided to be equal. -/
theorem Value.Decides.isDecided {answer : Bool} (decides : Value.Decides a b answer) (isEqual : answer = true) :
    a.isDecided = true := by
  induction decides with
  | types has has' differ => cases isEqual
  | equal sameTy matching values ih =>
    refine Value.allDecided_iff.2 fun field member => ?_
    obtain ⟨other, found, -⟩ := matching.2 field member
    exact ih field.1 field.2 other member (Record.mem_of_lookup found) rfl
  | unequal sameTy matching member member' differ ih => cases isEqual
  | @payloads ty ty' p q sameTy plain plain' =>
    cases p with
    | object fields => exact absurd rfl (plain fields)
    | _ => rfl

theorem Value.decideEqual_of_same (decided : a.isDecided = true) (same : a.same b = true) :
    a.decideEqual b = some true := by
  induction a using Value.byFields generalizing b with
  | known ty p ih =>
    obtain ⟨ty', q, rfl, sameTy, samePayload⟩ := Value.known_same same
    simp only [Value.decideEqual, sameTy, if_true]
    by_cases object : ∃ fields, p = .object fields
    · obtain ⟨fields, rfl⟩ := object
      cases q with
      | object others =>
        have all : ∀ field ∈ fields, field.2.isDecided = true := Value.allDecided_iff.1 decided
        refine Value.fieldsEqual_eq_true.2 fun field member => ?_
        obtain ⟨other, found, sameField⟩ := (Payload.same_object.1 samePayload).2 field member
        exact (Value.fieldEqual_of_lookup found).trans (ih fields rfl field member (all field member) sameField)
      | _ => simp [Payload.same] at samePayload
    · rw [Payload.decideEqual_of_left (not_exists.1 object), samePayload]
  | unknown ty | placeholder => cases decided

theorem Value.decideEqual_comm (soundA : a.wellFormed registry = true) (soundB : b.wellFormed registry = true) :
    a.decideEqual b = b.decideEqual a := by
  refine Option.ext fun answer => ?_
  constructor
  · intro decided
    exact ((decides_of_decideEqual soundA soundB decided).symm soundA soundB).decideEqual soundA
  · intro decided
    exact ((decides_of_decideEqual soundB soundA decided).symm soundB soundA).decideEqual soundB

theorem Value.decideEqual_eq_true (soundA : a.wellFormed registry = true)
    (soundB : b.wellFormed registry = true) :
    a.decideEqual b = some true ↔ a.isDecided = true ∧ b.isDecided = true ∧ a.same b = true := by
  constructor
  · intro decided
    have decides := decides_of_decideEqual soundA soundB decided
    exact ⟨decides.isDecided rfl, (decides.symm soundA soundB).isDecided rfl, decides.same soundB⟩
  · intro holds
    exact decideEqual_of_same holds.1 holds.2.2

/-- Values that are decided not to be equal stay apart however they are completed. -/
theorem Value.apart_of_decideEqual (soundA : a.wellFormed registry = true)
    (soundB : b.wellFormed registry = true) (decided : a.decideEqual b = some false) {a' b' : Value}
    (completedA : a.CompletedBy registry a') (completedB : b.CompletedBy registry b') :
    a'.same b' = false := by
  obtain ⟨soundA', refinedA⟩ := completedA.refined soundA
  obtain ⟨soundB', refinedB⟩ := completedB.refined soundB
  have decided' := decideEqual_refined soundA soundB soundA' soundB' refinedA refinedB decided
  exact (decides_of_decideEqual soundA' soundB' decided').same soundB'

theorem Value.ofAnswer_eq_ofBool {answer : Option Bool} {b : Bool} :
    Value.ofAnswer answer = .ofBool b ↔ answer = some b := by
  cases answer <;> simp [Value.ofAnswer, Value.ofBool]

/-- Equality of values is the same from either side; it is true exactly of values that say everything and are the
same; and where it is false, no completions of the values are the same. -/
theorem Value.equal_exact (soundA : a.wellFormed registry = true) (soundB : b.wellFormed registry = true)
    (typedA : a ≠ .placeholder) (typedB : b ≠ .placeholder) :
    a.equal b = b.equal a ∧
      (a.equal b = .ofBool true ↔ a.isDecided = true ∧ b.isDecided = true ∧ a.same b = true) ∧
      (a.equal b = .ofBool false →
        ∀ a' b', a.CompletedBy registry a' → b.CompletedBy registry b' → a'.same b' = false) := by
  rw [equal_of_typed typedA typedB, equal_of_typed typedB typedA]
  refine ⟨?_, ?_, ?_⟩
  · rw [decideEqual_comm soundA soundB]
  · rw [ofAnswer_eq_ofBool, decideEqual_eq_true soundA soundB]
  · intro differ a' b' completedA completedB
    exact apart_of_decideEqual soundA soundB (ofAnswer_eq_ofBool.1 differ) completedA completedB

namespace Lamps

def lamp : Ty := .object [("name", .string), ("lit", .bool)]

def led : Value := .known lamp (.object [("name", .ofString "led"), ("lit", .unknown .bool)])

def bulb : Value := .known lamp (.object [("lit", .unknown .bool), ("name", .ofString "bulb")])

def hall : Value :=
  .known (.object [("lamp", lamp), ("dim", .bool)]) (.object [("dim", .unknown .bool), ("lamp", led)])

def stairs : Value :=
  .known (.object [("dim", .bool), ("lamp", lamp)]) (.object [("lamp", bulb), ("dim", .ofBool true)])

/-- A host that has made nothing. -/
def host : Registry := ⟨fun _ _ => false, fun _ _ => false⟩

end Lamps

/-- Two rooms with lamps of different names, of which not all is known: they differ, and will. -/
theorem Value.rooms_apart :
    Lamps.stairs.equal Lamps.hall = .ofBool false ∧
      ∀ a b, Lamps.hall.CompletedBy Lamps.host a → Lamps.stairs.CompletedBy Lamps.host b →
        a.same b = false := by
  have differ : Lamps.hall.equal Lamps.stairs = .ofBool false := rfl
  obtain ⟨swapped, -, apart⟩ := @Value.equal_exact Lamps.host Lamps.hall Lamps.stairs rfl rfl nofun nofun
  exact ⟨swapped ▸ differ, apart differ⟩

end Circuitry
