import Circuitry.Proofs.Kernel.Decision

/-!
# Filling in what is unknown

A value is refined by another that says at least as much: the two are the same, or an unknown is replaced by
any well-formed value of its type, or the fields of an object are refined one by one. Types do not change
under refinement, what is known stays known, and an equality that is decided stays decided, with the same
answer.
-/

set_option autoImplicit false

namespace Circuitry

mutual

/-- What replaces a value when more is known. -/
def Value.RefinedBy (registry : Registry) : Value → Value → Prop
  | .known ty payload, other =>
    (Value.known ty payload).same other = true ∨
      ∃ ty' fields, other = .known ty' (.object fields) ∧ ty.same ty' = true ∧
        payload.FieldsRefinedBy registry fields
  | .unknown ty, other =>
    (Value.unknown ty).same other = true ∨
      other.wellFormed registry = true ∧ other.hasType ty = true
  | .placeholder, other => Value.placeholder.same other = true
termination_by structural value => value

/-- A payload is an object whose fields are refined by other ones. -/
def Payload.FieldsRefinedBy (registry : Registry) : Payload → List (String × Value) → Prop
  | .object fields, others => fields.length = others.length ∧ Value.AllRefinedBy registry fields others
  | _, _ => False
termination_by structural payload => payload

/-- Every field is refined by the one of the same name. -/
def Value.AllRefinedBy (registry : Registry) : List (String × Value) → List (String × Value) → Prop
  | [], _ => True
  | field :: rest, others =>
    Value.FieldRefinedBy registry field others ∧ Value.AllRefinedBy registry rest others
termination_by structural fields => fields

/-- A field is refined by the one of the same name. -/
def Value.FieldRefinedBy (registry : Registry) : String × Value → List (String × Value) → Prop
  | (name, value), others => ∃ other, others.lookup name = some other ∧ value.RefinedBy registry other
termination_by structural field => field

end

variable {registry : Registry}

/-! ### One level down -/

theorem Value.allRefinedBy_iff {fields others : List (String × Value)} :
    Value.AllRefinedBy registry fields others ↔
      ∀ field ∈ fields, ∃ other, others.lookup field.1 = some other ∧ field.2.RefinedBy registry other := by
  induction fields with
  | nil => simp [Value.AllRefinedBy]
  | cons head rest ih =>
    obtain ⟨name, value⟩ := head
    simp [Value.AllRefinedBy, Value.FieldRefinedBy, ih]

theorem Value.RefinedBy.of_same {value other : Value} (same : value.same other = true) :
    value.RefinedBy registry other := by
  cases value with
  | known ty payload => exact Or.inl same
  | unknown ty => exact Or.inl same
  | placeholder => exact same

theorem Value.RefinedBy.refl {value : Value} (sound : value.wellFormed registry = true) :
    value.RefinedBy registry value :=
  .of_same (Value.same_refl (Value.proper_of_wellFormed sound))

theorem Value.RefinedBy.unknown {ty : Ty} {value : Value} (sound : value.wellFormed registry = true)
    (has : value.hasType ty = true) : (Value.unknown ty).RefinedBy registry value := Or.inr ⟨sound, has⟩

theorem Value.RefinedBy.object {ty ty' : Ty} {fields others : List (String × Value)}
    (sameTy : ty.same ty' = true) (matching : Record.Matches (Value.RefinedBy registry) fields others) :
    (Value.known ty (.object fields)).RefinedBy registry (.known ty' (.object others)) :=
  Or.inr ⟨ty', others, rfl, sameTy, matching.1, Value.allRefinedBy_iff.2 matching.2⟩

/-- What replaces a payload when more is known: only objects change. -/
def Payload.RefinedBy (registry : Registry) (payload other : Payload) : Prop :=
  match payload with
  | .object fields =>
    ∃ others, other = .object others ∧ Record.Matches (Value.RefinedBy registry) fields others
  | _ => payload.same other = true

theorem Payload.RefinedBy.of_same {payload other : Payload} (same : payload.same other = true) :
    payload.RefinedBy registry other := by
  cases payload with
  | object fields =>
    cases other with
    | object others =>
      exact ⟨others, rfl, (Payload.same_object.1 same).imp fun _ _ _ => Value.RefinedBy.of_same⟩
    | _ => simp [Payload.same] at same
  | _ => exact same

/-- A known value is refined by known values of its type, whose payload refines its own. -/
theorem Value.RefinedBy.known {ty : Ty} {payload : Payload} {other : Value}
    (refined : (Value.known ty payload).RefinedBy registry other) :
    ∃ ty' payload', other = .known ty' payload' ∧ ty.same ty' = true ∧
      payload.RefinedBy registry payload' := by
  rcases refined with same | ⟨ty', fields', rfl, sameTy, fields⟩
  · obtain ⟨ty', payload', rfl, sameTy, samePayload⟩ := Value.known_same same
    exact ⟨ty', payload', rfl, sameTy, .of_same samePayload⟩
  · cases payload with
    | object others =>
      exact ⟨ty', .object fields', rfl, sameTy, fields', rfl, fields.1,
        Value.allRefinedBy_iff.1 fields.2⟩
    | _ => exact fields.elim

@[simp] theorem Value.placeholder_refinedBy {other : Value} :
    Value.placeholder.RefinedBy registry other ↔ other = .placeholder :=
  Value.placeholder_same

/-! ### Types -/

/-- Refinement does not change the type. -/
theorem Value.RefinedBy.ty {value other : Value} (refined : value.RefinedBy registry other) {ty : Ty}
    (has : value.ty? = some ty) : ∃ ty', other.ty? = some ty' ∧ ty.same ty' = true := by
  cases value with
  | known ty' payload =>
    cases has
    obtain ⟨ty', payload', rfl, sameTy, -⟩ := refined.known
    exact ⟨ty', rfl, sameTy⟩
  | unknown ty' =>
    cases has
    rcases refined with same | ⟨-, has⟩
    · obtain ⟨ty', rfl, sameTy⟩ := Value.unknown_same same
      exact ⟨ty', rfl, sameTy⟩
    · exact Value.hasType_iff.1 has
  | placeholder => cases has

theorem Value.RefinedBy.ne_placeholder {value other : Value} (refined : value.RefinedBy registry other)
    (typed : value ≠ .placeholder) : other ≠ .placeholder := by
  obtain ⟨ty, has⟩ : ∃ ty, value.ty? = some ty := by
    cases value with
    | placeholder => exact absurd rfl typed
    | known ty _ | unknown ty => exact ⟨ty, rfl⟩
  obtain ⟨ty', has', -⟩ := refined.ty has
  rintro rfl
  cases has'

/-- What is unknown after refinement was so before. -/
theorem Value.RefinedBy.of_unknown {value : Value} {ty' : Ty}
    (refined : value.RefinedBy registry (.unknown ty')) : ∃ ty, value = .unknown ty ∧ ty.same ty' = true := by
  cases value with
  | known ty payload =>
    obtain ⟨_, _, same, -⟩ := refined.known
    cases same
  | unknown ty =>
    obtain ⟨found, has, sameTy⟩ := refined.ty rfl
    cases has
    exact ⟨ty, rfl, sameTy⟩
  | placeholder => cases Value.placeholder_refinedBy.1 refined

theorem Value.isUnknown_of_refined {value other : Value} (refined : value.RefinedBy registry other)
    (unknown : other.isUnknown = true) : value.isUnknown = true := by
  cases other with
  | unknown ty' =>
    obtain ⟨ty, rfl, -⟩ := refined.of_unknown
    rfl
  | _ => cases unknown

/-- What is undecided in a later call was so in the earlier one. -/
theorem Value.undecided_of_refined {callee callee' : Value} {arguments arguments' : List Value}
    (refined : callee.RefinedBy registry callee')
    (refinedArguments : List.Forall₂ (Value.RefinedBy registry) arguments arguments')
    (undecided : callee'.isUnknown = true ∨ ∃ argument ∈ arguments', argument.isUnknown = true) :
    callee.isUnknown = true ∨ ∃ argument ∈ arguments, argument.isUnknown = true := by
  rcases undecided with unknown | ⟨argument', member', unknown⟩
  · exact .inl (isUnknown_of_refined refined unknown)
  · obtain ⟨argument, member, pair⟩ := forall₂_left refinedArguments.flip member'
    exact .inr ⟨argument, member, isUnknown_of_refined pair unknown⟩

/-! ### Equality -/

theorem Payload.RefinedBy.plain {payload other : Payload} (refined : payload.RefinedBy registry other)
    (plain : ∀ fields, payload ≠ .object fields) :
    payload.same other = true ∧ ∀ fields, other ≠ .object fields := by
  cases payload with
  | object fields => exact absurd rfl (plain fields)
  | _ =>
    have same : Payload.same _ other = true := refined
    refine ⟨same, ?_⟩
    rintro fields rfl
    simp [Payload.same] at same

/-- Refinement does not change whether types are the same. -/
theorem Value.RefinedBy.sameTy {a b a' b' : Value} {ty ty' tyA tyB : Ty} (soundA : a.wellFormed registry = true)
    (soundB : b.wellFormed registry = true) (soundA' : a'.wellFormed registry = true)
    (soundB' : b'.wellFormed registry = true) (refinedA : a.RefinedBy registry a')
    (refinedB : b.RefinedBy registry b') (has : a.ty? = some ty) (has' : b.ty? = some ty')
    (hasA : a'.ty? = some tyA) (hasB : b'.ty? = some tyB) : tyA.same tyB = ty.same ty' := by
  obtain ⟨_, isA, sameA⟩ := refinedA.ty has
  obtain ⟨_, isB, sameB⟩ := refinedB.ty has'
  cases hasA.symm.trans isA
  cases hasB.symm.trans isB
  have proper {value : Value} {ty : Ty} (sound : value.wellFormed registry = true) (is : value.ty? = some ty) :
      ty.proper = true := Ty.proper_of_wellFormed (Value.wellFormed_ty sound is)
  exact (Ty.same_congr (proper soundA has) (proper soundA' hasA) (proper soundB has') (proper soundB' hasB)
    sameA sameB).symm

/-- The fields of an object were refined to those of another, looked at from there. -/
theorem Value.fields_before {ty ty' : Ty} {fields fields' : List (String × Value)}
    (refined : Record.Matches (Value.RefinedBy registry) fields fields')
    (sound : (Value.known ty (.object fields)).wellFormed registry = true)
    (sound' : (Value.known ty' (.object fields')).wellFormed registry = true) :
    Record.Matches (fun value' value => value.RefinedBy registry value') fields' fields :=
  refined.symm (Value.names_nodup sound) (Value.names_nodup sound') fun _ _ _ _ holds => holds

/-- Objects with the same names still have the same names when more is known of their fields. -/
theorem Value.match_of_refined {ty ty' : Ty} {fields fields' others others' : List (String × Value)}
    (refined : Record.Matches (Value.RefinedBy registry) fields fields')
    (refinedOthers : Record.Matches (Value.RefinedBy registry) others others')
    (sound : (Value.known ty (.object fields)).wellFormed registry = true)
    (sound' : (Value.known ty' (.object fields')).wellFormed registry = true)
    (matching : Record.Matches (fun _ _ => True) fields others) :
    Record.Matches (fun _ _ => True) fields' others' := by
  have across : Record.Matches (fun _ _ => True) fields' others :=
    (Value.fields_before refined sound sound').trans matching fun _ _ _ _ _ _ => trivial
  exact across.trans refinedOthers fun _ _ _ _ _ _ => trivial

/-- What decides an equality still decides it when more is known of either side. -/
theorem Value.Decides.refined {a b a' b' : Value} {answer : Bool} (decides : Value.Decides a b answer)
    (soundA : a.wellFormed registry = true) (soundB : b.wellFormed registry = true)
    (soundA' : a'.wellFormed registry = true) (soundB' : b'.wellFormed registry = true)
    (refinedA : a.RefinedBy registry a') (refinedB : b.RefinedBy registry b') :
    Value.Decides a' b' answer := by
  induction decides generalizing a' b' with
  | types has has' differ =>
    obtain ⟨tyA, hasA, -⟩ := refinedA.ty has
    obtain ⟨tyB, hasB, -⟩ := refinedB.ty has'
    have sameTy := refinedA.sameTy soundA soundB soundA' soundB' refinedB has has' hasA hasB
    exact .types hasA hasB (sameTy.trans differ)
  | equal sameTy matching values ih =>
    obtain ⟨tyA, _, rfl, -, fields', rfl, refinedFields⟩ := refinedA.known
    obtain ⟨tyB, _, rfl, -, others', rfl, refinedOthers⟩ := refinedB.known
    have sameTy' := refinedA.sameTy soundA soundB soundA' soundB' refinedB rfl rfl rfl rfl
    have matching' := Value.match_of_refined refinedFields refinedOthers soundA soundA' matching
    refine .equal (sameTy'.trans sameTy) matching' ?_
    intro name value' other' member' memberOther'
    obtain ⟨value, found, refinedValue⟩ := (Value.fields_before refinedFields soundA soundA').2 _ member'
    obtain ⟨other, foundOther, refinedOther⟩ := (Value.fields_before refinedOthers soundB soundB').2 _ memberOther'
    have member := Record.mem_of_lookup found
    have memberOther := Record.mem_of_lookup foundOther
    exact ih name value other member memberOther (Value.wellFormed_field soundA member)
      (Value.wellFormed_field soundB memberOther) (Value.wellFormed_field soundA' member')
      (Value.wellFormed_field soundB' memberOther') refinedValue refinedOther
  | unequal sameTy matching member memberOther differ ih =>
    obtain ⟨tyA, _, rfl, -, fields', rfl, refinedFields⟩ := refinedA.known
    obtain ⟨tyB, _, rfl, -, others', rfl, refinedOthers⟩ := refinedB.known
    have sameTy' := refinedA.sameTy soundA soundB soundA' soundB' refinedB rfl rfl rfl rfl
    have matching' := Value.match_of_refined refinedFields refinedOthers soundA soundA' matching
    obtain ⟨value', found', refinedValue⟩ := refinedFields.2 _ member
    obtain ⟨other', foundOther', refinedOther⟩ := refinedOthers.2 _ memberOther
    have member' := Record.mem_of_lookup found'
    have memberOther' := Record.mem_of_lookup foundOther'
    exact .unequal (sameTy'.trans sameTy) matching' member'
      memberOther' (ih (Value.wellFormed_field soundA member) (Value.wellFormed_field soundB memberOther)
        (Value.wellFormed_field soundA' member') (Value.wellFormed_field soundB' memberOther') refinedValue
        refinedOther)
  | @payloads ty ty' p q sameTy plain plain' =>
    obtain ⟨tyA, p', rfl, sameA, refinedP⟩ := refinedA.known
    obtain ⟨tyB, q', rfl, sameB, refinedQ⟩ := refinedB.known
    obtain ⟨sameP, plainP⟩ := refinedP.plain plain
    obtain ⟨sameQ, plainQ⟩ := refinedQ.plain plain'
    have sameTy' := refinedA.sameTy soundA soundB soundA' soundB' refinedB rfl rfl rfl rfl
    have congr := Value.same_congr (Value.proper_of_wellFormed soundA) (Value.proper_of_wellFormed soundA')
      (Value.proper_of_wellFormed soundB) (Value.proper_of_wellFormed soundB')
      (Value.same_known.2 ⟨sameA, sameP⟩) (Value.same_known.2 ⟨sameB, sameQ⟩)
    simp only [Value.same, sameTy, sameTy', Bool.true_and] at congr
    exact congr ▸ .payloads (sameTy'.trans sameTy) plainP plainQ

/-- A decided equality is decided the same way when more is known of either side. -/
theorem Value.decideEqual_refined {a b a' b' : Value} (soundA : a.wellFormed registry = true)
    (soundB : b.wellFormed registry = true) (soundA' : a'.wellFormed registry = true)
    (soundB' : b'.wellFormed registry = true) (refinedA : a.RefinedBy registry a')
    (refinedB : b.RefinedBy registry b') {answer : Bool} (decided : a.decideEqual b = some answer) :
    a'.decideEqual b' = some answer := by
  have decides := decides_of_decideEqual soundA soundB decided
  exact (decides.refined soundA soundB soundA' soundB' refinedA refinedB).decideEqual soundB'

/-! ### Values that say everything -/

mutual

/-- Whether a value is known, and so are its fields at every depth. -/
def Value.isDecided : Value → Bool
  | .known _ payload => payload.isDecided
  | _ => false
termination_by structural value => value

/-- Whether the fields of a payload are decided. -/
def Payload.isDecided : Payload → Bool
  | .object fields => Value.allDecided fields
  | _ => true
termination_by structural payload => payload

/-- Whether all of some fields are decided. -/
def Value.allDecided : List (String × Value) → Bool
  | [] => true
  | field :: rest => Value.fieldDecided field && Value.allDecided rest
termination_by structural fields => fields

/-- Whether a field is decided. -/
def Value.fieldDecided : String × Value → Bool
  | (_, value) => value.isDecided
termination_by structural field => field

end

theorem Value.allDecided_iff {fields : List (String × Value)} :
    Value.allDecided fields = true ↔ ∀ field ∈ fields, field.2.isDecided = true := by
  induction fields with
  | nil => simp [Value.allDecided]
  | cons head rest ih =>
    obtain ⟨name, value⟩ := head
    simp [Value.allDecided, Value.fieldDecided, ih]

/-- Nothing can be filled in where everything is said. -/
theorem Value.RefinedBy.same_of_decided {value other : Value} (refined : value.RefinedBy registry other)
    (decided : value.isDecided = true) : value.same other = true := by
  induction value using Value.byFields generalizing other with
  | known ty payload ih =>
    obtain ⟨ty', payload', rfl, sameTy, refinedPayload⟩ := refined.known
    refine Value.same_known.2 ⟨sameTy, ?_⟩
    by_cases object : ∃ fields, payload = .object fields
    · obtain ⟨fields, rfl⟩ := object
      obtain ⟨fields', rfl, matching⟩ := refinedPayload
      have all : ∀ field ∈ fields, field.2.isDecided = true := Value.allDecided_iff.1 decided
      exact Payload.same_object.2 (matching.imp fun field member value' refinedField =>
        ih fields rfl field member refinedField (all field member))
    · exact (refinedPayload.plain (not_exists.1 object)).1
  | unknown ty | placeholder => cases decided

/-! ### Values that refine each other -/

/-- Values of which each says as much as the other are the same. -/
theorem Value.RefinedBy.antisymm {value other : Value} (sound : value.wellFormed registry = true)
    (refined : value.RefinedBy registry other) (back : other.RefinedBy registry value) :
    value.same other = true := by
  induction value using Value.byFields generalizing other with
  | known ty payload ih =>
    obtain ⟨ty', payload', rfl, sameTy, refinedPayload⟩ := refined.known
    refine Value.same_known.2 ⟨sameTy, ?_⟩
    by_cases object : ∃ fields, payload = .object fields
    · obtain ⟨fields, rfl⟩ := object
      obtain ⟨fields', rfl, matching⟩ := refinedPayload
      obtain ⟨_, _, parts, -, backPayload⟩ := back.known
      cases parts
      obtain ⟨_, parts, matching'⟩ := backPayload
      cases parts
      refine Payload.same_object.2 ⟨matching.1, fun field member => ?_⟩
      obtain ⟨value', found', refinedField⟩ := matching.2 field member
      obtain ⟨value, found, backField⟩ := matching'.lookup_some found'
      obtain rfl : field.2 = value :=
        Option.some.inj ((Record.lookup_of_mem (Value.names_nodup sound) member).symm.trans found)
      exact ⟨value', found', ih fields rfl field member (Value.wellFormed_field sound member) refinedField
        backField⟩
    · exact (refinedPayload.plain (not_exists.1 object)).1
  | unknown ty =>
    obtain ⟨ty', rfl, -⟩ := back.of_unknown
    obtain ⟨_, has, sameTy⟩ := refined.ty rfl
    cases has
    exact Value.same_unknown.trans sameTy
  | placeholder => exact Value.placeholder_same.2 (Value.placeholder_refinedBy.1 refined)

end Circuitry
