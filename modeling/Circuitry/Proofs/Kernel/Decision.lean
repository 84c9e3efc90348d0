import Circuitry.Proofs.Kernel.WellFormed

/-!
# What decides an equality

Whether two values are equal may be undecided. `Value.Decides` says what an answer rests on, as a relation with
one rule for each ground: different types, all fields or one of them, or payloads that are not objects. On
well-formed values it is equality as it is computed, and what holds of decided equalities is shown by
induction on their grounds: they are the same from either side, and they are right.
-/

set_option autoImplicit false

namespace Circuitry

variable {registry : Registry}

/-! ### One level down -/

theorem Value.decideEqual_of_types {a b : Value} {ty ty' : Ty} (has : a.ty? = some ty)
    (has' : b.ty? = some ty') (differ : ty.same ty' = false) : a.decideEqual b = some false := by
  cases a <;> cases b <;> cases has <;> cases has' <;> simp [Value.decideEqual, Value.ty?, differ]

/-- Without two known values of one type, equality is decided only by a difference of types. -/
theorem Value.types_of_decideEqual {a b : Value} {answer : Bool} (decided : a.decideEqual b = some answer) :
    ∃ ty ty', a.ty? = some ty ∧ b.ty? = some ty' ∧
      (ty.same ty' = false ∧ answer = false ∨
        ty.same ty' = true ∧ ∃ p q, a = .known ty p ∧ b = .known ty' q ∧ p.decideEqual q = some answer) := by
  cases a <;> cases b <;> simp only [Value.decideEqual, Value.ty?] at decided ⊢ <;>
    first
      | cases decided
      | (split at decided <;> simp_all)

theorem Value.fieldsEqual_eq_true {fields others : List (String × Value)} :
    Value.fieldsEqual fields others = some true ↔
      ∀ field ∈ fields, Value.fieldEqual field others = some true := by
  induction fields with
  | nil => simp [Value.fieldsEqual]
  | cons head rest ih =>
    simp only [Value.fieldsEqual, List.forall_mem_cons]
    rcases Value.fieldEqual head others with _ | _ | _ <;> simp [ih, Option.filter_eq_some_iff]

theorem Value.fieldsEqual_eq_false {fields others : List (String × Value)} :
    Value.fieldsEqual fields others = some false ↔
      ∃ field ∈ fields, Value.fieldEqual field others = some false := by
  induction fields with
  | nil => simp [Value.fieldsEqual]
  | cons head rest ih =>
    simp only [Value.fieldsEqual, List.mem_cons, exists_eq_or_imp]
    rcases Value.fieldEqual head others with _ | _ | _ <;> simp [ih, Option.filter_eq_some_iff]

theorem Value.fieldEqual_of_lookup {name : String} {value other : Value} {others : List (String × Value)}
    (found : others.lookup name = some other) :
    Value.fieldEqual (name, value) others = value.decideEqual other := by
  simp [Value.fieldEqual, found]

theorem Payload.decideEqual_of_left {payload other : Payload} (plain : ∀ fields, payload ≠ .object fields) :
    payload.decideEqual other = some (payload.same other) := by
  cases payload with
  | object fields => exact absurd rfl (plain fields)
  | _ => simp [Payload.decideEqual]

/-! ### Known values of one type -/

theorem Value.names_nodup {ty : Ty} {fields : List (String × Value)}
    (sound : (Value.known ty (.object fields)).wellFormed registry = true) :
    (Record.names fields).Nodup := by
  have proper := (Value.proper_known.1 (Value.proper_of_wellFormed sound)).1
  simpa [Value.distinct] using proper

theorem Value.wellFormed_field {ty : Ty} {fields : List (String × Value)}
    (sound : (Value.known ty (.object fields)).wellFormed registry = true) {name : String} {value : Value}
    (member : (name, value) ∈ fields) : value.wellFormed registry = true :=
  (Value.wellFormed_known.1 sound).2.2.1 fields rfl _ member

theorem Payload.attributes_of_fits {fields : List (String × Value)} {ty : Ty}
    (fits : (Payload.object fields).fits registry ty = true) : ∃ attributes, ty = .object attributes := by
  cases ty with
  | object attributes => exact ⟨attributes, rfl⟩
  | _ => simp [Payload.fits] at fits

/-- Well-formed values of one type are objects with the same names, or neither is an object. -/
theorem Value.fields_or_plain {ty ty' : Ty} {p q : Payload}
    (sound : (Value.known ty p).wellFormed registry = true)
    (soundOther : (Value.known ty' q).wellFormed registry = true) (sameTy : ty.same ty' = true) :
    (∃ fields others, p = .object fields ∧ q = .object others ∧
        Record.Matches (fun _ _ => True) fields others) ∨
      (∀ fields, p ≠ .object fields) ∧ ∀ others, q ≠ .object others := by
  obtain ⟨fits, soundTy, -⟩ := Value.wellFormed_known.1 sound
  obtain ⟨fits', -, -⟩ := Value.wellFormed_known.1 soundOther
  by_cases object : ∃ attributes, ty = .object attributes
  · obtain ⟨attributes, rfl⟩ := object
    obtain ⟨attributes', rfl, sameAttributes⟩ := Ty.object_same sameTy
    obtain ⟨fields, rfl⟩ := Payload.fields_of_fits fits
    obtain ⟨others, rfl⟩ := Payload.fields_of_fits fits'
    obtain ⟨distinct, typed⟩ := Payload.fits_object.1 fits
    obtain ⟨-, typed'⟩ := Payload.fits_object.1 fits'
    -- from fields to their attributes, to the attributes of the other type, to its fields
    have back : Record.Matches (fun _ _ => True) fields attributes :=
      typed.symm (Ty.wellFormed_object.1 soundTy).1 distinct fun _ _ _ _ _ => trivial
    have across : Record.Matches (fun _ _ => True) fields attributes' :=
      back.trans sameAttributes fun _ _ _ _ _ _ => trivial
    exact .inl ⟨fields, others, rfl, rfl, across.trans typed' fun _ _ _ _ _ _ => trivial⟩
  · refine .inr ⟨?_, ?_⟩
    · rintro fields rfl
      exact object (Payload.attributes_of_fits fits)
    · rintro others rfl
      obtain ⟨attributes', rfl⟩ := Payload.attributes_of_fits fits'
      cases ty with
      | object attributes => exact object ⟨attributes, rfl⟩
      | _ => simp [Ty.same] at sameTy

/-! ### What decides an equality -/

/-- Two values are decided to be equal or not: their types differ; or all fields of two objects are equal, or
some are not; or both are known and not objects. -/
inductive Value.Decides : Value → Value → Bool → Prop where
  | types {a b : Value} {ty ty' : Ty} (has : a.ty? = some ty) (has' : b.ty? = some ty')
    (differ : ty.same ty' = false) : Value.Decides a b false
  | equal {ty ty' : Ty} {fields others : List (String × Value)} (sameTy : ty.same ty' = true)
    (matching : Record.Matches (fun _ _ => True) fields others)
    (values : ∀ name value other, (name, value) ∈ fields → (name, other) ∈ others →
      Value.Decides value other true) :
    Value.Decides (.known ty (.object fields)) (.known ty' (.object others)) true
  | unequal {ty ty' : Ty} {fields others : List (String × Value)} (sameTy : ty.same ty' = true)
    (matching : Record.Matches (fun _ _ => True) fields others) {name : String} {value other : Value}
    (member : (name, value) ∈ fields) (member' : (name, other) ∈ others)
    (differ : Value.Decides value other false) :
    Value.Decides (.known ty (.object fields)) (.known ty' (.object others)) false
  | payloads {ty ty' : Ty} {p q : Payload} (sameTy : ty.same ty' = true) (plain : ∀ fields, p ≠ .object fields)
    (plain' : ∀ others, q ≠ .object others) : Value.Decides (.known ty p) (.known ty' q) (p.same q)

theorem Value.decides_of_decideEqual {a b : Value} (soundA : a.wellFormed registry = true)
    (soundB : b.wellFormed registry = true) {answer : Bool} (decided : a.decideEqual b = some answer) :
    Value.Decides a b answer := by
  induction a using Value.byFields generalizing b answer with
  | known ty p ih =>
    obtain ⟨_, ty', has, has', ⟨differ, rfl⟩ | ⟨sameTy, _, q, parts, rfl, equal⟩⟩ :=
      Value.types_of_decideEqual decided
    · exact .types has has' differ
    cases parts
    rcases Value.fields_or_plain soundA soundB sameTy with ⟨fields, others, rfl, rfl, matching⟩ | ⟨plain, plain'⟩
    · have decidesField : ∀ name value other answer, (name, value) ∈ fields → (name, other) ∈ others →
          Value.fieldEqual (name, value) others = some answer → Value.Decides value other answer := by
        intro name value other answer member member' compared
        rw [Value.fieldEqual_of_lookup (Record.lookup_of_mem (Value.names_nodup soundB) member')] at compared
        exact ih fields rfl _ member (Value.wellFormed_field soundA member)
          (Value.wellFormed_field soundB member') compared
      cases answer with
      | true =>
        have all := Value.fieldsEqual_eq_true.1 equal
        exact .equal sameTy matching fun name value other member member' =>
          decidesField name value other true member member' (all _ member)
      | false =>
        obtain ⟨⟨name, value⟩, member, compared⟩ := Value.fieldsEqual_eq_false.1 equal
        obtain ⟨other, found, -⟩ := matching.2 _ member
        have member' := Record.mem_of_lookup found
        exact .unequal sameTy matching member member' (decidesField name value other false member member' compared)
    · rw [Payload.decideEqual_of_left plain] at equal
      exact Option.some.inj equal ▸ .payloads sameTy plain plain'
  | unknown ty | placeholder =>
    obtain ⟨_, ty', has, has', ⟨differ, rfl⟩ | ⟨-, _, _, parts, -⟩⟩ := Value.types_of_decideEqual decided
    · exact .types has has' differ
    · cases parts

namespace Value.Decides

variable {a b : Value} {answer : Bool}

theorem decideEqual (decides : Value.Decides a b answer) (soundB : b.wellFormed registry = true) :
    a.decideEqual b = some answer := by
  induction decides with
  | types has has' differ => exact Value.decideEqual_of_types has has' differ
  | @equal ty ty' fields others sameTy matching values ih =>
    simp only [Value.decideEqual, sameTy, if_true, Payload.decideEqual]
    refine Value.fieldsEqual_eq_true.2 fun field member => ?_
    obtain ⟨other, found, -⟩ := matching.2 field member
    have member' := Record.mem_of_lookup found
    exact (Value.fieldEqual_of_lookup found).trans
      (ih field.1 field.2 other member member' (Value.wellFormed_field soundB member'))
  | @unequal ty ty' fields others sameTy matching name value other member member' differ ih =>
    simp only [Value.decideEqual, sameTy, if_true, Payload.decideEqual]
    have found := Record.lookup_of_mem (Value.names_nodup soundB) member'
    exact Value.fieldsEqual_eq_false.2 ⟨(name, value), member,
      (Value.fieldEqual_of_lookup found).trans (ih (Value.wellFormed_field soundB member'))⟩
  | payloads sameTy plain plain' =>
    simp only [Value.decideEqual, sameTy, if_true, Payload.decideEqual_of_left plain]

theorem sameTy_symm {ty ty' : Ty} {p q : Payload} (soundA : (Value.known ty p).wellFormed registry = true)
    (soundB : (Value.known ty' q).wellFormed registry = true) (sameTy : ty.same ty' = true) :
    ty'.same ty = true :=
  Ty.same_symm (Ty.proper_of_wellFormed (Value.wellFormed_ty soundA rfl))
    (Ty.proper_of_wellFormed (Value.wellFormed_ty soundB rfl)) sameTy

theorem fields_symm {ty ty' : Ty} {fields others : List (String × Value)}
    (soundA : (Value.known ty (.object fields)).wellFormed registry = true)
    (soundB : (Value.known ty' (.object others)).wellFormed registry = true)
    (matching : Record.Matches (fun _ _ => True) fields others) :
    Record.Matches (fun _ _ => True) others fields :=
  matching.symm (Value.names_nodup soundA) (Value.names_nodup soundB) fun _ _ _ _ _ => trivial

theorem symm (decides : Value.Decides a b answer) (soundA : a.wellFormed registry = true)
    (soundB : b.wellFormed registry = true) : Value.Decides b a answer := by
  induction decides with
  | types has has' differ =>
    have proper := Ty.proper_of_wellFormed (Value.wellFormed_ty soundA has)
    have proper' := Ty.proper_of_wellFormed (Value.wellFormed_ty soundB has')
    exact .types has' has (by rw [Ty.same_comm proper' proper, differ])
  | equal sameTy matching values ih =>
    refine .equal (sameTy_symm soundA soundB sameTy) (fields_symm soundA soundB matching) ?_
    intro name other value member' member
    exact ih name value other member member' (Value.wellFormed_field soundA member)
      (Value.wellFormed_field soundB member')
  | unequal sameTy matching member member' differ ih =>
    exact .unequal (sameTy_symm soundA soundB sameTy) (fields_symm soundA soundB matching) member' member
      (ih (Value.wellFormed_field soundA member) (Value.wellFormed_field soundB member'))
  | @payloads ty ty' p q sameTy plain plain' =>
    have sameTy' := sameTy_symm soundA soundB sameTy
    have swapped := Value.same_comm (Value.proper_of_wellFormed soundA) (Value.proper_of_wellFormed soundB)
    simp only [Value.same, sameTy, sameTy', Bool.true_and] at swapped
    exact swapped ▸ .payloads sameTy' plain' plain

/-- What is decided to be equal is the same, and what is decided not to be is not. -/
theorem same (decides : Value.Decides a b answer) (soundB : b.wellFormed registry = true) :
    a.same b = answer := by
  induction decides with
  | @types a b _ _ has has' differ =>
    cases a <;> cases b <;> cases has <;> cases has' <;> simp [Value.same, differ]
  | equal sameTy matching values ih =>
    refine Value.same_known.2 ⟨sameTy, Payload.same_object.2 ⟨matching.1, fun field member => ?_⟩⟩
    obtain ⟨other, found, -⟩ := matching.2 field member
    have member' := Record.mem_of_lookup found
    exact ⟨other, found, ih field.1 field.2 other member member' (Value.wellFormed_field soundB member')⟩
  | unequal sameTy matching member member' differ ih =>
    refine Bool.eq_false_iff.2 fun same => ?_
    obtain ⟨-, samePayload⟩ := Value.same_known.1 same
    obtain ⟨other', found, sameField⟩ := (Payload.same_object.1 samePayload).2 _ member
    rw [Record.lookup_of_mem (Value.names_nodup soundB) member'] at found
    cases found
    exact Bool.eq_false_iff.1 (ih (Value.wellFormed_field soundB member')) sameField
  | payloads sameTy plain plain' => simp only [Value.same, sameTy, Bool.true_and]

end Value.Decides

end Circuitry
