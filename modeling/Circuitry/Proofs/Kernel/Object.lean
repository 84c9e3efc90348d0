import Circuitry.Proofs.Kernel.Capability

/-!
# Objects made of values

An object of well-formed values is well-formed, and a placeholder among them makes it one. Objects of values
that turn out as foretold turn out as foretold themselves.
-/

set_option autoImplicit false

namespace Circuitry

variable {registry : Registry} {lenient : Bool}

namespace Value

theorem attributeTypes?_cons (name : String) (value : Value) (rest : List (String × Value)) :
    attributeTypes? ((name, value) :: rest) =
      value.ty?.bind fun ty => (attributeTypes? rest).map fun types => (name, ty) :: types := by
  simp only [attributeTypes?, List.mapM_cons]
  cases value.ty? with
  | none => rfl
  | some ty => exact Option.map_eq_bind.symm

/-- Named values have types unless one of them is a placeholder. -/
theorem attributeTypes?_eq_some {attributes : List (String × Value)} {types : List (String × Ty)} :
    attributeTypes? attributes = some types ↔
      Record.Aligned (fun value ty => value.ty? = some ty) attributes types := by
  induction attributes generalizing types with
  | nil => cases types <;> simp [attributeTypes?]
  | cons head rest ih =>
    obtain ⟨name, value⟩ := head
    simp only [attributeTypes?_cons, Option.bind_eq_some_iff, Option.map_eq_some_iff,
      List.forall₂_cons_left_iff]
    constructor
    · rintro ⟨ty, has, others, found, rfl⟩
      exact ⟨(name, ty), others, ⟨rfl, has⟩, ih.1 found, rfl⟩
    · rintro ⟨⟨_, ty⟩, others, ⟨rfl, has⟩, aligned, rfl⟩
      exact ⟨ty, has, others, ih.2 aligned, rfl⟩

theorem attributeTypes?_eq_none {attributes : List (String × Value)} :
    attributeTypes? attributes = none ↔ ∃ name, (name, .placeholder) ∈ attributes := by
  induction attributes with
  | nil => simp [attributeTypes?]
  | cons head rest ih =>
    obtain ⟨name, value⟩ := head
    rw [attributeTypes?_cons]
    cases value with
    | placeholder => simp [Value.ty?]
    | known ty _ | unknown ty => simpa [Value.ty?] using ih

theorem ofAttributes_of_types {attributes : List (String × Value)} {types : List (String × Ty)}
    (typed : attributeTypes? attributes = some types) :
    ofAttributes attributes =
      .known (.object (Record.ofPairs types)) (.object (Record.ofPairs attributes)) := by
  simp only [ofAttributes, typed, Ty.ofAttributes]

theorem ofAttributes_of_placeholder {attributes : List (String × Value)} {name : String}
    (placed : (name, .placeholder) ∈ attributes) : ofAttributes attributes = .placeholder := by
  simp only [ofAttributes, attributeTypes?_eq_none.2 ⟨name, placed⟩]

theorem ofAttributes_wellFormed {attributes : List (String × Value)}
    (sound : ∀ entry ∈ attributes, entry.2.wellFormed registry = true) :
    (ofAttributes attributes).wellFormed registry = true := by
  cases typed : attributeTypes? attributes with
  | none => simp [ofAttributes, typed]
  | some types =>
    rw [ofAttributes_of_types typed]
    -- each attribute keeps its value, which is well-formed, and the type of this value
    have aligned : Record.Aligned
        (fun value ty => value.ty? = some ty ∧ value.wellFormed registry = true) attributes types :=
      forall₂_imp (attributeTypes?_eq_some.1 typed) fun entry member _ _ pair =>
        ⟨pair.1, pair.2, sound entry member⟩
    have made := aligned.ofPairs
    have distinct := Record.nodup_ofPairs attributes
    have soundField : ∀ entry ∈ Record.ofPairs attributes, entry.2.wellFormed registry = true :=
      forall₂_each made fun _ _ pair => pair.2.2
    have soundType : ∀ entry ∈ Record.ofPairs types, entry.2.wellFormed registry = true :=
      forall₂_each made.flip fun _ _ pair => wellFormed_ty pair.2.2 pair.2.1
    refine wellFormed_known.2 ⟨Payload.fits_object.2 ⟨distinct, ?_⟩, Ty.wellFormed_object.2
      ⟨Record.nodup_ofPairs types, soundType⟩, fun _ same => ?_, fun _ same => (nomatch same)⟩
    · refine Record.Aligned.matches_of_nodup (forall₂_imp made.flip ?_) (Record.nodup_ofPairs types)
      rintro ⟨name, ty⟩ member ⟨name', value⟩ _ ⟨same, has, holds⟩
      exact ⟨same.symm, hasType_iff.2 ⟨ty, has, Ty.same_refl (Ty.proper_of_wellFormed
        (soundType _ member))⟩⟩
    · cases same
      exact soundField

/-- An object of values that turn out as foretold turns out as foretold. -/
theorem ofAttributes_forecast {attributes others : List (String × Value)}
    (aligned : Record.Aligned (Value.Forecast registry lenient) attributes others) :
    (ofAttributes attributes).Forecast registry lenient (ofAttributes others) := by
  have sound : ∀ entry ∈ attributes, entry.2.wellFormed registry = true :=
    forall₂_each aligned fun _ _ pair => pair.2.sound
  have sound' : ∀ entry ∈ others, entry.2.wellFormed registry = true :=
    forall₂_each aligned.flip fun _ _ pair => pair.2.sound'
  refine ⟨ofAttributes_wellFormed sound, ofAttributes_wellFormed sound', ?_⟩
  cases typed' : attributeTypes? others with
  | none =>
    obtain ⟨name, placed⟩ := attributeTypes?_eq_none.1 typed'
    rw [ofAttributes_of_placeholder placed]
    exact .lost
  | some types' =>
    cases typed : attributeTypes? attributes with
    | none =>
      obtain ⟨name, placed⟩ := attributeTypes?_eq_none.1 typed
      obtain ⟨⟨name', value'⟩, placed', rfl, pair⟩ := forall₂_left aligned placed
      rcases pair.foretells with ⟨isLenient, -⟩ | lost | refined
      · rw [ofAttributes_of_placeholder placed]
        exact .silent isLenient
      · obtain rfl : value' = .placeholder := lost
        rw [ofAttributes_of_placeholder placed']
        exact .lost
      · obtain rfl := placeholder_refinedBy.1 refined
        rw [ofAttributes_of_placeholder placed']
        exact .lost
    | some types =>
      rw [ofAttributes_of_types typed, ofAttributes_of_types typed']
      have types₁ := attributeTypes?_eq_some.1 typed
      have types₂ := attributeTypes?_eq_some.1 typed'
      have refined : Record.Aligned (RefinedBy registry) attributes others := by
        refine forall₂_imp aligned fun entry member other member' pair => ⟨pair.1, ?_⟩
        obtain ⟨_, -, -, has⟩ := forall₂_left types₁ member
        obtain ⟨_, -, -, has'⟩ := forall₂_left types₂ member'
        refine (pair.2.foretells.strict ?_).resolve_left ?_
        · exact ty?_ne_none.1 (by simp [has])
        · exact ty?_ne_none.1 (by simp [has'])
      have sameTypes : Record.Aligned (fun ty ty' => Ty.same ty ty' = true) types types' := by
        have carried : List.Forall₂ (fun entry ty' => entry.1 = ty'.1 ∧ ∀ ty, entry.2.ty? = some ty →
            Ty.same ty ty'.2 = true) attributes types' := by
          refine forall₂_trans refined types₂ fun entry _ other ty' pair has' => ?_
          refine ⟨pair.1.trans has'.1, fun ty has => ?_⟩
          obtain ⟨found, is, same⟩ := pair.2.ty has
          cases is.symm.trans has'.2
          exact same
        exact forall₂_trans types₁.flip carried fun ty _ entry ty' has pair =>
          ⟨has.1.symm.trans pair.1, pair.2 ty.2 has.2⟩
      refine .of_refined (.object ?_ ?_)
      · exact Ty.same_object.2 (sameTypes.ofPairs.matches_of_nodup (Record.nodup_ofPairs types))
      · exact refined.ofPairs.matches_of_nodup (Record.nodup_ofPairs attributes)

end Value

end Circuitry
