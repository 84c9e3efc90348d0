import Mathlib.Logic.Relation
import Circuitry.Proofs.Kernel.Sameness

/-!
# Sameness does not see the order of attributes

`Ty.Reorder` and `Value.Reorder` change the order of the entries of one record, wherever it stands: in an
attribute, in the constraint or the default of a parameter, in a result type, in a field, or in a type used
as a value. A reordering is any number of such steps. One step keeps names distinct and leads to something
that is the same; a reordering then does as well, and sameness, being an equivalence, cannot tell its ends
apart.
-/

set_option autoImplicit false

namespace Circuitry

open Relation (ReflTransGen)

/-! ### Changing the order in one place -/

mutual

/-- One record in a type has its entries in another order. -/
inductive Ty.Reorder : Ty → Ty → Prop where
  | here {attributes attributes' : List (String × Ty)} (perm : attributes.Perm attributes') :
    Ty.Reorder (.object attributes) (.object attributes')
  | entry {before after : List (String × Ty)} {name : String} {ty ty' : Ty} (step : Ty.Reorder ty ty') :
    Ty.Reorder (.object (before ++ (name, ty) :: after)) (.object (before ++ (name, ty') :: after))
  | parameter {before after : List Parameter} {parameter parameter' : Parameter} {returns : ResultRule}
    (step : Parameter.Reorder parameter parameter') :
    Ty.Reorder (.function ⟨before ++ parameter :: after, returns⟩)
      (.function ⟨before ++ parameter' :: after, returns⟩)
  | result {parameters : List Parameter} {ty ty' : Ty} (step : Ty.Reorder ty ty') :
    Ty.Reorder (.function ⟨parameters, .fixed ty⟩) (.function ⟨parameters, .fixed ty'⟩)

/-- One record in a parameter has its entries in another order. -/
inductive Parameter.Reorder : Parameter → Parameter → Prop where
  | constraint {name : String} {ty ty' : Ty} {fallback : Option Value} (step : Ty.Reorder ty ty') :
    Parameter.Reorder ⟨name, .exactly ty, fallback⟩ ⟨name, .exactly ty', fallback⟩
  | fallback {name : String} {constraint : Constraint} {value value' : Value}
    (step : Value.Reorder value value') :
    Parameter.Reorder ⟨name, constraint, some value⟩ ⟨name, constraint, some value'⟩

/-- One record in a value, or in its type, has its entries in another order. -/
inductive Value.Reorder : Value → Value → Prop where
  | here {ty : Ty} {fields fields' : List (String × Value)} (perm : fields.Perm fields') :
    Value.Reorder (.known ty (.object fields)) (.known ty (.object fields'))
  | field {ty : Ty} {before after : List (String × Value)} {name : String} {value value' : Value}
    (step : Value.Reorder value value') :
    Value.Reorder (.known ty (.object (before ++ (name, value) :: after)))
      (.known ty (.object (before ++ (name, value') :: after)))
  | known {ty ty' : Ty} {payload : Payload} (step : Ty.Reorder ty ty') :
    Value.Reorder (.known ty payload) (.known ty' payload)
  | type {ty inner inner' : Ty} (step : Ty.Reorder inner inner') :
    Value.Reorder (.known ty (.type inner)) (.known ty (.type inner'))
  | unknown {ty ty' : Ty} (step : Ty.Reorder ty ty') : Value.Reorder (.unknown ty) (.unknown ty')

end

/-! ### What one step preserves -/

theorem Value.proper_object {ty : Ty} {fields : List (String × Value)} :
    (Value.known ty (.object fields)).proper = true ↔
      (Record.names fields).Nodup ∧ ty.proper = true ∧ ∀ field ∈ fields, field.2.proper = true := by
  simp [Value.proper_known, Value.distinct, Payload.Mentions]

theorem Value.proper_type {ty inner : Ty} :
    (Value.known ty (.type inner)).proper = true ↔ ty.proper = true ∧ inner.proper = true := by
  simp [Value.proper_known, Value.distinct, Payload.Mentions]

theorem Parameter.same_of_proper {parameter : Parameter} (proper : parameter.proper = true) :
    parameter.same parameter = true := by
  obtain ⟨inConstraint, inFallback⟩ := Parameter.proper_iff.1 proper
  exact Parameter.same_refl ⟨fun ty is => Ty.same_refl (inConstraint ty is),
    fun value is => Value.same_refl (inFallback value is)⟩

mutual

-- The recursion is on the step. What is beside the record that changes is the same as itself.

/-- One step keeps names distinct and leads to a type that is the same. -/
theorem Ty.Reorder.same {ty ty' : Ty} : ty.Reorder ty' → ty.proper = true →
    ty'.proper = true ∧ ty.same ty' = true
  | .here perm, proper => by
    obtain ⟨distinct, inside⟩ := Ty.proper_object.1 proper
    constructor
    · exact Ty.proper_object.2 ⟨(perm.map Prod.fst).nodup_iff.1 distinct,
        fun entry member => inside entry (perm.mem_iff.2 member)⟩
    · exact Ty.same_object.2 (.of_perm perm distinct fun entry member => Ty.same_refl (inside entry member))
  | .entry step, proper => by
    obtain ⟨distinct, inside⟩ := Ty.proper_object.1 proper
    obtain ⟨properItem, sameItem⟩ := step.same (inside _ List.mem_append_cons_self)
    constructor
    · exact Ty.proper_object.2 ⟨Record.names_replace ▸ distinct, forall_mem_replace properItem inside⟩
    · exact Ty.same_object.2 (Record.matches_replace distinct sameItem
        fun entry member => Ty.same_refl (inside entry member))
  | .parameter step, proper => by
    obtain ⟨inParameters, inReturns⟩ := Ty.proper_function.1 proper
    obtain ⟨properItem, sameItem⟩ := step.same (inParameters _ List.mem_append_cons_self)
    constructor
    · exact Ty.proper_function.2 ⟨forall_mem_replace properItem inParameters, inReturns⟩
    · exact Signature.same_iff.2
        ⟨forall₂_replace sameItem fun parameter member => Parameter.same_of_proper (inParameters parameter member),
          ResultRule.same_refl fun ty is => Ty.same_refl (inReturns ty is)⟩
  | .result step, proper => by
    obtain ⟨inParameters, inReturns⟩ := Ty.proper_function.1 proper
    obtain ⟨properResult, sameResult⟩ := step.same (inReturns _ rfl)
    constructor
    · exact Ty.proper_function.2 ⟨inParameters, fun ty is => ResultRule.fixed.inj is ▸ properResult⟩
    · exact Signature.same_iff.2
        ⟨List.forall₂_same.2 fun parameter member => Parameter.same_of_proper (inParameters parameter member),
          sameResult⟩

theorem Parameter.Reorder.same {parameter parameter' : Parameter} : parameter.Reorder parameter' →
    parameter.proper = true → parameter'.proper = true ∧ parameter.same parameter' = true
  | .constraint step, proper => by
    obtain ⟨inConstraint, inFallback⟩ := Parameter.proper_iff.1 proper
    have reflexive := Parameter.same_iff.1 (Parameter.same_of_proper proper)
    obtain ⟨properTy, sameTy⟩ := step.same (inConstraint _ rfl)
    constructor
    · exact Parameter.proper_iff.2 ⟨fun ty is => Constraint.exactly.inj is ▸ properTy, inFallback⟩
    · exact Parameter.same_iff.2 ⟨rfl, sameTy, reflexive.2.2⟩
  | .fallback step, proper => by
    obtain ⟨inConstraint, inFallback⟩ := Parameter.proper_iff.1 proper
    have reflexive := Parameter.same_iff.1 (Parameter.same_of_proper proper)
    obtain ⟨properValue, sameValue⟩ := step.same (inFallback _ rfl)
    constructor
    · exact Parameter.proper_iff.2 ⟨inConstraint, fun value is => Option.some.inj is ▸ properValue⟩
    · exact Parameter.same_iff.2 ⟨rfl, reflexive.2.1, sameValue⟩

theorem Value.Reorder.same {value value' : Value} : value.Reorder value' → value.proper = true →
    value'.proper = true ∧ value.same value' = true
  | .here perm, proper => by
    obtain ⟨distinct, properTy, inside⟩ := Value.proper_object.1 proper
    constructor
    · exact Value.proper_object.2 ⟨(perm.map Prod.fst).nodup_iff.1 distinct, properTy,
        fun field member => inside field (perm.mem_iff.2 member)⟩
    · exact Value.same_known.2 ⟨Ty.same_refl properTy, Payload.same_object.2
        (.of_perm perm distinct fun field member => Value.same_refl (inside field member))⟩
  | .field step, proper => by
    obtain ⟨distinct, properTy, inside⟩ := Value.proper_object.1 proper
    obtain ⟨properItem, sameItem⟩ := step.same (inside _ List.mem_append_cons_self)
    constructor
    · exact Value.proper_object.2
        ⟨Record.names_replace ▸ distinct, properTy, forall_mem_replace properItem inside⟩
    · exact Value.same_known.2 ⟨Ty.same_refl properTy, Payload.same_object.2
        (Record.matches_replace distinct sameItem fun field member => Value.same_refl (inside field member))⟩
  | @Value.Reorder.known _ _ payload step, proper => by
    obtain ⟨distinct, properTy, inside⟩ := Value.proper_known.1 proper
    obtain ⟨properTy', sameTy⟩ := step.same properTy
    constructor
    · refine Value.proper_known.2 ⟨?_, properTy', inside⟩
      cases payload <;> exact distinct
    · exact Value.same_known.2 ⟨sameTy, (Value.same_known.1 (Value.same_refl proper)).2⟩
  | .type step, proper => by
    obtain ⟨properTy, properInner⟩ := Value.proper_type.1 proper
    obtain ⟨properInner', sameInner⟩ := step.same properInner
    constructor
    · exact Value.proper_type.2 ⟨properTy, properInner'⟩
    · exact Value.same_known.2 ⟨Ty.same_refl properTy, sameInner⟩
  | .unknown step, proper => by
    obtain ⟨properTy, sameTy⟩ := step.same (Value.proper_unknown.1 proper)
    exact ⟨Value.proper_unknown.2 properTy, sameTy⟩

end

/-! ### What a reordering preserves -/

namespace Kernel

variable {α : Type} {proper : α → Bool} {same : α → α → Bool} {reorder : α → α → Prop}

/-- Where `proper` holds, `same` is an equivalence, and it does not see reorderings: they keep `proper`, and
whether two things are the same is also whether their reorderings are. -/
structure UpToOrder (proper : α → Bool) (same : α → α → Bool) (reorder : α → α → Prop) : Prop where
  refl : ∀ {a}, proper a = true → same a a = true
  symm : ∀ {a b}, proper a = true → proper b = true → same a b = true → same b a = true
  trans : ∀ {a b c}, same a b = true → same b c = true → same a c = true
  reordered : ∀ {a b a' b'}, proper a = true → proper b = true → ReflTransGen reorder a a' →
    ReflTransGen reorder b b' → proper a' = true ∧ proper b' = true ∧ same a' b' = same a b

section

variable (refl : ∀ {a}, proper a = true → same a a = true)
  (trans : ∀ {a b c}, same a b = true → same b c = true → same a c = true)
  (step : ∀ {a a'}, reorder a a' → proper a = true → proper a' = true ∧ same a a' = true)

include refl trans step

/-- What one step preserves, any number of steps does. -/
theorem same_of_reordered {a a' : α} (path : ReflTransGen reorder a a') (properA : proper a = true) :
    proper a' = true ∧ same a a' = true := by
  induction path with
  | refl => exact ⟨properA, refl properA⟩
  | tail _ last ih =>
    obtain ⟨properMiddle, sameMiddle⟩ := ih
    obtain ⟨properLast, sameLast⟩ := step last properMiddle
    exact ⟨properLast, trans sameMiddle sameLast⟩

theorem UpToOrder.of_step
    (symm : ∀ {a b}, proper a = true → proper b = true → same a b = true → same b a = true) :
    UpToOrder proper same reorder where
  refl := refl
  symm := symm
  trans := trans
  reordered {a b a' b'} properA properB pathA pathB := by
    obtain ⟨properA', sameA⟩ := same_of_reordered refl trans step pathA properA
    obtain ⟨properB', sameB⟩ := same_of_reordered refl trans step pathB properB
    have congr := same_congr proper same symm trans properA properA' properB properB' sameA sameB
    exact ⟨properA', properB', congr.symm⟩

end

/-- Sameness is an equivalence on types and on values, whatever the order of attributes at whatever depth. -/
theorem same_equivalence :
    UpToOrder Ty.proper Ty.same Ty.Reorder ∧ UpToOrder Value.proper Value.same Value.Reorder :=
  ⟨.of_step Ty.same_refl Ty.same_trans Ty.Reorder.same Ty.same_symm,
    .of_step Value.same_refl Value.same_trans Value.Reorder.same Value.same_symm⟩

/-- A default in a function type with its fields, and the attributes of its type, the other way around. -/
theorem same_swapped_default :
    (Ty.function ⟨[⟨"lamp", .any, some (.known (.object [("lit", .bool), ("name", .string)])
      (.object [("lit", .unknown .bool), ("name", .ofString "led")]))⟩], .fixed .bool⟩).same
    (.function ⟨[⟨"lamp", .any, some (.known (.object [("name", .string), ("lit", .bool)])
      (.object [("name", .ofString "led"), ("lit", .unknown .bool)]))⟩], .fixed .bool⟩) = true := by
  have proper : (Ty.function ⟨[⟨"lamp", .any, some (.known (.object [("lit", .bool), ("name", .string)])
      (.object [("lit", .unknown .bool), ("name", .ofString "led")]))⟩], .fixed .bool⟩).proper = true := rfl
  have attributes := @Ty.Reorder.parameter [] [] _ _ (.fixed .bool) (@Parameter.Reorder.fallback "lamp" .any _ _
    (@Value.Reorder.known _ _ (.object [("lit", .unknown .bool), ("name", .ofString "led")])
      (.here (.swap ("name", Ty.string) ("lit", .bool) []))))
  have fields := @Ty.Reorder.parameter [] [] _ _ (.fixed .bool) (@Parameter.Reorder.fallback "lamp" .any _ _
    (@Value.Reorder.here (.object [("name", .string), ("lit", .bool)]) _ _
      (.swap ("name", .ofString "led") ("lit", .unknown .bool) [])))
  obtain ⟨-, -, same⟩ := same_equivalence.1.reordered proper proper .refl
    (ReflTransGen.refl.tail attributes |>.tail fields)
  exact same.trans (same_equivalence.1.refl proper)

end Kernel

end Circuitry
