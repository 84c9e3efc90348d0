import Circuitry.Proofs.Kernel.Refinement
import Circuitry.Proofs.Operator.Typing

/-!
# Operators when more is known

An operator applied to refined operands gives a refinement of what it gave before. It refuses the same types;
the one thing that can newly happen is that a divisor turns out to be zero.
-/

set_option autoImplicit false

namespace Circuitry

variable {registry : Registry}

/-! ### Refined scalars -/

theorem Value.RefinedBy.quantity {dims : Dimensions} {q : Quantity} {other : Value}
    (refined : (Value.known (.number dims) (.quantity q)).RefinedBy registry other) :
    ∃ q', other = .known (.number dims) (.quantity q') ∧ q.equivalent q' = true := by
  obtain ⟨ty', payload', rfl, sameTy, refinedPayload⟩ := refined.known
  obtain rfl := Ty.number_same.1 sameTy
  have same : (Payload.quantity q).same payload' = true := refinedPayload
  cases payload' with
  | quantity q' => exact ⟨q', rfl, same⟩
  | _ => simp [Payload.same] at same

theorem Value.RefinedBy.string {text : String} {other : Value}
    (refined : (Value.known .string (.string text)).RefinedBy registry other) :
    other = .known .string (.string text) := by
  obtain ⟨ty', payload', rfl, sameTy, refinedPayload⟩ := refined.known
  obtain rfl := Ty.string_same.1 sameTy
  have same : (Payload.string text).same payload' = true := refinedPayload
  cases payload' with
  | string text' =>
    have sameText : text = text' := by simpa [Payload.same] using same
    rw [sameText]
  | _ => simp [Payload.same] at same

theorem Value.RefinedBy.bool? {value other : Value} (refined : value.RefinedBy registry other) {b : Bool}
    (known : value.bool? = some b) : other.bool? = some b := by
  cases value with
  | known ty payload =>
    cases payload with
    | bool b' =>
      obtain ⟨ty', payload', rfl, -, refinedPayload⟩ := refined.known
      have same : (Payload.bool b').same payload' = true := refinedPayload
      cases payload' with
      | bool b'' =>
        simp only [Payload.same, decide_eq_true_eq] at same
        simpa [Value.bool?, same] using known
      | _ => simp [Payload.same] at same
    | _ => cases known
  | _ => cases known

theorem Value.RefinedBy.ofBool (b : Bool) :
    (Value.ofBool b).RefinedBy registry (Value.ofBool b) := .refl rfl

theorem Value.RefinedBy.ofAnswer {answer answer' : Option Bool}
    (stable : ∀ b, answer = some b → answer' = some b) :
    (Value.ofAnswer answer).RefinedBy registry (Value.ofAnswer answer') := by
  cases answer with
  | some b =>
    rw [stable b rfl]
    exact .ofBool b
  | none => cases answer' <;> exact .unknown rfl rfl

theorem Value.opposite_ofAnswer (answer : Option Bool) :
    (Value.ofAnswer answer).opposite = Value.ofAnswer (answer.map (! ·)) := by
  cases answer <;> rfl

/-! ### Results -/

/-- How the results of an operator compare before and after its operands are refined. -/
inductive OperatorError.Refined (registry : Registry) :
    Except OperatorError Value → Except OperatorError Value → Prop where
  | value {value value' : Value} (refined : value.RefinedBy registry value') :
      Refined registry (.ok value) (.ok value')
  | refused {error error' : OperatorError} (nonzero : error ≠ .divisionByZero)
      (nonzero' : error' ≠ .divisionByZero) : Refined registry (.error error) (.error error')
  | zero (result : Except OperatorError Value) : Refined registry result (.error .divisionByZero)

/-! ### One operand -/

theorem UnaryOperator.Accepts.of_same {operator : UnaryOperator} {ty ty' : Ty} (same : ty.same ty' = true)
    (accepts : operator.Accepts ty') : operator.Accepts ty := by
  cases operator with
  | neg =>
    obtain ⟨dims, rfl⟩ := accepts
    exact ⟨dims, Ty.same_number.1 same⟩
  | not => exact (Ty.isBool_of_same same).trans accepts

/-- The opposite of a number, before and after the number is refined. -/
theorem UnaryOperator.neg_refined {dims : Dimensions} {a a' value value' : Value}
    (soundA : a.wellFormed registry = true) (soundA' : a'.wellFormed registry = true)
    (refined : a.RefinedBy registry a') (has : a.ty? = some (.number dims))
    (has' : a'.ty? = some (.number dims)) (made : UnaryOperator.neg.apply a = .ok (.ok value))
    (made' : UnaryOperator.neg.apply a' = .ok (.ok value')) : value.RefinedBy registry value' := by
  rcases Value.known_or_unknown has with ⟨payload, rfl⟩ | rfl
  · obtain ⟨q, rfl, rfl⟩ := Payload.fits_number (Value.wellFormed_known.1 soundA).1
    obtain ⟨q', rfl, equivalent⟩ := refined.quantity
    obtain ⟨sameDims, sameBase⟩ := Quantity.equivalent_iff.1 equivalent
    rw [neg_known] at made made'
    cases made
    cases made'
    refine .of_same (Value.same_known.2 ⟨by simp, ?_⟩)
    exact Quantity.equivalent_iff.2 ⟨sameDims, by simp [Quantity.base_neg, sameBase]⟩
  · obtain ⟨result, done, sound, hasResult⟩ := neg_of_number soundA' has'
    rw [neg_unknown] at made
    rw [done] at made'
    cases made
    cases made'
    exact .unknown sound (Value.hasType_iff.2 ⟨_, hasResult, by simp⟩)

theorem UnaryOperator.apply_refined {operator : UnaryOperator} {a a' : Value}
    {result result' : Except OperatorError Value}
    (soundA : a.wellFormed registry = true) (soundA' : a'.wellFormed registry = true)
    (refined : a.RefinedBy registry a') (applied : operator.apply a = .ok result)
    (applied' : operator.apply a' = .ok result') :
    (∃ value value', result = .ok value ∧ result' = .ok value' ∧ value.RefinedBy registry value') ∨
      ∃ error error', result = .error error ∧ result' = .error error' := by
  cases has : a.ty? with
  | none =>
    obtain rfl := Value.ty?_eq_none.1 has
    obtain rfl := Value.placeholder_refinedBy.1 refined
    cases applied
    cases applied'
    exact .inl ⟨_, _, rfl, rfl, refined⟩
  | some ty =>
    obtain ⟨ty', has', sameTy⟩ := refined.ty has
    by_cases accepts : operator.Accepts ty
    · cases operator with
      | neg =>
        obtain ⟨dims, rfl⟩ := accepts
        obtain rfl := Ty.number_same.1 sameTy
        obtain ⟨value, made, -, -⟩ := neg_of_number soundA has
        obtain ⟨value', made', -, -⟩ := neg_of_number soundA' has'
        have refinedValue := neg_refined soundA soundA' refined has has' made made'
        rw [made] at applied
        rw [made'] at applied'
        cases applied
        cases applied'
        exact .inl ⟨_, _, rfl, rfl, refinedValue⟩
      | not =>
        rw [not_of_bool has accepts] at applied
        rw [not_of_bool has' ((Ty.isBool_of_same sameTy).symm.trans accepts)] at applied'
        cases applied
        cases applied'
        refine .inl ⟨_, _, rfl, rfl, .ofAnswer fun answer answered => ?_⟩
        obtain ⟨b, known, rfl⟩ := Option.map_eq_some_iff.1 answered
        simp [refined.bool? known]
    · rw [apply_refuses has accepts] at applied
      rw [apply_refuses has' (mt (Accepts.of_same sameTy) accepts)] at applied'
      cases applied
      cases applied'
      exact .inr ⟨_, _, rfl, rfl⟩

/-! ### Two operands -/

/-- Arithmetic looks at strings and numbers only, and such types are the same only if they are equal. -/
theorem ArithmeticOperator.Typed.left_eq {operator : ArithmeticOperator} {left right left' ty : Ty}
    (typed : operator.Typed left right ty) : left.same left' = true ↔ left' = left := by
  cases typed <;> simp

theorem ArithmeticOperator.Typed.right_eq {operator : ArithmeticOperator} {left right right' ty : Ty}
    (typed : operator.Typed left right ty) : right.same right' = true ↔ right' = right := by
  cases typed <;> simp

theorem ArithmeticOperator.Typed.of_same {operator : ArithmeticOperator} {left right left' right' ty : Ty}
    (typed : operator.Typed left' right' ty) (sameLeft : left.same left' = true)
    (sameRight : right.same right' = true) : operator.Typed left right ty := by
  cases typed with
  | concat =>
    obtain rfl := Ty.same_string.1 sameLeft
    obtain rfl := Ty.same_string.1 sameRight
    exact .concat
  | number inRange =>
    obtain rfl := Ty.same_number.1 sameLeft
    obtain rfl := Ty.same_number.1 sameRight
    exact .number inRange

theorem ArithmeticOperator.Typed.same_refl {operator : ArithmeticOperator} {left right ty : Ty}
    (typed : operator.Typed left right ty) : ty.same ty = true := by
  cases typed <;> simp

/-- Arithmetic on known operands of fitting types, before and after they are refined. -/
theorem ArithmeticOperator.apply_known_refined {operator : ArithmeticOperator} {left right ty : Ty}
    {p q : Payload} {a' b' : Value} {result result' : Except OperatorError Value}
    (typed : operator.Typed left right ty)
    (fitsLeft : p.fits registry left = true) (fitsRight : q.fits registry right = true)
    (refinedA : (Value.known left p).RefinedBy registry a')
    (refinedB : (Value.known right q).RefinedBy registry b')
    (applied : operator.apply left right (.known left p) (.known right q) = .ok result)
    (applied' : operator.apply left right a' b' = .ok result') :
    OperatorError.Refined registry result result' := by
  have combines := apply_known typed
  cases typed with
  | concat =>
    obtain ⟨x, rfl⟩ := Payload.fits_string fitsLeft
    obtain ⟨y, rfl⟩ := Payload.fits_string fitsRight
    obtain rfl := refinedA.string
    obtain rfl := refinedB.string
    cases applied
    cases applied'
    exact .value (.refl rfl)
  | number inRange =>
    obtain ⟨x, rfl, rfl⟩ := Payload.fits_number fitsLeft
    obtain ⟨y, rfl, rfl⟩ := Payload.fits_number fitsRight
    obtain ⟨x', rfl, equivalentX⟩ := refinedA.quantity
    obtain ⟨y', rfl, equivalentY⟩ := refinedB.quantity
    obtain ⟨dimsX, baseX⟩ := Quantity.equivalent_iff.1 equivalentX
    obtain ⟨dimsY, baseY⟩ := Quantity.equivalent_iff.1 equivalentY
    rw [combines] at applied applied'
    by_cases zero : operator = .div ∧ y'.isZero = true
    · obtain ⟨rfl, zero⟩ := zero
      rw [combine_zero zero] at applied'
      cases applied'
      exact .zero result
    · have nonzero' : operator = .div → y'.isZero = false := fun isDiv =>
        Bool.eq_false_iff.2 fun isZero => zero ⟨isDiv, isZero⟩
      have nonzero : operator = .div → y.isZero = false := fun isDiv => by
        refine Bool.eq_false_iff.2 fun isZero => zero ⟨isDiv, ?_⟩
        rw [Quantity.isZero_iff] at isZero ⊢
        rw [← baseY, isZero]
      obtain ⟨made, combined, dims, base⟩ := combine_quantities inRange nonzero
      obtain ⟨made', combined', dims', base'⟩ := combine_quantities (dimsX ▸ dimsY ▸ inRange) nonzero'
      rw [combined] at applied
      rw [dimsX, dimsY, combined'] at applied'
      cases applied
      cases applied'
      refine .value (.of_same (Value.same_known.2 ⟨by simp, ?_⟩))
      exact Quantity.equivalent_iff.2 ⟨dims.trans dims'.symm, by rw [base, base', baseX, baseY]⟩

theorem ArithmeticOperator.apply_refined {operator : ArithmeticOperator} {a b a' b' : Value}
    {left right left' right' : Ty} {result result' : Except OperatorError Value}
    (soundA : a.wellFormed registry = true) (soundB : b.wellFormed registry = true)
    (soundA' : a'.wellFormed registry = true) (soundB' : b'.wellFormed registry = true)
    (refinedA : a.RefinedBy registry a') (refinedB : b.RefinedBy registry b')
    (hasA : a.ty? = some left) (hasB : b.ty? = some right)
    (hasA' : a'.ty? = some left') (hasB' : b'.ty? = some right')
    (sameLeft : left.same left' = true) (sameRight : right.same right' = true)
    (applied : operator.apply left right a b = .ok result)
    (applied' : operator.apply left' right' a' b' = .ok result') :
    OperatorError.Refined registry result result' := by
  rcases operator.resultType_cases left right with ⟨ty, -, typed⟩ | ⟨error, refused, reason, untyped⟩
  · obtain rfl := typed.left_eq.1 sameLeft
    obtain rfl := typed.right_eq.1 sameRight
    rcases Value.known_or_missing hasA hasB with ⟨p, q, rfl, rfl⟩ | missing
    · exact apply_known_refined typed (Value.wellFormed_known.1 soundA).1 (Value.wellFormed_known.1 soundB).1
        refinedA refinedB applied applied'
    · -- any value of the result type refines an unknown of it
      rw [apply_missing typed missing] at applied
      cases applied
      rcases apply_of_typed soundA' soundB' hasA' hasB' typed with ⟨value', made, sound', has'⟩ | zero
      · rw [made] at applied'
        cases applied'
        exact .value (.unknown sound' (Value.hasType_iff.2 ⟨ty, has', typed.same_refl⟩))
      · rw [zero] at applied'
        cases applied'
        exact .zero _
  · rcases operator.resultType_cases left' right' with ⟨ty', -, typed'⟩ | ⟨error', refused', reason', -⟩
    · exact absurd (typed'.of_same sameLeft sameRight) (untyped ty')
    · rw [apply_of_error refused] at applied
      rw [apply_of_error refused'] at applied'
      cases applied
      cases applied'
      refine .refused ?_ ?_
      · rcases reason with rfl | rfl <;> exact fun same => by cases same
      · rcases reason' with rfl | rfl <;> exact fun same => by cases same

theorem OrderOperator.apply_refined {operator : OrderOperator} {a b a' b' : Value}
    {left right left' right' : Ty} {result result' : Except OperatorError Value}
    (soundA : a.wellFormed registry = true) (soundB : b.wellFormed registry = true)
    (soundA' : a'.wellFormed registry = true) (soundB' : b'.wellFormed registry = true)
    (refinedA : a.RefinedBy registry a') (refinedB : b.RefinedBy registry b')
    (hasA : a.ty? = some left) (hasB : b.ty? = some right)
    (hasA' : a'.ty? = some left') (hasB' : b'.ty? = some right')
    (sameLeft : left.same left' = true) (sameRight : right.same right' = true)
    (applied : operator.apply left right a b = .ok result)
    (applied' : operator.apply left' right' a' b' = .ok result') :
    OperatorError.Refined registry result result' := by
  by_cases applies : ∃ dims, left = .number dims ∧ right = .number dims
  · obtain ⟨dims, rfl, rfl⟩ := applies
    obtain rfl := Ty.number_same.1 sameLeft
    obtain rfl := Ty.number_same.1 sameRight
    rcases Value.known_or_missing hasA hasB with ⟨p, q, rfl, rfl⟩ | missing
    · obtain ⟨x, rfl, dimsX⟩ := Payload.fits_number (Value.wellFormed_known.1 soundA).1
      obtain ⟨y, rfl, dimsY⟩ := Payload.fits_number (Value.wellFormed_known.1 soundB).1
      obtain ⟨x', rfl, equivalentX⟩ := refinedA.quantity
      obtain ⟨y', rfl, equivalentY⟩ := refinedB.quantity
      obtain ⟨sameX, baseX⟩ := Quantity.equivalent_iff.1 equivalentX
      obtain ⟨sameY, baseY⟩ := Quantity.equivalent_iff.1 equivalentY
      have dimsXY := dimsX.trans dimsY.symm
      rw [operator.apply_known dimsXY] at applied
      rw [operator.apply_known ((sameX.symm.trans dimsXY).trans sameY), ← baseX, ← baseY] at applied'
      cases applied
      cases applied'
      exact .value (.ofBool _)
    · -- either answer refines an unknown one
      rw [operator.apply_missing missing] at applied
      cases applied
      obtain ⟨value', made, sound', has'⟩ := apply_of_numbers operator soundA' soundB' hasA' hasB'
      rw [made] at applied'
      cases applied'
      exact .value (.unknown sound' (Value.hasType_iff.2 ⟨_, has', rfl⟩))
  · have applies' : ¬∃ dims, left' = .number dims ∧ right' = .number dims := by
      rintro ⟨dims, rfl, rfl⟩
      exact applies ⟨dims, Ty.same_number.1 sameLeft, Ty.same_number.1 sameRight⟩
    simp only [apply, Bool.eq_false_iff.2 (mt applies_iff.1 applies)] at applied
    simp only [apply, Bool.eq_false_iff.2 (mt applies_iff.1 applies')] at applied'
    cases applied
    cases applied'
    exact .refused (fun same => (by cases same)) fun same => (by cases same)

theorem LogicOperator.apply_refined {operator : LogicOperator} {a b a' b' : Value}
    {left right left' right' : Ty} (refinedA : a.RefinedBy registry a') (refinedB : b.RefinedBy registry b')
    (sameLeft : left.same left' = true) (sameRight : right.same right' = true) :
    OperatorError.Refined registry (operator.apply left right a b) (operator.apply left' right' a' b') := by
  by_cases applies : (left.isBool && right.isBool) = true
  · have applies' : (left'.isBool && right'.isBool) = true := by
      rw [← Ty.isBool_of_same sameLeft, ← Ty.isBool_of_same sameRight, applies]
    rw [apply_of_bools applies, apply_of_bools applies']
    refine .value (.ofAnswer fun answer answered => ?_)
    obtain ⟨x, knownA, y, knownB, rfl⟩ : ∃ x, a.bool? = some x ∧ ∃ y, b.bool? = some y ∧
        operator.holds x y = answer := by
      simpa [Option.bind_eq_some_iff] using answered
    simp [refinedA.bool? knownA, refinedB.bool? knownB]
  · have refuses' : ¬(left'.isBool && right'.isBool) = true := by
      rwa [← Ty.isBool_of_same sameLeft, ← Ty.isBool_of_same sameRight]
    simp only [apply, applies, refuses']
    exact .refused (fun same => (by cases same)) fun same => (by cases same)

/-! ### Equality -/

theorem Value.equal_of_typed {a b : Value} (typedA : a ≠ .placeholder) (typedB : b ≠ .placeholder) :
    a.equal b = .ofAnswer (a.decideEqual b) := by
  cases a <;> cases b <;> simp_all [Value.equal, Value.isPlaceholder] <;> rfl

theorem Value.equal_stable {a b a' b' : Value} (soundA : a.wellFormed registry = true)
    (soundB : b.wellFormed registry = true) (soundA' : a'.wellFormed registry = true)
    (soundB' : b'.wellFormed registry = true) (refinedA : a.RefinedBy registry a')
    (refinedB : b.RefinedBy registry b') (typedA : a ≠ .placeholder) (typedB : b ≠ .placeholder) :
    ∃ answer answer' : Option Bool, a.equal b = .ofAnswer answer ∧ a'.equal b' = .ofAnswer answer' ∧
      ∀ x, answer = some x → answer' = some x :=
  ⟨_, _, equal_of_typed typedA typedB,
    equal_of_typed (refinedA.ne_placeholder typedA) (refinedB.ne_placeholder typedB),
    fun _ decided => decideEqual_refined soundA soundB soundA' soundB' refinedA refinedB decided⟩

/-- An operator applied to refined operands gives a refinement, refuses what it refused, or finds that the
divisor is zero. -/
theorem BinaryOperator.apply_refined {operator : BinaryOperator} {a b a' b' : Value}
    {result result' : Except OperatorError Value}
    (soundA : a.wellFormed registry = true) (soundB : b.wellFormed registry = true)
    (soundA' : a'.wellFormed registry = true) (soundB' : b'.wellFormed registry = true)
    (refinedA : a.RefinedBy registry a') (refinedB : b.RefinedBy registry b')
    (applied : operator.apply a b = .ok result) (applied' : operator.apply a' b' = .ok result') :
    OperatorError.Refined registry result result' := by
  cases hasA : a.ty? with
  | none =>
    obtain rfl := Value.ty?_eq_none.1 hasA
    obtain rfl := Value.placeholder_refinedBy.1 refinedA
    cases applied
    cases applied'
    exact .value (.refl rfl)
  | some left =>
    obtain ⟨left', hasA', sameLeft⟩ := refinedA.ty hasA
    cases hasB : b.ty? with
    | none =>
      obtain rfl := Value.ty?_eq_none.1 hasB
      obtain rfl := Value.placeholder_refinedBy.1 refinedB
      simp only [apply, hasA, Value.ty?_placeholder] at applied
      simp only [apply, hasA', Value.ty?_placeholder] at applied'
      cases applied
      cases applied'
      exact .value (.refl rfl)
    | some right =>
      obtain ⟨right', hasB', sameRight⟩ := refinedB.ty hasB
      have typedA : a ≠ .placeholder := Value.ty?_ne_none.1 (by simp [hasA])
      have typedB : b ≠ .placeholder := Value.ty?_ne_none.1 (by simp [hasB])
      simp only [apply, hasA, hasB] at applied
      simp only [apply, hasA', hasB'] at applied'
      cases operator with
      | arithmetic operator =>
        exact operator.apply_refined soundA soundB soundA' soundB' refinedA refinedB hasA hasB hasA' hasB'
          sameLeft sameRight applied applied'
      | order operator =>
        exact operator.apply_refined soundA soundB soundA' soundB' refinedA refinedB hasA hasB hasA' hasB'
          sameLeft sameRight applied applied'
      | logic operator =>
        cases applied
        cases applied'
        exact operator.apply_refined refinedA refinedB sameLeft sameRight
      | equal =>
        obtain ⟨answer, answer', equal, equal', stable⟩ :=
          Value.equal_stable soundA soundB soundA' soundB' refinedA refinedB typedA typedB
        cases applied
        cases applied'
        rw [equal, equal']
        exact .value (.ofAnswer stable)
      | notEqual =>
        obtain ⟨answer, answer', equal, equal', stable⟩ :=
          Value.equal_stable soundA soundB soundA' soundB' refinedA refinedB typedA typedB
        cases applied
        cases applied'
        rw [equal, equal', Value.opposite_ofAnswer, Value.opposite_ofAnswer]
        refine .value (.ofAnswer fun x answered => ?_)
        obtain ⟨y, decided, rfl⟩ := Option.map_eq_some_iff.1 answered
        simp [stable y decided]

end Circuitry
