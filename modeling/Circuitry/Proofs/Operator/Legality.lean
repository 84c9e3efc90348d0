import Circuitry.Proofs.Operator.Refinement

/-!
# What types decide

Whether an operator applies is decided before payloads are looked at. So an operator that is applied to known
operands is refused in the same words when some of them are withheld, that is, replaced by unknowns of their
types; and where it gave a value it then gives an unknown of the type of that value. There are two exceptions.
Operands of different types are unequal, whatever they are. And a zero divisor is only found on payloads, which is
the one error that they can lead to.
-/

set_option autoImplicit false

namespace Circuitry

variable {registry : Registry} {left right : Ty} {p q : Payload}

/-! ### Withheld operands -/

/-- Two operands of given types and payloads, of which one or both are replaced by an unknown of its type. -/
inductive Value.Withheld (left right : Ty) (p q : Payload) : Value → Value → Prop where
  | left : Withheld left right p q (.unknown left) (.known right q)
  | right : Withheld left right p q (.known left p) (.unknown right)
  | both : Withheld left right p q (.unknown left) (.unknown right)

theorem Value.Withheld.ty_left {a b : Value} (withheld : Withheld left right p q a b) : a.ty? = some left := by
  cases withheld <;> rfl

theorem Value.Withheld.ty_right {a b : Value} (withheld : Withheld left right p q a b) :
    b.ty? = some right := by
  cases withheld <;> rfl

theorem Value.Withheld.missing {a b : Value} (withheld : Withheld left right p q a b) :
    a.payload? = none ∨ b.payload? = none := by
  cases withheld with
  | left | both => exact .inl rfl
  | right => exact .inr rfl

/-- The type of the quotient of two numbers, if its dimensions are in range. -/
def Ty.quotient? : Ty → Ty → Option Ty
  | .number a, .number b => (a.div? b).map Ty.number
  | _, _ => none

/-- The answer of an operator is settled by the types of its operands: whether they are equal, and they are of
different types. -/
def BinaryOperator.SettledBy (operator : BinaryOperator) (left right : Ty) : Prop :=
  (operator = .equal ∨ operator = .notEqual) ∧ left.same right = false

/-- How the result of an operator changes when operands are withheld. The answer may be settled by types, and a
quotient may have a type. -/
structure OperatorError.Withholding (settled : Prop) (quotient : Option Ty)
    (result withheld : Except OperatorError Value) : Prop where
  refused : ∀ error, withheld = .error error ↔ result = .error error ∧ error ≠ .divisionByZero
  answered : settled → ∃ answer, result = .ok (.ofBool answer) ∧ withheld = .ok (.ofBool answer)
  unknown : ¬settled → ∀ value, result = .ok value → ∃ ty, value.ty? = some ty ∧ withheld = .ok (.unknown ty)
  zero : result = .error .divisionByZero → ∃ ty, quotient = some ty ∧ withheld = .ok (.unknown ty)

namespace OperatorError.Withholding

variable {settled : Prop} {quotient : Option Ty}

theorem of_error {error : OperatorError} (unsettled : ¬settled) (nonzero : error ≠ .divisionByZero) :
    Withholding settled quotient (.error error) (.error error) where
  refused _ := ⟨fun same => ⟨same, Except.error.inj same ▸ nonzero⟩, And.left⟩
  answered is := absurd is unsettled
  unknown _ _ same := nomatch same
  zero same := absurd (Except.error.inj same) nonzero

theorem of_zero {ty : Ty} (unsettled : ¬settled) (is : quotient = some ty) :
    Withholding settled quotient (.error .divisionByZero) (.ok (.unknown ty)) where
  refused _ := ⟨fun same => (nomatch same), fun both => absurd (Except.error.inj both.1).symm both.2⟩
  answered is := absurd is unsettled
  unknown _ _ same := nomatch same
  zero _ := ⟨ty, is, rfl⟩

theorem of_value {value : Value} {ty : Ty} (unsettled : ¬settled) (has : value.ty? = some ty) :
    Withholding settled quotient (.ok value) (.ok (.unknown ty)) where
  refused _ := ⟨fun same => (nomatch same), fun both => (nomatch both.1)⟩
  answered is := absurd is unsettled
  unknown _ _ same := ⟨ty, Except.ok.inj same ▸ has, rfl⟩
  zero same := nomatch same

theorem of_answer (answer : Bool) (is : settled) :
    Withholding settled quotient (.ok (.ofBool answer)) (.ok (.ofBool answer)) where
  refused _ := ⟨fun same => (nomatch same), fun both => (nomatch both.1)⟩
  answered _ := ⟨answer, rfl, rfl⟩
  unknown unsettled := absurd is unsettled
  zero same := nomatch same

end OperatorError.Withholding

open OperatorError (Withholding)

/-! ### One operand -/

theorem UnaryOperator.apply_withheld (operator : UnaryOperator)
    (soundLeft : (Value.known left p).wellFormed registry = true) :
    ∃ result withheld, operator.apply (.known left p) = .ok result ∧
      operator.apply (.unknown left) = .ok withheld ∧ Withholding False none result withheld := by
  by_cases accepts : operator.Accepts left
  · cases operator with
    | neg =>
      obtain ⟨dims, rfl⟩ := accepts
      obtain ⟨value, made, -, has⟩ := neg_of_number soundLeft rfl
      exact ⟨_, _, made, neg_unknown dims, .of_value not_false has⟩
    | not =>
      refine ⟨_, _, not_of_bool rfl accepts, not_of_bool rfl accepts, ?_⟩
      exact .of_value not_false (Value.ty?_ofAnswer _)
  · exact ⟨_, _, apply_refuses rfl accepts, apply_refuses rfl accepts,
      .of_error not_false fun same => (nomatch same)⟩

/-! ### Two operands -/

/-- Only a quotient can turn out to have a zero divisor. -/
theorem ArithmeticOperator.div_of_zero {operator : ArithmeticOperator} {ty : Ty}
    (typed : operator.Typed left right ty) (fitsLeft : p.fits registry left = true)
    (fitsRight : q.fits registry right = true)
    (zero : operator.combine left right p q = .ok (.error .divisionByZero)) : operator = .div := by
  by_contra notDiv
  cases typed with
  | concat =>
    obtain ⟨a, rfl⟩ := Payload.fits_string fitsLeft
    obtain ⟨b, rfl⟩ := Payload.fits_string fitsRight
    cases (combine_strings a b).symm.trans zero
  | number inRange =>
    obtain ⟨a, rfl, rfl⟩ := Payload.fits_number fitsLeft
    obtain ⟨b, rfl, rfl⟩ := Payload.fits_number fitsRight
    obtain ⟨result, made, -⟩ := combine_quantities inRange fun isDiv => absurd isDiv notDiv
    cases made.symm.trans zero

theorem ArithmeticOperator.Typed.quotient? {ty : Ty} (typed : ArithmeticOperator.div.Typed left right ty) :
    left.quotient? right = some ty := by
  cases typed with
  | number inRange => exact congrArg (Option.map Ty.number) inRange

theorem ArithmeticOperator.apply_withheld (operator : ArithmeticOperator) {settled : Prop} {a b : Value}
    (unsettled : ¬settled) (soundLeft : (Value.known left p).wellFormed registry = true)
    (soundRight : (Value.known right q).wellFormed registry = true)
    (missing : a.payload? = none ∨ b.payload? = none) :
    ∃ result withheld, operator.apply left right (.known left p) (.known right q) = .ok result ∧
      operator.apply left right a b = .ok withheld ∧
      Withholding settled (left.quotient? right) result withheld := by
  rcases operator.resultType_cases left right with ⟨ty, -, typed⟩ | ⟨error, refused, reason, -⟩
  · have fitsLeft := (Value.wellFormed_known.1 soundLeft).1
    have fitsRight := (Value.wellFormed_known.1 soundRight).1
    rw [apply_known typed, apply_missing typed missing]
    rcases combine_of_typed typed fitsLeft fitsRight with ⟨payload, made, -⟩ | zero
    · rw [made]
      exact ⟨_, _, rfl, rfl, .of_value unsettled rfl⟩
    · obtain rfl := div_of_zero typed fitsLeft fitsRight zero
      rw [zero]
      exact ⟨_, _, rfl, rfl, .of_zero unsettled typed.quotient?⟩
  · rw [apply_of_error refused, apply_of_error refused]
    refine ⟨_, _, rfl, rfl, .of_error unsettled ?_⟩
    rcases reason with rfl | rfl <;> exact fun same => nomatch same

theorem OrderOperator.apply_withheld (operator : OrderOperator) {settled : Prop} {quotient : Option Ty}
    {a b : Value} (unsettled : ¬settled) (soundLeft : (Value.known left p).wellFormed registry = true)
    (soundRight : (Value.known right q).wellFormed registry = true)
    (missing : a.payload? = none ∨ b.payload? = none) :
    ∃ result withheld, operator.apply left right (.known left p) (.known right q) = .ok result ∧
      operator.apply left right a b = .ok withheld ∧ Withholding settled quotient result withheld := by
  by_cases applies : ∃ dims, left = .number dims ∧ right = .number dims
  · obtain ⟨dims, rfl, rfl⟩ := applies
    obtain ⟨value, made, -, has⟩ := operator.apply_of_numbers soundLeft soundRight rfl rfl
    exact ⟨_, _, made, operator.apply_missing missing, .of_value unsettled has⟩
  · have refused := Bool.eq_false_iff.2 (mt applies_iff.1 applies)
    simp only [apply, refused]
    exact ⟨_, _, rfl, rfl, .of_error unsettled (by simp)⟩

/-- A truth value is missing with its payload. -/
theorem Value.bool?_of_missing {value : Value} (missing : value.payload? = none) : value.bool? = none := by
  cases value with
  | known _ _ => cases missing
  | _ => rfl

theorem LogicOperator.apply_withheld (operator : LogicOperator) {settled : Prop} {quotient : Option Ty}
    {a b : Value} (unsettled : ¬settled) (missing : a.payload? = none ∨ b.payload? = none) :
    Withholding settled quotient (operator.apply left right (.known left p) (.known right q))
      (operator.apply left right a b) := by
  by_cases applies : (left.isBool && right.isBool) = true
  · rw [apply_of_bools applies, apply_of_bools applies]
    have unanswered : (a.bool?.bind fun x => b.bool?.map fun y => operator.holds x y) = none := by
      rcases missing with missing | missing
      · rw [Value.bool?_of_missing missing, Option.bind_none]
      · simp [Value.bool?_of_missing missing]
    rw [unanswered]
    exact .of_value unsettled (Value.ty?_ofAnswer _)
  · simp only [apply, applies]
    exact .of_error unsettled (by simp)

/-! ### Equality -/

/-- Equality with a value that is not known is undecided where the types are the same. -/
theorem Value.decideEqual_of_missing {a b : Value} (has : a.ty? = some left) (has' : b.ty? = some right)
    (same : left.same right = true) (missing : a.payload? = none ∨ b.payload? = none) :
    a.decideEqual b = none := by
  cases a <;> cases b <;> cases has <;> cases has' <;> simp_all [Value.decideEqual, Value.ty?, Value.payload?]

theorem Value.equal_of_types {a b : Value} (has : a.ty? = some left) (has' : b.ty? = some right) :
    a.equal b = .ofAnswer (a.decideEqual b) :=
  equal_of_typed (ty?_ne_none.1 (by simp [has])) (ty?_ne_none.1 (by simp [has']))

/-- Whether operands are equal, or the opposite, is settled by a difference of types and otherwise needs both
payloads. -/
theorem Value.decideEqual_withheld (change : Bool → Bool) (quotient : Option Ty) {settled : Prop} {a b : Value}
    (settles : left.same right = false ↔ settled) (withheld : Value.Withheld left right p q a b) :
    Withholding settled quotient
      (.ok (.ofAnswer (((Value.known left p).decideEqual (.known right q)).map change)))
      (.ok (.ofAnswer ((a.decideEqual b).map change))) := by
  cases types : left.same right with
  | false =>
    rw [decideEqual_of_types rfl rfl types, decideEqual_of_types withheld.ty_left withheld.ty_right types]
    exact .of_answer (change false) (settles.1 types)
  | true =>
    rw [decideEqual_of_missing withheld.ty_left withheld.ty_right types withheld.missing]
    exact .of_value (fun settled => Bool.eq_false_iff.1 (settles.2 settled) types) (ty?_ofAnswer _)

/-! ### All operators -/

theorem BinaryOperator.settledBy_iff {operator : BinaryOperator}
    (isEquality : operator = .equal ∨ operator = .notEqual) :
    left.same right = false ↔ operator.SettledBy left right :=
  (and_iff_right isEquality).symm

theorem BinaryOperator.apply_withheld (operator : BinaryOperator) {a b : Value}
    (soundLeft : (Value.known left p).wellFormed registry = true)
    (soundRight : (Value.known right q).wellFormed registry = true)
    (withheld : Value.Withheld left right p q a b) :
    ∃ result result', operator.apply (.known left p) (.known right q) = .ok result ∧
      operator.apply a b = .ok result' ∧
      Withholding (operator.SettledBy left right) (left.quotient? right) result result' := by
  have missing := withheld.missing
  have known : (Value.known left p).ty? = some left := rfl
  have known' : (Value.known right q).ty? = some right := rfl
  simp only [apply, known, known', withheld.ty_left, withheld.ty_right]
  cases operator with
  | arithmetic operator => exact operator.apply_withheld (by simp [SettledBy]) soundLeft soundRight missing
  | order operator => exact operator.apply_withheld (by simp [SettledBy]) soundLeft soundRight missing
  | logic operator =>
    exact ⟨_, _, rfl, rfl, operator.apply_withheld (by simp [SettledBy]) missing⟩
  | equal =>
    rw [Value.equal_of_types rfl rfl, Value.equal_of_types withheld.ty_left withheld.ty_right]
    have compared := Value.decideEqual_withheld id (left.quotient? right)
      (settledBy_iff (.inl rfl)) withheld
    simp only [Option.map_id, id] at compared
    exact ⟨_, _, rfl, rfl, compared⟩
  | notEqual =>
    rw [Value.equal_of_types rfl rfl, Value.equal_of_types withheld.ty_left withheld.ty_right,
      Value.opposite_ofAnswer, Value.opposite_ofAnswer]
    exact ⟨_, _, rfl, rfl, Value.decideEqual_withheld (! ·) _ (settledBy_iff (.inr rfl)) withheld⟩

/-- Operators applied to known operands are refused, with the same error, exactly if they are refused when
operands are withheld; otherwise an unknown of the type of the result is given, unless types settle the answer.
Payloads of operands that are not refused lead to no error but that of a zero divisor. -/
theorem legality_decided_by_types (soundLeft : (Value.known left p).wellFormed registry = true)
    (soundRight : (Value.known right q).wellFormed registry = true) :
    (∀ operator : UnaryOperator, ∃ result result', operator.apply (.known left p) = .ok result ∧
        operator.apply (.unknown left) = .ok result' ∧ Withholding False none result result') ∧
      (∀ (operator : BinaryOperator) (a b : Value), Value.Withheld left right p q a b →
        ∃ result result', operator.apply (.known left p) (.known right q) = .ok result ∧
          operator.apply a b = .ok result' ∧
          Withholding (operator.SettledBy left right) (left.quotient? right) result result') ∧
      ∀ (operator : ArithmeticOperator) (ty : Ty), operator.resultType left right = .ok (.ok ty) →
        ∃ combined, operator.combine left right p q = .ok combined ∧
          ∀ error, combined = .error error → error = .divisionByZero := by
  refine ⟨fun operator => operator.apply_withheld soundLeft,
    fun operator a b withheld => operator.apply_withheld soundLeft soundRight withheld,
    fun operator ty allowed => ?_⟩
  rcases ArithmeticOperator.combine_of_typed (ArithmeticOperator.resultType_eq_ok_iff.1 allowed)
    (Value.wellFormed_known.1 soundLeft).1 (Value.wellFormed_known.1 soundRight).1 with ⟨payload, made, -⟩ | zero
  · exact ⟨_, made, fun error same => nomatch same⟩
  · exact ⟨_, zero, fun error same => (Except.error.inj same).symm⟩

namespace Divider

def volts : Payload := .quantity ⟨5, .coherent "V" .voltage⟩

def noCurrent : Payload := .quantity ⟨0, .coherent "A" .ofCurrent⟩

end Divider

/-- Five volts divided by no current at all are refused; divided by an unknown current they are an unknown
resistance. -/
theorem resistance_withheld :
    ∃ result result',
      (BinaryOperator.arithmetic .div).apply (.known (.number .voltage) Divider.volts)
          (.known (.number .ofCurrent) Divider.noCurrent) = .ok result ∧
        (BinaryOperator.arithmetic .div).apply (.known (.number .voltage) Divider.volts)
          (.unknown (.number .ofCurrent)) = .ok result' ∧
        Withholding ((BinaryOperator.arithmetic .div).SettledBy (.number .voltage) (.number .ofCurrent))
          (some (.number .resistance)) result result' :=
  (@legality_decided_by_types ⟨fun _ _ => false, fun _ _ => false⟩ _ _ _ _ rfl rfl).2.1 (.arithmetic .div) _ _
    .right

end Circuitry
