import Circuitry.Operator
import Circuitry.Proofs.Kernel.WellFormed
import Circuitry.Proofs.Quantity.Base

/-!
# Operators on well-formed operands

Whether an operator applies is decided on types, and the rules for it are given here as relations. Where they
allow it, the payloads of well-formed operands combine without a fault, and the only error left is a zero
divisor. So an operator applied to well-formed operands gives a well-formed value or an error that can be
written.
-/

set_option autoImplicit false

namespace Circuitry

variable {registry : Registry}

/-! ### Which types an operator accepts -/

/-- The dimensions of the result of arithmetic on numbers, if it applies. -/
def ArithmeticOperator.dims? : ArithmeticOperator → Dimensions → Dimensions → Option Dimensions
  | .add, a, b | .sub, a, b => if a = b then some a else none
  | .mul, a, b => a.mul? b
  | .div, a, b => a.div? b

/-- Arithmetic applies to operands of two types, and its result has the third. -/
inductive ArithmeticOperator.Typed : ArithmeticOperator → Ty → Ty → Ty → Prop where
  | concat : Typed .add .string .string .string
  | number {operator : ArithmeticOperator} {a b dims : Dimensions} (inRange : operator.dims? a b = some dims) :
      Typed operator (.number a) (.number b) (.number dims)

/-- Only numbers have products and quotients. -/
theorem Arithmetic.canMultiply_iff {arithmetic : Arithmetic} {ty : Ty} :
    arithmetic.canMultiply ty = true ↔ ∃ dims, ty = .number dims := by
  cases ty <;> simp [Arithmetic.canMultiply, Ty.isNumber]

theorem Arithmetic.productType_number (a b : Dimensions) :
    (Arithmetic.mk a).productType (.number b) = .ok ((a.mul? b).map Ty.number) := rfl

theorem Arithmetic.quotientType_number (a b : Dimensions) :
    (Arithmetic.mk a).quotientType (.number b) = .ok ((a.div? b).map Ty.number) := rfl

namespace ArithmeticOperator

/-- Numbers have a result of their dimensions, if it is in range. -/
theorem resultType_number (operator : ArithmeticOperator) (a b : Dimensions) :
    operator.resultType (.number a) (.number b) =
      .ok (match operator.dims? a b with
        | some dims => .ok (.number dims)
        | none =>
          match operator with
          | .add | .sub => .error (.invalidOperands (.arithmetic operator) (.number a) (.number b))
          | .mul | .div => .error (.dimensionOverflow (.arithmetic operator) (.number a) (.number b))) := by
  cases operator with
  | add | sub =>
    by_cases same : a = b <;>
      simp [resultType, dims?, Ty.canConcat, Ty.isString, Ty.arithmetic?, Ty.dims?, Arithmetic.canSum,
        Arithmetic.sumType, same, eq_comm]
  | mul =>
    simp only [resultType, reduceCtorEq, false_and, if_false, Ty.arithmetic?, Ty.dims?, Option.map_some,
      Arithmetic.canMultiply, Ty.isNumber, if_true, Arithmetic.productType_number, dims?]
    cases a.mul? b <;> rfl
  | div =>
    simp only [resultType, reduceCtorEq, false_and, if_false, Ty.arithmetic?, Ty.dims?, Option.map_some,
      Arithmetic.canMultiply, Ty.isNumber, if_true, Arithmetic.quotientType_number, dims?]
    cases a.div? b <;> rfl

theorem resultType_concat : add.resultType .string .string = .ok (.ok .string) := rfl

/-- Arithmetic on anything but numbers, or strings to be joined, is refused before a type is computed. -/
theorem resultType_refused {operator : ArithmeticOperator} {left right : Ty}
    (strings : ¬(operator = .add ∧ left = .string ∧ right = .string))
    (numbers : ¬∃ a b, left = .number a ∧ right = .number b) :
    operator.resultType left right = .ok (.error (.invalidOperands (.arithmetic operator) left right)) := by
  have apart : ¬(operator = .add ∧ left.canConcat right = true) := by
    rintro ⟨rfl, joins⟩
    cases left <;> cases right <;> simp_all [Ty.canConcat, Ty.isString]
  simp only [resultType, if_neg apart]
  cases left with
  | number a =>
    have refused : (Arithmetic.mk a).canMultiply right = false := by
      refine Bool.eq_false_iff.2 fun accepts => numbers ?_
      obtain ⟨b, rfl⟩ := Arithmetic.canMultiply_iff.1 accepts
      exact ⟨a, b, rfl, rfl⟩
    have differ : (Arithmetic.mk a).canSum right = false := by
      cases right <;> simp_all [Arithmetic.canSum, Ty.dims?]
    cases operator <;> simp [Ty.arithmetic?, Ty.dims?, refused, differ]
  | _ => rfl

/-- The type of a result, or the error in its place, is always found. -/
theorem resultType_cases (operator : ArithmeticOperator) (left right : Ty) :
    (∃ ty, operator.resultType left right = .ok (.ok ty) ∧ operator.Typed left right ty) ∨
      ∃ error, operator.resultType left right = .ok (.error error) ∧
        (error = .invalidOperands (.arithmetic operator) left right ∨
          error = .dimensionOverflow (.arithmetic operator) left right) ∧
        ∀ ty, ¬operator.Typed left right ty := by
  by_cases strings : operator = .add ∧ left = .string ∧ right = .string
  · obtain ⟨rfl, rfl, rfl⟩ := strings
    exact .inl ⟨.string, resultType_concat, .concat⟩
  by_cases numbers : ∃ a b, left = .number a ∧ right = .number b
  · obtain ⟨a, b, rfl, rfl⟩ := numbers
    rw [resultType_number]
    cases inRange : operator.dims? a b with
    | some dims => exact .inl ⟨.number dims, rfl, .number inRange⟩
    | none =>
      refine .inr ?_
      have untyped : ∀ ty, ¬operator.Typed (.number a) (.number b) ty := by
        intro ty typed
        cases typed with
        | number inRange' => cases inRange.symm.trans inRange'
      cases operator with
      | add | sub => exact ⟨_, rfl, .inl rfl, untyped⟩
      | mul | div => exact ⟨_, rfl, .inr rfl, untyped⟩
  · refine .inr ⟨_, resultType_refused strings numbers, .inl rfl, ?_⟩
    intro ty typed
    cases typed with
    | concat => exact strings ⟨rfl, rfl, rfl⟩
    | number _ => exact numbers ⟨_, _, rfl, rfl⟩

theorem Typed.unique {operator : ArithmeticOperator} {left right ty ty' : Ty}
    (typed : operator.Typed left right ty) (typed' : operator.Typed left right ty') : ty = ty' := by
  cases typed with
  | concat =>
    cases typed'
    rfl
  | number inRange =>
    cases typed' with
    | number inRange' => rw [Option.some.inj (inRange.symm.trans inRange')]

theorem resultType_eq_ok_iff {operator : ArithmeticOperator} {left right ty : Ty} :
    operator.resultType left right = .ok (.ok ty) ↔ operator.Typed left right ty := by
  rcases operator.resultType_cases left right with ⟨ty', found, typed⟩ | ⟨error, refused, -, untyped⟩
  · rw [found]
    refine ⟨fun same => ?_, fun typed' => by rw [typed.unique typed']⟩
    cases same
    exact typed
  · rw [refused]
    exact ⟨fun same => (nomatch same), fun typed => absurd typed (untyped ty)⟩

end ArithmeticOperator

theorem OrderOperator.applies_iff {left right : Ty} :
    ((left.arithmetic?).any fun arithmetic => arithmetic.canSum right) = true ↔
      ∃ dims, left = .number dims ∧ right = .number dims := by
  cases left <;> cases right <;>
    simp [Ty.arithmetic?, Ty.dims?, Arithmetic.canSum, eq_comm]

/-! ### Payloads -/

/-- What arithmetic does to base values. -/
def ArithmeticOperator.onBase : ArithmeticOperator → Rat → Rat → Rat
  | .add, a, b => a + b
  | .sub, a, b => a - b
  | .mul, a, b => a * b
  | .div, a, b => a / b

theorem ArithmeticOperator.combine_strings (a b : String) :
    ArithmeticOperator.add.combine .string .string (.string a) (.string b) =
      .ok (.ok (.string (a ++ b))) := rfl

theorem ArithmeticOperator.combine_zero {left right : Ty} {a b : Quantity} (zero : b.isZero = true) :
    ArithmeticOperator.div.combine left right (.quantity a) (.quantity b) =
      .ok (.error .divisionByZero) := by
  simp [combine, Arithmetic.div, Payload.asQuantity, Quantity.div_zero zero, bind, Except.bind, pure,
    Except.pure, Except.map, Except.mapError, OperatorError.ofQuantityError]

/-- Unless the divisor is zero, arithmetic on quantities of fitting dimensions gives a quantity, and does to
base values what it is named for. -/
theorem ArithmeticOperator.combine_quantities {operator : ArithmeticOperator} {a b : Quantity}
    {dims : Dimensions} (inRange : operator.dims? a.dims b.dims = some dims)
    (nonzero : operator = .div → b.isZero = false) :
    ∃ result, operator.combine (.number a.dims) (.number b.dims) (.quantity a) (.quantity b) =
        .ok (.ok (.quantity result)) ∧
      result.dims = dims ∧ result.base = operator.onBase a.base b.base := by
  cases operator with
  | add =>
    simp only [dims?, Option.ite_none_right_eq_some, Option.some.injEq] at inRange
    exact ⟨a.add b, rfl, inRange.2, Quantity.base_add a b⟩
  | sub =>
    simp only [dims?, Option.ite_none_right_eq_some, Option.some.injEq] at inRange
    exact ⟨a.sub b, rfl, inRange.2, Quantity.base_sub a b⟩
  | mul =>
    obtain ⟨product, made, dimensions, base⟩ := Quantity.mul_of_dims inRange
    exact ⟨product, by simp [combine, Arithmetic.mul, Payload.asQuantity, made, bind, Except.bind, pure,
      Except.pure, Except.map, Except.mapError], dimensions, base⟩
  | div =>
    obtain ⟨quotient, made, dimensions, base⟩ := Quantity.div_of_dims inRange (nonzero rfl)
    exact ⟨quotient, by simp [combine, Arithmetic.div, Payload.asQuantity, made, bind, Except.bind, pure,
      Except.pure, Except.map, Except.mapError], dimensions, base⟩

/-- Payloads that fit the types that arithmetic accepts combine to one that fits the result type, unless the
divisor is zero. -/
theorem ArithmeticOperator.combine_of_typed {operator : ArithmeticOperator} {left right ty : Ty}
    {p q : Payload} (typed : operator.Typed left right ty) (fitsLeft : p.fits registry left = true)
    (fitsRight : q.fits registry right = true) :
    (∃ result, operator.combine left right p q = .ok (.ok result) ∧
        (Value.known ty result).wellFormed registry = true) ∨
      operator.combine left right p q = .ok (.error .divisionByZero) := by
  cases typed with
  | concat =>
    obtain ⟨a, rfl⟩ := Payload.fits_string fitsLeft
    obtain ⟨b, rfl⟩ := Payload.fits_string fitsRight
    exact .inl ⟨_, combine_strings a b, rfl⟩
  | number inRange =>
    obtain ⟨a, rfl, rfl⟩ := Payload.fits_number fitsLeft
    obtain ⟨b, rfl, rfl⟩ := Payload.fits_number fitsRight
    by_cases zero : operator = .div ∧ b.isZero = true
    · obtain ⟨rfl, zero⟩ := zero
      exact .inr (combine_zero zero)
    · obtain ⟨result, made, dimensions, -⟩ := combine_quantities inRange fun isDiv =>
        Bool.eq_false_iff.2 fun isZero => zero ⟨isDiv, isZero⟩
      refine .inl ⟨_, made, Value.wellFormed_known.2 ⟨by simpa [Payload.fits] using dimensions, rfl, ?_⟩⟩
      exact ⟨fun _ same => (by cases same), fun _ same => (by cases same)⟩

/-! ### Results -/

/-- An operator gives a well-formed value, or an error that can be written. -/
structure OperatorError.Settled (registry : Registry) (result : Except OperatorError Value) : Prop where
  sound : ∀ value, result = .ok value → value.wellFormed registry = true
  written : ∀ error, result = .error error → ∃ text, error.message = .ok text

theorem OperatorError.Settled.ok {value : Value} (sound : value.wellFormed registry = true) :
    OperatorError.Settled registry (.ok value) :=
  ⟨fun _ same => Except.ok.inj same ▸ sound, fun _ same => (nomatch same)⟩

theorem OperatorError.Settled.error {error : OperatorError} (written : ∃ text, error.message = .ok text) :
    OperatorError.Settled registry (.error error) :=
  ⟨fun _ same => (nomatch same), fun _ same => Except.error.inj same ▸ written⟩

theorem OperatorError.invalidOperand_written {operator : UnaryOperator} {ty : Ty}
    (sound : ty.wellFormed registry = true) :
    ∃ text, (OperatorError.invalidOperand operator ty).message = .ok text := by
  obtain ⟨text, written⟩ := Ty.text_ok sound
  exact ⟨_, by simp only [OperatorError.message, written]; rfl⟩

theorem OperatorError.invalidOperands_written {operator : BinaryOperator} {left right : Ty}
    (soundLeft : left.wellFormed registry = true) (soundRight : right.wellFormed registry = true) :
    ∃ text, (OperatorError.invalidOperands operator left right).message = .ok text := by
  obtain ⟨text, written⟩ := Ty.text_ok soundLeft
  obtain ⟨text', written'⟩ := Ty.text_ok soundRight
  exact ⟨_, by simp only [OperatorError.message, written, written']; rfl⟩

theorem OperatorError.dimensionOverflow_written {operator : BinaryOperator} {left right : Ty}
    (soundLeft : left.wellFormed registry = true) (soundRight : right.wellFormed registry = true) :
    ∃ text, (OperatorError.dimensionOverflow operator left right).message = .ok text := by
  obtain ⟨text, written⟩ := Ty.text_ok soundLeft
  obtain ⟨text', written'⟩ := Ty.text_ok soundRight
  exact ⟨_, by simp only [OperatorError.message, written, written']; rfl⟩

@[simp] theorem Value.wellFormed_ofBool (value : Bool) : (Value.ofBool value).wellFormed registry = true :=
  rfl

/-! ### One operand -/

theorem Ty.arithmetic?_eq_none {ty : Ty} : ty.arithmetic? = none ↔ ¬∃ dims, ty = .number dims := by
  cases ty <;> simp [Ty.arithmetic?, Ty.dims?]

/-- A value that has a type is known or not. -/
theorem Value.known_or_unknown {value : Value} {ty : Ty} (has : value.ty? = some ty) :
    (∃ payload, value = .known ty payload) ∨ value = .unknown ty := by
  cases value with
  | known ty' payload =>
    cases has
    exact .inl ⟨payload, rfl⟩
  | unknown ty' =>
    cases has
    exact .inr rfl
  | placeholder => cases has

/-- A truth value that is unknown as long as there is no answer. -/
def Value.ofAnswer : Option Bool → Value
  | some answer => .ofBool answer
  | none => .unknown .bool

@[simp] theorem Value.wellFormed_ofAnswer (answer : Option Bool) :
    (Value.ofAnswer answer).wellFormed registry = true := by
  cases answer <;> rfl

@[simp] theorem Value.ty?_ofAnswer (answer : Option Bool) : (Value.ofAnswer answer).ty? = some .bool := by
  cases answer <;> rfl

/-- An operator applies to an operand of this type. -/
def UnaryOperator.Accepts : UnaryOperator → Ty → Prop
  | .neg, ty => ∃ dims, ty = .number dims
  | .not, ty => ty.isBool = true

theorem UnaryOperator.apply_refuses {operator : UnaryOperator} {operand : Value} {ty : Ty}
    (has : operand.ty? = some ty) (refuses : ¬operator.Accepts ty) :
    operator.apply operand = .ok (.error (.invalidOperand operator ty)) := by
  cases operator with
  | neg => simp only [apply, has, Ty.arithmetic?_eq_none.2 refuses]
  | not => simp [apply, has, Bool.eq_false_iff.2 refuses]

theorem UnaryOperator.neg_known (dims : Dimensions) (q : Quantity) :
    UnaryOperator.neg.apply (.known (.number dims) (.quantity q)) =
      .ok (.ok (.known (.number dims) (.quantity q.neg))) := rfl

theorem UnaryOperator.neg_unknown (dims : Dimensions) :
    UnaryOperator.neg.apply (.unknown (.number dims)) = .ok (.ok (.unknown (.number dims))) := rfl

theorem UnaryOperator.not_of_bool {operand : Value} {ty : Ty} (has : operand.ty? = some ty)
    (isBool : ty.isBool = true) :
    UnaryOperator.not.apply operand = .ok (.ok (.ofAnswer (operand.bool?.map (! ·)))) := by
  simp only [apply, has, isBool]
  cases operand.bool? <;> rfl

/-- The opposite of a number is a number of the same dimensions. -/
theorem UnaryOperator.neg_of_number {operand : Value} {dims : Dimensions}
    (sound : operand.wellFormed registry = true) (has : operand.ty? = some (.number dims)) :
    ∃ value, UnaryOperator.neg.apply operand = .ok (.ok value) ∧ value.wellFormed registry = true ∧
      value.ty? = some (.number dims) := by
  rcases Value.known_or_unknown has with ⟨payload, rfl⟩ | rfl
  · obtain ⟨q, rfl, rfl⟩ := Payload.fits_number (Value.wellFormed_known.1 sound).1
    exact ⟨_, neg_known _ q, by simp [Value.wellFormed_known, Payload.fits, Payload.Mentions], rfl⟩
  · exact ⟨_, neg_unknown dims, rfl, rfl⟩

theorem UnaryOperator.apply_settled (operator : UnaryOperator) {operand : Value}
    (sound : operand.wellFormed registry = true) :
    ∃ result, operator.apply operand = .ok result ∧ OperatorError.Settled registry result := by
  cases has : operand.ty? with
  | none => exact ⟨.ok .placeholder, by simp only [apply, has], .ok rfl⟩
  | some ty =>
    by_cases accepts : operator.Accepts ty
    · cases operator with
      | neg =>
        obtain ⟨dims, rfl⟩ := accepts
        obtain ⟨value, made, soundValue, -⟩ := neg_of_number sound has
        exact ⟨_, made, .ok soundValue⟩
      | not => exact ⟨_, not_of_bool has accepts, .ok (Value.wellFormed_ofAnswer _)⟩
    · exact ⟨_, apply_refuses has accepts,
        .error (OperatorError.invalidOperand_written (Value.wellFormed_ty sound has))⟩

/-! ### Two operands -/

/-- Two operands that have types are both known, or the payload of one is missing. -/
theorem Value.known_or_missing {a b : Value} {left right : Ty} (has : a.ty? = some left)
    (has' : b.ty? = some right) :
    (∃ p q, a = .known left p ∧ b = .known right q) ∨ a.payload? = none ∨ b.payload? = none := by
  rcases known_or_unknown has with ⟨p, rfl⟩ | rfl
  · rcases known_or_unknown has' with ⟨q, rfl⟩ | rfl
    · exact .inl ⟨p, q, rfl, rfl⟩
    · exact .inr (.inr rfl)
  · exact .inr (.inl rfl)

/-- Types that arithmetic refuses leave its error, whatever the operands. -/
theorem ArithmeticOperator.apply_of_error {operator : ArithmeticOperator} {left right : Ty}
    {error : OperatorError} (refused : operator.resultType left right = .ok (.error error)) (a b : Value) :
    operator.apply left right a b = .ok (.error error) := by
  simp only [apply, refused]
  rfl

/-- Where arithmetic applies, known operands are combined. -/
theorem ArithmeticOperator.apply_known {operator : ArithmeticOperator} {left right ty : Ty}
    (typed : operator.Typed left right ty) (p q : Payload) :
    operator.apply left right (.known left p) (.known right q) =
      (operator.combine left right p q).map (Except.map (Value.known ty)) := by
  simp only [apply, resultType_eq_ok_iff.2 typed, Value.payload?]
  rfl

/-- Arithmetic with a missing payload gives an unknown of the result type. -/
theorem ArithmeticOperator.apply_missing {operator : ArithmeticOperator} {left right ty : Ty} {a b : Value}
    (typed : operator.Typed left right ty) (missing : a.payload? = none ∨ b.payload? = none) :
    operator.apply left right a b = .ok (.ok (.unknown ty)) := by
  simp only [apply, resultType_eq_ok_iff.2 typed]
  rcases missing with missing | missing
  · simp only [missing]
    rfl
  · cases a.payload? <;> simp only [missing] <;> rfl

/-- Where arithmetic accepts the types of its operands, only a zero divisor keeps it from giving a value of
the result type. -/
theorem ArithmeticOperator.apply_of_typed {operator : ArithmeticOperator} {a b : Value} {left right ty : Ty}
    (soundA : a.wellFormed registry = true) (soundB : b.wellFormed registry = true)
    (has : a.ty? = some left) (has' : b.ty? = some right) (typed : operator.Typed left right ty) :
    (∃ value, operator.apply left right a b = .ok (.ok value) ∧ value.wellFormed registry = true ∧
        value.ty? = some ty) ∨
      operator.apply left right a b = .ok (.error .divisionByZero) := by
  rcases Value.known_or_missing has has' with ⟨p, q, rfl, rfl⟩ | missing
  · rw [apply_known typed]
    rcases combine_of_typed typed (Value.wellFormed_known.1 soundA).1 (Value.wellFormed_known.1 soundB).1
      with ⟨payload, made, sound⟩ | zero
    · exact .inl ⟨.known ty payload, by rw [made]; rfl, sound, rfl⟩
    · exact .inr (by rw [zero]; rfl)
  · have soundTy : (Value.unknown ty).wellFormed registry = true := by cases typed <;> rfl
    exact .inl ⟨.unknown ty, apply_missing typed missing, soundTy, rfl⟩

theorem ArithmeticOperator.apply_settled (operator : ArithmeticOperator) {a b : Value} {left right : Ty}
    (soundA : a.wellFormed registry = true) (soundB : b.wellFormed registry = true)
    (has : a.ty? = some left) (has' : b.ty? = some right) :
    ∃ result, operator.apply left right a b = .ok result ∧ OperatorError.Settled registry result := by
  have soundLeft := Value.wellFormed_ty soundA has
  have soundRight := Value.wellFormed_ty soundB has'
  rcases operator.resultType_cases left right with ⟨ty, -, typed⟩ | ⟨error, refused, reason, -⟩
  · rcases apply_of_typed soundA soundB has has' typed with ⟨value, made, sound, -⟩ | zero
    · exact ⟨_, made, .ok sound⟩
    · exact ⟨_, zero, .error ⟨_, rfl⟩⟩
  · refine ⟨.error error, apply_of_error refused a b, .error ?_⟩
    rcases reason with rfl | rfl
    · exact OperatorError.invalidOperands_written soundLeft soundRight
    · exact OperatorError.dimensionOverflow_written soundLeft soundRight

/-- An ordering with a missing payload has no answer yet. -/
theorem OrderOperator.apply_missing (operator : OrderOperator) {dims : Dimensions} {a b : Value}
    (missing : a.payload? = none ∨ b.payload? = none) :
    operator.apply (.number dims) (.number dims) a b = .ok (.ok (.unknown .bool)) := by
  simp only [apply, applies_iff.2 ⟨dims, rfl, rfl⟩, if_true]
  rcases missing with missing | missing
  · simp only [missing]
  · cases a.payload? <;> simp only [missing]

/-- Known numbers of the same dimensions are ordered as their base values are. -/
theorem OrderOperator.apply_known (operator : OrderOperator) {dims : Dimensions} {x y : Quantity}
    (sameDims : x.dims = y.dims) :
    operator.apply (.number dims) (.number dims) (.known (.number dims) (.quantity x))
        (.known (.number dims) (.quantity y)) =
      .ok (.ok (.ofBool (operator.holds (Quantity.orderOf x.base y.base)))) := by
  simp [apply, applies_iff.2 ⟨dims, rfl, rfl⟩, Value.payload?, Arithmetic.compare, Payload.asQuantity,
    Quantity.compare?_of_dims sameDims, bind, Except.bind, pure, Except.pure]

/-- Two numbers of the same dimensions can be ordered, so the answer is known as soon as both are. -/
theorem OrderOperator.apply_of_numbers (operator : OrderOperator) {a b : Value} {dims : Dimensions}
    (soundA : a.wellFormed registry = true) (soundB : b.wellFormed registry = true)
    (has : a.ty? = some (.number dims)) (has' : b.ty? = some (.number dims)) :
    ∃ value, operator.apply (.number dims) (.number dims) a b = .ok (.ok value) ∧
      value.wellFormed registry = true ∧ value.ty? = some .bool := by
  rcases Value.known_or_missing has has' with ⟨p, q, rfl, rfl⟩ | missing
  · obtain ⟨x, rfl, dimsX⟩ := Payload.fits_number (Value.wellFormed_known.1 soundA).1
    obtain ⟨y, rfl, dimsY⟩ := Payload.fits_number (Value.wellFormed_known.1 soundB).1
    exact ⟨_, operator.apply_known (dimsX.trans dimsY.symm), rfl, rfl⟩
  · exact ⟨_, operator.apply_missing missing, rfl, rfl⟩

theorem OrderOperator.apply_settled (operator : OrderOperator) {a b : Value} {left right : Ty}
    (soundA : a.wellFormed registry = true) (soundB : b.wellFormed registry = true)
    (has : a.ty? = some left) (has' : b.ty? = some right) :
    ∃ result, operator.apply left right a b = .ok result ∧ OperatorError.Settled registry result := by
  by_cases applies : ∃ dims, left = .number dims ∧ right = .number dims
  · obtain ⟨dims, rfl, rfl⟩ := applies
    obtain ⟨value, made, sound, -⟩ := apply_of_numbers operator soundA soundB has has'
    exact ⟨_, made, .ok sound⟩
  · have refused := Bool.eq_false_iff.2 (mt applies_iff.1 applies)
    exact ⟨.error (.invalidOperands (.order operator) left right), by simp [apply, refused],
      .error (OperatorError.invalidOperands_written (Value.wellFormed_ty soundA has)
        (Value.wellFormed_ty soundB has'))⟩

/-- A logic operator answers once both operands do. -/
theorem LogicOperator.apply_of_bools {operator : LogicOperator} {left right : Ty} {a b : Value}
    (applies : (left.isBool && right.isBool) = true) :
    operator.apply left right a b =
      .ok (.ofAnswer (a.bool?.bind fun x => b.bool?.map fun y => operator.holds x y)) := by
  simp only [apply, applies, if_true]
  cases a.bool? <;> cases b.bool? <;> rfl

theorem LogicOperator.apply_settled (operator : LogicOperator) {a b : Value} {left right : Ty}
    (soundLeft : left.wellFormed registry = true) (soundRight : right.wellFormed registry = true) :
    OperatorError.Settled registry (operator.apply left right a b) := by
  by_cases applies : (left.isBool && right.isBool) = true
  · rw [apply_of_bools applies]
    exact .ok (Value.wellFormed_ofAnswer _)
  · simp only [apply, applies]
    exact .error (OperatorError.invalidOperands_written soundLeft soundRight)

theorem Value.equal_wellFormed (a b : Value) : (a.equal b).wellFormed registry = true := by
  unfold Value.equal
  split
  · rfl
  · split <;> rfl

theorem Value.opposite_wellFormed {value : Value} (sound : value.wellFormed registry = true) :
    value.opposite.wellFormed registry = true := by
  unfold Value.opposite
  split
  · rfl
  · exact sound

theorem BinaryOperator.apply_settled (operator : BinaryOperator) {a b : Value}
    (soundA : a.wellFormed registry = true) (soundB : b.wellFormed registry = true) :
    ∃ result, operator.apply a b = .ok result ∧ OperatorError.Settled registry result := by
  cases has : a.ty? with
  | none => exact ⟨.ok .placeholder, by simp only [apply, has], .ok rfl⟩
  | some left =>
    cases has' : b.ty? with
    | none => exact ⟨.ok .placeholder, by simp only [apply, has, has'], .ok rfl⟩
    | some right =>
      simp only [apply, has, has']
      cases operator with
      | arithmetic operator => exact operator.apply_settled soundA soundB has has'
      | equal => exact ⟨_, rfl, .ok (Value.equal_wellFormed a b)⟩
      | notEqual => exact ⟨_, rfl, .ok (Value.opposite_wellFormed (Value.equal_wellFormed a b))⟩
      | order operator => exact operator.apply_settled soundA soundB has has'
      | logic operator =>
        exact ⟨_, rfl, operator.apply_settled (Value.wellFormed_ty soundA has)
          (Value.wellFormed_ty soundB has')⟩

/-- Only operands that have types are refused. -/
theorem BinaryOperator.typed_of_error {operator : BinaryOperator} {a b : Value} {error : OperatorError}
    (refused : operator.apply a b = .ok (.error error)) :
    ∃ left right, a.ty? = some left ∧ b.ty? = some right := by
  unfold apply at refused
  split at refused
  · rename_i left right has has'
    exact ⟨left, right, has, has'⟩
  · cases refused

theorem UnaryOperator.fallback_wellFormed (operator : UnaryOperator) :
    operator.fallback.wellFormed registry = true := by
  cases operator <;> rfl

theorem BinaryOperator.fallback_wellFormed (operator : BinaryOperator) :
    operator.fallback.wellFormed registry = true := by
  rcases operator with _ | _ | _ | _ | _ <;> rfl

end Circuitry
