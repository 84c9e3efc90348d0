import Circuitry.Kernel.Capability

/-!
# Operators

Every operator first checks the types of its operands, so a type error is reported whether or not the
operands are known. Known payloads are then combined; if one is missing, the result is an unknown of the
result type. A placeholder among the operands gives a placeholder and no error.
-/

set_option autoImplicit false

namespace Circuitry

/-- The operators with one operand. -/
inductive UnaryOperator where
  | neg
  | not
  deriving DecidableEq, Repr

/-- Operators on numbers; the first also joins strings. -/
inductive ArithmeticOperator where
  | add
  | sub
  | mul
  | div
  deriving DecidableEq, Repr

/-- Comparisons by order. -/
inductive OrderOperator where
  | less
  | lessOrEqual
  | greater
  | greaterOrEqual
  deriving DecidableEq, Repr

/-- Operators on truth values. Both operands are always evaluated. -/
inductive LogicOperator where
  | and
  | or
  deriving DecidableEq, Repr

/-- The operators with two operands. -/
inductive BinaryOperator where
  | arithmetic (operator : ArithmeticOperator)
  | equal
  | notEqual
  | order (operator : OrderOperator)
  | logic (operator : LogicOperator)
  deriving DecidableEq, Repr

namespace UnaryOperator

/-- All operators with one operand. -/
def all : List UnaryOperator := [.neg, .not]

def symbol : UnaryOperator → String
  | .neg => "-"
  | .not => "!"

/-- What the operator does, as a verb for messages. -/
def verb : UnaryOperator → String
  | .neg => "negate"
  | .not => "apply NOT to"

/-- The result after an error: unknown where the result type is certain. -/
def fallback : UnaryOperator → Value
  | .neg => .placeholder
  | .not => .unknown .bool

end UnaryOperator

namespace BinaryOperator

/-- All operators with two operands. -/
def all : List BinaryOperator :=
  [.arithmetic .add, .arithmetic .sub, .arithmetic .mul, .arithmetic .div, .equal, .notEqual,
   .order .less, .order .lessOrEqual, .order .greater, .order .greaterOrEqual, .logic .and, .logic .or]

def symbol : BinaryOperator → String
  | .arithmetic .add => "+"
  | .arithmetic .sub => "-"
  | .arithmetic .mul => "*"
  | .arithmetic .div => "/"
  | .equal => "=="
  | .notEqual => "!="
  | .order .less => "<"
  | .order .lessOrEqual => "<="
  | .order .greater => ">"
  | .order .greaterOrEqual => ">="
  | .logic .and => "&&"
  | .logic .or => "||"

/-- What the operator does, as a verb for messages. -/
def verb : BinaryOperator → String
  | .arithmetic .add => "add"
  | .arithmetic .sub => "subtract"
  | .arithmetic .mul => "multiply"
  | .arithmetic .div => "divide"
  | .equal | .notEqual | .order _ => "compare"
  | .logic .and => "apply AND to"
  | .logic .or => "apply OR to"

/-- The result after an error: unknown where the result type is certain. -/
def fallback : BinaryOperator → Value
  | .arithmetic _ => .placeholder
  | _ => .unknown .bool

end BinaryOperator

/-- Why an operator does not apply. -/
inductive OperatorError where
  /-- The types of two operands do not allow it. -/
  | invalidOperands (operator : BinaryOperator) (left right : Ty)
  /-- The type of the operand does not allow it. -/
  | invalidOperand (operator : UnaryOperator) (operand : Ty)
  /-- The divisor is zero. -/
  | divisionByZero
  /-- The dimensions of the result are out of range. -/
  | dimensionOverflow (operator : BinaryOperator) (left right : Ty)
  /-- Arithmetic on quantities failed in another way. -/
  | arithmetic (operator : BinaryOperator) (error : QuantityError)

/-- The error in words. -/
def OperatorError.message : OperatorError → Except Fault String
  | .invalidOperands operator left right => do
    return "cannot " ++ operator.verb ++ " " ++ (← left.text) ++ " and " ++ (← right.text)
  | .invalidOperand operator operand => do
    return "cannot " ++ operator.verb ++ " " ++ (← operand.text)
  | .divisionByZero => .ok "division by zero"
  | .dimensionOverflow operator left right => do
    return "cannot " ++ operator.verb ++ " " ++ (← left.text) ++ " and " ++ (← right.text) ++
      ": dimension exponent out of range"
  | .arithmetic operator error => .ok ("cannot " ++ operator.verb ++ " " ++ error.message)

/-- The error of arithmetic on payloads, for operands of given types. -/
def OperatorError.ofQuantityError (operator : BinaryOperator) (left right : Ty) :
    QuantityError → OperatorError
  | .divisionByZero => .divisionByZero
  | .dimensionOverflow => .dimensionOverflow operator left right
  | other => .arithmetic operator other

/-! ### One operand -/

/-- Applies an operator to one operand. -/
def UnaryOperator.apply (operator : UnaryOperator) (operand : Value) :
    Except Fault (Except OperatorError Value) :=
  match operand.ty? with
  | none => .ok (.ok .placeholder)
  | some ty =>
    match operator with
    | .neg =>
      match ty.arithmetic? with
      | none => .ok (.error (.invalidOperand operator ty))
      | some arithmetic =>
        match operand.payload? with
        | none => .ok (.ok (.unknown arithmetic.sumType))
        | some payload => do return .ok (.known arithmetic.sumType (← Arithmetic.neg payload))
    | .not =>
      if !ty.isBool then .ok (.error (.invalidOperand operator ty))
      else
        match operand.bool? with
        | none => .ok (.ok (.unknown .bool))
        | some value => .ok (.ok (.ofBool !value))

/-! ### Two operands -/

/-- Whether the order of two numbers is the one that an operator asks for. -/
def OrderOperator.holds : OrderOperator → Ordering → Bool
  | .less, order => order = .lt
  | .lessOrEqual, order => order ≠ .gt
  | .greater, order => order = .gt
  | .greaterOrEqual, order => order ≠ .lt

/-- The truth value that a logic operator gives. -/
def LogicOperator.holds : LogicOperator → Bool → Bool → Bool
  | .and, a, b => a && b
  | .or, a, b => a || b

/-- The type of the result of arithmetic, decided on the types of the operands alone. Products and quotients
are only asked for their type once the right operand is known to be a number. -/
def ArithmeticOperator.resultType (operator : ArithmeticOperator) (left right : Ty) :
    Except Fault (Except OperatorError Ty) :=
  let invalid : Except OperatorError Ty := .error (.invalidOperands (.arithmetic operator) left right)
  let sized (ty : Option Ty) : Except OperatorError Ty :=
    match ty with
    | some ty => .ok ty
    | none => .error (.dimensionOverflow (.arithmetic operator) left right)
  if operator = .add ∧ left.canConcat right then .ok (.ok .string)
  else
    match left.arithmetic? with
    | none => .ok invalid
    | some arithmetic =>
      match operator with
      | .add | .sub => .ok (if arithmetic.canSum right then .ok arithmetic.sumType else invalid)
      | .mul =>
        if arithmetic.canMultiply right then do return sized (← arithmetic.productType right)
        else .ok invalid
      | .div =>
        if arithmetic.canMultiply right then do return sized (← arithmetic.quotientType right)
        else .ok invalid

/-- The payload of the result of arithmetic on operands of given types, which allow it. -/
def ArithmeticOperator.combine (operator : ArithmeticOperator) (left right : Ty) (a b : Payload) :
    Except Fault (Except OperatorError Payload) :=
  let checked (result : Except QuantityError Payload) : Except OperatorError Payload :=
    result.mapError (OperatorError.ofQuantityError (.arithmetic operator) left right)
  match operator with
  | .add => do
    let joined ← if left.canConcat right then a.concat b else Arithmetic.add a b
    return .ok joined
  | .sub => do return .ok (← Arithmetic.sub a b)
  | .mul => do return checked (← Arithmetic.mul a b)
  | .div => do return checked (← Arithmetic.div a b)

/-- Applies arithmetic to operands of given types. -/
def ArithmeticOperator.apply (operator : ArithmeticOperator) (left right : Ty) (a b : Value) :
    Except Fault (Except OperatorError Value) := do
  match ← operator.resultType left right with
  | .error error => return .error error
  | .ok ty =>
    match a.payload?, b.payload? with
    | some p, some q => return (← operator.combine left right p q).map (Value.known ty)
    | _, _ => return .ok (.unknown ty)

/-- Applies an ordering to operands of given types. -/
def OrderOperator.apply (operator : OrderOperator) (left right : Ty) (a b : Value) :
    Except Fault (Except OperatorError Value) :=
  if (left.arithmetic?).any fun arithmetic => arithmetic.canSum right then
    match a.payload?, b.payload? with
    | some p, some q => do return .ok (.ofBool (operator.holds (← Arithmetic.compare p q)))
    | _, _ => .ok (.ok (.unknown .bool))
  else .ok (.error (.invalidOperands (.order operator) left right))

/-- Applies a logic operator to operands of given types. -/
def LogicOperator.apply (operator : LogicOperator) (left right : Ty) (a b : Value) :
    Except OperatorError Value :=
  if left.isBool && right.isBool then
    match a.bool?, b.bool? with
    | some x, some y => .ok (.ofBool (operator.holds x y))
    | _, _ => .ok (.unknown .bool)
  else .error (.invalidOperands (.logic operator) left right)

/-- The opposite of a truth value, if it is known. -/
def Value.opposite (value : Value) : Value :=
  match value.bool? with
  | some b => .ofBool !b
  | none => value

/-- Applies an operator to two operands. -/
def BinaryOperator.apply (operator : BinaryOperator) (a b : Value) :
    Except Fault (Except OperatorError Value) :=
  match a.ty?, b.ty? with
  | some left, some right =>
    match operator with
    | .arithmetic operator => operator.apply left right a b
    | .equal => .ok (.ok (a.equal b))
    | .notEqual => .ok (.ok (a.equal b).opposite)
    | .order operator => operator.apply left right a b
    | .logic operator => .ok (operator.apply left right a b)
  | _, _ => .ok (.ok .placeholder)

end Circuitry
