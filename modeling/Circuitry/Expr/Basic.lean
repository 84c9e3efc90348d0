import Circuitry.Operator
import Circuitry.Report.Span
import Circuitry.Scope.Basic

/-!
# Expressions and statements

Expressions are trees whose names are already resolved to symbols. A statement binds a symbol to the value
of an expression, or makes that value the result of its block. The order in which statements are written
has no meaning.
-/

set_option autoImplicit false

namespace Circuitry

mutual

/-- An expression, each node with its place in the source. -/
inductive Expr where
  | literal (value : Value) (span : Span)
  | symbol (symbol : Symbol) (span : Span)
  | unary (operator : UnaryOperator) (operand : Expr) (span : Span)
  | binary (operator : BinaryOperator) (left right : Expr) (span : Span)
  | call (callee : Expr) (arguments : List Argument) (span : Span)
  | access (target : Expr) (name : String) (span : Span)
  | index (target key : Expr) (span : Span)

/-- An argument of a call, given by position unless it has a name. -/
structure Argument where
  name : Option String
  value : Expr
  span : Span

end

/-- The place of an expression. -/
def Expr.span : Expr → Span
  | .literal _ span => span
  | .symbol _ span => span
  | .unary _ _ span => span
  | .binary _ _ _ span => span
  | .call _ _ span => span
  | .access _ _ span => span
  | .index _ _ span => span

/-- An operator applied to two operands, placed where they are. -/
def Expr.ofOperands (operator : BinaryOperator) (left right : Expr) : Expr :=
  .binary operator left right (left.span.cover right.span)

/-- An argument given by position, placed where its value is. -/
def Argument.positional (value : Expr) : Argument := ⟨none, value, value.span⟩

mutual

/-- Every occurrence of a symbol in an expression, from left to right. -/
def Expr.symbols : Expr → List Symbol
  | .literal _ _ => []
  | .symbol symbol _ => [symbol]
  | .unary _ operand _ => operand.symbols
  | .binary _ left right _ => left.symbols ++ right.symbols
  | .call callee arguments _ => callee.symbols ++ Argument.symbols arguments
  | .access target _ _ => target.symbols
  | .index target key _ => target.symbols ++ key.symbols
termination_by structural expr => expr

/-- Every occurrence of a symbol in some arguments. -/
def Argument.symbols : List Argument → List Symbol
  | [] => []
  | argument :: rest => argument.ownSymbols ++ Argument.symbols rest
termination_by structural arguments => arguments

/-- Every occurrence of a symbol in an argument. -/
def Argument.ownSymbols : Argument → List Symbol
  | ⟨_, value, _⟩ => value.symbols
termination_by structural argument => argument

end

/-- A statement of a block. -/
inductive Statement where
  /-- Binds a symbol to the value of an expression. -/
  | assign (symbol : Symbol) (expr : Expr)
  /-- Makes the value of an expression the result of the block. -/
  | result (expr : Expr)

namespace Statement

def expr : Statement → Expr
  | .assign _ expr => expr
  | .result expr => expr

def span (statement : Statement) : Span := statement.expr.span

/-- The symbol that a statement binds; none for a result. -/
def target? : Statement → Option Symbol
  | .assign symbol _ => some symbol
  | .result _ => none

/-- The symbols of a scope to which a statement refers, each once, in order of first occurrence. -/
def required (statement : Statement) (scope : ScopeId) : List Symbol :=
  (statement.expr.symbols.filter scope.owns).eraseDups

/-- What a statement is called in reports. -/
def name (statement : Statement) : String :=
  match statement.target? with
  | some symbol => symbol.name
  | none => "export"

end Statement

end Circuitry
