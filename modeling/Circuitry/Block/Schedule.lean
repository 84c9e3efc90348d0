import Circuitry.Block.Dependency
import Circuitry.Expr.Basic
import Circuitry.Report.Diagnostic

/-!
# Scheduling

The statements of a block are ordered so that every symbol is bound before it is used. A symbol bound
twice and a second result are mistakes: the later statement is left out and reported. Statements in a
dependency cycle, and those that depend on one, cannot be ordered; they are left out, and one diagnostic
shows a cycle and names them all.
-/

set_option autoImplicit false

namespace Circuitry

/-- Statements in the order in which they can run, and the scope of the symbols that they bind. -/
structure Block where
  scope : ScopeId
  statements : List Statement

namespace Schedule

variable (statements : List Statement)

/-- The position of the first statement with a given target. Later ones with that target are duplicates. -/
def first? (target : Option Symbol) : Option Nat :=
  statements.findIdx? fun statement => statement.target? = target

/-- Whether the statement at a position is the first with its target. -/
def isAccepted (index : Nat) : Bool :=
  match statements[index]? with
  | some statement => first? statements statement.target? = some index
  | none => false

/-- The positions of the statements that are not duplicates. -/
def accepted : List Nat := (List.range statements.length).filter (isAccepted statements)

/-- The positions of the statements that bind what the statement at a position refers to, in order of
reference. Symbols that no statement binds come from outside. -/
def requirements (scope : ScopeId) (index : Nat) : List Nat :=
  match statements[index]? with
  | some statement => (statement.required scope).filterMap fun symbol => first? statements (some symbol)
  | none => []

/-- The requirements of all statements, computed once. -/
def requirementTable (scope : ScopeId) : Array (List Nat) :=
  ((List.range statements.length).map (requirements statements scope)).toArray

theorem getD_requirementTable (scope : ScopeId) (index : Nat) :
    (requirementTable statements scope)[index]?.getD [] = requirements statements scope index := by
  by_cases inside : index < statements.length
  · simp [requirementTable, inside]
  · simp [requirementTable, requirements, inside]

/-! ### Reports -/

/-- The place of the statement at a position. -/
def spanAt (index : Nat) : Span := ((statements[index]?).map Statement.span).getD (.atStart 0)

/-- What the statement at a position is called. -/
def nameAt (index : Nat) : String := ((statements[index]?).map Statement.name).getD ""

/-- The report that the statement at a position repeats the target of an earlier one. -/
def duplicateAt? (index : Nat) : Option Diagnostic := do
  let statement ← statements[index]?
  let earlier ← first? statements statement.target?
  if earlier = index then none
  else
    match statement.target? with
    | some symbol =>
      return (Diagnostic.error .duplicateDefinition (some statement.span)
        ("'" ++ symbol.name ++ "' is defined more than once")).withLabel
          (spanAt statements earlier) "first defined here"
    | none =>
      return (Diagnostic.error .duplicateExport (some statement.span)
        "block exports more than one value").withLabel
          (spanAt statements earlier) "first export here"

/-- What the label at a position of a cycle says. -/
def cycleLabel (path : List Nat) (position : Nat) : String :=
  if position = 0 then "cycle starts here"
  else if position + 1 = path.length then "cycle completes here"
  else "depends on '" ++ nameAt statements ((path[position + 1]?).getD 0) ++ "'"

/-- The report of a cycle, which also names all statements that are stuck. -/
def cycleReport (path stuck : List Nat) : Diagnostic :=
  let names (indices : List Nat) := indices.map (nameAt statements)
  let labels := path.zipIdx.map fun (index, position) =>
    (⟨spanAt statements index, cycleLabel statements path position⟩ : Label)
  { kind := .cyclicDependency
    severity := .error
    span := path.head?.map (spanAt statements)
    message := "dependency cycle: " ++ " → ".intercalate (names path)
    labels
    notes := ["not evaluated: " ++ ", ".intercalate (names stuck)] }

end Schedule

open Schedule in
/-- Orders statements that bind symbols of a scope, and reports those that have to be left out. -/
def schedule (statements : List Statement) (scope : ScopeId) : Block × List Diagnostic :=
  let nodes := accepted statements
  let table := requirementTable statements scope
  let requires := fun index => table[index]?.getD []
  let order := Dependency.order requires nodes
  let stuck := Dependency.stuck requires nodes
  let duplicates := (List.range statements.length).filterMap (duplicateAt? statements)
  let cycles :=
    if stuck.isEmpty then [] else [cycleReport statements (Dependency.cycle requires stuck) stuck]
  (⟨scope, order.filterMap (statements[·]?)⟩, duplicates ++ cycles)

end Circuitry
