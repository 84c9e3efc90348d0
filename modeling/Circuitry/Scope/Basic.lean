import Circuitry.Fault
import Circuitry.Numbered

/-!
# Scopes and symbols

Scopes form a forest. Declaring a name in a scope makes a new symbol, and from then on symbols are told
apart by identity: the same name in an inner scope gives another symbol and hides the outer one. A sealed
scope takes no declarations.
-/

set_option autoImplicit false

namespace Circuitry

/-- The identity of a scope. -/
structure ScopeId where
  index : Nat
  deriving DecidableEq, Repr

/-- One declaration of a name in a scope. -/
structure Symbol where
  id : Nat
  name : String
  /-- The scope in which it was declared. -/
  scope : ScopeId
  deriving DecidableEq, Repr

/-- What is known of one scope. -/
structure ScopeNode where
  /-- The scope itself, then the scopes around it, the innermost first. -/
  path : List ScopeId
  sealed : Bool
  /-- The symbols declared directly in the scope, in order of declaration. -/
  symbols : List Symbol
  deriving DecidableEq, Repr

/-- All scopes and the number of symbols made so far. -/
structure ScopeForest where
  nodes : Numbered ScopeNode
  symbolCount : Nat
  deriving DecidableEq, Repr

namespace ScopeForest

variable (forest : ScopeForest)

def node? (scope : ScopeId) : Option ScopeNode := forest.nodes.get? scope.index

/-- The scope, then the scopes around it, the innermost first. -/
def path (scope : ScopeId) : List ScopeId := ((forest.node? scope).map ScopeNode.path).getD []

/-- The symbols declared directly in a scope, in order of declaration. -/
def symbols (scope : ScopeId) : List Symbol := ((forest.node? scope).map ScopeNode.symbols).getD []

/-- Whether a scope takes no declarations. -/
def isSealed (scope : ScopeId) : Bool := ((forest.node? scope).map ScopeNode.sealed).getD true

/-- The scope directly around a scope. -/
def parent? (scope : ScopeId) : Option ScopeId := (forest.path scope).tail.head?

/-- The symbol that a scope itself declares under a name. -/
def declared? (scope : ScopeId) (name : String) : Option Symbol :=
  (forest.symbols scope).find? fun symbol => symbol.name = name

/-- The symbol that a name stands for in a scope: the declaration in the nearest scope around it. -/
def get? (scope : ScopeId) (name : String) : Option Symbol :=
  (forest.path scope).findSome? fun outer => forest.declared? outer name

/-- The names that stand for something in a scope, those of nearer scopes first. -/
def visibleNames (scope : ScopeId) : List String :=
  ((forest.path scope).flatMap fun outer => (forest.symbols outer).map Symbol.name).eraseDups

/-- A new, empty scope inside another one. -/
def newChild (parent : ScopeId) : ScopeId × ScopeForest :=
  let child : ScopeId := ⟨forest.nodes.size⟩
  (child, { forest with nodes := forest.nodes.push ⟨child :: forest.path parent, false, []⟩ })

/-- Declares a name in a scope that is not sealed and does not declare it yet. -/
def declare (scope : ScopeId) (name : String) : Except ScopeError (Symbol × ScopeForest) :=
  if forest.isSealed scope then .error (.sealed name)
  else if (forest.declared? scope name).isSome then .error (.alreadyDeclared name)
  else
    let symbol : Symbol := ⟨forest.symbolCount, name, scope⟩
    let extended (node : ScopeNode) : ScopeNode := { node with symbols := node.symbols ++ [symbol] }
    .ok (symbol,
      { nodes := forest.nodes.modify scope.index extended
        symbolCount := forest.symbolCount + 1 })

end ScopeForest

/-- Whether a symbol was declared directly in a scope. -/
def ScopeId.owns (scope : ScopeId) (symbol : Symbol) : Bool := symbol.scope = scope

/-- The forest of one sealed scope that declares given names, with the symbols of those names. -/
def ScopeForest.sealedRoot (names : List String) : List Symbol × ScopeForest :=
  let root : ScopeId := ⟨0⟩
  let symbols := names.zipIdx.map fun (name, id) => (⟨id, name, root⟩ : Symbol)
  (symbols, ⟨.ofList [⟨[root], true, symbols⟩], symbols.length⟩)

end Circuitry
