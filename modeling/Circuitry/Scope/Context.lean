import Circuitry.Kernel.Basic
import Circuitry.Numbered
import Circuitry.Scope.Basic

/-!
# Contexts

Contexts bind symbols to values and form a forest of their own. A symbol is looked up in a context and
then in the contexts around it, and no context binds a symbol twice. A sealed context takes no bindings.
-/

set_option autoImplicit false

namespace Circuitry

/-- The identity of a context. -/
structure ContextId where
  index : Nat
  deriving DecidableEq, Repr

/-- What is known of one context. -/
structure ContextNode where
  /-- The context itself, then the contexts around it, the innermost first. -/
  path : List ContextId
  sealed : Bool
  /-- The direct bindings, the oldest first. -/
  bindings : List (Symbol × Value)

/-- All contexts. -/
structure ContextForest where
  nodes : Numbered ContextNode

namespace ContextForest

variable (forest : ContextForest)

def node? (context : ContextId) : Option ContextNode := forest.nodes.get? context.index

/-- The context, then the contexts around it, the innermost first. -/
def path (context : ContextId) : List ContextId := ((forest.node? context).map ContextNode.path).getD []

/-- The direct bindings of a context, the oldest first. -/
def bindings (context : ContextId) : List (Symbol × Value) :=
  ((forest.node? context).map ContextNode.bindings).getD []

/-- Whether a context takes no bindings. -/
def isSealed (context : ContextId) : Bool := ((forest.node? context).map ContextNode.sealed).getD true

/-- The context directly around a context. -/
def parent? (context : ContextId) : Option ContextId := (forest.path context).tail.head?

/-- The value that a context itself binds to a symbol. -/
def direct? (context : ContextId) (symbol : Symbol) : Option Value :=
  (forest.bindings context).lookup symbol

/-- Whether a context itself binds a symbol. -/
def defines (context : ContextId) (symbol : Symbol) : Bool := (forest.direct? context symbol).isSome

/-- The value of a symbol in a context: the binding in the nearest context around it. -/
def value? (context : ContextId) (symbol : Symbol) : Option Value :=
  (forest.path context).findSome? fun outer => forest.direct? outer symbol

/-- The values of the symbols that a scope declares, under their names. -/
def allValues (scopes : ScopeForest) (context : ContextId) (scope : ScopeId) :
    List (String × Option Value) :=
  (scopes.symbols scope).map fun symbol => (symbol.name, forest.value? context symbol)

/-- Adds a context with given contexts around it. -/
def add (outer : List ContextId) : ContextId × ContextForest :=
  let context : ContextId := ⟨forest.nodes.size⟩
  (context, ⟨forest.nodes.push ⟨context :: outer, false, []⟩⟩)

/-- A new, empty context inside another one. -/
def newChild (parent : ContextId) : ContextId × ContextForest := forest.add (forest.path parent)

/-- A new, empty context without any around it. -/
def newRoot : ContextId × ContextForest := forest.add []

/-- Binds a symbol in a context that is not sealed and does not bind it yet. -/
def define (context : ContextId) (symbol : Symbol) (value : Value) : Except ContextError ContextForest :=
  if forest.isSealed context then .error (.sealed symbol.name)
  else if forest.defines context symbol then .error (.alreadyDefined symbol.name)
  else
    let extended (node : ContextNode) : ContextNode :=
      { node with bindings := node.bindings ++ [(symbol, value)] }
    .ok ⟨forest.nodes.modify context.index extended⟩

end ContextForest

/-- The forest of one sealed context with given bindings. -/
def ContextForest.sealedRoot (bindings : List (Symbol × Value)) : ContextForest :=
  ⟨.ofList [⟨[⟨0⟩], true, bindings⟩]⟩

end Circuitry
