/-!
# Dependency order

Nodes are numbers, and each node requires some others. The order is first come, first served: nodes that
require nothing come first, as they are listed, and a node joins the queue as soon as the last node that it
requires has left it. A count for each node says how many requirements it still waits for. A node from which a
cycle of requirements can be reached never joins.
-/

set_option autoImplicit false

namespace Circuitry.Dependency

/-- How far the order has come. -/
structure Progress where
  /-- How many requirements of a node are not in the order yet. -/
  pending : Nat → Nat
  /-- The nodes that wait for nothing and are not in the order yet. -/
  queue : List Nat
  order : List Nat

/-- Takes one off what a node waits for. If nothing is left, it joins the queue. -/
def Progress.release (progress : Progress) (node : Nat) : Progress :=
  let left := progress.pending node - 1
  { progress with
    pending := fun other => if other = node then left else progress.pending other
    queue := if left = 0 then progress.queue ++ [node] else progress.queue }

variable (requires : Nat → List Nat)

/-- The nodes that require a given one, as they are listed. -/
def dependents (nodes : List Nat) (node : Nat) : List Nat :=
  nodes.filter fun other => (requires other).contains node

/-- Moves a node from the queue to the order and releases those that require it. -/
def Progress.serveNext (nodes : List Nat) (progress : Progress) (next : Nat) (queue : List Nat) : Progress :=
  (dependents requires nodes next).foldl Progress.release
    { progress with queue, order := progress.order ++ [next] }

/-- Serves the queue, at most as many nodes as there is fuel for. -/
def serve (nodes : List Nat) : Nat → Progress → Progress
  | 0, progress => progress
  | fuel + 1, progress =>
    match progress.queue with
    | [] => progress
    | next :: queue => serve nodes fuel (progress.serveNext requires nodes next queue)

/-- All counts are full, and the nodes that require nothing are queued. -/
def start (nodes : List Nat) : Progress :=
  ⟨fun node => (requires node).length, nodes.filter fun node => (requires node).length = 0, []⟩

/-- Each node is served at most once, so their number is fuel enough. -/
def run (nodes : List Nat) : Progress := serve requires nodes nodes.length (start requires nodes)

/-- The order of the nodes. -/
def order (nodes : List Nat) : List Nat := (run requires nodes).order

/-- The nodes that wait for others to the end. -/
def stuck (nodes : List Nat) : List Nat :=
  nodes.filter fun node => 0 < (run requires nodes).pending node

/-- Follows requirements among `stuck` nodes from the last node of a path, until one repeats. The result
is the cycle that closes, its first node repeated at the end. -/
def follow (stuck : List Nat) : Nat → List Nat → Nat → List Nat
  | 0, path, _ => path
  | fuel + 1, path, current =>
    match (requires current).find? stuck.contains with
    | none => path
    | some next =>
      match path.findIdx? (· = next) with
      | some position => path.drop position ++ [next]
      | none => follow stuck fuel (path ++ [next]) next

/-- A cycle among nodes each of which requires another one of them, found from the first of them. -/
def cycle (stuck : List Nat) : List Nat :=
  match stuck with
  | [] => []
  | first :: _ => follow requires stuck stuck.length [first] first

end Circuitry.Dependency
