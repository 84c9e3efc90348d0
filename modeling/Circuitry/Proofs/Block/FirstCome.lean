import Circuitry.Proofs.Block.Schedule
import Mathlib.Data.Prod.Lex

/-!
# First come, first served

A node comes to the queue when the last of what it requires is served, together with all others that waited only
for that one. So the key of a node is the last place in the order of what it requires, and then the node itself;
nodes that require nothing come as if something had been served before the first place. Keys ascend along what
has been served and what is queued, since all that is released now comes later than what was released before.
As the key of a node depends only on what is served before it, no other order of the same nodes has this property.
-/

set_option autoImplicit false

namespace Circuitry

namespace Dependency

variable {requires : Nat → List Nat} {nodes order : List Nat} {node required : Nat}

/-! ### Keys -/

/-- The last place in an order of what a node requires; -1 if it requires nothing. -/
def lastPlace (requires : Nat → List Nat) (order : List Nat) (node : Nat) : Int :=
  ((requires node).map fun required => (order.idxOf required : Int)).foldr max (-1)

/-- What decides between two nodes: the last place of what they require, then the nodes themselves. -/
def key (requires : Nat → List Nat) (order : List Nat) (node : Nat) : Int ×ₗ Nat :=
  toLex (lastPlace requires order node, node)

theorem lastPlace_lt_iff {bound : Int} :
    lastPlace requires order node < bound ↔
      -1 < bound ∧ ∀ required ∈ requires node, (order.idxOf required : Int) < bound := by
  unfold lastPlace
  induction requires node with
  | nil => simp
  | cons required rest ih =>
    rw [List.map_cons, List.foldr_cons, max_lt_iff, ih, List.forall_mem_cons]
    tauto

theorem le_lastPlace (requirement : required ∈ requires node) :
    (order.idxOf required : Int) ≤ lastPlace requires order node := by
  by_contra above
  exact lt_irrefl _ ((lastPlace_lt_iff.1 (not_le.1 above)).2 required requirement)

theorem lastPlace_of_none (none : requires node = []) : lastPlace requires order node = -1 := by
  simp [lastPlace, none]

/-- Places that differ nowhere among what a node requires do not change its key. -/
theorem key_congr {other : List Nat}
    (same : ∀ required ∈ requires node, order.idxOf required = other.idxOf required) :
    key requires order node = key requires other node := by
  have places : (requires node).map (fun required => (order.idxOf required : Int)) =
      (requires node).map fun required => (other.idxOf required : Int) :=
    List.map_congr_left fun required requirement => by rw [same required requirement]
  rw [key, key, lastPlace, lastPlace, places]

/-- The key of a node does not depend on what comes after all that it requires. -/
theorem key_append (inside : ∀ required ∈ requires node, required ∈ order) (more : List Nat) :
    key requires (order ++ more) node = key requires order node :=
  key_congr fun required requirement => List.idxOf_append_of_mem (inside required requirement)

theorem key_lt_of_lastPlace_lt {other : Nat}
    (earlier : lastPlace requires order node < lastPlace requires order other) :
    key requires order node < key requires order other :=
  Prod.Lex.toLex_lt_toLex.2 (.inl earlier)

theorem key_lt_of_lastPlace_eq {other : Nat}
    (same : lastPlace requires order node = lastPlace requires order other) (before : node < other) :
    key requires order node < key requires order other :=
  Prod.Lex.toLex_lt_toLex.2 (.inr ⟨same, before⟩)

theorem lastPlace_le_of_key_lt {other : Nat} (less : key requires order node < key requires order other) :
    lastPlace requires order node ≤ lastPlace requires order other := by
  rcases Prod.Lex.toLex_lt_toLex.1 less with earlier | ⟨same, -⟩
  · exact earlier.le
  · exact same.le

/-- What a node that is released by the last one in the order requires has its last place there. -/
theorem lastPlace_concat {next : Nat} (new : next ∉ order) (requirement : next ∈ requires node)
    (inside : ∀ required ∈ requires node, required ∈ order ++ [next]) :
    lastPlace requires (order ++ [next]) node = order.length := by
  have place : (order ++ [next]).idxOf next = order.length := by
    rw [List.idxOf_append_of_notMem new, List.idxOf_cons_self, Nat.add_zero]
  refine le_antisymm ?_ ?_
  · refine Int.lt_add_one_iff.1 (lastPlace_lt_iff.2 ⟨by omega, fun required member => ?_⟩)
    have bounded := List.idxOf_lt_length_of_mem (inside required member)
    rw [List.length_append, List.length_singleton] at bounded
    exact_mod_cast bounded
  · rw [← place]
    exact le_lastPlace requirement

/-! ### Orders by key -/

/-- An order in which nodes are served as they come: each after all that it requires, with ascending keys. -/
structure FirstCome (requires : Nat → List Nat) (order : List Nat) : Prop where
  distinct : order.Nodup
  settled : Settled requires order
  ascending : order.Pairwise fun first second => key requires order first < key requires order second

/-- One node precedes another one exactly if its key is smaller. -/
theorem FirstCome.precedes_iff (served : FirstCome requires order) {first second : Nat} (member : first ∈ order)
    (member' : second ∈ order) :
    order.idxOf first < order.idxOf second ↔ key requires order first < key requires order second := by
  have smaller : ∀ {first second : Nat}, first ∈ order → second ∈ order →
      order.idxOf first < order.idxOf second → key requires order first < key requires order second := by
    intro first second member member' before
    have pair := List.pairwise_iff_getElem.1 served.ascending _ _ (List.idxOf_lt_length_of_mem member)
      (List.idxOf_lt_length_of_mem member') before
    rwa [List.getElem_idxOf, List.getElem_idxOf] at pair
  refine ⟨smaller member member', fun less => ?_⟩
  rcases lt_trichotomy (order.idxOf first) (order.idxOf second) with before | same | after
  · exact before
  · exact absurd less (by rw [(List.idxOf_inj member).1 same]; exact lt_irrefl _)
  · exact absurd less (smaller member' member after).asymm

/-- Two such orders that have the same start go on with the same node: each of the two that come next has in
both orders the key that it has in their common start, and would have to come before the other one. -/
theorem FirstCome.next_eq {before rest rest' : List Nat} {next next' : Nat}
    (served : FirstCome requires (before ++ next :: rest)) (served' : FirstCome requires (before ++ next' :: rest'))
    (same : (before ++ next :: rest).Perm (before ++ next' :: rest')) : next = next' := by
  by_contra apart
  have rests : (next :: rest).Perm (next' :: rest') := (List.perm_append_left_iff before).1 same
  have later : next' ∈ rest :=
    (List.mem_cons.1 (rests.mem_iff.2 List.mem_cons_self)).resolve_left (Ne.symm apart)
  have later' : next ∈ rest' := (List.mem_cons.1 (rests.mem_iff.1 List.mem_cons_self)).resolve_left apart
  have less := (List.pairwise_cons.1 (List.pairwise_append.1 served.ascending).2.1).1 next' later
  have less' := (List.pairwise_cons.1 (List.pairwise_append.1 served'.ascending).2.1).1 next later'
  have inside := served.settled before next rest rfl
  have inside' := served'.settled before next' rest' rfl
  rw [key_append inside, key_append inside'] at less less'
  exact lt_asymm less less'

theorem FirstCome.rest_eq (before : List Nat) {rest rest' : List Nat} (served : FirstCome requires (before ++ rest))
    (served' : FirstCome requires (before ++ rest')) (same : (before ++ rest).Perm (before ++ rest')) :
    rest = rest' := by
  induction rest generalizing before rest' with
  | nil => exact ((List.perm_append_left_iff before).1 same).nil_eq
  | cons next rest ih =>
    cases rest' with
    | nil => exact absurd ((List.perm_append_left_iff before).1 same).eq_nil (List.cons_ne_nil _ _)
    | cons next' rest' =>
      obtain rfl := served.next_eq served' same
      rw [List.append_cons before next rest] at served same
      rw [List.append_cons before next rest'] at served' same
      rw [ih _ served served' same]

/-- There is no other order of the same nodes by which they are served as they come. -/
theorem FirstCome.eq_of_perm {other : List Nat} (served : FirstCome requires order)
    (served' : FirstCome requires other) (same : order.Perm other) : order = other :=
  FirstCome.rest_eq [] served served' same

/-! ### Keys while the queue is served -/

/-- What is served and what is queued is in the order of its keys. -/
def Queues (requires : Nat → List Nat) (progress : Progress) : Prop :=
  (progress.order ++ progress.queue).Pairwise fun first second =>
    key requires progress.order first < key requires progress.order second

/-- At the start the nodes that require nothing are queued as they are listed. -/
theorem start_queues (sorted : nodes.Pairwise (· < ·)) : Queues requires (start requires nodes) := by
  refine (sorted.filter _).imp_of_mem fun {first second} member member' before => ?_
  have none : requires first = [] := by simpa using (List.mem_filter.1 member).2
  have none' : requires second = [] := by simpa using (List.mem_filter.1 member').2
  exact key_lt_of_lastPlace_eq (by rw [lastPlace_of_none none, lastPlace_of_none none']) before

/-- What is released by serving a node comes after all that is served or queued, and as it is listed. -/
theorem Queues.serveNext {progress : Progress} {next : Nat} {queue : List Nat}
    (queues : Queues requires progress) (invariant : Invariant requires nodes progress)
    (sorted : nodes.Pairwise (· < ·)) (distinctRequires : ∀ node, (requires node).Nodup)
    (queued : progress.queue = next :: queue) :
    Queues requires (progress.serveNext requires nodes next queue) := by
  have distinctNodes : nodes.Nodup := sorted.imp Nat.ne_of_lt
  have after := invariant.serveNext distinctNodes distinctRequires queued
  set released := (dependents requires nodes next).filter fun node => progress.pending node - 1 = 0
  have served : (progress.serveNext requires nodes next queue).order = progress.order ++ [next] := order_serveNext
  have waits : (progress.serveNext requires nodes next queue).queue = queue ++ released :=
    queue_serveNext distinctNodes
  have moved : (progress.order ++ [next]) ++ (queue ++ released) =
      (progress.order ++ progress.queue) ++ released := by simp [queued]
  have places : ∀ node ∈ released,
      lastPlace requires (progress.order ++ [next]) node = progress.order.length := by
    intro node member
    refine lastPlace_concat (invariant.not_served queued) (mem_dependents.1 (List.mem_of_mem_filter member)).2 ?_
    rw [← served]
    exact after.ready (by rw [served, waits, moved]; exact List.mem_append_right _ member)
  have earlier : ∀ node ∈ progress.order ++ progress.queue,
      lastPlace requires (progress.order ++ [next]) node < progress.order.length := by
    intro node member
    refine lastPlace_lt_iff.2 ⟨by omega, fun required requirement => ?_⟩
    have inside := invariant.ready member required requirement
    rw [List.idxOf_append_of_mem inside]
    exact_mod_cast List.idxOf_lt_length_of_mem inside
  unfold Queues
  rw [served, waits, moved]
  refine List.pairwise_append.2 ⟨?_, ?_, fun first member second member' => ?_⟩
  · refine List.Pairwise.imp_of_mem (fun {first second} member member' less => ?_) queues
    rwa [key_append (invariant.ready member), key_append (invariant.ready member')]
  · refine ((sorted.filter _).filter _).imp_of_mem fun {first second} member member' before => ?_
    exact key_lt_of_lastPlace_eq (by rw [places first member, places second member']) before
  · exact key_lt_of_lastPlace_lt (by rw [places second member']; exact earlier first member)

theorem Queues.serve (sorted : nodes.Pairwise (· < ·)) (distinctRequires : ∀ node, (requires node).Nodup)
    {fuel : Nat} {progress : Progress} (queues : Queues requires progress)
    (invariant : Invariant requires nodes progress) : Queues requires (serve requires nodes fuel progress) := by
  induction fuel generalizing progress with
  | zero => exact queues
  | succ fuel ih =>
    unfold Dependency.serve
    split
    · exact queues
    · rename_i next queue queued
      exact ih (queues.serveNext invariant sorted distinctRequires queued)
        (invariant.serveNext (sorted.imp Nat.ne_of_lt) distinctRequires queued)

/-- Nodes are served as they come. -/
theorem order_firstCome (sorted : nodes.Pairwise (· < ·)) (distinctRequires : ∀ node, (requires node).Nodup) :
    FirstCome requires (Dependency.order requires nodes) := by
  have distinctNodes : nodes.Nodup := sorted.imp Nat.ne_of_lt
  obtain ⟨-, empty⟩ := run_invariant distinctNodes distinctRequires
  have queues : Queues requires (run requires nodes) :=
    (start_queues sorted).serve sorted distinctRequires (start_invariant distinctNodes)
  have exact := order_exact distinctNodes distinctRequires
  refine ⟨exact.distinct, exact.settled, ?_⟩
  rwa [Queues, empty, List.append_nil] at queues

end Dependency

namespace Schedule

open Dependency (FirstCome key)

variable {statements : List Statement} {scope : ScopeId}

/-! ### Blocks -/

theorem accepted_ascending : (accepted statements).Pairwise (· < ·) := List.pairwise_lt_range.filter _

theorem order_firstCome : FirstCome (requirements statements scope) (order statements scope) :=
  Dependency.order_firstCome accepted_ascending nodup_requirements

/-- Where the statements of a block are written, in the order of the block: only accepted statements are in it, and no
two of these have the same target. -/
structure Lists (statements : List Statement) (block : Block) (order : List Nat) : Prop where
  exactly : block.statements.map some = order.map (statements[·]?)
  accepted : ∀ index ∈ order, IsFirst statements index

theorem order_lists : Lists statements (schedule statements scope).1 (order statements scope) where
  exactly := by
    rw [schedule_eq]
    exact statements_of_order
  accepted index member := (mem_order.1 member).1

/-- Of two statements of a block the one with the smaller key comes first, where keys are compared by the last place
in the block of what the statements require (-1 if they require nothing) and then by where the statements are
written. No other order of these statements that puts each after all that it requires goes by such keys. -/
theorem schedule_firstCome (statements : List Statement) (scope : ScopeId) :
    ∃ order, Lists statements (schedule statements scope).1 order ∧
      FirstCome (requirements statements scope) order ∧
      (∀ first ∈ order, ∀ second ∈ order, order.idxOf first < order.idxOf second ↔
        key (requirements statements scope) order first < key (requirements statements scope) order second) ∧
      ∀ other, FirstCome (requirements statements scope) other → other.Perm order → other = order :=
  ⟨order statements scope, order_lists, order_firstCome,
    fun _ member _ member' => order_firstCome.precedes_iff member member',
    fun _ served same => served.eq_of_perm order_firstCome same⟩

end Schedule

end Circuitry
