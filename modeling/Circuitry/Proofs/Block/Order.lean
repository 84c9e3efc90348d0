import Circuitry.Block.Dependency
import Mathlib.Data.List.Nodup
import Mathlib.Logic.Relation
import Mathlib.Order.WellFounded
import Mathlib.Order.WellFoundedSet

/-!
# The dependency order is exact

While the queue is served, the count of a node is the number of its requirements that are not in the order yet,
and the nodes whose count is zero are those in the queue and in the order. So the order lists every node after
all that it requires, and at the end the queue is empty: a node is left out only if it requires one that is left
out as well. Among finitely many nodes this leads to a cycle.
-/

set_option autoImplicit false

namespace Circuitry.Dependency

variable {requires : Nat → List Nat} {nodes : List Nat}

/-! ### Orders -/

/-- Every node of a list comes after all that it requires. -/
def Settled (requires : Nat → List Nat) (order : List Nat) : Prop :=
  ∀ before node after, order = before ++ node :: after → ∀ required ∈ requires node, required ∈ before

theorem settled_nil : Settled requires [] := by
  intro before node after impossible
  simp at impossible

/-- A node may come next if all that it requires is there. -/
theorem Settled.concat {order : List Nat} (settled : Settled requires order) {next : Nat}
    (ready : ∀ required ∈ requires next, required ∈ order) : Settled requires (order ++ [next]) := by
  intro before node after split
  rcases List.eq_nil_or_concat after with rfl | ⟨rest, last, rfl⟩
  · obtain ⟨rfl, same⟩ := List.append_inj' split rfl
    cases same
    exact ready
  · rw [List.concat_eq_append, ← List.cons_append, ← List.append_assoc] at split
    obtain ⟨rfl, -⟩ := List.append_inj' split rfl
    exact settled before node rest rfl

/-- Requirements come earlier. -/
theorem Settled.earlier {order : List Nat} (settled : Settled requires order) {node required : Nat}
    (member : node ∈ order) (requirement : required ∈ requires node) :
    required ∈ order ∧ order.idxOf required < order.idxOf node := by
  obtain ⟨before, after, rfl, absent⟩ := List.eq_append_cons_of_mem member
  have inside := settled before node after rfl required requirement
  refine ⟨List.mem_append_left _ inside, ?_⟩
  rw [List.idxOf_append_of_mem inside, List.idxOf_append_of_notMem absent, List.idxOf_cons_self, Nat.add_zero]
  exact List.idxOf_lt_length_of_mem inside

/-! ### One release after another -/

theorem order_foldl_release (targets : List Nat) (progress : Progress) :
    (targets.foldl Progress.release progress).order = progress.order := by
  induction targets generalizing progress with
  | nil => rfl
  | cons target rest ih => exact ih (progress.release target)

/-- Releases take one off the count of each node that is released, and of no other. -/
theorem pending_foldl_release {targets : List Nat} (distinct : targets.Nodup) (progress : Progress)
    (node : Nat) :
    (targets.foldl Progress.release progress).pending node =
      if node ∈ targets then progress.pending node - 1 else progress.pending node := by
  induction targets generalizing progress with
  | nil => simp
  | cons target rest ih =>
    obtain ⟨absent, distinctRest⟩ := List.nodup_cons.1 distinct
    rw [List.foldl_cons, ih distinctRest]
    by_cases same : node = target
    · subst same
      simp [absent, Progress.release]
    · simp [same, Progress.release]

/-- The nodes whose count falls to zero join the queue. -/
theorem queue_foldl_release {targets : List Nat} (distinct : targets.Nodup) (progress : Progress) :
    (targets.foldl Progress.release progress).queue =
      progress.queue ++ targets.filter fun node => progress.pending node - 1 = 0 := by
  induction targets generalizing progress with
  | nil => simp
  | cons target rest ih =>
    obtain ⟨absent, distinctRest⟩ := List.nodup_cons.1 distinct
    have others : rest.filter (fun node => (progress.release target).pending node - 1 = 0) =
        rest.filter fun node => progress.pending node - 1 = 0 := by
      refine List.filter_congr fun node member => ?_
      have apart : node ≠ target := fun same => absent (same ▸ member)
      simp [Progress.release, apart]
    rw [List.foldl_cons, ih distinctRest, others]
    by_cases last : progress.pending target - 1 = 0
    · simp [Progress.release, last]
    · simp [Progress.release, last]

section Step

variable {progress : Progress} {next : Nat} {queue : List Nat}

theorem order_serveNext : (progress.serveNext requires nodes next queue).order = progress.order ++ [next] :=
  order_foldl_release _ _

/-- Serving a node releases the dependents that wait for no other one, as they are listed. -/
theorem queue_serveNext (distinctNodes : nodes.Nodup) :
    (progress.serveNext requires nodes next queue).queue =
      queue ++ (dependents requires nodes next).filter fun node => progress.pending node - 1 = 0 :=
  queue_foldl_release (distinctNodes.filter _) _

end Step

/-! ### The invariant -/

/-- What holds while the queue is served. -/
structure Invariant (requires : Nat → List Nat) (nodes : List Nat) (progress : Progress) : Prop where
  distinct : (progress.order ++ progress.queue).Nodup
  inside : ∀ node ∈ progress.order ++ progress.queue, node ∈ nodes
  counts : ∀ node ∈ nodes,
    progress.pending node = ((requires node).filter fun required => required ∉ progress.order).length
  waiting : ∀ node ∈ nodes, node ∈ progress.order ++ progress.queue ↔ progress.pending node = 0
  settled : Settled requires progress.order

/-- A count is zero once all requirements are in the order. -/
theorem Invariant.pending_eq_zero {progress : Progress} (invariant : Invariant requires nodes progress)
    {node : Nat} (member : node ∈ nodes) :
    progress.pending node = 0 ↔ ∀ required ∈ requires node, required ∈ progress.order := by
  rw [invariant.counts node member]
  simp [List.filter_eq_nil_iff]

theorem mem_dependents {node other : Nat} :
    other ∈ dependents requires nodes node ↔ other ∈ nodes ∧ node ∈ requires other := by
  simp [dependents]

/-- One more node in the order is one requirement less for those that require it. -/
theorem length_filter_concat {items order : List Nat} (distinct : items.Nodup) {next : Nat}
    (new : next ∉ order) :
    (items.filter fun item => item ∉ order ++ [next]).length =
      if next ∈ items then (items.filter fun item => item ∉ order).length - 1
      else (items.filter fun item => item ∉ order).length := by
  have erased : (items.filter fun item => item ∉ order ++ [next]) =
      (items.filter fun item => item ∉ order).erase next := by
    rw [(distinct.filter _).erase_eq_filter, List.filter_filter]
    refine List.filter_congr fun item _ => ?_
    by_cases same : item = next <;> simp [same]
  rw [erased, List.length_erase]
  simp [List.mem_filter, new]

theorem start_invariant (distinct : nodes.Nodup) : Invariant requires nodes (start requires nodes) where
  distinct := distinct.filter _
  inside node member := List.mem_of_mem_filter member
  counts node _ := by simp [start]
  waiting node member := by simp [start, member]
  settled := settled_nil

section Step

variable {progress : Progress} {next : Nat} {queue : List Nat}

/-- What is queued is not in the order yet. -/
theorem Invariant.not_served (invariant : Invariant requires nodes progress)
    (queued : progress.queue = next :: queue) : next ∉ progress.order := by
  intro served
  have distinct := invariant.distinct
  rw [queued] at distinct
  exact (List.nodup_append.1 distinct).2.2 next served next List.mem_cons_self rfl

/-- All that a node requires is in the order once the node is queued. -/
theorem Invariant.ready (invariant : Invariant requires nodes progress) {node : Nat}
    (member : node ∈ progress.order ++ progress.queue) : ∀ required ∈ requires node, required ∈ progress.order :=
  have inside := invariant.inside node member
  (invariant.pending_eq_zero inside).1 ((invariant.waiting node inside).1 member)

/-- The counts never fall below zero: a node that is released waits for what was served. -/
theorem Invariant.pending_pos (invariant : Invariant requires nodes progress)
    (queued : progress.queue = next :: queue) {node : Nat} (dependent : node ∈ dependents requires nodes next) :
    0 < progress.pending node := by
  obtain ⟨member, requirement⟩ := mem_dependents.1 dependent
  refine Nat.pos_of_ne_zero fun zero => ?_
  exact invariant.not_served queued ((invariant.pending_eq_zero member).1 zero next requirement)

/-- Serving one node keeps the invariant. -/
theorem Invariant.serveNext (invariant : Invariant requires nodes progress) (distinctNodes : nodes.Nodup)
    (distinctRequires : ∀ node, (requires node).Nodup) (queued : progress.queue = next :: queue) :
    Invariant requires nodes (progress.serveNext requires nodes next queue) := by
  have distinct := invariant.distinct
  have waiting := invariant.waiting
  rw [queued] at distinct waiting
  have new := invariant.not_served queued
  have ready : ∀ required ∈ requires next, required ∈ progress.order := invariant.ready (by simp [queued])
  have distinctTargets : (dependents requires nodes next).Nodup := distinctNodes.filter _
  set released := (dependents requires nodes next).filter fun node => progress.pending node - 1 = 0
  have later : (progress.serveNext requires nodes next queue).queue = queue ++ released :=
    queue_serveNext distinctNodes
  have order : (progress.serveNext requires nodes next queue).order = progress.order ++ [next] := order_serveNext
  have pending : ∀ node, (progress.serveNext requires nodes next queue).pending node =
      if node ∈ dependents requires nodes next then progress.pending node - 1
      else progress.pending node := pending_foldl_release distinctTargets _
  have fresh : ∀ node ∈ dependents requires nodes next, node ∉ progress.order ++ next :: queue :=
    fun node dependent listed => (invariant.pending_pos queued dependent).ne'
      ((waiting node (mem_dependents.1 dependent).1).1 listed)
  have moved : (progress.order ++ [next]) ++ (queue ++ released) =
      (progress.order ++ next :: queue) ++ released := by simp
  refine ⟨?_, ?_, fun node member => ?_, fun node member => ?_, ?_⟩
  · rw [order, later, moved]
    refine List.nodup_append.2 ⟨distinct, distinctTargets.filter _, fun node listed other member same => ?_⟩
    exact fresh other (List.mem_of_mem_filter member) (same ▸ listed)
  · rw [order, later, moved]
    intro node listed
    rcases List.mem_append.1 listed with earlier | member
    · exact invariant.inside node (by rwa [queued])
    · exact (mem_dependents.1 (List.mem_of_mem_filter member)).1
  · rw [pending, order, length_filter_concat (distinctRequires node) new, invariant.counts node member]
    simp [mem_dependents, member]
  · rw [pending, order, later, moved, List.mem_append, waiting node member]
    by_cases dependent : node ∈ dependents requires nodes next
    · have positive := (invariant.pending_pos queued dependent).ne'
      simp [released, List.mem_filter, dependent, positive]
    · simp [released, List.mem_filter, dependent]
  · rw [order]
    exact invariant.settled.concat ready

end Step

/-- Serving with fuel enough keeps the invariant and empties the queue. -/
theorem Invariant.serve (distinctNodes : nodes.Nodup) (distinctRequires : ∀ node, (requires node).Nodup)
    {fuel : Nat} {progress : Progress} (invariant : Invariant requires nodes progress)
    (enough : nodes.length ≤ progress.order.length + fuel) :
    Invariant requires nodes (serve requires nodes fuel progress) ∧
      (serve requires nodes fuel progress).queue = [] := by
  induction fuel generalizing progress with
  | zero =>
    refine ⟨invariant, List.eq_nil_of_length_eq_zero ?_⟩
    have bounded := (List.subperm_of_subset invariant.distinct invariant.inside).length_le
    rw [List.length_append] at bounded
    change progress.queue.length = 0
    omega
  | succ fuel ih =>
    unfold Dependency.serve
    split
    · exact ⟨invariant, ‹_›⟩
    · rename_i next queue queued
      refine ih (invariant.serveNext distinctNodes distinctRequires queued) ?_
      rw [order_serveNext, List.length_append, List.length_singleton]
      omega

/-! ### The order that comes out -/

theorem run_invariant (distinctNodes : nodes.Nodup) (distinctRequires : ∀ node, (requires node).Nodup) :
    Invariant requires nodes (run requires nodes) ∧ (run requires nodes).queue = [] :=
  (start_invariant distinctNodes).serve distinctNodes distinctRequires (by simp [start])

/-- What a list of distinct nodes is if it is the order of all nodes that can be ordered. -/
structure Exact (requires : Nat → List Nat) (nodes order : List Nat) : Prop where
  distinct : order.Nodup
  inside : ∀ node ∈ order, node ∈ nodes
  settled : Settled requires order
  /-- A node whose requirements are all in the order is in the order itself. -/
  complete : ∀ node ∈ nodes, (∀ required ∈ requires node, required ∈ order) → node ∈ order

theorem order_exact (distinctNodes : nodes.Nodup) (distinctRequires : ∀ node, (requires node).Nodup) :
    Exact requires nodes (order requires nodes) := by
  obtain ⟨invariant, served⟩ := run_invariant distinctNodes distinctRequires
  have distinct := invariant.distinct
  have inside := invariant.inside
  have waiting := invariant.waiting
  rw [served, List.append_nil] at distinct inside waiting
  exact ⟨distinct, inside, invariant.settled, fun node member ready =>
    (waiting node member).2 ((invariant.pending_eq_zero member).2 ready)⟩

/-- The nodes that wait to the end are those that are not in the order. -/
theorem mem_stuck (distinctNodes : nodes.Nodup) (distinctRequires : ∀ node, (requires node).Nodup)
    {node : Nat} : node ∈ stuck requires nodes ↔ node ∈ nodes ∧ node ∉ order requires nodes := by
  obtain ⟨invariant, served⟩ := run_invariant distinctNodes distinctRequires
  have waiting := invariant.waiting
  rw [served, List.append_nil] at waiting
  rw [stuck, List.mem_filter, decide_eq_true_iff, Nat.pos_iff_ne_zero]
  exact and_congr_right fun member => not_congr (waiting node member).symm

/-! ### Cycles -/

/-- A cycle of a relation can be reached. -/
def ReachesCycle {α : Type} (related : α → α → Prop) (item : α) : Prop :=
  ∃ other, Relation.ReflTransGen related item other ∧ Relation.TransGen related other other

/-- A node requires another one. -/
abbrev Requires (requires : Nat → List Nat) (node required : Nat) : Prop := required ∈ requires node

/-- What a node requires by any number of steps comes earlier. -/
theorem Settled.earlier_of_transGen {order : List Nat} (settled : Settled requires order) {node required : Nat}
    (member : node ∈ order) (path : Relation.TransGen (Requires requires) node required) :
    required ∈ order ∧ order.idxOf required < order.idxOf node := by
  induction path with
  | single requirement => exact settled.earlier member requirement
  | tail _ requirement ih =>
    obtain ⟨inside, before⟩ := settled.earlier ih.1 requirement
    exact ⟨inside, before.trans ih.2⟩

theorem Settled.not_reachesCycle {order : List Nat} (settled : Settled requires order) {node : Nat}
    (member : node ∈ order) : ¬ReachesCycle (Requires requires) node := by
  rintro ⟨other, path, cycle⟩
  have inside : other ∈ order := by
    rcases Relation.reflTransGen_iff_eq_or_transGen.1 path with rfl | path
    · exact member
    · exact (settled.earlier_of_transGen member path).1
  exact Nat.lt_irrefl _ (settled.earlier_of_transGen inside cycle).2

/-- What can be reached from a node. -/
abbrev Reachable (requires : Nat → List Nat) (node : Nat) : Type :=
  {other // Relation.ReflTransGen (Requires requires) node other}

/-- One node that can be reached is required by another one, by any number of steps. -/
def Below (requires : Nat → List Nat) (node : Nat) (other another : Reachable requires node) : Prop :=
  Relation.TransGen (Requires requires) another.1 other.1

theorem mem_of_reachable (closed : ∀ node ∈ nodes, ∀ required ∈ requires node, required ∈ nodes) {node : Nat}
    (member : node ∈ nodes) (other : Reachable requires node) : other.1 ∈ nodes := by
  obtain ⟨other, path⟩ := other
  induction path with
  | refl => exact member
  | tail _ requirement ih => exact closed _ ih _ requirement

/-- What can be reached among finitely many nodes is well-founded if no cycle is. -/
theorem below_wellFounded (closed : ∀ node ∈ nodes, ∀ required ∈ requires node, required ∈ nodes) {node : Nat}
    (member : node ∈ nodes) (acyclic : ¬ReachesCycle (Requires requires) node) :
    WellFounded (Below requires node) := by
  have finite : Finite (Reachable requires node) :=
    (nodes.finite_toSet.subset fun other path => mem_of_reachable closed member ⟨other, path⟩).to_subtype
  have transitive : IsTrans _ (Below requires node) := ⟨fun _ _ _ below above => above.trans below⟩
  have irreflexive : Std.Irrefl (Below requires node) :=
    ⟨fun other cycle => acyclic ⟨other.1, other.2, cycle⟩⟩
  exact Finite.wellFounded_of_trans_of_irrefl _

theorem Exact.mem_of_not_reachesCycle {order : List Nat} (exact : Exact requires nodes order)
    (closed : ∀ node ∈ nodes, ∀ required ∈ requires node, required ∈ nodes) {node : Nat}
    (member : node ∈ nodes) (acyclic : ¬ReachesCycle (Requires requires) node) : node ∈ order := by
  have all : ∀ other : Reachable requires node, other.1 ∈ order := by
    intro other
    induction other using (below_wellFounded closed member acyclic).induction with
    | _ other ih =>
      refine exact.complete other.1 (mem_of_reachable closed member other) fun required requirement => ?_
      exact ih ⟨required, other.2.tail requirement⟩ (.single requirement)
  exact all ⟨node, .refl⟩

/-- The order lists the nodes from which no cycle can be reached. -/
theorem Exact.mem_iff {order : List Nat} (exact : Exact requires nodes order)
    (closed : ∀ node ∈ nodes, ∀ required ∈ requires node, required ∈ nodes) {node : Nat} :
    node ∈ order ↔ node ∈ nodes ∧ ¬ReachesCycle (Requires requires) node :=
  ⟨fun member => ⟨exact.inside node member, exact.settled.not_reachesCycle member⟩,
    fun ⟨member, acyclic⟩ => exact.mem_of_not_reachesCycle closed member acyclic⟩

end Circuitry.Dependency
