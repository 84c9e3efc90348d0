import Circuitry.Proofs.Block.Schedule

/-!
# The cycle that is reported

Every statement that cannot be ordered requires another one, so the walk along requirements that starts at the
first of them never gets lost. It visits no statement twice before it ends, so it ends, although nothing bounds
it but the number of statements; and then it has closed a cycle. The report shows this cycle, label by label, and
names all statements that are left out.
-/

set_option autoImplicit false

namespace Circuitry

namespace Dependency

variable {requires : Nat → List Nat} {stuck : List Nat}

/-- A path that ends where it starts, meets no other node twice, and goes from each node to a related one. -/
structure ClosedPath {α : Type} (related : α → α → Prop) (path : List α) : Prop where
  closes : ∃ first rest, path = first :: rest ++ [first] ∧ (first :: rest).Nodup
  linked : path.IsChain related

variable (requires stuck) in
/-- The walk from the last node of a path, with nothing to bound it: it goes on to the first stuck node that the
last one requires, and ends when there is none or when that one is on the path already. -/
inductive Walks : List Nat → Nat → List Nat → Prop where
  | lost {path : List Nat} {current : Nat} :
      (requires current).find? stuck.contains = none → Walks path current path
  | closes {path : List Nat} {current next position : Nat} :
      (requires current).find? stuck.contains = some next →
      path.findIdx? (· = next) = some position → Walks path current (path.drop position ++ [next])
  | goes {path walked : List Nat} {current next : Nat} :
      (requires current).find? stuck.contains = some next → next ∉ path →
      Walks (path ++ [next]) next walked → Walks path current walked

variable (requires stuck) in
/-- What holds of the path while the walk goes on. -/
structure OnTheWay (path : List Nat) (current : Nat) : Prop where
  last : path.getLast? = some current
  distinct : path.Nodup
  inside : path ⊆ stuck
  linked : path.IsChain (Requires requires)

section Step

variable {path : List Nat} {current next : Nat}

/-- The next node is one that the last requires, and is stuck as well. -/
theorem next_of_find? (found : (requires current).find? stuck.contains = some next) :
    Requires requires current next ∧ next ∈ stuck :=
  ⟨List.mem_of_find?_eq_some found, by simpa using List.find?_some found⟩

/-- A new node prolongs the path. -/
theorem OnTheWay.goes (way : OnTheWay requires stuck path current)
    (found : (requires current).find? stuck.contains = some next) (new : next ∉ path) :
    OnTheWay requires stuck (path ++ [next]) next where
  last := List.getLast?_concat
  distinct := List.nodup_append'.2
    ⟨way.distinct, List.nodup_singleton next, List.disjoint_singleton.2 new⟩
  inside := List.append_subset.2 ⟨way.inside, by simpa using (next_of_find? found).2⟩
  linked := by
    refine way.linked.append (.singleton next) fun last is head same => ?_
    cases is.symm.trans way.last
    cases same
    exact (next_of_find? found).1

/-- A node that is on the path already closes it. -/
theorem OnTheWay.closes (way : OnTheWay requires stuck path current) {position : Nat}
    (found : (requires current).find? stuck.contains = some next)
    (again : path.findIdx? (· = next) = some position) :
    ClosedPath (Requires requires) (path.drop position ++ [next]) ∧ path.drop position ++ [next] ⊆ stuck := by
  obtain ⟨inside, same, -⟩ := List.findIdx?_eq_some_iff_getElem.1 again
  have split : path.drop position = next :: path.drop (position + 1) := by
    rw [List.drop_eq_getElem_cons inside, of_decide_eq_true same]
  have last : (path.drop position).getLast? = some current := by
    rw [List.getLast?_drop, if_neg (Nat.not_le.2 inside), way.last]
  refine ⟨⟨⟨next, path.drop (position + 1), by rw [split], ?_⟩, ?_⟩, ?_⟩
  · rw [← split]
    exact way.distinct.sublist (List.drop_sublist position path)
  · refine (way.linked.drop position).append (.singleton next) fun other is head same => ?_
    cases is.symm.trans last
    cases same
    exact (next_of_find? found).1
  · exact List.append_subset.2
      ⟨List.Subset.trans (List.drop_subset position path) way.inside, by simpa using (next_of_find? found).2⟩

end Step

/-- Among nodes each of which requires another one of them, a walk ends with a cycle, whatever bounds it, if only the
bound allows as many steps as there are nodes not on the path yet. -/
theorem OnTheWay.follow (blocked : ∀ node ∈ stuck, ∃ required ∈ requires node, required ∈ stuck) {fuel : Nat}
    {path : List Nat} {current : Nat} (way : OnTheWay requires stuck path current)
    (enough : stuck.length < path.length + fuel) :
    Walks requires stuck path current (follow requires stuck fuel path current) ∧
      ClosedPath (Requires requires) (Dependency.follow requires stuck fuel path current) ∧
      Dependency.follow requires stuck fuel path current ⊆ stuck := by
  induction fuel generalizing path current with
  | zero =>
    -- a path without repetition is no longer than the list of its nodes
    have bounded := (List.subperm_of_subset way.distinct way.inside).length_le
    omega
  | succ fuel ih =>
    have stays : current ∈ stuck := way.inside (List.mem_of_getLast? way.last)
    obtain ⟨required, requirement, stuckToo⟩ := blocked current stays
    cases found : (requires current).find? stuck.contains with
    | none =>
      exact absurd (List.find?_eq_none.1 found required requirement) (by simpa using stuckToo)
    | some next =>
      cases again : path.findIdx? (· = next) with
      | some position =>
        simp only [Dependency.follow, found, again]
        exact ⟨.closes found again, way.closes found again⟩
      | none =>
        have new : next ∉ path := fun member =>
          absurd (List.findIdx?_eq_none_iff.1 again next member) (by simp)
        obtain ⟨walks, closed⟩ := ih (way.goes found new) (by
          rw [List.length_append, List.length_singleton]
          omega)
        simp only [Dependency.follow, found, again]
        exact ⟨.goes found new walks, closed⟩

/-- So the walk from the first of them ends, and finds a cycle. -/
theorem cycle_closed (blocked : ∀ node ∈ stuck, ∃ required ∈ requires node, required ∈ stuck) {first : Nat}
    {rest : List Nat} (some : stuck = first :: rest) :
    Walks requires stuck [first] first (cycle requires stuck) ∧
      ClosedPath (Requires requires) (cycle requires stuck) ∧ cycle requires stuck ⊆ stuck := by
  have way : OnTheWay requires stuck [first] first :=
    ⟨rfl, List.nodup_singleton first, by simp [some], .singleton first⟩
  have started : cycle requires stuck = follow requires stuck stuck.length [first] first := by
    subst some
    rfl
  rw [started]
  exact way.follow blocked (by simp)

end Dependency

namespace Schedule

open Dependency (ClosedPath Walks)

variable {statements : List Statement} {scope : ScopeId}

/-! ### Statements that are left unordered -/

theorem mem_stuck_iff {index : Nat} :
    index ∈ stuck statements scope ↔ IsFirst statements index ∧ index ∉ order statements scope := by
  rw [mem_stuck, mem_order]
  tauto

/-- Each statement that is left unordered requires another one that is. -/
theorem stuck_blocked : ∀ index ∈ stuck statements scope,
    ∃ required ∈ requirements statements scope index, required ∈ stuck statements scope := by
  intro index member
  obtain ⟨first, unordered⟩ := mem_stuck_iff.1 member
  by_contra none
  push Not at none
  -- if all that it requires were in the order, so would it be
  refine unordered (order_exact.complete index (mem_accepted.2 first) fun required requirement => ?_)
  by_contra missing
  have accepted := accepted_of_requirement index required requirement
  exact none required requirement (mem_stuck_iff.2 ⟨mem_accepted.1 accepted, missing⟩)

theorem stuck_ascending : (stuck statements scope).Pairwise (· < ·) :=
  (List.pairwise_lt_range.filter _).filter _

/-! ### Reports of cycles -/

/-- Of some diagnostics, those that report a cycle. -/
def cycleReports (diagnostics : List Diagnostic) : List Diagnostic :=
  diagnostics.filter fun diagnostic => diagnostic.kind = .cyclicDependency

theorem cycleReports_repeats {indices : List Nat} {diagnostics : List Diagnostic}
    (repeats : List.Forall₂ (IsRepeatReport statements) indices diagnostics) : cycleReports diagnostics = [] := by
  induction repeats with
  | nil => rfl
  | @cons _ diagnostic _ _ head _ ih =>
    obtain ⟨statement, -, -, -, -, -, -, -, -, -, kind⟩ := head
    have apart : diagnostic.kind ≠ .cyclicDependency := by
      rw [kind]
      split <;> decide
    rw [cycleReports, List.filter_cons_of_neg (by simpa using apart)]
    exact ih

/-- There is a report of a cycle just if statements are left unordered, and then only one. -/
theorem cycleReports_schedule :
    cycleReports (schedule statements scope).2 =
      if (stuck statements scope).isEmpty then []
      else [cycleReport statements (Dependency.cycle (requirements statements scope) (stuck statements scope))
        (stuck statements scope)] := by
  have silent := cycleReports_repeats (@repeat_reports statements)
  rw [schedule_eq]
  unfold cycleReports at silent ⊢
  rw [List.filter_append, silent, List.nil_append]
  split <;> rfl

/-- Where the statement at a position is, if there is one. -/
def place? (statements : List Statement) (index : Nat) : Option Span := (statements[index]?).map Statement.span

theorem spanAt_of_isFirst {index : Nat} (first : IsFirst statements index) :
    some (spanAt statements index) = place? statements index := by
  obtain ⟨statement, found, -⟩ := first
  simp [spanAt, place?, found]

/-- What a report says of a cycle: the path that it shows is closed, each statement on it refers to what the next
one binds, and none of them is scheduled; the labels go along the path; and all statements that are left unordered
are named. -/
structure ShowsCycle (statements : List Statement) (scope : ScopeId) (order unordered path : List Nat)
    (diagnostic : Diagnostic) : Prop where
  report : IsCycleReport statements unordered diagnostic
  closed : ClosedPath (Requires statements scope) path
  excluded : ∀ index ∈ path, IsFirst statements index ∧ index ∉ order
  labels : diagnostic.labels.map (fun label => some label.span) = path.map (place? statements)
  start : diagnostic.span = path.head?.bind (place? statements)
  message : diagnostic.message = "dependency cycle: " ++ " → ".intercalate (path.map (nameAt statements))

theorem cycleReport_shows {path : List Nat} (closed : ClosedPath (Requires statements scope) path)
    (inside : path ⊆ stuck statements scope) :
    ShowsCycle statements scope (order statements scope) (stuck statements scope) path
      (cycleReport statements path (stuck statements scope)) where
  report := ⟨rfl, rfl⟩
  closed := closed
  excluded index member := mem_stuck_iff.1 (inside member)
  labels := by
    have places : ∀ index ∈ path, some (spanAt statements index) = place? statements index :=
      fun index member => spanAt_of_isFirst (mem_stuck_iff.1 (inside member)).1
    calc _ = (path.zipIdx.map Prod.fst).map fun index => some (spanAt statements index) := by
          rw [cycleReport, List.map_map, List.map_map]
          rfl
      _ = path.map (place? statements) := by rw [List.zipIdx_map_fst, List.map_congr_left places]
  start := by
    obtain ⟨first, rest, rfl, -⟩ := closed.closes
    exact spanAt_of_isFirst (mem_stuck_iff.1 (inside List.mem_cons_self)).1
  message := rfl

/-- A cycle is reported just if an accepted statement is left unordered, and then once. The report shows a closed
path of such statements, each of which refers to what the next one binds, and names all of them in the order in which
they are written. The walk that finds the path ends by itself. -/
theorem cycle_reported (statements : List Statement) (scope : ScopeId) :
    ∃ order unordered,
      (schedule statements scope).1.statements.map some = order.map (statements[·]?) ∧
      order.Nodup ∧ (∀ index ∈ order, IsFirst statements index) ∧
      unordered.Pairwise (· < ·) ∧
      (∀ index, index ∈ unordered ↔ IsFirst statements index ∧ index ∉ order) ∧
      (unordered = [] → cycleReports (schedule statements scope).2 = []) ∧
      ∀ first rest, unordered = first :: rest → ∃ path diagnostic,
        Walks (requirements statements scope) unordered [first] first path ∧
        cycleReports (schedule statements scope).2 = [diagnostic] ∧
        ShowsCycle statements scope order unordered path diagnostic := by
  refine ⟨order statements scope, stuck statements scope, ?_, order_exact.distinct,
    fun index member => (mem_order.1 member).1, stuck_ascending, fun _ => mem_stuck_iff, fun none => ?_,
    fun first rest some => ?_⟩
  · rw [schedule_eq]
    exact statements_of_order
  · rw [cycleReports_schedule, none]
    rfl
  · obtain ⟨walks, closed, inside⟩ := Dependency.cycle_closed stuck_blocked some
    rw [requires_requirements] at closed
    refine ⟨_, _, walks, ?_, cycleReport_shows closed inside⟩
    rw [cycleReports_schedule, some]
    rfl

end Schedule

end Circuitry
