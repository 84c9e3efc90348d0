import Circuitry.Proofs.Block.FirstCome
import Circuitry.Proofs.Block.Permutation

/-!
# Scheduling twice

The statements of a block have different targets, so all of them are accepted when they are scheduled again, and what
one of them requires is in the block, at an earlier place. So nothing is stuck and nothing is reported. The keys of
the statements are compared as before: the last place of what a statement requires is the same, and two statements
that agree in it are now written in the order in which they came out. As they stand, they are served as they come.
-/

set_option autoImplicit false

namespace Circuitry

/-- Nodes that require only smaller ones are settled as they are counted. -/
theorem Dependency.settled_range {requires : Nat → List Nat} {count : Nat}
    (smaller : ∀ node < count, ∀ required ∈ requires node, required < node) :
    Settled requires (List.range count) := by
  intro before node after split required requirement
  have counted : node ∈ List.range count := by simp [split]
  have inside := List.mem_range.1 counted
  have earlier := smaller node inside required requirement
  have member : required ∈ List.range count := List.mem_range.2 (earlier.trans inside)
  have ascending : (List.range count).Pairwise (· < ·) := List.pairwise_lt_range
  rw [split] at member ascending
  rcases List.mem_append.1 member with early | late
  · exact early
  · rcases List.mem_cons.1 late with rfl | later
    · exact absurd earlier (Nat.lt_irrefl _)
    · have above := (List.pairwise_cons.1 (List.pairwise_append.1 ascending).2.1).1 required later
      exact absurd earlier above.asymm

namespace Schedule

open Dependency (FirstCome ReachesCycle Settled key lastPlace)

variable {statements : List Statement} {scope : ScopeId} {place place' index index' : Nat}

/-- The statements that are scheduled, in order. -/
def scheduled (statements : List Statement) (scope : ScopeId) : List Statement :=
  (schedule statements scope).1.statements

theorem length_scheduled : (scheduled statements scope).length = (order statements scope).length := by
  rw [← List.length_map some, scheduled, order_lists.exactly, List.length_map]

theorem getElem?_scheduled (placed : (order statements scope)[place]? = some index) :
    (scheduled statements scope)[place]? = statements[index]? := by
  have same := congrArg (·[place]?) (@order_lists statements scope).exactly
  simp only [List.getElem?_map, placed, Option.map_some] at same
  obtain ⟨statement, found, written⟩ := Option.map_eq_some_iff.1 same
  exact found.trans written

theorem exists_written (inside : place < (scheduled statements scope).length) :
    ∃ index, (order statements scope)[place]? = some index := by
  rw [length_scheduled] at inside
  exact ⟨_, List.getElem?_eq_getElem inside⟩

theorem lt_length_scheduled (placed : (order statements scope)[place]? = some index) :
    place < (scheduled statements scope).length := by
  rw [length_scheduled]
  exact (List.getElem?_eq_some_iff.1 placed).1

theorem idxOf_order (placed : (order statements scope)[place]? = some index) :
    (order statements scope).idxOf index = place := by
  obtain ⟨inside, rfl⟩ := List.getElem?_eq_some_iff.1 placed
  exact order_exact.distinct.idxOf_getElem place inside

theorem isFirst_scheduled (inside : place < (scheduled statements scope).length) :
    IsFirst (scheduled statements scope) place :=
  isFirst_of_distinct nodup_targets_schedule (List.getElem?_eq_getElem inside)

/-- Scheduled statements require each other at their places as they do where they are written. -/
theorem requires_scheduled_iff (placed : (order statements scope)[place]? = some index)
    (placed' : (order statements scope)[place']? = some index') :
    Requires (scheduled statements scope) scope place place' ↔ Requires statements scope index index' := by
  have first : IsFirst statements index' := (mem_order.1 (List.mem_of_getElem? placed')).1
  have first' : IsFirst (scheduled statements scope) place' := isFirst_scheduled (lt_length_scheduled placed')
  simp only [Requires, getElem?_scheduled placed, getElem?_scheduled placed', first, first']

/-- What a scheduled statement requires is in the block, and has its place there. -/
theorem mem_requirements_scheduled (placed : (order statements scope)[place]? = some index) :
    place' ∈ requirements (scheduled statements scope) scope place ↔
      ∃ required ∈ requirements statements scope index, (order statements scope).idxOf required = place' := by
  constructor
  · intro requirement
    have inside := (mem_accepted.1 (accepted_of_requirement place place' requirement)).lt_length
    obtain ⟨required, placed'⟩ := exists_written inside
    have original := (requires_scheduled_iff placed placed').1 (mem_requirements.1 requirement)
    exact ⟨required, mem_requirements.2 original, idxOf_order placed'⟩
  · rintro ⟨required, requirement, rfl⟩
    have inside := (order_exact.settled.earlier (List.mem_of_getElem? placed) requirement).1
    have placed' : (order statements scope)[(order statements scope).idxOf required]? = some required := by
      rw [List.getElem?_eq_getElem (List.idxOf_lt_length_of_mem inside), List.getElem_idxOf]
    exact mem_requirements.2 ((requires_scheduled_iff placed placed').2 (mem_requirements.1 requirement))

/-- Requirements have earlier places. -/
theorem lt_of_requirement_scheduled (inside : place < (scheduled statements scope).length)
    (requirement : place' ∈ requirements (scheduled statements scope) scope place) : place' < place := by
  obtain ⟨index, placed⟩ := exists_written inside
  obtain ⟨required, original, rfl⟩ := (mem_requirements_scheduled placed).1 requirement
  have earlier := (order_exact.settled.earlier (List.mem_of_getElem? placed) original).2
  rwa [idxOf_order placed] at earlier

/-! ### The order as it stands -/

/-- The order in which statements stand. -/
abbrev standing (statements : List Statement) : List Nat := List.range statements.length

theorem standing_settled :
    Settled (requirements (scheduled statements scope) scope) (standing (scheduled statements scope)) :=
  Dependency.settled_range fun _ inside _ requirement => lt_of_requirement_scheduled inside requirement

theorem idxOf_standing (inside : place < statements.length) : (standing statements).idxOf place = place := by
  have found := List.nodup_range.idxOf_getElem place (inside.trans_eq List.length_range.symm)
  rwa [List.getElem_range] at found

/-- The last place of what a statement requires is the same as before. -/
theorem lastPlace_standing (placed : (order statements scope)[place]? = some index) :
    lastPlace (requirements (scheduled statements scope) scope) (standing (scheduled statements scope)) place =
      lastPlace (requirements statements scope) (order statements scope) index := by
  have inside := lt_length_scheduled placed
  have itself : ∀ place' ∈ requirements (scheduled statements scope) scope place,
      (standing (scheduled statements scope)).idxOf place' = place' := fun place' requirement =>
    idxOf_standing ((lt_of_requirement_scheduled inside requirement).trans inside)
  refine eq_of_forall_gt_iff fun bound => ?_
  rw [Dependency.lastPlace_lt_iff, Dependency.lastPlace_lt_iff]
  refine and_congr_right fun _ => ⟨fun below required requirement => ?_, fun below place' requirement => ?_⟩
  · have moved := (mem_requirements_scheduled placed).2 ⟨required, requirement, rfl⟩
    have bounded := below _ moved
    rwa [itself _ moved] at bounded
  · obtain ⟨required, original, rfl⟩ := (mem_requirements_scheduled placed).1 requirement
    rw [itself _ requirement]
    exact below required original

theorem standing_firstCome :
    FirstCome (requirements (scheduled statements scope) scope) (standing (scheduled statements scope)) where
  distinct := List.nodup_range
  settled := standing_settled
  ascending := by
    refine List.pairwise_lt_range.imp_of_mem fun {place place'} member member' before => ?_
    obtain ⟨index, placed⟩ := exists_written (List.mem_range.1 member)
    obtain ⟨index', placed'⟩ := exists_written (List.mem_range.1 member')
    have precedes : (order statements scope).idxOf index < (order statements scope).idxOf index' := by
      rwa [idxOf_order placed, idxOf_order placed']
    have less := (order_firstCome.precedes_iff (List.mem_of_getElem? placed) (List.mem_of_getElem? placed')).1 precedes
    rcases (Dependency.lastPlace_le_of_key_lt less).lt_or_eq with earlier | same
    · refine Dependency.key_lt_of_lastPlace_lt ?_
      rwa [lastPlace_standing placed, lastPlace_standing placed']
    · refine Dependency.key_lt_of_lastPlace_eq ?_ before
      rw [lastPlace_standing placed, lastPlace_standing placed', same]

theorem scheduled_acyclic (inside : place < (scheduled statements scope).length) :
    ¬ReachesCycle (Requires (scheduled statements scope) scope) place := by
  rw [← requires_requirements]
  exact standing_settled.not_reachesCycle (List.mem_range.2 inside)

/-! ### The second run -/

theorem order_scheduled : order (scheduled statements scope) scope = standing (scheduled statements scope) := by
  refine order_firstCome.eq_of_perm standing_firstCome ?_
  refine (List.perm_ext_iff_of_nodup order_exact.distinct List.nodup_range).2 fun place => ?_
  rw [mem_order, List.mem_range]
  exact ⟨fun listed => listed.1.lt_length, fun inside => ⟨isFirst_scheduled inside, scheduled_acyclic inside⟩⟩

theorem stuck_scheduled : stuck (scheduled statements scope) scope = [] := by
  refine List.eq_nil_iff_forall_not_mem.2 fun place member => ?_
  obtain ⟨first, reaches⟩ := mem_stuck.1 member
  exact scheduled_acyclic first.lt_length reaches

theorem duplicates_scheduled :
    (standing (scheduled statements scope)).filterMap (duplicateAt? (scheduled statements scope)) = [] :=
  List.filterMap_eq_nil_iff.2 fun _ member => duplicateAt?_of_isFirst (isFirst_scheduled (List.mem_range.1 member))

theorem filterMap_range_getElem? (statements : List Statement) (count : Nat) :
    (List.range count).filterMap (statements[·]?) = statements.take count := by
  induction count with
  | zero => rfl
  | succ count ih =>
    rw [List.range_succ, List.filterMap_append, ih, List.take_add_one]
    cases found : statements[count]? <;> simp [found]

/-- The statements of a block, scheduled again, are the same block, and nothing is reported. -/
theorem schedule_idempotent (statements : List Statement) (scope : ScopeId) :
    schedule (schedule statements scope).1.statements scope = ((schedule statements scope).1, []) := by
  have again : schedule (scheduled statements scope) scope = (⟨scope, scheduled statements scope⟩, []) := by
    rw [schedule_eq, order_scheduled, stuck_scheduled, duplicates_scheduled, filterMap_range_getElem?,
      List.take_length]
    rfl
  have block : (schedule statements scope).1 = ⟨scope, scheduled statements scope⟩ := by
    rw [scheduled, schedule_eq]
  rw [block]
  exact again

end Schedule

end Circuitry
