import Circuitry.Block.Schedule
import Circuitry.Proofs.Block.Order

/-!
# What is scheduled

Of several statements with one target the first is accepted. An accepted statement requires the accepted ones
that bind what it refers to. The block has exactly the accepted statements from which no cycle of requirements
can be reached, each once and after all that it requires. All others are accounted for: each duplicate has a
report of its own, and one more report names the statements that are stuck.
-/

set_option autoImplicit false

namespace Circuitry.Schedule

open Dependency (ReachesCycle)

variable {statements : List Statement} {scope : ScopeId}

/-! ### Accepted statements -/

/-- The statement at a position is the first assignment of its symbol, or the first result. -/
def IsFirst (statements : List Statement) (index : Nat) : Prop :=
  ∃ statement, statements[index]? = some statement ∧
    ∀ earlier < index, ∀ other, statements[earlier]? = some other → other.target? ≠ statement.target?

theorem first?_eq_some {target : Option Symbol} {index : Nat} :
    first? statements target = some index ↔
      IsFirst statements index ∧ ∃ statement, statements[index]? = some statement ∧
        statement.target? = target := by
  unfold first?
  rw [List.findIdx?_eq_some_iff_getElem]
  constructor
  · rintro ⟨inside, found, earlier⟩
    have target : statements[index].target? = target := of_decide_eq_true found
    refine ⟨⟨statements[index], List.getElem?_eq_getElem inside, fun position before other at' same => ?_⟩,
      statements[index], List.getElem?_eq_getElem inside, target⟩
    obtain ⟨_, rfl⟩ := List.getElem?_eq_some_iff.1 at'
    exact earlier position before (decide_eq_true (same.trans target))
  · rintro ⟨⟨statement, at', earlier⟩, statement', at'', rfl⟩
    cases at'.symm.trans at''
    obtain ⟨inside, rfl⟩ := List.getElem?_eq_some_iff.1 at'
    refine ⟨inside, decide_eq_true rfl, fun position before same => ?_⟩
    exact earlier position before _ (List.getElem?_eq_getElem (before.trans inside)) (of_decide_eq_true same)

theorem IsFirst.lt_length {index : Nat} (first : IsFirst statements index) : index < statements.length := by
  obtain ⟨_, found, -⟩ := first
  exact (List.getElem?_eq_some_iff.1 found).1

theorem mem_accepted {index : Nat} : index ∈ accepted statements ↔ IsFirst statements index := by
  unfold accepted isAccepted
  rw [List.mem_filter, List.mem_range]
  constructor
  · rintro ⟨inside, accepts⟩
    rw [List.getElem?_eq_getElem inside] at accepts
    exact (first?_eq_some.1 (of_decide_eq_true accepts)).1
  · intro first
    obtain ⟨statement, found, -⟩ := id first
    refine ⟨first.lt_length, ?_⟩
    rw [found]
    exact decide_eq_true (first?_eq_some.2 ⟨first, statement, found, rfl⟩)

theorem nodup_accepted : (accepted statements).Nodup := List.nodup_range.filter _

/-! ### Requirements -/

/-- The statement at one position refers to a symbol of the scope that the one at the other position, which is
accepted, binds. -/
def Requires (statements : List Statement) (scope : ScopeId) (index required : Nat) : Prop :=
  ∃ statement symbol other, statements[index]? = some statement ∧ symbol ∈ statement.expr.symbols ∧
    scope.owns symbol = true ∧ IsFirst statements required ∧ statements[required]? = some other ∧
    other.target? = some symbol

theorem nodup_eraseDups {α : Type} [DecidableEq α] : ∀ items : List α, items.eraseDups.Nodup
  | [] => List.nodup_nil
  | item :: rest => by
    rw [List.eraseDups_cons]
    have others := nodup_eraseDups (rest.filter fun other => !other == item)
    exact List.nodup_cons.2 ⟨by simp [List.mem_eraseDups], others⟩
termination_by items => items.length
decreasing_by
  have shorter := List.length_filter_le (fun other => !other == item) rest
  simp only [List.length_cons]
  omega

theorem mem_requirements {index required : Nat} :
    required ∈ requirements statements scope index ↔ Requires statements scope index required := by
  unfold requirements Requires
  cases found : statements[index]? with
  | none => simp
  | some statement =>
    simp only [List.mem_filterMap, Statement.required, List.mem_eraseDups, List.mem_filter, first?_eq_some]
    constructor
    · rintro ⟨symbol, ⟨member, owned⟩, first, other, at', binds⟩
      exact ⟨statement, symbol, other, rfl, member, owned, first, at', binds⟩
    · rintro ⟨_, symbol, other, same, member, owned, first, at', binds⟩
      cases same
      exact ⟨symbol, ⟨member, owned⟩, first, other, at', binds⟩

/-- Each requirement is listed once: different symbols are bound at different positions. -/
theorem nodup_requirements (index : Nat) : (requirements statements scope index).Nodup := by
  unfold requirements
  split
  · refine (nodup_eraseDups _).filterMap fun symbol other required found found' => ?_
    obtain ⟨-, statement, at', binds⟩ := first?_eq_some.1 found
    obtain ⟨-, statement', at'', binds'⟩ := first?_eq_some.1 found'
    cases at'.symm.trans at''
    exact Option.some_inj.1 (binds.symm.trans binds')
  · exact List.nodup_nil

theorem accepted_of_requirement (index : Nat) :
    ∀ required ∈ requirements statements scope index, required ∈ accepted statements := by
  intro required requirement
  obtain ⟨_, _, _, -, -, -, first, -⟩ := mem_requirements.1 requirement
  exact mem_accepted.2 first

/-- The two ways to say which statements require each other agree. -/
theorem requires_requirements :
    Dependency.Requires (requirements statements scope) = Requires statements scope :=
  funext fun _ => funext fun _ => propext mem_requirements

/-! ### The positions of a block -/

/-- The positions of the statements that are scheduled, in order. -/
def order (statements : List Statement) (scope : ScopeId) : List Nat :=
  Dependency.order (requirements statements scope) (accepted statements)

/-- The positions of the accepted statements that cannot be ordered. -/
def stuck (statements : List Statement) (scope : ScopeId) : List Nat :=
  Dependency.stuck (requirements statements scope) (accepted statements)

theorem order_exact : Dependency.Exact (requirements statements scope) (accepted statements)
    (order statements scope) :=
  Dependency.order_exact nodup_accepted nodup_requirements

theorem mem_order {index : Nat} :
    index ∈ order statements scope ↔
      IsFirst statements index ∧ ¬ReachesCycle (Requires statements scope) index := by
  rw [order_exact.mem_iff fun index _ => accepted_of_requirement index, mem_accepted, requires_requirements]

theorem mem_stuck {index : Nat} :
    index ∈ stuck statements scope ↔
      IsFirst statements index ∧ ReachesCycle (Requires statements scope) index := by
  have split : index ∈ stuck statements scope ↔ index ∈ accepted statements ∧ index ∉ order statements scope :=
    Dependency.mem_stuck nodup_accepted nodup_requirements
  rw [split, mem_accepted, mem_order]
  tauto

/-- What is scheduled, in terms of positions. -/
theorem schedule_eq :
    schedule statements scope =
      (⟨scope, (order statements scope).filterMap (statements[·]?)⟩,
        (List.range statements.length).filterMap (duplicateAt? statements) ++
          if (stuck statements scope).isEmpty then []
          else [cycleReport statements
            (Dependency.cycle (requirements statements scope) (stuck statements scope))
            (stuck statements scope)]) := by
  have table : (fun index => (requirementTable statements scope)[index]?.getD []) =
      requirements statements scope := funext (getD_requirementTable statements scope)
  simp only [schedule, table]
  rfl

/-! ### Reports -/

/-- A report that the statement at a position repeats what the first with its target does, and where that is. -/
def IsRepeatReport (statements : List Statement) (index : Nat) (diagnostic : Diagnostic) : Prop :=
  ∃ statement first other, statements[index]? = some statement ∧ IsFirst statements first ∧ first ≠ index ∧
    statements[first]? = some other ∧ other.target? = statement.target? ∧
    diagnostic.span = some statement.span ∧ diagnostic.labels.map Label.span = [other.span] ∧
    diagnostic.kind = if statement.target?.isSome then .duplicateDefinition else .duplicateExport

/-- A report of a cycle that names the statements at given positions. -/
def IsCycleReport (statements : List Statement) (stuck : List Nat) (diagnostic : Diagnostic) : Prop :=
  diagnostic.kind = .cyclicDependency ∧
    diagnostic.notes = ["not evaluated: " ++ ", ".intercalate (stuck.map (nameAt statements))]

theorem exists_first {index : Nat} {statement : Statement} (found : statements[index]? = some statement) :
    ∃ first, first? statements statement.target? = some first := by
  refine Option.isSome_iff_exists.1 (List.findIdx?_isSome.trans ?_)
  exact List.any_eq_true.2 ⟨statement, List.mem_of_getElem? found, decide_eq_true rfl⟩

/-- A statement that is accepted has no report. -/
theorem duplicateAt?_of_isFirst {index : Nat} (first : IsFirst statements index) :
    duplicateAt? statements index = none := by
  obtain ⟨statement, found, -⟩ := id first
  have itself : first? statements statement.target? = some index :=
    first?_eq_some.2 ⟨first, statement, found, rfl⟩
  simp [duplicateAt?, found, itself]

/-- Any other statement has one. -/
theorem duplicateAt?_of_not_isFirst {index : Nat} (inside : index < statements.length)
    (later : ¬IsFirst statements index) :
    ∃ diagnostic, duplicateAt? statements index = some diagnostic ∧
      IsRepeatReport statements index diagnostic := by
  obtain ⟨statement, found⟩ : ∃ statement, statements[index]? = some statement :=
    ⟨_, List.getElem?_eq_getElem inside⟩
  obtain ⟨earlier, foundFirst⟩ := exists_first found
  obtain ⟨first, other, at', same⟩ := first?_eq_some.1 foundFirst
  have apart : earlier ≠ index := by
    rintro rfl
    exact later first
  have place : spanAt statements earlier = other.span := by simp [spanAt, at']
  cases target : statement.target? with
  | some symbol =>
    rw [target] at foundFirst same
    refine ⟨_, by simp [duplicateAt?, found, foundFirst, target, apart]; rfl, statement, earlier, other, found,
      first, apart, at', same.trans target.symm, rfl, by simp [Diagnostic.withLabel, Diagnostic.error, place],
      by simp [target]; rfl⟩
  | none =>
    rw [target] at foundFirst same
    refine ⟨_, by simp [duplicateAt?, found, foundFirst, target, apart]; rfl, statement, earlier, other, found,
      first, apart, at', same.trans target.symm, rfl, by simp [Diagnostic.withLabel, Diagnostic.error, place],
      by simp [target]; rfl⟩

/-- The positions of the statements that are not accepted. -/
def rejected (statements : List Statement) : List Nat :=
  (List.range statements.length).filter fun index => !isAccepted statements index

theorem mem_rejected {index : Nat} :
    index ∈ rejected statements ↔ index < statements.length ∧ ¬IsFirst statements index := by
  have accepts : index < statements.length →
      (isAccepted statements index = true ↔ IsFirst statements index) := by
    intro inside
    rw [← mem_accepted, accepted, List.mem_filter, List.mem_range, and_iff_right inside]
  rw [rejected, List.mem_filter, List.mem_range, Bool.not_eq_true', ← Bool.not_eq_true]
  exact and_congr_right fun inside => not_congr (accepts inside)

/-- Each statement that is not accepted has one report, in order. -/
theorem repeat_reports :
    List.Forall₂ (IsRepeatReport statements) (rejected statements)
      ((List.range statements.length).filterMap (duplicateAt? statements)) := by
  have inside : ∀ index ∈ List.range statements.length, index < statements.length :=
    fun _ => List.mem_range.1
  unfold rejected
  generalize List.range statements.length = positions at inside ⊢
  induction positions with
  | nil => exact .nil
  | cons index rest ih =>
    have others := ih fun index member => inside index (List.mem_cons_of_mem _ member)
    by_cases first : IsFirst statements index
    · have accepts : isAccepted statements index = true := (List.mem_filter.1 (mem_accepted.2 first)).2
      rw [List.filter_cons_of_neg (by simp [accepts]),
        List.filterMap_cons_none (duplicateAt?_of_isFirst first)]
      exact others
    · have rejects : (!isAccepted statements index) = true :=
        (List.mem_filter.1 (mem_rejected.2 ⟨inside index (by simp), first⟩)).2
      obtain ⟨diagnostic, reports, describes⟩ := duplicateAt?_of_not_isFirst (inside index (by simp)) first
      rw [List.filter_cons_of_pos (by exact rejects), List.filterMap_cons_some reports]
      exact .cons describes others

/-! ### The whole account -/

/-- What a block and its reports have to be, given the positions of the statements that are scheduled, are
rejected, and are stuck. -/
structure Account (statements : List Statement) (scope : ScopeId) (block : Block)
    (diagnostics : List Diagnostic) (order rejected stuck : List Nat) : Prop where
  owner : block.scope = scope
  /-- The block has the statements at the scheduled positions, and nothing else. -/
  exactly : block.statements.map some = order.map (statements[·]?)
  scheduled : ∀ index, index ∈ order ↔
    IsFirst statements index ∧ ¬ReachesCycle (Requires statements scope) index
  /-- Every statement comes after all that it requires. -/
  settled : ∀ before index after, order = before ++ index :: after →
    ∀ required, Requires statements scope index required → required ∈ before
  repeated : ∀ index, index ∈ rejected ↔ index < statements.length ∧ ¬IsFirst statements index
  circular : ∀ index, index ∈ stuck ↔
    IsFirst statements index ∧ ReachesCycle (Requires statements scope) index
  /-- Every position occurs once among all of them. -/
  accounted : (order ++ (rejected ++ stuck)).Perm (List.range statements.length)
  /-- Each rejected statement has a report, and one more names those that are stuck, if there are any. -/
  reports : ∃ repeats cycles, diagnostics = repeats ++ cycles ∧
    List.Forall₂ (IsRepeatReport statements) rejected repeats ∧
    (stuck = [] ∧ cycles = [] ∨ stuck ≠ [] ∧ ∃ diagnostic, cycles = [diagnostic] ∧
      IsCycleReport statements stuck diagnostic)

theorem statements_of_order :
    ((order statements scope).filterMap (statements[·]?)).map some =
      (order statements scope).map (statements[·]?) := by
  have inside : ∀ index ∈ order statements scope, ∃ statement, statements[index]? = some statement :=
    fun index member => (mem_order.1 member).1.imp fun _ found => found.1
  generalize order statements scope = positions at inside ⊢
  induction positions with
  | nil => rfl
  | cons index rest ih =>
    obtain ⟨statement, found⟩ := inside index (by simp)
    have others := ih fun index member => inside index (List.mem_cons_of_mem _ member)
    rw [List.filterMap_cons_some found, List.map_cons, List.map_cons, found, others]

/-- Every position is accounted for once. -/
theorem positions_accounted :
    (order statements scope ++ (rejected statements ++ stuck statements scope)).Perm
      (List.range statements.length) := by
  have distinctStuck : (stuck statements scope).Nodup := nodup_accepted.filter _
  have distinctRejected : (rejected statements).Nodup := List.nodup_range.filter _
  have others : (rejected statements ++ stuck statements scope).Nodup :=
    List.nodup_append.2 ⟨distinctRejected, distinctStuck, fun index member other member' same =>
      (mem_rejected.1 member).2 (same ▸ (mem_stuck.1 member').1)⟩
  have distinct : (order statements scope ++ (rejected statements ++ stuck statements scope)).Nodup := by
    refine List.nodup_append.2 ⟨order_exact.distinct, others, fun index member other member' same => ?_⟩
    obtain ⟨first, acyclic⟩ := mem_order.1 member
    rcases List.mem_append.1 member' with rejects | stays
    · exact (mem_rejected.1 rejects).2 (same ▸ first)
    · exact acyclic (same ▸ (mem_stuck.1 stays).2)
  refine (List.perm_ext_iff_of_nodup distinct List.nodup_range).2 fun index => ?_
  rw [List.mem_append, List.mem_append, mem_order, mem_rejected, mem_stuck, List.mem_range]
  have inside : IsFirst statements index → index < statements.length := IsFirst.lt_length
  tauto

/-- Scheduling is exact: the block has just the accepted statements from which no cycle of requirements can be
reached, in an order that respects the requirements, and the reports account for all others. -/
theorem schedule_exact (statements : List Statement) (scope : ScopeId) :
    ∃ order rejected stuck, Account statements scope (schedule statements scope).1
      (schedule statements scope).2 order rejected stuck := by
  refine ⟨order statements scope, rejected statements, stuck statements scope, ?_⟩
  rw [schedule_eq]
  refine ⟨rfl, statements_of_order, fun _ => mem_order, fun before index after split required requirement => ?_,
    fun _ => mem_rejected, fun _ => mem_stuck, positions_accounted, _, _, rfl, repeat_reports, ?_⟩
  · exact order_exact.settled before index after split required (mem_requirements.2 requirement)
  · by_cases none : stuck statements scope = []
    · exact .inl ⟨none, by simp [none]⟩
    · exact .inr ⟨none, _, by simp [none]; rfl, rfl, rfl⟩

end Circuitry.Schedule
