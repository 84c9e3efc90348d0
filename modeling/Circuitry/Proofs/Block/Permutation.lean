import Circuitry.Proofs.Block.Outcome
import Circuitry.Proofs.Block.Schedule
import Circuitry.Proofs.Host.Contract

/-!
# The order of declaration does not matter

If no two statements have the same target, then all are accepted, and which of them are scheduled depends on
which need each other, not on where they stand. Written in another order they give a block of the same
statements, which comes to the same value and binds the same values.
-/

set_option autoImplicit false

namespace Circuitry

open Dependency (ReachesCycle)
open Schedule (IsFirst Requires)

/-! ### Relations that match step by step -/

section Transfer

variable {α β : Type} {related : α → α → Prop} {related' : β → β → Prop} (pairs : α → β → Prop)
variable (step : ∀ item item' next, pairs item item' → related item next →
  ∃ next', pairs next next' ∧ related' item' next')

include step

theorem Dependency.path_transfer {item last : α} {item' : β} (pair : pairs item item')
    (path : Relation.ReflTransGen related item last) :
    ∃ last', pairs last last' ∧ Relation.ReflTransGen related' item' last' := by
  induction path with
  | refl => exact ⟨item', pair, .refl⟩
  | tail _ last ih =>
    obtain ⟨middle', pairMiddle, path'⟩ := ih
    obtain ⟨next', pairNext, last'⟩ := step _ _ _ pairMiddle last
    exact ⟨next', pairNext, path'.tail last'⟩

/-- The second relation reaches a cycle if the first does. -/
theorem Dependency.ReachesCycle.transfer
    (unique : ∀ item item' other', pairs item item' → pairs item other' → item' = other') {item : α} {item' : β}
    (pair : pairs item item') (reaches : ReachesCycle related item) : ReachesCycle related' item' := by
  obtain ⟨other, path, cycle⟩ := reaches
  obtain ⟨other', pairOther, path'⟩ := path_transfer pairs step pair path
  obtain ⟨next, first, rest⟩ := Relation.TransGen.head'_iff.1 cycle
  obtain ⟨next', pairNext, first'⟩ := step _ _ _ pairOther first
  obtain ⟨last', pairLast, rest'⟩ := path_transfer pairs step pairNext rest
  obtain rfl := unique _ _ _ pairLast pairOther
  exact ⟨last', path', .head' first' rest'⟩

end Transfer

namespace Schedule

variable {statements : List Statement} {scope : ScopeId}

/-! ### Scheduled blocks -/

/-- No two scheduled statements have the same target. -/
theorem nodup_targets_schedule : ((schedule statements scope).1.statements.map Statement.target?).Nodup := by
  rw [schedule_eq, List.map_filterMap, List.Nodup, List.pairwise_filterMap]
  refine order_exact.distinct.imp_of_mem fun member member' apart target found other found' same => apart ?_
  obtain ⟨statement, at', targeted⟩ := Option.map_eq_some_iff.1 found
  obtain ⟨statement', at'', targeted'⟩ := Option.map_eq_some_iff.1 found'
  -- of the statements with one target only the first is scheduled
  have first := first?_eq_some.2 ⟨(mem_order.1 member).1, statement, at', targeted⟩
  have first' := first?_eq_some.2 ⟨(mem_order.1 member').1, statement', at'', targeted'⟩
  rw [same] at first
  exact Option.some_inj.1 (first.symm.trans first')

/-- Scheduled statements come after those that bind what they refer to. -/
theorem schedule_inOrder
    (owned : ∀ statement ∈ (schedule statements scope).1.statements, ∀ symbol,
      statement.target? = some symbol → scope.owns symbol = true) :
    Statement.InOrder (schedule statements scope).1.statements := by
  intro before statement after split other member symbol refers target
  have ownedTarget := owned other member symbol target
  rw [schedule_eq] at split member
  obtain ⟨earlier, later, positions, rfl, rest⟩ := List.filterMap_eq_append_iff.1 split
  obtain ⟨skipped, index, _, rfl, nothing, found, -⟩ := List.filterMap_eq_cons_iff.1 rest
  obtain ⟨required, scheduled, at'⟩ := List.mem_filterMap.1 member
  have requirement : Requires statements scope index required :=
    ⟨statement, symbol, other, found, refers, ownedTarget, (mem_order.1 scheduled).1, at', target⟩
  rw [← List.append_assoc] at positions
  have before := order_exact.settled _ index _ positions required (mem_requirements.2 requirement)
  rcases List.mem_append.1 before with listed | listed
  · exact List.mem_filterMap.2 ⟨required, listed, at'⟩
  · exact absurd at' (by simp [nothing required listed])

/-! ### Statements with different targets -/

/-- A statement refers to a symbol of the scope that another one binds. -/
def Needs (statements : List Statement) (scope : ScopeId) (statement other : Statement) : Prop :=
  other ∈ statements ∧ ∃ symbol ∈ statement.expr.symbols, scope.owns symbol = true ∧ other.target? = some symbol

variable (distinct : (statements.map Statement.target?).Nodup)

include distinct

theorem isFirst_of_distinct {index : Nat} {statement : Statement}
    (found : statements[index]? = some statement) : IsFirst statements index := by
  refine ⟨statement, found, fun earlier before other found' same => ?_⟩
  have target : (statements.map Statement.target?)[earlier]? = (statements.map Statement.target?)[index]? := by
    rw [List.getElem?_map, List.getElem?_map, found, found', Option.map_some, Option.map_some, same]
  have inside : earlier < (statements.map Statement.target?).length := by
    rw [List.length_map]
    exact (List.getElem?_eq_some_iff.1 found').1
  exact before.ne ((List.getElem?_inj inside distinct).1 target)

/-- Positions require each other as their statements need each other. -/
theorem requires_iff {index required : Nat} {statement : Statement}
    (found : statements[index]? = some statement) :
    Requires statements scope index required ↔
      ∃ other, statements[required]? = some other ∧ Needs statements scope statement other := by
  constructor
  · rintro ⟨_, symbol, other, found', member, owned, -, at', target⟩
    cases found.symm.trans found'
    exact ⟨other, at', List.mem_of_getElem? at', symbol, member, owned, target⟩
  · rintro ⟨other, at', -, symbol, member, owned, target⟩
    exact ⟨statement, symbol, other, found, member, owned, isFirst_of_distinct distinct at', at', target⟩

theorem reachesCycle_iff {index : Nat} {statement : Statement} (found : statements[index]? = some statement) :
    ReachesCycle (Requires statements scope) index ↔ ReachesCycle (Needs statements scope) statement := by
  have statementsDistinct : statements.Nodup := .of_map _ distinct
  constructor
  · refine .transfer (fun index statement => statements[index]? = some statement) ?_ ?_ found
    · intro index statement next found requirement
      exact (requires_iff distinct found).1 requirement
    · intro index statement other found found'
      exact Option.some_inj.1 (found.symm.trans found')
  · refine .transfer (fun statement index => statements[index]? = some statement) ?_ ?_ found
    · intro statement index next found needs
      obtain ⟨position, at'⟩ := List.getElem?_of_mem needs.1
      exact ⟨position, at', (requires_iff distinct found).2 ⟨next, at', needs⟩⟩
    · intro statement index other found found'
      have inside := (List.getElem?_eq_some_iff.1 found).1
      exact (List.getElem?_inj inside statementsDistinct).1 (found.trans found'.symm)

/-- A statement is scheduled if it reaches no cycle of needs. -/
theorem mem_schedule {statement : Statement} :
    statement ∈ (schedule statements scope).1.statements ↔
      statement ∈ statements ∧ ¬ReachesCycle (Needs statements scope) statement := by
  rw [schedule_eq, List.mem_filterMap]
  constructor
  · rintro ⟨index, member, found⟩
    rw [mem_order, reachesCycle_iff distinct found] at member
    exact ⟨List.mem_of_getElem? found, member.2⟩
  · rintro ⟨member, acyclic⟩
    obtain ⟨index, found⟩ := List.getElem?_of_mem member
    refine ⟨index, mem_order.2 ⟨isFirst_of_distinct distinct found, ?_⟩, found⟩
    rwa [reachesCycle_iff distinct found]

omit distinct

/-! ### Permutations -/

variable {others : List Statement}

theorem needs_perm (perm : statements.Perm others) : Needs others scope = Needs statements scope :=
  funext fun _ => funext fun _ => propext (and_congr_left fun _ => perm.mem_iff.symm)

/-- The same statements are scheduled. -/
theorem schedule_statements_perm (scope : ScopeId) (perm : statements.Perm others)
    (distinct : (statements.map Statement.target?).Nodup) :
    (schedule statements scope).1.statements.Perm (schedule others scope).1.statements := by
  have distinct' : (others.map Statement.target?).Nodup := (perm.map _).nodup_iff.1 distinct
  have nodup : (schedule statements scope).1.statements.Nodup := .of_map _ nodup_targets_schedule
  have nodup' : (schedule others scope).1.statements.Nodup := .of_map _ nodup_targets_schedule
  refine (List.perm_ext_iff_of_nodup nodup nodup').2 fun statement => ?_
  rw [mem_schedule distinct, mem_schedule distinct', needs_perm perm, perm.mem_iff]

/-- A summary depends on the values that are seen. -/
theorem summary_congr {scopes : ScopeForest} {context : ContextId} {contexts later : ContextForest}
    (same : ∀ symbol, later.value? context symbol = contexts.value? context symbol) :
    Block.summary scopes context scope later = Block.summary scopes context scope contexts := by
  simp only [Block.summary, ContextForest.allValues, same]

/-- Statements with different targets, all owned by the scope, may be declared in any order: the same are
scheduled and the same are left out, and the block comes to the same value, binds the same values to their
symbols, and reports the same, in another order. Permutations can be undone, so one run ends with a value just
if the other does. -/
theorem declaration_order_irrelevant (perm : statements.Perm others)
    (distinct : (statements.map Statement.target?).Nodup)
    (owned : ∀ statement ∈ statements, ∀ symbol, statement.target? = some symbol → scope.owns symbol = true)
    {around : Surroundings} (steady : Statement.Steady around) {context : ContextId} {contexts : ContextForest}
    (opens : Statement.Open contexts context statements) :
    (schedule statements scope).1.statements.Perm (schedule others scope).1.statements ∧
    (∀ statement, statement ∈ statements ∧ statement ∉ (schedule statements scope).1.statements ↔
      statement ∈ others ∧ statement ∉ (schedule others scope).1.statements) ∧
    ∀ last value diagnostics,
      (schedule statements scope).1.run around context contexts = (last, .ok (value, diagnostics)) →
      ∃ last' diagnostics',
        (schedule others scope).1.run around context contexts = (last', .ok (value, diagnostics')) ∧
        diagnostics'.Perm diagnostics ∧
        ∀ symbol, last'.direct? context symbol = last.direct? context symbol := by
  have distinct' : (others.map Statement.target?).Nodup := (perm.map _).nodup_iff.1 distinct
  have owned' : ∀ statement ∈ others, ∀ symbol, statement.target? = some symbol → scope.owns symbol = true :=
    fun statement member => owned statement (perm.mem_iff.2 member)
  have scheduled := schedule_statements_perm scope perm distinct
  refine ⟨scheduled, fun statement => ?_, fun last value diagnostics ran => ?_⟩
  · rw [perm.mem_iff, scheduled.mem_iff]
  · obtain ⟨result, ranAll, rfl⟩ := Block.run_eq_ok.1 ran
    have opensBlock : Statement.Open contexts context (schedule statements scope).1.statements :=
      ⟨opens.unsealed, fun statement member => opens.free statement ((mem_schedule distinct).1 member).1⟩
    have inOrder : Statement.InOrder (schedule statements scope).1.statements :=
      schedule_inOrder fun statement member => owned statement ((mem_schedule distinct).1 member).1
    have inOrder' : Statement.InOrder (schedule others scope).1.statements :=
      schedule_inOrder fun statement member => owned' statement ((mem_schedule distinct').1 member).1
    obtain ⟨last', diagnostics', ranAll', permuted, bindings, values⟩ :=
      Statement.runAll_perm steady scheduled nodup_targets_schedule inOrder inOrder' opensBlock ranAll
    refine ⟨last', diagnostics', Block.run_eq_ok.2 ⟨result, ranAll', ?_⟩, permuted, bindings context⟩
    rw [summary_congr (values context)]
    rfl

/-! ### A block of two statements -/

namespace Negation

def switch : Symbol := ⟨0, "switch", ⟨0⟩⟩

/-- Exports the negation of what is bound only by the second statement. -/
def written : List Statement :=
  [.result (.unary .not (.symbol switch (.atStart 0)) (.atStart 0)),
    .assign switch (.literal (.ofBool true) (.atStart 0))]

def surroundings : Surroundings := ⟨⟨.ofList [], 0⟩, fun _ => .affirming, .standard⟩

/-- One empty context. -/
def contexts : ContextForest := (⟨.ofList []⟩ : ContextForest).newRoot.2

theorem opens : Statement.Open contexts ⟨0⟩ written := ⟨rfl, fun _ _ _ _ => rfl⟩

theorem owned : ∀ statement ∈ written, ∀ symbol, statement.target? = some symbol →
    (⟨0⟩ : ScopeId).owns symbol = true := by
  intro statement member symbol target
  simp only [written, List.mem_cons, List.not_mem_nil, or_false] at member
  rcases member with rfl | rfl
  · cases target
  · cases target
    rfl

end Negation

theorem negation_order_irrelevant :
    ∃ last' diagnostics',
      (schedule Negation.written.reverse ⟨0⟩).1.run Negation.surroundings ⟨0⟩ Negation.contexts =
        (last', .ok (.ofBool false, diagnostics')) ∧
      diagnostics'.Perm [] ∧
      ∀ symbol, last'.direct? ⟨0⟩ symbol =
        (Negation.contexts.extend ⟨0⟩ [(Negation.switch, .ofBool true)]).direct? ⟨0⟩ symbol :=
  (declaration_order_irrelevant (List.reverse_perm _).symm (by decide) Negation.owned (fun _ _ => rfl)
    Negation.opens).2.2 _ _ _ rfl

end Schedule

end Circuitry
