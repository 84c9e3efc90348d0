import Circuitry.Proofs.Kernel.Matching
import Circuitry.Proofs.Scope.Nesting
import Circuitry.Scope.Basic

/-!
# Declarations over a whole run

A symbol is made by a declaration that succeeds, and by nothing else. So whatever scopes are made and names are
declared, in any order, starting from the sealed scope of the predeclared names: all symbols are different, each is
owned by the scope that declared it, a scope never changes what it declares under a name, and a name stands for the
declaration in the nearest scope.
-/

set_option autoImplicit false

namespace Circuitry

/-! ### One step -/

namespace ScopeForest

/-- The forest after a scope has declared a symbol. -/
def extend (forest : ScopeForest) (symbol : Symbol) : ScopeForest where
  nodes := forest.nodes.modify symbol.scope.index fun node => { node with symbols := node.symbols ++ [symbol] }
  symbolCount := forest.symbolCount + 1

variable {forest later : ScopeForest} {scope other parent : ScopeId} {name key : String} {symbol : Symbol}

/-- A name can be declared where the scope takes declarations and does not declare it yet. -/
theorem declare_eq_ok :
    forest.declare scope name = .ok (symbol, later) ↔
      forest.isSealed scope = false ∧ forest.declared? scope name = none ∧
        symbol = ⟨forest.symbolCount, name, scope⟩ ∧ later = forest.extend symbol := by
  unfold declare
  by_cases sealing : forest.isSealed scope = true
  · simp [sealing]
  · by_cases taken : (forest.declared? scope name).isSome = true
    · simp [sealing, taken, Option.ne_none_iff_isSome.2 taken]
    · have free : forest.declared? scope name = none := by simpa using taken
      simp only [sealing, Bool.false_eq_true, if_false, free, Option.isSome_none, Except.ok.injEq, Prod.mk.injEq,
        true_and]
      constructor
      · rintro ⟨rfl, rfl⟩
        exact ⟨rfl, rfl⟩
      · rintro ⟨rfl, rfl⟩
        exact ⟨rfl, rfl⟩

theorem declare_eq_sealed : forest.declare scope name = .error (.sealed name) ↔ forest.isSealed scope = true := by
  unfold declare
  by_cases sealing : forest.isSealed scope = true
  · simp [sealing]
  · by_cases taken : (forest.declared? scope name).isSome = true <;> simp [sealing, taken]

theorem declare_eq_alreadyDeclared :
    forest.declare scope name = .error (.alreadyDeclared name) ↔
      forest.isSealed scope = false ∧ (forest.declared? scope name).isSome = true := by
  unfold declare
  by_cases sealing : forest.isSealed scope = true
  · simp [sealing]
  · by_cases taken : (forest.declared? scope name).isSome = true <;> simp [sealing, taken]

theorem node?_extend :
    (forest.extend symbol).node? other =
      if other = symbol.scope then
        (forest.node? other).map fun node => { node with symbols := node.symbols ++ [symbol] }
      else forest.node? other := by
  unfold extend node?
  rw [Numbered.get?_modify]
  by_cases same : other = symbol.scope
  · simp [same]
  · have apart : other.index ≠ symbol.scope.index := fun index => same (by cases other; simp_all)
    simp [same, apart]

@[simp] theorem path_extend : (forest.extend symbol).path other = forest.path other := by
  unfold path
  rw [node?_extend]
  split <;> simp [Function.comp_def]

@[simp] theorem isSealed_extend : (forest.extend symbol).isSealed other = forest.isSealed other := by
  unfold isSealed
  rw [node?_extend]
  split <;> simp [Function.comp_def]

@[simp] theorem size_extend : (forest.extend symbol).nodes.size = forest.nodes.size := Numbered.size_modify ..

theorem symbols_extend_of_ne (apart : other ≠ symbol.scope) :
    (forest.extend symbol).symbols other = forest.symbols other := by
  unfold symbols
  rw [node?_extend, if_neg apart]

theorem symbols_extend_self (unsealed : forest.isSealed symbol.scope = false) :
    (forest.extend symbol).symbols symbol.scope = forest.symbols symbol.scope ++ [symbol] := by
  unfold symbols
  rw [node?_extend, if_pos rfl]
  cases found : forest.node? symbol.scope with
  | none => simp [isSealed, found] at unsealed
  | some node => simp

theorem declared?_extend_self (unsealed : forest.isSealed symbol.scope = false)
    (free : forest.declared? symbol.scope symbol.name = none) :
    (forest.extend symbol).declared? symbol.scope symbol.name = some symbol := by
  unfold declared? at free ⊢
  rw [symbols_extend_self unsealed, List.find?_append, free]
  simp

/-- A declaration changes nothing under other names and in other scopes. -/
theorem declared?_extend_of_ne (unsealed : forest.isSealed symbol.scope = false)
    (apart : (other, key) ≠ (symbol.scope, symbol.name)) :
    (forest.extend symbol).declared? other key = forest.declared? other key := by
  unfold declared?
  by_cases same : other = symbol.scope
  · subst same
    have differs : symbol.name ≠ key := fun same => apart (by rw [same])
    simp [symbols_extend_self unsealed, List.find?_append, differs]
  · rw [symbols_extend_of_ne same]

/-- A declaration is listed in its own scope only. -/
theorem symbols_declare (declared : forest.declare scope name = .ok (symbol, later)) (apart : other ≠ scope) :
    later.symbols other = forest.symbols other := by
  obtain ⟨-, -, rfl, rfl⟩ := declare_eq_ok.1 declared
  exact symbols_extend_of_ne apart

theorem node?_newChild :
    (forest.newChild parent).2.node? other =
      if other = (forest.newChild parent).1 then
        some ⟨(forest.newChild parent).1 :: forest.path parent, false, []⟩
      else forest.node? other := by
  simp only [node?, newChild, Numbered.get?_push]
  by_cases same : other = ⟨forest.nodes.size⟩
  · simp [same]
  · have apart : other.index ≠ forest.nodes.size := fun index => same (by cases other; simp_all)
    simp [same, apart]

theorem path_newChild_self :
    (forest.newChild parent).2.path (forest.newChild parent).1 = (forest.newChild parent).1 :: forest.path parent := by
  simp [path, node?_newChild]

theorem path_newChild_of_ne (apart : other ≠ (forest.newChild parent).1) :
    (forest.newChild parent).2.path other = forest.path other := by
  simp [path, node?_newChild, apart]

theorem isSealed_newChild_self : (forest.newChild parent).2.isSealed (forest.newChild parent).1 = false := by
  simp [isSealed, node?_newChild]

theorem isSealed_newChild_of_ne (apart : other ≠ (forest.newChild parent).1) :
    (forest.newChild parent).2.isSealed other = forest.isSealed other := by
  simp [isSealed, node?_newChild, apart]

/-- A new scope declares nothing. -/
@[simp] theorem symbols_newChild (forest : ScopeForest) (parent scope : ScopeId) :
    (forest.newChild parent).2.symbols scope = forest.symbols scope := by
  unfold symbols
  rw [node?_newChild]
  split
  · rename_i same
    have missing : forest.node? scope = none := by
      rw [same]
      exact Numbered.get?_eq_none _ (Nat.le_refl _)
    rw [missing]
    rfl
  · rfl

@[simp] theorem declared?_newChild : (forest.newChild parent).2.declared? other key = forest.declared? other key := by
  simp [declared?]

theorem isSome_node? : (forest.node? scope).isSome = true ↔ scope.index < forest.nodes.size :=
  Numbered.isSome_get?_iff ..

/-- Only a scope that is there takes declarations. -/
theorem lt_size_of_unsealed (unsealed : forest.isSealed scope = false) : scope.index < forest.nodes.size := by
  rw [← isSome_node?]
  cases found : forest.node? scope with
  | none => simp [isSealed, found] at unsealed
  | some node => rfl

section SealedRoot

variable {names : List String}

theorem node?_sealedRoot :
    (sealedRoot names).2.node? scope = if scope = ⟨0⟩ then some ⟨[⟨0⟩], true, (sealedRoot names).1⟩ else none := by
  obtain ⟨index⟩ := scope
  cases index <;> simp [sealedRoot, node?, Numbered.ofList, Numbered.get?]

theorem map_name_sealedRoot : (sealedRoot names).1.map Symbol.name = names := by
  simp [sealedRoot, Function.comp_def]

theorem map_id_sealedRoot : (sealedRoot names).1.map Symbol.id = List.range names.length := by
  simp [sealedRoot, Function.comp_def, List.range_eq_range']

theorem scope_of_mem_sealedRoot (member : symbol ∈ (sealedRoot names).1) : symbol.scope = ⟨0⟩ := by
  obtain ⟨_, _, rfl⟩ := List.mem_map.1 member
  rfl

theorem id_lt_of_mem_sealedRoot (member : symbol ∈ (sealedRoot names).1) : symbol.id < names.length := by
  have listed := List.mem_map_of_mem (f := Symbol.id) member
  rwa [map_id_sealedRoot, List.mem_range] at listed

end SealedRoot

end ScopeForest

/-! ### A whole run -/

open Nesting (Event LeadsTo Made Told)

/-- What can be done with scopes. A declaration that fails is one operation, whether the failure is reported or ends
the program. -/
inductive ScopeOperation where
  | newChild (parent : ScopeId)
  | declare (scope : ScopeId) (name : String)

/-- Scopes, and all that has happened to them. -/
structure ScopeHistory where
  forest : ScopeForest
  events : List (Event ScopeId String Symbol)

namespace ScopeHistory

/-- The sealed scope of the predeclared names. -/
def start (names : List String) : ScopeHistory where
  forest := (ScopeForest.sealedRoot names).2
  events := .made ⟨0⟩ none :: (ScopeForest.sealedRoot names).1.map fun symbol => .entered ⟨0⟩ symbol.name symbol

/-- An operation on a scope that is there, and nothing otherwise. -/
def next (history : ScopeHistory) : ScopeOperation → ScopeHistory
  | .newChild parent =>
    if (history.forest.node? parent).isSome then
      let (child, forest) := history.forest.newChild parent
      ⟨forest, history.events ++ [.made child (some parent)]⟩
    else history
  | .declare scope name =>
    match history.forest.declare scope name with
    | .ok (symbol, forest) => ⟨forest, history.events ++ [.entered scope name symbol]⟩
    | .error _ => history

/-- What operations lead to, from given predeclared names. -/
def after (names : List String) (operations : List ScopeOperation) : ScopeHistory :=
  operations.foldl next (start names)

variable {history : ScopeHistory} {scope parent : ScopeId} {name : String} {symbol : Symbol} {later : ScopeForest}

/-- The forest is what the events tell, and its count of symbols is above all that were made. -/
structure Recorded (history : ScopeHistory) : Prop where
  told : Told history.events history.forest.path history.forest.declared?
  made : ∀ scope : ScopeId, Made history.events scope ↔ scope.index < history.forest.nodes.size
  /-- Only a scope without any around it is sealed. -/
  seals : ∀ scope, Made history.events scope →
    (history.forest.isSealed scope = true ↔ .made scope none ∈ history.events)
  listed : ∀ scope symbol,
    symbol ∈ history.forest.symbols scope ↔ .entered scope symbol.name symbol ∈ history.events
  minted : ∀ scope name symbol, .entered scope name symbol ∈ history.events →
    symbol.name = name ∧ symbol.scope = scope ∧ symbol.id < history.forest.symbolCount
  distinct : ((history.events.filterMap Event.value?).map Symbol.id).Nodup

section Start

variable {names : List String} {outer : Option ScopeId}

theorem made_start : .made scope outer ∈ (start names).events ↔ scope = ⟨0⟩ ∧ outer = none := by
  simp [start]

theorem entered_start :
    .entered scope name symbol ∈ (start names).events ↔
      symbol ∈ (ScopeForest.sealedRoot names).1 ∧ scope = ⟨0⟩ ∧ symbol.name = name := by
  simp only [start, List.mem_cons, List.mem_map, Event.entered.injEq, reduceCtorEq, false_or]
  constructor
  · rintro ⟨_, member, rfl, rfl, rfl⟩
    exact ⟨member, rfl, rfl⟩
  · rintro ⟨member, rfl, rfl⟩
    exact ⟨_, member, rfl, rfl, rfl⟩

theorem node?_start :
    (start names).forest.node? scope =
      if scope = ⟨0⟩ then some ⟨[⟨0⟩], true, (ScopeForest.sealedRoot names).1⟩ else none :=
  ScopeForest.node?_sealedRoot

theorem start_told (distinct : names.Nodup) :
    Told (start names).events (start names).forest.path (start names).forest.declared? := by
  have distinct_names : ((ScopeForest.sealedRoot names).1.map Symbol.name).Nodup := by
    rwa [ScopeForest.map_name_sealedRoot]
  have events : (start names).events = .made ⟨0⟩ none ::
      ((ScopeForest.sealedRoot names).1.map fun symbol => (symbol.name, symbol)).map
        fun entry => .entered ⟨0⟩ entry.1 entry.2 := by simp [start, Function.comp_def]
  rw [events]
  refine .first (by simpa [Function.comp_def] using distinct_names) ?_ (fun other apart => ?_) (fun name symbol => ?_)
    fun other key apart => ?_
  · simp [ScopeForest.path, node?_start]
  · simp [ScopeForest.path, node?_start, apart]
  · simp only [ScopeForest.declared?, ScopeForest.symbols, node?_start, if_true, Option.map_some, Option.getD_some,
      find?_key_iff distinct_names, List.mem_map, Prod.mk.injEq]
    exact ⟨fun ⟨member, named⟩ => ⟨symbol, member, named, rfl⟩, fun ⟨_, member, named, same⟩ => same ▸ ⟨member, named⟩⟩
  · simp [ScopeForest.declared?, ScopeForest.symbols, node?_start, apart]

theorem start_recorded (distinct : names.Nodup) : (start names).Recorded where
  told := start_told distinct
  made scope := by
    rw [← ScopeForest.isSome_node?, node?_start]
    by_cases root : scope = ⟨0⟩ <;> simp [Made, made_start, root]
  seals scope is := by
    obtain ⟨outer, inside⟩ := is
    obtain ⟨rfl, rfl⟩ := made_start.1 inside
    simp [ScopeForest.isSealed, node?_start, made_start]
  listed scope symbol := by
    rw [entered_start]
    by_cases root : scope = ⟨0⟩ <;> simp [ScopeForest.symbols, node?_start, root]
  minted scope name symbol has := by
    obtain ⟨member, rfl, named⟩ := entered_start.1 has
    refine ⟨named, ScopeForest.scope_of_mem_sealedRoot member, ?_⟩
    simpa [start, ScopeForest.sealedRoot] using ScopeForest.id_lt_of_mem_sealedRoot member
  distinct := by
    have values : (start names).events.filterMap Event.value? = (ScopeForest.sealedRoot names).1 := by
      simp [start, List.filterMap_cons, Event.value?, Function.comp_def]
    rw [values, ScopeForest.map_id_sealedRoot]
    exact List.nodup_range

end Start

namespace Recorded

variable (recorded : history.Recorded)
include recorded

/-- A new scope is one that was not there. -/
theorem newChild (there : parent.index < history.forest.nodes.size) :
    Recorded ⟨(history.forest.newChild parent).2,
      history.events ++ [.made (history.forest.newChild parent).1 (some parent)]⟩ := by
  have fresh : ¬ Made history.events (history.forest.newChild parent).1 := fun made =>
    Nat.lt_irrefl _ ((recorded.made _).1 made)
  refine ⟨?_, fun scope => ?_, fun scope is => ?_, fun scope symbol => ?_, fun scope name symbol has => ?_, ?_⟩
  · refine recorded.told.make fresh ?_ ScopeForest.path_newChild_self
      (fun other apart => ScopeForest.path_newChild_of_ne apart) fun _ _ => ScopeForest.declared?_newChild
    rintro _ ⟨⟩
    exact (recorded.made parent).2 there
  · obtain ⟨index⟩ := scope
    rw [Nesting.made_make, recorded.made]
    simp only [ScopeForest.newChild, Numbered.size_push, ScopeId.mk.injEq]
    omega
  · rcases Nesting.made_make.1 is with is | rfl
    · have apart : scope ≠ (history.forest.newChild parent).1 := fun same => fresh (same ▸ is)
      simp [ScopeForest.isSealed_newChild_of_ne apart, recorded.seals scope is, apart]
    · have missing : .made (history.forest.newChild parent).1 none ∉ history.events := fun made =>
        fresh ⟨none, made⟩
      simp [ScopeForest.isSealed_newChild_self, missing]
  · simp [recorded.listed]
  · exact recorded.minted scope name symbol (by simpa using has)
  · simpa [List.filterMap_cons, Event.value?] using recorded.distinct

/-- A new symbol has an identity that none had. -/
theorem declare (declared : history.forest.declare scope name = .ok (symbol, later)) :
    Recorded ⟨later, history.events ++ [.entered scope name symbol]⟩ := by
  obtain ⟨unsealed, free, is, rfl⟩ := ScopeForest.declare_eq_ok.1 declared
  have there : Made history.events scope := (recorded.made scope).2 (ScopeForest.lt_size_of_unsealed unsealed)
  subst is
  refine ⟨?_, fun other => ?_, fun other is => ?_, fun other found => ?_, fun other key found has => ?_, ?_⟩
  · exact recorded.told.enter there free (ScopeForest.declared?_extend_self unsealed free)
      (fun other key apart => ScopeForest.declared?_extend_of_ne unsealed apart) fun _ => ScopeForest.path_extend
  · rw [Nesting.made_enter, recorded.made, ScopeForest.size_extend]
  · rw [ScopeForest.isSealed_extend, recorded.seals other (Nesting.made_enter.1 is)]
    simp
  · by_cases same : other = scope
    · subst same
      rw [ScopeForest.symbols_extend_self unsealed, List.mem_append, recorded.listed, List.mem_append,
        List.mem_singleton, List.mem_singleton, Event.entered.injEq]
      exact or_congr_right ⟨fun is => ⟨rfl, congrArg Symbol.name is, is⟩, fun is => is.2.2⟩
    · rw [ScopeForest.symbols_extend_of_ne same, recorded.listed]
      simp [same]
  · rcases List.mem_append.1 has with has | has
    · obtain ⟨named, owned, old⟩ := recorded.minted _ _ _ has
      exact ⟨named, owned, Nat.lt_succ_of_lt old⟩
    · cases List.mem_singleton.1 has
      exact ⟨rfl, rfl, Nat.lt_succ_self _⟩
  · have old : history.forest.symbolCount ∉ (history.events.filterMap Event.value?).map Symbol.id := by
      intro member
      obtain ⟨symbol, value, same⟩ := List.mem_map.1 member
      obtain ⟨event, has, is⟩ := List.mem_filterMap.1 value
      obtain ⟨scope, name, rfl⟩ := Event.value?_eq_some.1 is
      exact Nat.lt_irrefl _ (same ▸ (recorded.minted _ _ _ has).2.2)
    rw [List.filterMap_append, List.map_append]
    refine recorded.distinct.append (by simp [Event.value?]) (List.disjoint_right.2 fun id new => ?_)
    obtain rfl : id = history.forest.symbolCount := by simpa [List.filterMap_cons, Event.value?] using new
    exact old

theorem next (operation : ScopeOperation) : (history.next operation).Recorded := by
  cases operation with
  | newChild parent =>
    simp only [ScopeHistory.next]
    split
    · rename_i there
      exact recorded.newChild (ScopeForest.isSome_node?.1 there)
    · exact recorded
  | declare scope name =>
    simp only [ScopeHistory.next]
    cases declared : history.forest.declare scope name with
    | ok made => exact recorded.declare declared
    | error error => exact recorded

theorem run (operations : List ScopeOperation) : (operations.foldl ScopeHistory.next history).Recorded := by
  induction operations generalizing history with
  | nil => exact recorded
  | cons operation rest ih => exact ih (recorded.next operation)

end Recorded

/-- What happened stays in the history. -/
theorem events_next (history : ScopeHistory) (operation : ScopeOperation) :
    history.events ⊆ (history.next operation).events := by
  cases operation with
  | newChild parent =>
    simp only [next]
    split
    · exact List.subset_append_left ..
    · exact List.Subset.refl _
  | declare scope name =>
    simp only [next]
    split
    · exact List.subset_append_left ..
    · exact List.Subset.refl _

/-- What holds of scopes and symbols at any time. -/
structure Consistent (history : ScopeHistory) : Prop where
  /-- All symbols that were ever made are different. -/
  distinct : ((history.events.filterMap Event.value?).map Symbol.id).Nodup
  /-- A symbol has the name that was declared, and its owner is the scope that declared it. -/
  owned : ∀ scope name symbol, .entered scope name symbol ∈ history.events →
    symbol.name = name ∧ ∀ other : ScopeId, other.owns symbol = true ↔ other = scope
  /-- A scope declares a name once at most. -/
  once : (history.events.filterMap Event.place?).Nodup
  /-- Under a name there is the symbol that was made when the scope declared it. -/
  declared : ∀ scope name symbol,
    history.forest.declared? scope name = some symbol ↔ .entered scope name symbol ∈ history.events
  /-- It is listed there, and nothing else is. -/
  listed : ∀ scope symbol,
    symbol ∈ history.forest.symbols scope ↔ .entered scope symbol.name symbol ∈ history.events
  /-- Whatever is done later, that symbol stays. -/
  lasts : ∀ (operations : List ScopeOperation) scope name symbol, history.forest.declared? scope name = some symbol →
    (operations.foldl next history).forest.declared? scope name = some symbol
  /-- The scope without any around it takes no declarations. -/
  seals : ∀ scope name, Made history.events scope →
    (history.forest.declare scope name = .error (.sealed name) ↔ .made scope none ∈ history.events)
  /-- A scope that does take them refuses the names that it declares already. -/
  taken : ∀ scope name, Made history.events scope →
    (history.forest.declare scope name = .error (.alreadyDeclared name) ↔
      .made scope none ∉ history.events ∧ ∃ symbol, .entered scope name symbol ∈ history.events)
  /-- It refuses no others. -/
  accepted : ∀ scope name, Made history.events scope →
    ((∃ symbol later, history.forest.declare scope name = .ok (symbol, later)) ↔
      .made scope none ∉ history.events ∧ ∀ symbol, .entered scope name symbol ∉ history.events)
  /-- A refused declaration changes nothing. -/
  unchanged : ∀ scope name error, history.forest.declare scope name = .error error →
    history.next (.declare scope name) = history
  /-- Around a scope is the one in which it was made. -/
  around : ∀ scope outer, .made scope outer ∈ history.events → history.forest.parent? scope = outer
  /-- A name stands for the symbol of the nearest scope that declares it. -/
  nearest : ∀ scope name symbol, history.forest.get? scope name = some symbol ↔
    ∃ last, LeadsTo history.events name scope last ∧ .entered last name symbol ∈ history.events
  /-- A declaration changes what the name stands for in the scopes inside that have no nearer one. -/
  changed : ∀ scope name symbol later, history.forest.declare scope name = .ok (symbol, later) →
    ∀ other, LeadsTo history.events name other scope → later.get? other name = some symbol
  /-- It changes neither other scopes nor what other names stand for. -/
  kept : ∀ scope name symbol later, history.forest.declare scope name = .ok (symbol, later) →
    ∀ other key, (name = key → ¬ LeadsTo history.events key other scope) →
      later.get? other key = history.forest.get? other key

theorem Recorded.consistent (recorded : history.Recorded) : history.Consistent where
  distinct := recorded.distinct
  owned scope name symbol has := by
    obtain ⟨named, owner, -⟩ := recorded.minted scope name symbol has
    exact ⟨named, fun other => by simp [ScopeId.owns, owner, eq_comm]⟩
  once := recorded.told.once
  declared := recorded.told.own
  listed := recorded.listed
  lasts operations _ _ _ :=
    recorded.told.lasts (recorded.run operations).told (Nesting.events_foldl events_next operations history)
  seals scope name is := by rw [ScopeForest.declare_eq_sealed, recorded.seals scope is]
  taken scope name is := by
    rw [ScopeForest.declare_eq_alreadyDeclared, ← Bool.not_eq_true, recorded.seals scope is, Option.isSome_iff_exists]
    simp only [recorded.told.own]
  accepted scope name is := by
    simp only [ScopeForest.declare_eq_ok, ← Bool.not_eq_true, recorded.seals scope is,
      recorded.told.own_eq_none]
    exact ⟨fun ⟨_, _, unsealed, free, _⟩ => ⟨unsealed, free⟩, fun ⟨unsealed, free⟩ => ⟨_, _, unsealed, free, rfl, rfl⟩⟩
  unchanged scope name error refused := by simp only [ScopeHistory.next, refused]
  around scope outer inside := recorded.told.head?_tail inside
  nearest scope name symbol := recorded.told.find_iff
  changed scope name symbol later declared other leads := (recorded.declare declared).told.find_entered leads
  kept scope name symbol later declared other key apart :=
    recorded.told.find_apart (recorded.declare declared).told apart

/-- Whatever names are predeclared, and whatever scopes are made and names declared then: symbols are different and
owned where they were declared, declarations last, and a name stands for its nearest declaration. -/
theorem after_consistent {names : List String} (distinct : names.Nodup) (operations : List ScopeOperation) :
    (after names operations).Consistent :=
  ((start_recorded distinct).run operations).consistent

/-- The name `r` in two scopes, of which the inner one has another inside it; then it is declared once more, and
another name in the sealed scope, both in vain. -/
theorem shadowed_consistent :
    let history := after ["pi"] [.newChild ⟨0⟩, .declare ⟨1⟩ "r", .newChild ⟨1⟩, .newChild ⟨2⟩, .declare ⟨2⟩ "r",
      .declare ⟨2⟩ "r", .declare ⟨0⟩ "x"]
    ["pi"].Nodup ∧ history.Consistent ∧ history.forest.get? ⟨1⟩ "r" = some ⟨1, "r", ⟨1⟩⟩ ∧
      history.forest.get? ⟨3⟩ "r" = some ⟨2, "r", ⟨2⟩⟩ ∧ history.forest.get? ⟨3⟩ "x" = none :=
  ⟨by decide, after_consistent (by decide) _, rfl, rfl, rfl⟩

end ScopeHistory

end Circuitry
