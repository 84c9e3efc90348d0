import Circuitry.Proofs.Scope.Context
import Circuitry.Proofs.Scope.Nesting

/-!
# Bindings over a whole run

A context binds a symbol once. So whatever contexts are made, inside others or apart from all, and whatever is bound
in them, in any order: a binding stays as it is, a symbol has the value that the nearest context binds to it, and a
new binding is seen under its own symbol only, and only from contexts that have no nearer one.
-/

set_option autoImplicit false

namespace Circuitry

namespace ContextForest

variable {forest : ContextForest} {context other parent : ContextId} {symbol key : Symbol} {value : Value}

theorem define_eq_sealed :
    forest.define context symbol value = .error (.sealed symbol.name) ↔ forest.isSealed context = true := by
  unfold define
  by_cases sealing : forest.isSealed context = true
  · simp [sealing]
  · by_cases bound : forest.defines context symbol = true <;> simp [sealing, bound]

theorem define_eq_alreadyDefined :
    forest.define context symbol value = .error (.alreadyDefined symbol.name) ↔
      forest.isSealed context = false ∧ (forest.direct? context symbol).isSome = true := by
  unfold define defines
  by_cases sealing : forest.isSealed context = true
  · simp [sealing]
  · by_cases bound : (forest.direct? context symbol).isSome = true <;> simp [sealing, bound]

theorem isSome_node? : (forest.node? context).isSome = true ↔ context.index < forest.nodes.size :=
  Numbered.isSome_get?_iff ..

/-- Only a context that is there takes bindings. -/
theorem lt_size_of_unsealed (unsealed : forest.isSealed context = false) : context.index < forest.nodes.size := by
  rw [← isSome_node?]
  cases found : forest.node? context with
  | none => simp [isSealed, found] at unsealed
  | some node => rfl

theorem isSealed_fresh_of_ne (apart : other ≠ forest.child) :
    (forest.fresh parent).isSealed other = forest.isSealed other := by
  simp [isSealed, node?_fresh, apart]

theorem node?_sealedRoot {bindings : List (Symbol × Value)} :
    (sealedRoot bindings).node? context = if context = ⟨0⟩ then some ⟨[⟨0⟩], true, bindings⟩ else none := by
  obtain ⟨index⟩ := context
  cases index <;> simp [sealedRoot, node?, Numbered.ofList, Numbered.get?]

/-- Among bindings of different symbols, each is found. -/
theorem lookup_iff_mem {bindings : List (Symbol × Value)} (distinct : (bindings.map Prod.fst).Nodup) :
    bindings.lookup symbol = some value ↔ (symbol, value) ∈ bindings := by
  constructor
  · intro found
    obtain ⟨before, after, split, -⟩ := List.lookup_eq_some_iff.1 found
    simp [split]
  · intro member
    obtain ⟨before, after, rfl⟩ := List.append_of_mem member
    refine List.lookup_eq_some_iff.2 ⟨before, after, rfl, fun binding earlier => ?_⟩
    rw [List.map_append, List.map_cons, List.nodup_append] at distinct
    have apart := distinct.2.2 binding.1 (List.mem_map_of_mem earlier) symbol (by simp)
    exact bne_iff_ne.2 apart.symm

end ContextForest

open Nesting (Event LeadsTo Made Told)

/-- What can be done with contexts. A definition that fails is one operation, whether the failure is reported or ends
the program. -/
inductive ContextOperation where
  | newChild (parent : ContextId)
  | newRoot
  | define (context : ContextId) (symbol : Symbol) (value : Value)

/-- Contexts, and all that has happened to them. -/
structure ContextHistory where
  forest : ContextForest
  events : List (Event ContextId Symbol Value)

namespace ContextHistory

/-- The sealed context. -/
def root : ContextId := ⟨0⟩

/-- The sealed context with given bindings. -/
def start (bindings : List (Symbol × Value)) : ContextHistory where
  forest := .sealedRoot bindings
  events := .made root none :: bindings.map fun binding => .entered root binding.1 binding.2

/-- An operation on a context that is there, and nothing otherwise. -/
def next (history : ContextHistory) : ContextOperation → ContextHistory
  | .newChild parent =>
    if (history.forest.node? parent).isSome then
      let (child, forest) := history.forest.newChild parent
      ⟨forest, history.events ++ [.made child (some parent)]⟩
    else history
  | .newRoot =>
    let (child, forest) := history.forest.newRoot
    ⟨forest, history.events ++ [.made child none]⟩
  | .define context symbol value =>
    match history.forest.define context symbol value with
    | .ok forest => ⟨forest, history.events ++ [.entered context symbol value]⟩
    | .error _ => history

/-- What operations lead to, from given bindings in the sealed context. -/
def after (bindings : List (Symbol × Value)) (operations : List ContextOperation) : ContextHistory :=
  operations.foldl next (start bindings)

variable {history : ContextHistory} {context parent : ContextId} {symbol : Symbol} {value : Value}
  {later : ContextForest}

/-- The forest is what the events tell. -/
structure Recorded (history : ContextHistory) : Prop where
  told : Told history.events history.forest.path history.forest.direct?
  made : ∀ context : ContextId, Made history.events context ↔ context.index < history.forest.nodes.size
  rooted : Made history.events root
  /-- Only the first context is sealed. -/
  seals : ∀ context, Made history.events context → (history.forest.isSealed context = true ↔ context = root)

theorem start_recorded {bindings : List (Symbol × Value)} (distinct : (bindings.map Prod.fst).Nodup) :
    (start bindings).Recorded := by
  have node (context : ContextId) : (start bindings).forest.node? context =
      if context = root then some ⟨[root], true, bindings⟩ else none := ContextForest.node?_sealedRoot
  have made (context : ContextId) : Made (start bindings).events context ↔ context = root := by
    simp [start, Made]
  refine ⟨.first distinct ?_ (fun other apart => ?_) (fun symbol value => ?_) fun other symbol apart => ?_,
    fun context => ?_, (made root).2 rfl, fun context is => ?_⟩
  · simp [ContextForest.path, node]
  · simp [ContextForest.path, node, apart]
  · simp [ContextForest.direct?, ContextForest.bindings, node, ContextForest.lookup_iff_mem distinct]
  · simp [ContextForest.direct?, ContextForest.bindings, node, apart]
  · rw [← ContextForest.isSome_node?, node, made]
    by_cases first : context = root <;> simp [first]
  · obtain rfl := (made context).1 is
    simp [ContextForest.isSealed, node]

namespace Recorded

variable (recorded : history.Recorded)
include recorded

/-- A new context is one that was not there. -/
theorem make {outer : Option ContextId} {around : ContextId} (inside : ∀ outer' ∈ outer, Made history.events outer')
    (path : history.forest.path around = outer.elim [] history.forest.path) :
    Recorded ⟨history.forest.fresh around, history.events ++ [.made history.forest.child outer]⟩ := by
  have fresh : ¬ Made history.events history.forest.child := fun made => Nat.lt_irrefl _ ((recorded.made _).1 made)
  refine ⟨?_, fun context => ?_, recorded.rooted.append _, fun context is => ?_⟩
  · exact recorded.told.make fresh inside (ContextForest.path_fresh_child.trans (congrArg _ path))
      (fun other apart => ContextForest.path_fresh apart) fun _ _ => ContextForest.direct?_fresh_nil _ _
  · obtain ⟨index⟩ := context
    rw [Nesting.made_make, recorded.made, ContextForest.size_fresh, ContextId.mk.injEq]
    simp only
    omega
  · rcases Nesting.made_make.1 is with is | rfl
    · have apart : context ≠ history.forest.child := fun same => fresh (same ▸ is)
      rw [ContextForest.isSealed_fresh_of_ne apart, recorded.seals context is]
    · have apart : history.forest.child ≠ root := fun same => fresh (same ▸ recorded.rooted)
      simp [ContextForest.isSealed_fresh, apart]

theorem define (defined : history.forest.define context symbol value = .ok later) :
    Recorded ⟨later, history.events ++ [.entered context symbol value]⟩ := by
  obtain ⟨unsealed, free, rfl⟩ := ContextForest.define_eq_ok.1 defined
  have there : Made history.events context := (recorded.made context).2 (ContextForest.lt_size_of_unsealed unsealed)
  refine ⟨?_, fun other => ?_, recorded.rooted.append _, fun other is => ?_⟩
  · refine recorded.told.enter there free ?_ (fun other key apart => ?_) fun other => ContextForest.path_extend ..
    · simp [ContextForest.direct?_extend_self _ _ _ unsealed, free]
    · by_cases same : other = context
      · have differs : key ≠ symbol := fun alike => apart (by rw [same, alike])
        simp [same, ContextForest.direct?_extend_self _ _ _ unsealed, List.lookup_cons, beq_false_of_ne differs]
      · exact ContextForest.direct?_extend_of_ne _ _ _ _ same _
  · rw [Nesting.made_enter, recorded.made, ContextForest.size_extend]
  · rw [ContextForest.isSealed_extend, recorded.seals other (Nesting.made_enter.1 is)]

theorem next (operation : ContextOperation) : (history.next operation).Recorded := by
  cases operation with
  | newChild parent =>
    simp only [ContextHistory.next]
    split
    · rename_i there
      refine recorded.make ?_ rfl
      rintro _ ⟨⟩
      exact (recorded.made parent).2 (ContextForest.isSome_node?.1 there)
    · exact recorded
  | newRoot =>
    simp only [ContextHistory.next, ContextForest.newRoot_eq]
    refine recorded.make (fun _ => nofun) ?_
    exact recorded.told.absent _ fun made => Nat.lt_irrefl _ ((recorded.made _).1 made)
  | define context symbol value =>
    simp only [ContextHistory.next]
    cases defined : history.forest.define context symbol value with
    | ok later => exact recorded.define defined
    | error error => exact recorded

theorem run (operations : List ContextOperation) : (operations.foldl ContextHistory.next history).Recorded := by
  induction operations generalizing history with
  | nil => exact recorded
  | cons operation rest ih => exact ih (recorded.next operation)

end Recorded

/-- What happened stays in the history. -/
theorem events_next (history : ContextHistory) (operation : ContextOperation) :
    history.events ⊆ (history.next operation).events := by
  cases operation with
  | newChild parent =>
    simp only [next]
    split
    · exact List.subset_append_left ..
    · exact List.Subset.refl _
  | newRoot => exact List.subset_append_left ..
  | define context symbol value =>
    simp only [next]
    split
    · exact List.subset_append_left ..
    · exact List.Subset.refl _

/-- What holds of contexts and bindings at any time. -/
structure SingleAssignment (history : ContextHistory) : Prop where
  /-- A context binds a symbol once at most. -/
  once : (history.events.filterMap Event.place?).Nodup
  /-- It binds the symbol to the value that was given then. -/
  bound : ∀ context symbol value,
    history.forest.direct? context symbol = some value ↔ .entered context symbol value ∈ history.events
  /-- Whatever is done later, that value stays. -/
  lasts : ∀ (operations : List ContextOperation) context symbol value,
    history.forest.direct? context symbol = some value →
      (operations.foldl next history).forest.direct? context symbol = some value
  /-- The sealed context takes no bindings. -/
  seals : ∀ context symbol value, Made history.events context →
    (history.forest.define context symbol value = .error (.sealed symbol.name) ↔ context = root)
  /-- Any other context refuses the symbols that it binds already. -/
  taken : ∀ context symbol value, Made history.events context →
    (history.forest.define context symbol value = .error (.alreadyDefined symbol.name) ↔
      context ≠ root ∧ ∃ old, .entered context symbol old ∈ history.events)
  /-- It refuses no others. -/
  accepted : ∀ context symbol value, Made history.events context →
    ((∃ later, history.forest.define context symbol value = .ok later) ↔
      context ≠ root ∧ ∀ old, .entered context symbol old ∉ history.events)
  /-- A refused definition changes nothing. -/
  unchanged : ∀ context symbol value error, history.forest.define context symbol value = .error error →
    history.next (.define context symbol value) = history
  /-- Around a context is the one in which it was made. -/
  around : ∀ context outer, .made context outer ∈ history.events → history.forest.parent? context = outer
  /-- A symbol has the value of the nearest context that binds it. -/
  nearest : ∀ context symbol value, history.forest.value? context symbol = some value ↔
    ∃ last, LeadsTo history.events symbol context last ∧ .entered last symbol value ∈ history.events
  /-- A new binding is seen from the contexts inside that have no nearer one. -/
  changed : ∀ context symbol value later, history.forest.define context symbol value = .ok later →
    ∀ other, LeadsTo history.events symbol other context → later.value? other symbol = some value
  /-- It changes neither what is seen from other contexts nor the values of other symbols. -/
  kept : ∀ context symbol value later, history.forest.define context symbol value = .ok later →
    ∀ other key, (symbol = key → ¬ LeadsTo history.events key other context) →
      later.value? other key = history.forest.value? other key

theorem Recorded.singleAssignment (recorded : history.Recorded) : history.SingleAssignment where
  once := recorded.told.once
  bound := recorded.told.own
  lasts operations _ _ _ :=
    recorded.told.lasts (recorded.run operations).told (Nesting.events_foldl events_next operations history)
  seals context symbol value is := by rw [ContextForest.define_eq_sealed, recorded.seals context is]
  taken context symbol value is := by
    rw [ContextForest.define_eq_alreadyDefined, ← Bool.not_eq_true, recorded.seals context is,
      Option.isSome_iff_exists]
    simp only [recorded.told.own, ne_eq]
  accepted context symbol value is := by
    simp only [ContextForest.define_eq_ok, ← Bool.not_eq_true, recorded.seals context is,
      recorded.told.own_eq_none]
    exact ⟨fun ⟨_, unsealed, free, _⟩ => ⟨unsealed, free⟩, fun ⟨unsealed, free⟩ => ⟨_, unsealed, free, rfl⟩⟩
  unchanged context symbol value error refused := by simp only [ContextHistory.next, refused]
  around context outer inside := recorded.told.head?_tail inside
  nearest context symbol value := recorded.told.find_iff
  changed context symbol value later defined other leads := (recorded.define defined).told.find_entered leads
  kept context symbol value later defined other key apart :=
    recorded.told.find_apart (recorded.define defined).told apart

/-- Whatever is bound in the sealed context, and whatever contexts are made and symbols bound then: bindings are made
once and last, and a symbol has the value of its nearest binding. -/
theorem after_singleAssignment {bindings : List (Symbol × Value)} (distinct : (bindings.map Prod.fst).Nodup)
    (operations : List ContextOperation) : (after bindings operations).SingleAssignment :=
  ((start_recorded distinct).run operations).singleAssignment

/-- A symbol that is bound in a context and then in one of two inside it; and once more, and in the sealed context,
both in vain. A context apart from all sees nothing. -/
theorem sibling_singleAssignment :
    let pi : Symbol := ⟨0, "pi", ⟨0⟩⟩
    let symbol : Symbol := ⟨1, "r", ⟨1⟩⟩
    let history := after [(pi, .ofBool true)] [.newChild root, .define ⟨1⟩ symbol (.ofBool true), .newChild ⟨1⟩,
      .newChild ⟨1⟩, .define ⟨2⟩ symbol (.ofBool false), .define ⟨2⟩ symbol (.ofBool true),
      .define root symbol (.ofBool true), .newRoot]
    ([(pi, Value.ofBool true)].map Prod.fst).Nodup ∧ history.SingleAssignment ∧
      history.forest.value? ⟨2⟩ symbol = some (.ofBool false) ∧
      history.forest.value? ⟨3⟩ symbol = some (.ofBool true) ∧
      history.forest.value? ⟨3⟩ pi = some (.ofBool true) ∧ history.forest.value? ⟨4⟩ pi = none :=
  ⟨by decide, after_singleAssignment (by decide) _, rfl, rfl, rfl, rfl⟩

end ContextHistory

end Circuitry
