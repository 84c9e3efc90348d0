import Circuitry.Proofs.Scope.Declaration
import Mathlib.Data.List.Induction

/-!
# Visible names

The names that are visible in a scope are listed on a walk of their own, outwards through all scopes, which leaves out
names that were met before. A look-up walks the same way and stops at the first scope that declares its name. So the
list has the names that a look-up finds, each once, where the look-up stops: those of nearer scopes first, and within
one scope in the order in which they were declared.
-/

set_option autoImplicit false

namespace Circuitry

/-- What is left when repetitions are left out stands in the order of first occurrence. -/
theorem pairwise_eraseDups {κ : Type} [DecidableEq κ] (items : List κ) :
    items.eraseDups.Pairwise fun item later => items.idxOf item < items.idxOf later := by
  induction items using List.reverseRecOn with
  | nil => exact .nil
  | append_singleton items last ih =>
    have kept : items.eraseDups.Pairwise fun item later =>
        (items ++ [last]).idxOf item < (items ++ [last]).idxOf later :=
      ih.imp_of_mem fun inside inside' before => by
        rwa [List.idxOf_append_of_mem (List.mem_eraseDups.1 inside),
          List.idxOf_append_of_mem (List.mem_eraseDups.1 inside')]
    rw [List.eraseDups_append]
    by_cases known : last ∈ items
    · simpa [List.removeAll, known] using kept
    · have new : ([last].removeAll items).eraseDups = [last] := by simp [List.removeAll, known, List.eraseDups_cons]
      rw [new]
      refine List.pairwise_append.2 ⟨kept, List.pairwise_singleton .., fun item inside other is => ?_⟩
      obtain rfl := List.mem_singleton.1 is
      have member := List.mem_eraseDups.1 inside
      rw [List.idxOf_append_of_mem member, List.idxOf_append_of_notMem known]
      exact Nat.lt_add_right _ (List.idxOf_lt_length_of_mem member)

namespace ScopeForest

variable {forest : ScopeForest} {scope : ScopeId} {path : List ScopeId} {name later : String} {symbol other : Symbol}

/-- The names that a scope itself declares, in order of declaration. -/
def names (forest : ScopeForest) (scope : ScopeId) : List String := (forest.symbols scope).map Symbol.name

theorem mem_names : name ∈ forest.names scope ↔ (forest.declared? scope name).isSome = true := by
  simp [names, declared?, List.find?_isSome]

/-- A name is visible where a look-up finds it. -/
theorem mem_visibleNames : name ∈ forest.visibleNames scope ↔ (forest.get? scope name).isSome = true := by
  simp only [visibleNames, get?, List.mem_eraseDups, List.mem_flatMap, List.findSome?_isSome_iff, ← mem_names, names]

/-- Seen along a path, one symbol comes before another: its scope is nearer, or it is the same scope, in which its name
was declared earlier. -/
def SeenBefore (forest : ScopeForest) (path : List ScopeId) (symbol other : Symbol) : Prop :=
  path.idxOf symbol.scope < path.idxOf other.scope ∨
    symbol.scope = other.scope ∧
      (forest.names symbol.scope).idxOf symbol.name < (forest.names symbol.scope).idxOf other.name

/-- What the nearest scope declares is seen before anything else. -/
theorem seenBefore_of_ne (apart : symbol.scope ≠ other.scope) :
    forest.SeenBefore (symbol.scope :: path) symbol other := by
  refine .inl ?_
  rw [List.idxOf_cons_self, List.idxOf_cons_ne _ apart]
  exact Nat.succ_pos _

theorem SeenBefore.cons (seen : forest.SeenBefore path symbol other) (apart : scope ≠ symbol.scope)
    (apart' : scope ≠ other.scope) : forest.SeenBefore (scope :: path) symbol other := by
  rcases seen with nearer | together
  · refine .inl ?_
    rw [List.idxOf_cons_ne _ apart, List.idxOf_cons_ne _ apart']
    exact Nat.succ_lt_succ nearer
  · exact .inr together

theorem name_of_declared (declared : forest.declared? scope name = some symbol) : symbol.name = name := by
  simpa using List.find?_some declared

section Owned

variable (owned : ∀ scope name symbol, forest.declared? scope name = some symbol → symbol.scope = scope)
include owned

/-- What a look-up finds further outwards belongs to another scope than one that does not declare the name. -/
theorem scope_ne_of_found (missing : forest.declared? scope name = none)
    (found : path.findSome? (forest.declared? · name) = some symbol) : scope ≠ symbol.scope := by
  rintro rfl
  obtain ⟨outer, -, declared⟩ := List.exists_of_findSome?_eq_some found
  obtain rfl := owned _ _ _ declared
  cases missing.symm.trans declared

/-- Of names listed scope by scope along a path, the one that occurs first is seen first. -/
theorem seenBefore_of_idxOf
    (before : (path.flatMap forest.names).idxOf name < (path.flatMap forest.names).idxOf later)
    (found : path.findSome? (forest.declared? · name) = some symbol)
    (found' : path.findSome? (forest.declared? · later) = some other) : forest.SeenBefore path symbol other := by
  induction path with
  | nil => cases found
  | cons scope rest ih =>
    rw [List.flatMap_cons, List.idxOf_append, List.idxOf_append] at before
    simp only [mem_names] at before
    rw [List.findSome?_cons] at found found'
    -- the look-ups part ways where one of the names is declared; until then both go on outwards
    cases here : forest.declared? scope name with
    | some first =>
      rw [here] at found
      cases found
      obtain rfl := owned _ _ _ here
      obtain rfl := name_of_declared here
      cases here' : forest.declared? symbol.scope later with
      | some second =>
        rw [here'] at found'
        cases found'
        obtain rfl := name_of_declared here'
        refine .inr ⟨(owned _ _ _ here').symm, ?_⟩
        simpa [here, here'] using before
      | none =>
        rw [here'] at found'
        exact seenBefore_of_ne (scope_ne_of_found owned here' found')
    | none =>
      rw [here] at found
      cases here' : forest.declared? scope later with
      | some second =>
        have inside := List.idxOf_lt_length_of_mem (mem_names.2 (by rw [here']; rfl) : later ∈ forest.names scope)
        simp only [here, here', Option.isSome_none, Option.isSome_some, Bool.false_eq_true, if_false, if_true] at before
        omega
      | none =>
        rw [here'] at found'
        simp only [here, here', Option.isSome_none, Bool.false_eq_true, if_false, Nat.add_lt_add_iff_right] at before
        exact (ih before found found').cons (scope_ne_of_found owned here found)
          (scope_ne_of_found owned here' found')

end Owned

end ScopeForest

/-! ### A whole run -/

open Nesting (Event)

/-- The symbol that an event adds to a scope. -/
def ScopeId.addition? (scope : ScopeId) : Event ScopeId String Symbol → Option Symbol
  | .made _ _ => none
  | .entered place _ symbol => if place = scope then some symbol else none

namespace ScopeHistory

variable {history : ScopeHistory} {scope : ScopeId}

/-- Every scope lists its symbols in the order in which they were declared. -/
def InOrder (history : ScopeHistory) : Prop :=
  ∀ scope : ScopeId, history.forest.symbols scope = history.events.filterMap scope.addition?

theorem start_inOrder (names : List String) : (start names).InOrder := by
  intro scope
  rw [ScopeForest.symbols, node?_start, start, List.filterMap_cons_none rfl, List.filterMap_map]
  by_cases root : scope = ⟨0⟩
  · simp [root, ScopeId.addition?]
  · simp [root, Ne.symm root, ScopeId.addition?]

/-- A new scope lists nothing, and a new symbol is listed last, in its own scope only. -/
theorem InOrder.next (inOrder : history.InOrder) (operation : ScopeOperation) : (history.next operation).InOrder := by
  intro scope
  cases operation with
  | newChild parent =>
    simp only [ScopeHistory.next]
    split
    · simp [inOrder scope, ScopeId.addition?]
    · exact inOrder scope
  | declare place name =>
    simp only [ScopeHistory.next]
    cases declared : history.forest.declare place name with
    | error error => exact inOrder scope
    | ok made =>
      obtain ⟨symbol, later⟩ := made
      obtain ⟨unsealed, -, is, rfl⟩ := ScopeForest.declare_eq_ok.1 declared
      obtain rfl : symbol.scope = place := by rw [is]
      by_cases same : symbol.scope = scope
      · subst same
        simp [ScopeForest.symbols_extend_self unsealed, inOrder symbol.scope, ScopeId.addition?]
      · simp [ScopeForest.symbols_extend_of_ne (Ne.symm same), inOrder scope, ScopeId.addition?, same]

theorem InOrder.run (inOrder : history.InOrder) (operations : List ScopeOperation) :
    (operations.foldl ScopeHistory.next history).InOrder := by
  induction operations generalizing history with
  | nil => exact inOrder
  | cons operation rest ih => exact ih (inOrder.next operation)

/-- What the list of the names visible in a scope tells of look-ups. -/
structure Visible (history : ScopeHistory) (scope : ScopeId) : Prop where
  /-- No name is listed twice. -/
  once : (history.forest.visibleNames scope).Nodup
  /-- A name is listed if and only if a look-up finds it. -/
  found : ∀ name, name ∈ history.forest.visibleNames scope ↔ ∃ symbol, history.forest.get? scope name = some symbol
  /-- Names stand in the order of the scopes in which the look-ups end, and of their declarations there. -/
  ordered : (history.forest.visibleNames scope).Pairwise fun name later => ∀ symbol other,
    history.forest.get? scope name = some symbol → history.forest.get? scope later = some other →
      history.forest.SeenBefore (history.forest.path scope) symbol other
  /-- Paths lead from a scope to the one in which it was made. -/
  path : ∀ outer, .made scope outer ∈ history.events →
    history.forest.path scope = scope :: outer.elim [] history.forest.path
  /-- The names of a scope are listed in the order of their declarations. -/
  names : history.forest.names scope = (history.events.filterMap scope.addition?).map Symbol.name

theorem Recorded.visible (recorded : history.Recorded) (inOrder : history.InOrder) (scope : ScopeId) :
    history.Visible scope where
  once := by
    refine (pairwise_eraseDups _).imp fun before same => ?_
    rw [same] at before
    exact Nat.lt_irrefl _ before
  found name := by rw [ScopeForest.mem_visibleNames, Option.isSome_iff_exists]
  ordered := by
    refine (pairwise_eraseDups _).imp fun before symbol other found found' => ?_
    exact ScopeForest.seenBefore_of_idxOf
      (fun scope name symbol declared => (recorded.minted _ _ _ ((recorded.told.own _ _ _).1 declared)).2.1)
      before found found'
  path _ made := recorded.told.paths _ _ made
  names := by rw [ScopeForest.names, inOrder scope]

/-- Whatever scopes are made and names declared, the names listed as visible in a scope are those that look-ups find,
in the order in which walking outwards meets their declarations. -/
theorem after_visible {names : List String} (distinct : names.Nodup) (operations : List ScopeOperation)
    (scope : ScopeId) : (after names operations).Visible scope :=
  ((start_recorded distinct).run operations).visible ((start_inOrder names).run operations) scope

/-- An inner scope declares the names `c` and `r`, of which `r` hides the one around it; there `b` was declared
later. -/
theorem hidden_visible :
    let history := after ["pi"] [.newChild ⟨0⟩, .declare ⟨1⟩ "r", .newChild ⟨1⟩, .declare ⟨2⟩ "c", .declare ⟨2⟩ "r",
      .declare ⟨1⟩ "b"]
    ["pi"].Nodup ∧ history.Visible ⟨2⟩ ∧ history.forest.visibleNames ⟨2⟩ = ["c", "r", "b", "pi"] :=
  ⟨by decide, after_visible (by decide) _ _, by decide +kernel⟩

end ScopeHistory

end Circuitry
