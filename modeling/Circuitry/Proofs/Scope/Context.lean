import Circuitry.Scope.Context

/-!
# Bindings added to a context

Whatever a run binds, it binds in one context and after what that context bound before, so its effect on the
forest is given by the list of the bindings it added. A look-up sees them in that context and in those inside
it, and nowhere else.
-/

set_option autoImplicit false

namespace Circuitry

namespace Numbered

variable {α : Type}

theorem modify_modify (items : Numbered α) (number : Nat) (first second : α → α) :
    (items.modify number first).modify number second = items.modify number fun item => second (first item) := by
  obtain ⟨newestFirst, size, size_eq⟩ := items
  by_cases inside : number < size
  · simp [modify, inside, List.modify_modify_eq, Function.comp_def]
  · simp [modify, inside]

theorem modify_id (items : Numbered α) (number : Nat) {change : α → α} (keeps : ∀ item, change item = item) :
    items.modify number change = items := by
  obtain ⟨newestFirst, size, size_eq⟩ := items
  obtain rfl : change = id := funext keeps
  by_cases inside : number < size
  · simp [modify, inside, List.modify_id]
  · simp [modify, inside]

end Numbered

/-- Functions that agree on a list find the same in it. -/
theorem findSome?_congr {α β : Type} {items : List α} {first second : α → Option β}
    (agree : ∀ item ∈ items, first item = second item) : items.findSome? first = items.findSome? second := by
  induction items with
  | nil => rfl
  | cons item rest ih =>
    have others := ih fun item member => agree item (List.mem_cons_of_mem _ member)
    rw [List.findSome?_cons, List.findSome?_cons, agree item (by simp), others]

namespace ContextForest

variable (forest : ContextForest) (context other : ContextId) (added : List (Symbol × Value))

/-- The forest after a context has bound more symbols. -/
def extend : ContextForest :=
  ⟨forest.nodes.modify context.index fun node => { node with bindings := node.bindings ++ added }⟩

/-- Every context that a forest has is the same in another one. -/
def Keeps (forest later : ContextForest) : Prop :=
  ∀ context : ContextId, context.index < forest.nodes.size → later.node? context = forest.node? context

theorem node?_extend :
    (forest.extend context added).node? other =
      if other = context then
        (forest.node? other).map fun node => { node with bindings := node.bindings ++ added }
      else forest.node? other := by
  unfold extend node?
  rw [Numbered.get?_modify]
  by_cases same : other = context
  · simp [same]
  · have apart : other.index ≠ context.index := fun index => same (by cases other; cases context; simp_all)
    simp [same, apart]

theorem size_extend : (forest.extend context added).nodes.size = forest.nodes.size := Numbered.size_modify ..

@[simp] theorem path_extend : (forest.extend context added).path other = forest.path other := by
  unfold path
  rw [node?_extend]
  split <;> simp [Function.comp_def]

@[simp] theorem isSealed_extend : (forest.extend context added).isSealed other = forest.isSealed other := by
  unfold isSealed
  rw [node?_extend]
  split <;> simp [Function.comp_def]

theorem bindings_extend_of_ne (apart : other ≠ context) :
    (forest.extend context added).bindings other = forest.bindings other := by
  unfold bindings
  rw [node?_extend, if_neg apart]

/-- A context that takes bindings has those that it had and the ones that were added. -/
theorem bindings_extend_self (unsealed : forest.isSealed context = false) :
    (forest.extend context added).bindings context = forest.bindings context ++ added := by
  unfold bindings
  rw [node?_extend, if_pos rfl]
  cases found : forest.node? context with
  | none => simp [isSealed, found] at unsealed
  | some node => simp

theorem direct?_extend_self (unsealed : forest.isSealed context = false) (symbol : Symbol) :
    (forest.extend context added).direct? context symbol =
      (forest.direct? context symbol).or (added.lookup symbol) := by
  unfold direct?
  rw [bindings_extend_self _ _ _ unsealed, List.lookup_append]

/-- A symbol that is not among what was added has the value that it had. -/
theorem direct?_extend_of_not_mem (unsealed : forest.isSealed context = false) {symbol : Symbol}
    (apart : symbol ∉ added.map Prod.fst) :
    (forest.extend context added).direct? context symbol = forest.direct? context symbol := by
  have missing : added.lookup symbol = none := by
    refine List.lookup_eq_none_iff.2 fun binding member => bne_iff_ne.2 ?_
    rintro rfl
    exact apart (List.mem_map_of_mem member)
  rw [direct?_extend_self _ _ _ unsealed, missing, Option.or_none]

theorem direct?_extend_of_ne (apart : other ≠ context) (symbol : Symbol) :
    (forest.extend context added).direct? other symbol = forest.direct? other symbol := by
  unfold direct?
  rw [bindings_extend_of_ne _ _ _ _ apart]

/-- Of what was added, only the value that is found for a symbol matters. -/
theorem direct?_extend_congr (unsealed : forest.isSealed context = false) {added added' : List (Symbol × Value)}
    {symbol : Symbol} (agree : added.lookup symbol = added'.lookup symbol) :
    (forest.extend context added).direct? other symbol =
      (forest.extend context added').direct? other symbol := by
  by_cases same : other = context
  · rw [same, direct?_extend_self _ _ _ unsealed, direct?_extend_self _ _ _ unsealed, agree]
  · rw [direct?_extend_of_ne _ _ _ _ same, direct?_extend_of_ne _ _ _ _ same]

theorem value?_extend_congr (unsealed : forest.isSealed context = false) {added added' : List (Symbol × Value)}
    {symbol : Symbol} (agree : added.lookup symbol = added'.lookup symbol) :
    (forest.extend context added).value? other symbol =
      (forest.extend context added').value? other symbol := by
  unfold value?
  rw [path_extend, path_extend]
  exact findSome?_congr fun outer _ => direct?_extend_congr forest context outer unsealed agree

@[simp] theorem extend_nil : forest.extend context [] = forest := by
  unfold extend
  rw [Numbered.modify_id _ _ fun node => by simp]

@[simp] theorem extend_extend (more : List (Symbol × Value)) :
    (forest.extend context added).extend context more = forest.extend context (added ++ more) := by
  unfold extend
  rw [Numbered.modify_modify]
  simp only [List.append_assoc]

/-- A symbol can be bound where the context takes bindings and binds it not yet. -/
theorem define_eq_ok {forest : ContextForest} {context : ContextId} {symbol : Symbol} {value : Value}
    {extended : ContextForest} :
    forest.define context symbol value = .ok extended ↔
      forest.isSealed context = false ∧ forest.direct? context symbol = none ∧
        extended = forest.extend context [(symbol, value)] := by
  unfold define defines
  by_cases sealing : forest.isSealed context = true
  · simp [sealing]
  · by_cases bound : (forest.direct? context symbol).isSome = true
    · simp [sealing, bound, Option.ne_none_iff_isSome.2 bound]
    · have free : forest.direct? context symbol = none := by simpa using bound
      simp [sealing, free, extend, eq_comm]

/-! ### A fresh context -/

variable {forest : ContextForest} {parent : ContextId}

/-- The forest with a new context inside another one. -/
abbrev fresh (forest : ContextForest) (parent : ContextId) : ContextForest := (forest.newChild parent).2

/-- The context that is new. -/
abbrev child (forest : ContextForest) : ContextId := ⟨forest.nodes.size⟩

theorem node?_fresh :
    (forest.fresh parent).node? other =
      if other = forest.child then some ⟨forest.child :: forest.path parent, false, []⟩
      else forest.node? other := by
  have pushed : (forest.fresh parent).nodes =
      forest.nodes.push ⟨forest.child :: forest.path parent, false, []⟩ := rfl
  simp only [node?, pushed, Numbered.get?_push]
  by_cases same : other = forest.child
  · simp [same]
  · have apart : other.index ≠ forest.nodes.size := fun index => same (by cases other; simp_all)
    simp [same, apart]

theorem size_fresh : (forest.fresh parent).nodes.size = forest.nodes.size + 1 := Numbered.size_push ..

theorem path_fresh_child : (forest.fresh parent).path forest.child = forest.child :: forest.path parent := by
  simp [ContextForest.path, node?_fresh]

theorem path_fresh {other : ContextId} (apart : other ≠ forest.child) :
    (forest.fresh parent).path other = forest.path other := by
  simp [ContextForest.path, node?_fresh, apart]

/-- A context without any around it is like one inside a context that is not there. -/
theorem newRoot_eq (forest : ContextForest) : forest.newRoot = forest.newChild forest.child := by
  have missing : forest.path forest.child = [] := by simp [ContextForest.path, node?, Numbered.get?_eq_none]
  simp only [newRoot, newChild, missing]

theorem isSealed_fresh : (forest.fresh parent).isSealed forest.child = false := by
  simp [isSealed, node?_fresh]

theorem direct?_fresh_child (symbol : Symbol) :
    (forest.fresh parent).direct? forest.child symbol = none := by
  simp [direct?, bindings, node?_fresh]

/-- The new context is all that is new. -/
theorem keeps_fresh : forest.Keeps ((forest.fresh parent).extend forest.child added) := by
  intro context inside
  have apart : context ≠ forest.child := by
    rintro rfl
    exact Nat.lt_irrefl _ inside
  rw [node?_extend, if_neg apart, node?_fresh, if_neg apart]

/-- A context that is not there yet binds nothing. -/
theorem direct?_child (symbol : Symbol) : forest.direct? forest.child symbol = none := by
  simp [direct?, bindings, node?, Numbered.get?_eq_none]

theorem direct?_fresh (symbol : Symbol) :
    ((forest.fresh parent).extend forest.child added).direct? other symbol =
      if other = forest.child then added.lookup symbol else forest.direct? other symbol := by
  split
  · rename_i same
    subst same
    rw [direct?_extend_self _ _ _ isSealed_fresh, direct?_fresh_child, Option.none_or]
  · rename_i apart
    rw [direct?_extend_of_ne _ _ _ _ apart]
    simp only [direct?, bindings, node?_fresh, if_neg apart]

/-- A new context binds nothing, and changes no bindings. -/
theorem direct?_fresh_nil (symbol : Symbol) :
    (forest.fresh parent).direct? other symbol = forest.direct? other symbol := by
  have direct : ((forest.fresh parent).extend forest.child []).direct? other symbol =
      if other = forest.child then none else forest.direct? other symbol := direct?_fresh other [] symbol
  rw [extend_nil] at direct
  rw [direct]
  split
  · rename_i same
    rw [same, direct?_child]
  · rfl

/-- A new context sees what it binds, and then what is seen from the context around it. -/
theorem value?_fresh (symbol : Symbol) :
    ((forest.fresh parent).extend forest.child added).value? forest.child symbol =
      (added.lookup symbol).or (forest.value? parent symbol) := by
  have path : ((forest.fresh parent).extend forest.child added).path forest.child =
      forest.child :: forest.path parent := by
    rw [path_extend]
    simp [ContextForest.path, node?_fresh]
  unfold value?
  rw [path, List.findSome?_cons, direct?_fresh, if_pos rfl]
  cases found : added.lookup symbol with
  | some value => rfl
  | none =>
    rw [Option.none_or]
    refine congrArg (fun direct => (forest.path parent).findSome? direct) (funext fun outer => ?_)
    rw [direct?_fresh]
    split
    · rename_i same
      rw [same, direct?_child, found]
    · rfl

/-! ### Later states -/

theorem Keeps.trans {forest later last : ContextForest} (keeps : forest.Keeps later) (keeps' : later.Keeps last)
    (grows : forest.nodes.size ≤ later.nodes.size) : forest.Keeps last :=
  fun context inside => (keeps' context (Nat.lt_of_lt_of_le inside grows)).trans (keeps context inside)

/-- A later state, in which older contexts are as they were and as much is seen from one of them. -/
structure Persists (forest later : ContextForest) (context : ContextId) : Prop where
  grows : forest.nodes.size ≤ later.nodes.size
  keeps : forest.Keeps later
  values : ∀ symbol, later.value? context symbol = forest.value? context symbol

theorem Persists.refl (forest : ContextForest) (context : ContextId) : forest.Persists forest context :=
  ⟨Nat.le_refl _, fun _ _ => rfl, fun _ => rfl⟩

theorem Persists.trans {forest later last : ContextForest} {context : ContextId}
    (persists : forest.Persists later context) (persists' : later.Persists last context) :
    forest.Persists last context where
  grows := Nat.le_trans persists.grows persists'.grows
  keeps := persists.keeps.trans persists'.keeps persists.grows
  values symbol := (persists'.values symbol).trans (persists.values symbol)

/-- An older context has the same contexts around it. -/
theorem Persists.path {forest later : ContextForest} {context : ContextId}
    (persists : forest.Persists later context) (inside : context.index < forest.nodes.size) :
    later.path context = forest.path context := by
  unfold ContextForest.path
  rw [persists.keeps context inside]

/-- What is bound in a new context is not seen from an older one. -/
theorem persists_fresh {context : ContextId} (inside : context.index < forest.nodes.size)
    (outside : forest.child ∉ forest.path context) :
    forest.Persists ((forest.fresh parent).extend forest.child added) context := by
  refine ⟨?_, keeps_fresh added, fun symbol => ?_⟩
  · unfold extend
    rw [Numbered.size_modify]
    exact Nat.le_succ _
  · have path : ((forest.fresh parent).extend forest.child added).path context = forest.path context := by
      unfold ContextForest.path
      rw [keeps_fresh added context inside]
    unfold value?
    rw [path]
    refine findSome?_congr fun outer member => ?_
    have apart : outer ≠ forest.child := by
      rintro rfl
      exact outside member
    rw [direct?_fresh, if_neg apart]

theorem Persists.keeps_fresh {forest later : ContextForest} {context : ContextId}
    (persists : forest.Persists later context) (added : List (Symbol × Value)) :
    forest.Keeps ((later.fresh context).extend later.child added) :=
  persists.keeps.trans (ContextForest.keeps_fresh added) persists.grows

end ContextForest

end Circuitry
