import Mathlib.Data.List.Basic
import Mathlib.Data.List.Nodup

/-!
# Tables inside one another

Scopes and contexts are both tables that grow one entry at a time and lie inside one another, and both look a key
up in the nearest table that has it. What they are at any time is told by what has happened to them: which tables
were made, inside which others, and what was entered. A look-up goes outwards, past the tables where the key was
never entered. So a new entry is found from exactly those tables that lead to its own.
-/

set_option autoImplicit false

namespace Circuitry.Nesting

variable {α κ ν : Type}

/-- What can happen to tables. -/
inductive Event (α κ ν : Type) where
  /-- A table was made, perhaps inside another one. -/
  | made (table : α) (outer : Option α)
  /-- A value was entered in a table under a key. -/
  | entered (table : α) (key : κ) (value : ν)
  deriving DecidableEq

namespace Event

/-- The table and the key of an entry. -/
def place? : Event α κ ν → Option (α × κ)
  | .made _ _ => none
  | .entered table key _ => some (table, key)

/-- The value of an entry. -/
def value? : Event α κ ν → Option ν
  | .made _ _ => none
  | .entered _ _ value => some value

theorem place?_eq_some {event : Event α κ ν} {table : α} {key : κ} :
    event.place? = some (table, key) ↔ ∃ value, event = .entered table key value := by
  cases event <;> simp [place?]

theorem value?_eq_some {event : Event α κ ν} {value : ν} :
    event.value? = some value ↔ ∃ table key, event = .entered table key value := by
  cases event <;> simp [value?]

end Event

/-- If each step keeps what happened before, so does a whole run. -/
theorem events_foldl {σ ω : Type} {step : σ → ω → σ} {events : σ → List (Event α κ ν)}
    (grows : ∀ state operation, events state ⊆ events (step state operation)) (operations : List ω) (state : σ) :
    events state ⊆ events (operations.foldl step state) := by
  induction operations generalizing state with
  | nil => exact List.Subset.refl _
  | cons operation rest ih => exact List.Subset.trans (grows state operation) (ih _)

variable {events : List (Event α κ ν)} {key other : κ} {table inner outer last : α} {value : ν}

variable (events) in
/-- A table that was made. -/
def Made (table : α) : Prop := ∃ outer, .made table outer ∈ events

theorem Made.append (made : Made events table) (more : List (Event α κ ν)) : Made (events ++ more) table :=
  made.imp fun _ made => List.mem_append_left _ made

theorem made_make {around : Option α} :
    Made (events ++ [.made table around]) inner ↔ Made events inner ∨ inner = table := by
  simp [Made, exists_or]

theorem made_enter : Made (events ++ [.entered table key value]) inner ↔ Made events inner := by
  simp [Made]

variable (events key) in
/-- The way of a look-up: from a table to itself, and from one in which the key was not entered to those that the
table around it leads to. -/
inductive LeadsTo : α → α → Prop where
  | here (table : α) : LeadsTo table table
  | outwards {table outer last : α} : (∀ value, .entered table key value ∉ events) →
      .made table (some outer) ∈ events → LeadsTo outer last → LeadsTo table last

/-- The way to a table stays open when the key is entered there. -/
theorem LeadsTo.enter (leads : LeadsTo events key inner table) :
    LeadsTo (events ++ [.entered table key value]) key inner table := by
  induction leads with
  | here => exact .here _
  | @outwards inner outer last lacks inside _ ih =>
    by_cases same : inner = last
    · exact same ▸ .here _
    · exact .outwards (by simpa [same] using lacks) (List.mem_append_left _ inside) ih

/-- A new entry opens no way. -/
theorem LeadsTo.of_enter (leads : LeadsTo (events ++ [.entered table other value]) key inner last) :
    LeadsTo events key inner last := by
  induction leads with
  | here => exact .here _
  | outwards lacks inside _ ih =>
    exact .outwards (fun value has => lacks value (List.mem_append_left _ has)) (by simpa using inside) ih

/-- A new entry under another key, or where the way does not lead, leaves the way as it is. -/
theorem LeadsTo.enter_apart (leads : LeadsTo events key inner last)
    (apart : other = key → ¬ LeadsTo events key inner table) :
    LeadsTo (events ++ [.entered table other value]) key inner last := by
  induction leads with
  | here => exact .here _
  | @outwards inner outer last lacks inside _ ih =>
    refine .outwards (fun found has => ?_) (List.mem_append_left _ inside)
      (ih fun same leads => apart same (.outwards lacks inside leads))
    rcases List.mem_append.1 has with has | has
    · exact lacks found has
    · cases List.mem_singleton.1 has
      exact apart rfl (.here _)

/-- Paths and entries of tables are what the events tell. -/
structure Told (events : List (Event α κ ν)) (path : α → List α) (own? : α → κ → Option ν) : Prop where
  /-- A table has what was entered in it. -/
  own : ∀ table key value, own? table key = some value ↔ .entered table key value ∈ events
  /-- No key was entered twice in one table. -/
  once : (events.filterMap Event.place?).Nodup
  /-- Something was entered only in tables that were made. -/
  there : ∀ table key value, .entered table key value ∈ events → Made events table
  /-- A table was made only inside one that was made. -/
  around : ∀ table outer, .made table (some outer) ∈ events → Made events outer
  /-- The path of a table is the table itself and the path of the one around it. -/
  paths : ∀ table outer, .made table outer ∈ events → path table = table :: outer.elim [] path
  /-- No path starts at a table that was not made. -/
  absent : ∀ table, ¬ Made events table → path table = []

namespace Told

variable {path path' : α → List α} {own? own?' : α → κ → Option ν}

theorem own_eq_none (told : Told events path own?) :
    own? table key = none ↔ ∀ value, .entered table key value ∉ events := by
  simp only [Option.eq_none_iff_forall_ne_some, ne_eq, told.own]

/-- The second table on a path is the one in which the first was made. -/
theorem head?_tail (told : Told events path own?) {outer : Option α} (made : .made table outer ∈ events) :
    (path table).tail.head? = outer := by
  rw [told.paths _ _ made, List.tail_cons]
  cases outer with
  | none => rfl
  | some outer =>
    obtain ⟨_, made⟩ := told.around _ _ made
    rw [Option.elim_some, told.paths _ _ made, List.head?_cons]

/-- What a table has, it has as long as events are only added. -/
theorem lasts {later : List (Event α κ ν)} (told : Told events path own?) (told' : Told later path' own?')
    (grows : events ⊆ later) (own : own? table key = some value) : own?' table key = some value :=
  (told'.own _ _ _).2 (grows ((told.own _ _ _).1 own))

/-- Tables are made from the outside to the inside, and a path leads back. -/
theorem induct (told : Told events path own?) {motive : α → Prop}
    (absent : ∀ table, ¬ Made events table → motive table)
    (root : ∀ table, .made table none ∈ events → motive table)
    (inside : ∀ table outer, .made table (some outer) ∈ events → motive outer → motive table) (table : α) :
    motive table := by
  induction length : (path table).length using Nat.strongRecOn generalizing table with
  | ind length ih =>
    by_cases made : Made events table
    · obtain ⟨_ | outer, made⟩ := made
      · exact root table made
      · refine inside table outer made (ih _ ?_ outer rfl)
        simp [← length, told.paths _ _ made]
    · exact absent table made

/-- A look-up finds what was entered in the nearest table that has the key. -/
theorem find_iff (told : Told events path own?) :
    (path table).findSome? (own? · key) = some value ↔
      ∃ last, LeadsTo events key table last ∧ .entered last key value ∈ events := by
  constructor
  · intro found
    induction table using told.induct with
    | absent table missing => simp [told.absent table missing] at found
    | root table made =>
      rw [told.paths _ _ made, List.findSome?_cons] at found
      cases own : own? table key with
      | none => simp [own] at found
      | some _ =>
        rw [own] at found
        cases found
        exact ⟨table, .here table, (told.own _ _ _).1 own⟩
    | inside table outer made ih =>
      rw [told.paths _ _ made, List.findSome?_cons] at found
      cases own : own? table key with
      | none =>
        rw [own] at found
        obtain ⟨last, leads, entered⟩ := ih found
        exact ⟨last, .outwards (told.own_eq_none.1 own) made leads, entered⟩
      | some _ =>
        rw [own] at found
        cases found
        exact ⟨table, .here table, (told.own _ _ _).1 own⟩
  · rintro ⟨last, leads, entered⟩
    induction leads with
    | here table =>
      obtain ⟨outer, made⟩ := told.there _ _ _ entered
      rw [told.paths _ _ made, List.findSome?_cons, (told.own _ _ _).2 entered]
    | @outwards table outer last lacks made _ ih =>
      rw [told.paths _ _ made, List.findSome?_cons, told.own_eq_none.2 lacks]
      exact ih entered

/-! ### What a step does to a look-up -/

/-- A new entry is found from every table that leads to its own. -/
theorem find_entered (told : Told (events ++ [.entered table key value]) path own?)
    (leads : LeadsTo events key inner table) : (path inner).findSome? (own? · key) = some value :=
  told.find_iff.2 ⟨table, leads.enter, by simp⟩

/-- Under another key, and from tables that do not lead to its own, the same is found as before. -/
theorem find_apart (told : Told events path own?)
    (told' : Told (events ++ [.entered table other value]) path' own?')
    (apart : other = key → ¬ LeadsTo events key inner table) :
    (path' inner).findSome? (own?' · key) = (path inner).findSome? (own? · key) := by
  refine Option.ext fun found => ?_
  rw [told.find_iff, told'.find_iff]
  constructor
  · rintro ⟨last, leads, entered⟩
    refine ⟨last, leads.of_enter, ?_⟩
    rcases List.mem_append.1 entered with entered | entered
    · exact entered
    · cases List.mem_singleton.1 entered
      exact absurd leads.of_enter (apart rfl)
  · rintro ⟨last, leads, entered⟩
    exact ⟨last, leads.enter_apart apart, List.mem_append_left _ entered⟩

/-! ### What holds at first, and what a step keeps -/

/-- One table, with entries from the beginning. -/
theorem first {entries : List (κ × ν)} (distinct : (entries.map Prod.fst).Nodup) (path_self : path table = [table])
    (path_other : ∀ other, other ≠ table → path other = [])
    (own_self : ∀ key value, own? table key = some value ↔ (key, value) ∈ entries)
    (own_other : ∀ other key, other ≠ table → own? other key = none) :
    Told (.made table none :: entries.map fun entry => .entered table entry.1 entry.2) path own? := by
  have made {other : α} {outer : Option α} :
      .made other outer ∈ Event.made table none :: entries.map (fun entry => .entered table entry.1 entry.2) ↔
        other = table ∧ outer = none := by simp
  have entered {other : α} {key : κ} {value : ν} :
      .entered other key value ∈ Event.made table none :: entries.map (fun entry => .entered table entry.1 entry.2) ↔
        other = table ∧ (key, value) ∈ entries := by
    simp only [List.mem_cons, reduceCtorEq, List.mem_map, Event.entered.injEq, false_or, Prod.exists]
    constructor
    · rintro ⟨_, _, member, rfl, rfl, rfl⟩
      exact ⟨rfl, member⟩
    · rintro ⟨rfl, member⟩
      exact ⟨_, _, member, rfl, rfl, rfl⟩
  refine ⟨fun other key value => ?_, ?_, fun other key value has => ⟨none, made.2 ⟨(entered.1 has).1, rfl⟩⟩,
    fun other outer inside => (nomatch (made.1 inside).2), fun other outer inside => ?_, fun other missing => ?_⟩
  · rw [entered]
    by_cases same : other = table
    · simp [same, own_self]
    · simp [same, own_other]
  · have places : (Event.made table none :: entries.map fun entry => .entered table entry.1 entry.2).filterMap
        Event.place? = (entries.map Prod.fst).map (table, ·) := by
      simp [List.filterMap_cons, Event.place?, Function.comp_def]
    rw [places]
    exact distinct.map fun _ _ same => (Prod.mk.inj same).2
  · obtain ⟨rfl, rfl⟩ := made.1 inside
    exact path_self
  · exact path_other other fun same => missing ⟨none, made.2 ⟨same, rfl⟩⟩

/-- A table that is made inside one that is there. -/
theorem make (told : Told events path own?) {outer : Option α} (fresh : ¬ Made events table)
    (inside : ∀ around ∈ outer, Made events around) (new : path' table = table :: outer.elim [] path)
    (kept : ∀ other, other ≠ table → path' other = path other) (same : ∀ table key, own?' table key = own? table key) :
    Told (events ++ [.made table outer]) path' own?' := by
  have older {other : α} (made : Made events other) : path' other = path other :=
    kept other fun same => fresh (same ▸ made)
  have elim_older {outer : Option α} (inside : ∀ around ∈ outer, Made events around) :
      outer.elim [] path' = outer.elim [] path := by
    cases outer with
    | none => rfl
    | some around => exact older (inside around rfl)
  refine ⟨fun table key value => ?_, ?_, fun other key value entered => ?_, fun other around made => ?_,
    fun other next made => ?_, fun other missing => ?_⟩
  · simp [same, told.own]
  · rw [List.filterMap_append, List.filterMap_cons_none rfl, List.filterMap_nil, List.append_nil]
    exact told.once
  · exact (told.there other key value (by simpa using entered)).append _
  · rcases List.mem_append.1 made with made | made
    · exact (told.around other around made).append _
    · cases List.mem_singleton.1 made
      exact (inside around rfl).append _
  · rcases List.mem_append.1 made with made | made
    · rw [older ⟨next, made⟩, told.paths _ _ made, elim_older]
      rintro around ⟨⟩
      exact told.around other around made
    · cases List.mem_singleton.1 made
      rw [new, elim_older inside]
  · have apart : other ≠ table := by
      rintro rfl
      exact missing ⟨outer, by simp⟩
    rw [kept other apart]
    exact told.absent other fun made => missing (made.append _)

/-- A key that is entered in a table which is there and does not have it. -/
theorem enter (told : Told events path own?) (made : Made events table) (free : own? table key = none)
    (new : own?' table key = some value)
    (kept : ∀ table' key', (table', key') ≠ (table, key) → own?' table' key' = own? table' key')
    (same : ∀ table, path' table = path table) : Told (events ++ [.entered table key value]) path' own?' := by
  obtain rfl : path' = path := funext same
  have lacks := told.own_eq_none.1 free
  refine ⟨fun table' key' found => ?_, ?_, fun table' key' found entered => ?_, fun table' around made => ?_,
    fun table' next made => ?_, fun table' missing => ?_⟩
  · by_cases here : (table', key') = (table, key)
    · cases here
      simp [new, lacks, eq_comm]
    · have apart : Event.entered table' key' found ≠ .entered table key value := by
        rintro ⟨⟩
        exact here rfl
      simp [kept _ _ here, told.own, apart]
  · rw [List.filterMap_append]
    refine told.once.append (by simp [Event.place?]) fun place before now => ?_
    obtain rfl : (table, key) = place := by simpa [Event.place?, eq_comm] using now
    obtain ⟨event, member, is⟩ := List.mem_filterMap.1 before
    obtain ⟨found, rfl⟩ := Event.place?_eq_some.1 is
    exact lacks found member
  · rcases List.mem_append.1 entered with entered | entered
    · exact (told.there _ _ _ entered).append _
    · cases List.mem_singleton.1 entered
      exact made.append _
  · exact (told.around table' around (by simpa using made)).append _
  · exact told.paths table' next (by simpa using made)
  · exact told.absent table' fun made => missing (made.append _)

end Told

end Circuitry.Nesting
