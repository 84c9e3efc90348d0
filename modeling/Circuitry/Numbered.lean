/-!
# Numbered items

A growing collection whose items are numbered from zero in the order in which they came. It is kept newest
first, so that adding an item shares all that came before, and recent items are near. The main statements
say what is found under a number after an item is added or changed.
-/

set_option autoImplicit false

namespace Circuitry

/-- Items numbered in order of arrival. -/
structure Numbered (α : Type) where
  newestFirst : List α
  /-- How many items there are, which is also the number of the next one. -/
  size : Nat
  size_eq : size = newestFirst.length
  deriving DecidableEq, Repr

namespace Numbered

variable {α : Type}

/-- The items of a list, numbered by their positions. -/
def ofList (items : List α) : Numbered α := ⟨items.reverse, items.length, by simp⟩

/-- Adds an item under the next number. -/
def push (items : Numbered α) (item : α) : Numbered α :=
  ⟨item :: items.newestFirst, items.size + 1, by simp [items.size_eq]⟩

/-- The item under a number. -/
def get? (items : Numbered α) (number : Nat) : Option α :=
  if number < items.size then items.newestFirst[items.size - 1 - number]? else none

/-- Changes the item under a number, if there is one. -/
def modify (items : Numbered α) (number : Nat) (change : α → α) : Numbered α :=
  if number < items.size then
    ⟨items.newestFirst.modify (items.size - 1 - number) change, items.size, by
      simp [items.size_eq]⟩
  else items

@[simp] theorem size_push (items : Numbered α) (item : α) : (items.push item).size = items.size + 1 := rfl

@[simp] theorem size_modify (items : Numbered α) (number : Nat) (change : α → α) :
    (items.modify number change).size = items.size := by
  unfold modify
  split <;> rfl

/-- Every number below the size has an item, and no other has. -/
theorem isSome_get?_iff (items : Numbered α) (number : Nat) :
    (items.get? number).isSome = true ↔ number < items.size := by
  have := items.size_eq
  unfold get?
  split
  · rename_i small
    have inside : items.size - 1 - number < items.newestFirst.length := by omega
    simp [List.getElem?_eq_getElem inside, small]
  · rename_i large
    simp [large]

theorem get?_eq_none (items : Numbered α) {number : Nat} (large : items.size ≤ number) :
    items.get? number = none := by
  simp [get?, Nat.not_lt.2 large]

/-- A new item is found under the old size; all others stay where they are. -/
theorem get?_push (items : Numbered α) (item : α) (number : Nat) :
    (items.push item).get? number = if number = items.size then some item else items.get? number := by
  rcases Nat.lt_trichotomy number items.size with small | same | large
  · have position : items.size - number = items.size - 1 - number + 1 := by omega
    simp [get?, push, small, Nat.lt_succ_of_lt small, Nat.ne_of_lt small, position]
  · simp [get?, push, same]
  · rw [get?_eq_none (items.push item) large, get?_eq_none items (Nat.le_of_lt large),
      if_neg (Nat.ne_of_gt large)]

/-- A change is seen under its own number only. -/
theorem get?_modify (items : Numbered α) (changed : Nat) (change : α → α) (number : Nat) :
    (items.modify changed change).get? number =
      if number = changed then (items.get? number).map change else items.get? number := by
  unfold modify get?
  split
  · rename_i inside
    simp only
    split
    · rename_i small
      rw [List.getElem?_modify]
      by_cases same : number = changed
      · simp [same]
      · have apart : items.size - 1 - changed ≠ items.size - 1 - number := by omega
        simp [same, apart]
    · simp
  · rename_i outside
    by_cases same : number = changed
    · simp [same, outside]
    · simp [same]

end Numbered

end Circuitry
