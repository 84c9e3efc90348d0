import Mathlib.Order.Bounds.Basic

/-!
# Edits

An edit inserts, deletes or substitutes one character anywhere in a text. Edits are made one after the other, so
a character may be edited more than once, and there are always longer ways to the same text. The least number of
edits is found by looking at the first characters only: one edit changes it by at most one, wherever it is made,
and as many edits as it says are enough.
-/

set_option autoImplicit false

namespace Circuitry.Text

/-- One character is inserted, deleted or substituted. -/
inductive Edit : List Char → List Char → Prop where
  | insert (before after : List Char) (c : Char) : Edit (before ++ after) (before ++ c :: after)
  | delete (before after : List Char) (c : Char) : Edit (before ++ c :: after) (before ++ after)
  | substitute (before after : List Char) (c d : Char) : Edit (before ++ c :: after) (before ++ d :: after)

/-- So many edits, one after the other, turn one text into another. -/
inductive Edits : Nat → List Char → List Char → Prop where
  | none (text : List Char) : Edits 0 text text
  | more {count : Nat} {first next last : List Char} :
      Edit first next → Edits count next last → Edits (count + 1) first last

variable {count more : Nat} {a b text : List Char}

/-! ### Edits made elsewhere -/

/-- Every edit can be undone by one. -/
theorem Edit.symm (edit : Edit a b) : Edit b a := by
  cases edit with
  | insert before after c => exact .delete before after c
  | delete before after c => exact .insert before after c
  | substitute before after c d => exact .substitute before after d c

theorem Edit.cons (edit : Edit a b) (c : Char) : Edit (c :: a) (c :: b) := by
  cases edit with
  | insert before after d => exact .insert (c :: before) after d
  | delete before after d => exact .delete (c :: before) after d
  | substitute before after d e => exact .substitute (c :: before) after d e

theorem Edit.reverse (edit : Edit a b) : Edit a.reverse b.reverse := by
  cases edit with
  | insert before after c => simpa using Edit.insert after.reverse before.reverse c
  | delete before after c => simpa using Edit.delete after.reverse before.reverse c
  | substitute before after c d => simpa using Edit.substitute after.reverse before.reverse c d

theorem Edits.single (edit : Edit a b) : Edits 1 a b := .more edit (.none b)

theorem Edits.trans {last : List Char} (edits : Edits count a b) (further : Edits more b last) :
    Edits (count + more) a last := by
  induction edits with
  | none => rwa [Nat.zero_add]
  | more edit _ ih =>
    rw [Nat.succ_add]
    exact .more edit (ih further)

theorem Edits.symm (edits : Edits count a b) : Edits count b a := by
  induction edits with
  | none text => exact .none text
  | more edit _ ih => exact ih.trans (.single edit.symm)

/-- What turns all edits into edits turns texts into texts by the same number of them. -/
theorem Edits.map {change : List Char → List Char}
    (keeps : ∀ {a b : List Char}, Edit a b → Edit (change a) (change b)) (edits : Edits count a b) :
    Edits count (change a) (change b) := by
  induction edits with
  | none text => exact .none (change text)
  | more edit _ ih => exact .more (keeps edit) ih

theorem Edits.cons (edits : Edits count a b) (c : Char) : Edits count (c :: a) (c :: b) :=
  edits.map fun edit => edit.cons c

theorem edits_reverse_iff : Edits count a.reverse b.reverse ↔ Edits count a b := by
  refine ⟨fun edits => ?_, fun edits => edits.map Edit.reverse⟩
  have back := edits.map Edit.reverse
  rwa [List.reverse_reverse, List.reverse_reverse] at back

theorem edits_zero_iff : Edits 0 a b ↔ a = b := by
  constructor
  · intro edits
    cases edits
    rfl
  · rintro rfl
    exact .none a

/-! ### The least number of edits -/

/-- The cheapest of keeping or substituting the first character, deleting it, and inserting another one before it. -/
def leastEdits : List Char → List Char → Nat
  | [], b => b.length
  | _ :: a, [] => a.length + 1
  | c :: a, d :: b =>
    min (min (leastEdits a b + (if c = d then 0 else 1)) (leastEdits a (d :: b) + 1)) (leastEdits (c :: a) b + 1)
termination_by a b => a.length + b.length

theorem leastEdits_nil_left (b : List Char) : leastEdits [] b = b.length := by
  rw [leastEdits]

theorem leastEdits_nil_right (a : List Char) : leastEdits a [] = a.length := by
  cases a <;> simp [leastEdits]

theorem leastEdits_cons (c d : Char) (a b : List Char) :
    leastEdits (c :: a) (d :: b) =
      min (min (leastEdits a b + (if c = d then 0 else 1)) (leastEdits a (d :: b) + 1))
        (leastEdits (c :: a) b + 1) := by
  rw [leastEdits]

/-- Every text can be inserted, character by character. -/
theorem edits_of_nil (text : List Char) : Edits text.length [] text := by
  induction text with
  | nil => exact .none []
  | cons c text ih => exact ih.trans (.single (.insert [] text c))

/-- As many edits are enough. -/
theorem edits_leastEdits (a b : List Char) : Edits (leastEdits a b) a b := by
  induction a, b using leastEdits.induct with
  | case1 b =>
    rw [leastEdits_nil_left]
    exact edits_of_nil b
  | case2 c a =>
    rw [leastEdits_nil_right]
    exact (edits_of_nil (c :: a)).symm
  | case3 c a d b substituted deleted inserted =>
    have keeps : Edits (leastEdits a b + if c = d then 0 else 1) (c :: a) (d :: b) := by
      split
      · rename_i same
        subst same
        exact substituted.cons c
      · exact (substituted.cons c).trans (.single (.substitute [] b c d))
    have deletes : Edits (leastEdits a (d :: b) + 1) (c :: a) (d :: b) := .more (.delete [] a c) deleted
    have inserts : Edits (leastEdits (c :: a) b + 1) (c :: a) (d :: b) := inserted.trans (.single (.insert [] b d))
    rw [leastEdits_cons]
    exact min_rec' (Edits · _ _) (min_rec' (Edits · _ _) keeps deletes) inserts

theorem leastEdits_delete_le (c : Char) (a text : List Char) :
    leastEdits (c :: a) text ≤ leastEdits a text + 1 := by
  cases text with
  | nil => simp [leastEdits_nil_right]
  | cons d text => exact leastEdits_cons c d a text ▸ (min_le_left _ _).trans (min_le_right _ _)

theorem leastEdits_insert_le (a : List Char) (d : Char) (text : List Char) :
    leastEdits a (d :: text) ≤ leastEdits a text + 1 := by
  cases a with
  | nil => simp [leastEdits_nil_left]
  | cons c a => exact leastEdits_cons c d a text ▸ min_le_right _ _

theorem leastEdits_substitute_le (c d : Char) (a text : List Char) :
    leastEdits (c :: a) (d :: text) ≤ leastEdits a text + if c = d then 0 else 1 :=
  leastEdits_cons c d a text ▸ (min_le_left _ _).trans (min_le_left _ _)

/-- What is at most one edit dearer stays so behind a further character. -/
theorem leastEdits_cons_le (c : Char) (closer : ∀ text, leastEdits a text ≤ leastEdits b text + 1)
    (text : List Char) : leastEdits (c :: a) text ≤ leastEdits (c :: b) text + 1 := by
  induction text with
  | nil =>
    have shorter := closer []
    simp only [leastEdits_nil_right, List.length_cons] at shorter ⊢
    omega
  | cons d text ih =>
    have kept := leastEdits_substitute_le c d a text
    have deleted := leastEdits_delete_le c a (d :: text)
    have inserted := leastEdits_insert_le (c :: a) d text
    have closer₁ := closer text
    have closer₂ := closer (d :: text)
    rw [leastEdits_cons c d b text]
    omega

/-- Deleting the first character saves at most one edit. -/
theorem leastEdits_le_delete (c : Char) (a text : List Char) :
    leastEdits a text ≤ leastEdits (c :: a) text + 1 := by
  induction text with
  | nil =>
    simp only [leastEdits_nil_right, List.length_cons]
    omega
  | cons d text ih =>
    have inserted := leastEdits_insert_le a d text
    rw [leastEdits_cons c d a text]
    omega

/-- So does substituting it. -/
theorem leastEdits_le_substitute (c d : Char) (a text : List Char) :
    leastEdits (c :: a) text ≤ leastEdits (d :: a) text + 1 := by
  induction text with
  | nil => simp [leastEdits_nil_right]
  | cons e text ih =>
    have kept := leastEdits_substitute_le c e a text
    have deleted := leastEdits_delete_le c a (e :: text)
    have inserted := leastEdits_insert_le (c :: a) e text
    rw [leastEdits_cons d e a text]
    split at kept <;> omega

/-- One edit, wherever it is made, saves at most one. -/
theorem Edit.leastEdits_le (edit : Edit a b) (text : List Char) : leastEdits a text ≤ leastEdits b text + 1 := by
  cases edit with
  | insert before after c =>
    induction before generalizing text with
    | nil => exact leastEdits_le_delete c after text
    | cons d before ih => exact leastEdits_cons_le d ih text
  | delete before after c =>
    induction before generalizing text with
    | nil => exact leastEdits_delete_le c after text
    | cons d before ih => exact leastEdits_cons_le d ih text
  | substitute before after c d =>
    induction before generalizing text with
    | nil => exact leastEdits_le_substitute c d after text
    | cons e before ih => exact leastEdits_cons_le e ih text

theorem leastEdits_self (a : List Char) : leastEdits a a = 0 := by
  induction a with
  | nil => exact leastEdits_nil_left []
  | cons c a ih =>
    have kept := leastEdits_substitute_le c c a a
    rw [if_pos rfl, ih] at kept
    exact Nat.le_zero.1 kept

/-- Fewer edits are not enough. -/
theorem Edits.leastEdits_le (edits : Edits count a b) : leastEdits a b ≤ count := by
  induction edits with
  | none text => exact (leastEdits_self text).le
  | more edit _ ih => exact (edit.leastEdits_le _).trans (Nat.succ_le_succ ih)

theorem isLeast_leastEdits (a b : List Char) : IsLeast {count | Edits count a b} (leastEdits a b) :=
  ⟨edits_leastEdits a b, fun _ edits => edits.leastEdits_le⟩

end Circuitry.Text
