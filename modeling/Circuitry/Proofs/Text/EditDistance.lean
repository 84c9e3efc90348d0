import Circuitry.Proofs.Text.Edits
import Circuitry.Text.EditDistance

/-!
# The edit distance is the least number of edits

An entry of a row stands for a start of each text, and its neighbours for the starts without their last characters.
The row that is filled is right up to the last entry written; what is left in it from an earlier row is written over
before it is looked at.
-/

set_option autoImplicit false

namespace Circuitry.Text

/-- The least number of edits, found by looking at the last characters. -/
def distance (a b : List Char) : Nat := leastEdits a.reverse b.reverse

theorem distance_nil_left (b : List Char) : distance [] b = b.length := by
  rw [distance, List.reverse_nil, leastEdits_nil_left, List.length_reverse]

theorem distance_nil_right (a : List Char) : distance a [] = a.length := by
  rw [distance, List.reverse_nil, leastEdits_nil_right, List.length_reverse]

theorem distance_concat (a b : List Char) (c d : Char) :
    distance (a ++ [c]) (b ++ [d]) =
      min (min (distance a b + (if c = d then 0 else 1)) (distance a (b ++ [d]) + 1)) (distance (a ++ [c]) b + 1) := by
  simp only [distance, List.reverse_append, List.reverse_singleton, List.singleton_append, leastEdits_cons]

theorem isLeast_distance (a b : List Char) : IsLeast {count | Edits count a b} (distance a b) := by
  have least := isLeast_leastEdits a.reverse b.reverse
  simp only [edits_reverse_iff] at least
  exact least

namespace Rows

/-! ### Filling a row -/

/-- A row whose entries up to a place are the distances of `a` to the starts of `b`. -/
structure IsRow (a b : List Char) (place : Nat) (row : Array Nat) : Prop where
  size : row.size = b.length + 1
  entries : ∀ start ≤ place, row[start]?.getD 0 = distance a (b.take start)

/-- The rows while that of one more character is filled, when the entries up to a place are written. -/
structure Filling (a b : List Char) (c : Char) (place : Nat) (rows : Rows) : Prop where
  previous : IsRow a b b.length rows.previous
  current : IsRow (a ++ [c]) b place rows.current

variable {a b rest : List Char} {c d : Char} {place : Nat} {rows : Rows}

/-- A row is right up to one entry more when that is written. -/
theorem IsRow.set {row : Array Nat} {entry : Nat} (isRow : IsRow a b place row) (inside : place + 1 ≤ b.length)
    (next : entry = distance a (b.take (place + 1))) : IsRow a b (place + 1) (row.setIfInBounds (place + 1) entry) := by
  obtain ⟨size, entries⟩ := isRow
  refine ⟨by rw [Array.size_setIfInBounds, size], fun start bounded => ?_⟩
  by_cases last : place + 1 = start
  · subst last
    rw [Array.getElem?_setIfInBounds_self_of_lt (by omega), next]
    rfl
  · rw [Array.getElem?_setIfInBounds_ne last]
    exact entries start (by omega)

/-- Each entry is filled from three neighbours that are right. -/
theorem Filling.fill {done : List Char} (split : b = done ++ d :: rest) (filling : Filling a b c done.length rows) :
    Filling a b c (done.length + 1) (rows.fill c d done.length) := by
  obtain ⟨⟨size, entries⟩, current⟩ := filling
  have inside : done.length + 1 ≤ b.length := by simp [split]
  have before : b.take done.length = done := by rw [split, List.take_left' rfl]
  have through : b.take (done.length + 1) = done ++ [d] := by
    rw [split, List.append_cons]
    exact List.take_left' List.length_append
  refine ⟨⟨size, entries⟩, current.set inside ?_⟩
  rw [entries done.length (by omega), entries (done.length + 1) inside, current.entries done.length le_rfl,
    before, through, distance_concat]

/-- The whole row is filled, one entry after the other. -/
theorem Filling.fillAll (done : List Char) (split : b = done ++ rest) (filling : Filling a b c done.length rows) :
    Filling a b c b.length (rows.fillAll c rest done.length) := by
  induction rest generalizing done rows with
  | nil =>
    rw [List.append_nil] at split
    subst split
    exact filling
  | cons d rest ih =>
    have longer : (done ++ [d]).length = done.length + 1 := List.length_append
    have filled := filling.fill split
    rw [← longer] at filled
    have all := ih (done ++ [d]) (split.trans (List.append_cons done d rest)) filled
    rwa [longer] at all

/-! ### Reading the first text -/

/-- The rows when `a` has been read: one is right, and the other has its length. -/
structure Reading (a b : List Char) (rows : Rows) : Prop where
  previous : IsRow a b b.length rows.previous
  size : rows.current.size = b.length + 1

theorem start_reading : Reading [] b (start b.length) where
  previous := by
    refine ⟨by simp [start], fun place bounded => ?_⟩
    have inside : place < b.length + 1 := by omega
    rw [distance_nil_left, List.length_take, Nat.min_eq_left bounded]
    simp [start, inside]
  size := by simp [start]

/-- The first entry of a row is the length of the start that the row belongs to. The rest is filled. -/
theorem Reading.read (reading : Reading a b rows) (c : Char) : Reading (a ++ [c]) b (rows.read b c a.length) := by
  have begun : Filling a b c 0 { rows with current := rows.current.setIfInBounds 0 (a.length + 1) } := by
    refine ⟨reading.previous, by rw [Array.size_setIfInBounds, reading.size], fun place zero => ?_⟩
    obtain rfl := Nat.le_zero.1 zero
    rw [Array.getElem?_setIfInBounds_self_of_lt (by rw [reading.size]; omega), List.take_zero, distance_nil_right,
      List.length_append]
    rfl
  have filled := Filling.fillAll [] (List.nil_append b).symm begun
  exact ⟨filled.current, filled.previous.size⟩

theorem Reading.readAll (reading : Reading a b rows) (rest : List Char) :
    Reading (a ++ rest) b (rows.readAll b rest a.length) := by
  induction rest generalizing a rows with
  | nil => rwa [List.append_nil]
  | cons c rest ih =>
    have longer : (a ++ [c]).length = a.length + 1 := List.length_append
    have all := ih (reading.read c)
    rw [longer] at all
    rwa [List.append_cons]

end Rows

theorem editDistance_eq (a b : String) : editDistance a b = distance a.toList b.toList := by
  obtain ⟨⟨-, entries⟩, -⟩ := (@Rows.start_reading b.toList).readAll a.toList
  have last := entries b.toList.length le_rfl
  rwa [List.take_length] at last

/-- As many edits of single characters as the edit distance of two texts turn one into the other, and fewer do not.
So it is symmetric, zero only for equal texts, and no longer than a detour. -/
theorem editDistance_optimal :
    (∀ a b : String, IsLeast {count | Edits count a.toList b.toList} (editDistance a b)) ∧
      (∀ a b : String, editDistance a b = editDistance b a) ∧
      (∀ a b : String, editDistance a b = 0 ↔ a = b) ∧
      ∀ a b c : String, editDistance a c ≤ editDistance a b + editDistance b c := by
  have least : ∀ a b : String, IsLeast {count | Edits count a.toList b.toList} (editDistance a b) := fun a b => by
    rw [editDistance_eq]
    exact isLeast_distance a.toList b.toList
  refine ⟨least, fun a b => ?_, fun a b => ?_, fun a b c => ?_⟩
  · exact le_antisymm ((least a b).2 (least b a).1.symm) ((least b a).2 (least a b).1.symm)
  · rw [← String.toList_inj, ← edits_zero_iff]
    exact ⟨fun zero => zero ▸ (least a b).1, fun edits => Nat.le_zero.1 ((least a b).2 edits)⟩
  · exact (least a c).2 ((least a b).1.trans (least b c).1)

/-- Characters are counted, not bytes. -/
example : editDistance "µF" "uF" = 1 := by decide

end Circuitry.Text
