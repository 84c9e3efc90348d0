/-!
# Records

A record lists values under distinct names, in the order in which the names were first given. Giving a
name again replaces its value and keeps its place.
-/

set_option autoImplicit false

namespace Circuitry.Record

variable {α : Type}

/-- Puts a value under a name: in place of the old one, or at the end. -/
def insert : List (String × α) → String → α → List (String × α)
  | [], name, value => [(name, value)]
  | (key, old) :: rest, name, value =>
    if key = name then (name, value) :: rest else (key, old) :: insert rest name value

/-- The record that pairs give, taken in order. -/
def ofPairs (pairs : List (String × α)) : List (String × α) :=
  pairs.foldl (fun record pair => insert record pair.1 pair.2) []

/-- The names of a record. -/
def names (record : List (String × α)) : List String := record.map Prod.fst

theorem mem_names_insert {record : List (String × α)} {name other : String} {value : α} :
    other ∈ names (insert record name value) ↔ other = name ∨ other ∈ names record := by
  induction record with
  | nil => simp [insert, names]
  | cons head rest ih =>
    obtain ⟨key, old⟩ := head
    simp only [insert]
    split
    · rename_i same
      subst same
      simp [names]
    · simp only [names, List.map_cons, List.mem_cons] at ih ⊢
      rw [ih]
      constructor
      · rintro (h | h | h) <;> simp [h]
      · rintro (h | h | h) <;> simp [h]

theorem nodup_insert {record : List (String × α)} (distinct : (names record).Nodup) (name : String)
    (value : α) : (names (insert record name value)).Nodup := by
  induction record with
  | nil => simp [insert, names]
  | cons head rest ih =>
    obtain ⟨key, old⟩ := head
    simp only [names, List.map_cons, List.nodup_cons] at distinct
    simp only [insert]
    split
    · rename_i same
      subst same
      simpa [names] using distinct
    · rename_i different
      simp only [names, List.map_cons, List.nodup_cons]
      refine ⟨fun member => ?_, ih distinct.2⟩
      rcases mem_names_insert.1 member with same | later
      · exact different same
      · exact distinct.1 later

/-- Whatever pairs are given, the names of their record are distinct. -/
theorem nodup_ofPairs (pairs : List (String × α)) : (names (ofPairs pairs)).Nodup := by
  unfold ofPairs
  suffices h : ∀ record : List (String × α), (names record).Nodup →
      (names (pairs.foldl (fun record pair => insert record pair.1 pair.2) record)).Nodup from
    h [] (by simp [names])
  induction pairs with
  | nil => exact fun _ distinct => distinct
  | cons pair rest ih => exact fun record distinct => ih _ (nodup_insert distinct pair.1 pair.2)

end Circuitry.Record
