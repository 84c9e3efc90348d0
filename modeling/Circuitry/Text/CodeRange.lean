/-!
# Ranges of code points

A character property is a list of closed code point ranges in increasing order. Membership stops at
the first range that begins past the character.
-/

set_option autoImplicit false

namespace Circuitry.Text

/-- Closed ranges of code points, in increasing order and apart from each other. -/
abbrev CodeRanges := List (Nat × Nat)

/-- Whether `code` lies in one of the ranges; ranges past `code` are not read. -/
def CodeRanges.contains : CodeRanges → Nat → Bool
  | [], _ => false
  | (first, last) :: rest, code =>
    if code < first then false
    else if code ≤ last then true
    else CodeRanges.contains rest code

/-- The ranges are closed, ordered and disjoint, so that stopping early loses nothing. -/
def CodeRanges.Ordered (ranges : CodeRanges) : Prop :=
  (∀ r ∈ ranges, r.1 ≤ r.2) ∧ ranges.Pairwise fun a b => a.2 < b.1

/-- On ordered ranges the early stop is membership in some range. -/
theorem CodeRanges.contains_iff {ranges : CodeRanges} (ordered : ranges.Ordered) (code : Nat) :
    ranges.contains code = true ↔ ∃ r ∈ ranges, r.1 ≤ code ∧ code ≤ r.2 := by
  induction ranges with
  | nil => simp [contains]
  | cons head rest ih =>
    obtain ⟨first, last⟩ := head
    obtain ⟨closed, apart⟩ := ordered
    rw [List.pairwise_cons] at apart
    have inner := ih ⟨fun r h => closed r (by simp [h]), apart.2⟩
    simp only [contains]
    split
    · constructor
      · simp
      · rintro ⟨r, member, low, high⟩
        rcases List.mem_cons.1 member with rfl | later
        · simp only at low; omega
        · have := apart.1 r later
          have := closed (first, last) (by simp)
          simp only at *; omega
    · split
      · simp only [true_iff]
        exact ⟨(first, last), by simp, by simp only; omega, by simp only; omega⟩
      · rw [inner]
        constructor
        · rintro ⟨r, member, bounds⟩
          exact ⟨r, by simp [member], bounds⟩
        · rintro ⟨r, member, low, high⟩
          rcases List.mem_cons.1 member with rfl | later
          · simp only at high; omega
          · exact ⟨r, later, low, high⟩

end Circuitry.Text
