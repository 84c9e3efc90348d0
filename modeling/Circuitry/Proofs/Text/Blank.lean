import Circuitry.Text.Blank

/-!
# Blanks and trimming

No digit is a blank, and a text that neither begins nor ends with one is left as it is by trimming, as is a text
that has been trimmed.
-/

set_option autoImplicit false

namespace Circuitry.Text

theorem blankRanges_ordered : CodeRanges.Ordered blankRanges := ⟨by decide, by decide⟩

theorem toNat_of_isDigit {c : Char} (digit : c.isDigit = true) : 48 ≤ c.toNat ∧ c.toNat ≤ 57 := by
  simp only [Char.isDigit, Bool.and_eq_true, decide_eq_true_eq, UInt32.le_iff_toNat_le] at digit
  exact digit

theorem isBlank_of_isDigit {c : Char} (digit : c.isDigit = true) : isBlank c = false := by
  have bounds := toNat_of_isDigit digit
  rw [Bool.eq_false_iff]
  intro blank
  obtain ⟨r, member, low, high⟩ := (CodeRanges.contains_iff blankRanges_ordered _).1 blank
  have apart : ∀ r ∈ blankRanges, r.2 < 48 ∨ 57 < r.1 := by decide
  have := apart r member
  omega

theorem trim_eq_self {text : List Char} (first : ∀ c ∈ text.head?, isBlank c = false)
    (last : ∀ c ∈ text.getLast?, isBlank c = false) : trim text = text := by
  have front : text.dropWhile isBlank = text := by
    cases text with
    | nil => rfl
    | cons c rest => simp [first c rfl]
  have back : text.reverse.dropWhile isBlank = text.reverse := by
    cases reversed : text.reverse with
    | nil => rfl
    | cons c rest =>
      have isLast : c ∈ text.getLast? := by
        rw [List.getLast?_eq_head?_reverse, reversed]
        rfl
      simp [last c isLast]
  rw [trim, front, back, List.reverse_reverse]

theorem head_dropWhile_isBlank (text : List Char) : ∀ c ∈ (text.dropWhile isBlank).head?, isBlank c = false := by
  intro c first
  have stops := List.head?_dropWhile_not isBlank text
  rw [Option.mem_def.1 first] at stops
  exact stops

theorem trim_sublist (text : List Char) : (trim text).Sublist text := by
  have inner := (List.dropWhile_sublist isBlank (l := (text.dropWhile isBlank).reverse)).reverse
  rw [List.reverse_reverse] at inner
  exact inner.trans (List.dropWhile_sublist isBlank)

/-- Once trimmed, a text stays as it is. -/
theorem trim_trim (text : List Char) : trim (trim text) = trim text := by
  refine trim_eq_self (fun c first => ?_) (fun c last => ?_)
  · -- trimming at the end leaves a start of what trimming at the front leaves
    obtain ⟨tail, split⟩ : trim text <+: text.dropWhile isBlank := by
      rw [← List.reverse_suffix, trim, List.reverse_reverse]
      exact List.dropWhile_suffix isBlank
    refine head_dropWhile_isBlank text c ?_
    rw [← split, List.head?_append, Option.mem_def.1 first]
    rfl
  · rw [trim, List.getLast?_reverse] at last
    exact head_dropWhile_isBlank _ c last

end Circuitry.Text
