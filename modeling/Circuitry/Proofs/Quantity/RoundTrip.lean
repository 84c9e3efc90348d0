import Circuitry.Proofs.Decimal.Literal
import Circuitry.Proofs.PhysicalUnit.Symbol
import Circuitry.Proofs.Quantity.Literal

/-!
# Reading quantities back

The text of a quantity is the rendered magnitude, a blank and the symbol of the unit. It is taken apart
again at the blank: every character of a rendered magnitude belongs to a literal, and a blank does not.
-/

set_option autoImplicit false

namespace Circuitry.Quantity

open Decimal UnitExpression

/-! ### Magnitudes -/

/-- A rendered magnitude has neither underscores nor an exponent mark. -/
theorem signedText_seamless (negative : Bool) (whole : Nat) {digits : List Nat} (isDigits : IsDigits digits) :
    Seamless (signedText negative whole digits) := by
  have noUnderscore := signedText_no_underscore negative whole isDigits
  refine ⟨fun c opens _ => ?_, fun mark _ inside => ?_⟩
  · rwa [filter_signedText negative whole isDigits] at opens
  · exact noUnderscore '_' (inside.subset (by simp)) rfl

/-- A rendered magnitude is split off as a whole, its sign included. -/
theorem splitMagnitude_signedText (negative : Bool) (whole : Nat) {digits : List Nat}
    (isDigits : IsDigits digits) {rest : List Char} (ends : ∀ c ∈ rest.head?, c = ' ') :
    splitMagnitude none (signedText negative whole digits ++ rest) = (signedText negative whole digits, rest) := by
  have spelled : (signedText negative whole digits).filter (· ≠ '_') =
      (rendered negative whole isDigits).spelling := by
    rw [spelling_rendered, filter_signedText negative whole isDigits]
  exact (signedText_seamless negative whole isDigits).split_eq spelled ends

/-! ### Literals -/

/-- A rendered magnitude, followed by nothing or by a blank and a symbol, is read part by part. -/
theorem parse_append (value : Rat) (places : Nat) (unit : List Char) (ends : ∀ c ∈ unit.head?, c = ' ')
    (last : ∀ c ∈ unit.getLast?, Text.isBlank c = false) (bounded : places < 2 ^ 31 := by decide) :
    Quantity.parse (String.ofList ((Decimal.render value places).toList ++ unit)) =
      if unit.all Text.isBlank then .ok (ofNumber (nearest value places))
      else
        match Catalog.standard.parse (String.ofList unit) with
        | .ok parsed => .ok ⟨nearest value places, parsed⟩
        | .error error => .error (.unit error) := by
  have isDigits := roundedDigits_isDigits value.den_pos value.num.natAbs places
  have read := parse?_render value bounded
  rw [← String.ofList_toList (s := Decimal.render value places), toList_render] at read
  rw [toList_render]
  have notBlank := signedText_not_blank (showsSign value places)
    (roundedDigits value.num.natAbs value.den places).1 isDigits
  have nonempty := signedText_ne_nil (showsSign value places)
    (roundedDigits value.num.natAbs value.den places).1 isDigits
  have split := splitMagnitude_signedText (showsSign value places)
    (roundedDigits value.num.natAbs value.den places).1 isDigits ends
  refine parse_of_split ?_ read
  rw [String.toList_ofList, Text.trim_eq_self (fun c isFirst => ?_) (fun c isLast => ?_), split]
  · rw [List.head?_append_of_ne_nil _ nonempty] at isFirst
    exact notBlank c (List.mem_of_mem_head? isFirst)
  · rw [List.getLast?_append] at isLast
    cases found : unit.getLast? with
    | none =>
      rw [found, Option.none_or] at isLast
      exact notBlank c (List.mem_of_mem_getLast? isLast)
    | some d =>
      rw [found, Option.some_or, Option.mem_some_iff] at isLast
      exact last c (by rw [found, isLast]; rfl)

/-- The text of a quantity in a unit that is shown by its symbol. -/
theorem text_eq {q : Quantity} (presented : q.unit.Presented .standard) :
    q.text = String.ofList ((Decimal.render q.magnitude displayDigits).toList ++
      if q.unit.symbol.isEmpty then [] else ' ' :: q.unit.symbol.toList) := by
  rw [text, Quantity.render, presented.text_eq_symbol, magnitudeText]
  split
  · simp
  · apply String.toList_injective
    simp

/-- Reading the text of a quantity whose unit derives from the standard catalog gives the quantity back, up to
the symbol of the unit and with the magnitude as it was rounded, unless the symbol on its own is one in which a
dimension overflows while the unit is evaluated. -/
theorem parse_text {q : Quantity} (derived : Catalog.standard.Derives q.unit) :
    (∃ parsed, Quantity.parse q.text = .ok parsed ∧ parsed.unit.equivalent q.unit = true ∧
        parsed.magnitude = nearest q.magnitude 12) ∨
      Quantity.parse q.text = .error (.unit .exponentOverflow) ∧
        Catalog.standard.parse q.unit.symbol = .error .exponentOverflow := by
  have presented := PhysicalUnit.Presented.of_derives PhysicalUnit.Presented.of_standard derived
  rw [text_eq presented]
  rcases presented with ⟨empty, one⟩ | writes
  · left
    have read := parse_append q.magnitude displayDigits [] (by simp) (by simp)
    refine ⟨ofNumber (nearest q.magnitude displayDigits), by simpa [empty] using read, ?_, rfl⟩
    exact PhysicalUnit.equivalent_iff_measure.2 (PhysicalUnit.measure_one.trans one.symm)
  · have nonempty := writes.isEmpty_eq
    have notBlank := writes.not_blank
    have last : ∀ c ∈ (' ' :: q.unit.symbol.toList).getLast?, Text.isBlank c = false := by
      intro c isLast
      rw [List.getLast?_cons_of_ne_nil writes.ne_nil] at isLast
      exact notBlank c (List.mem_of_mem_getLast? isLast)
    have someUnit : (' ' :: q.unit.symbol.toList).all Text.isBlank = false := by
      obtain ⟨c, member⟩ := List.exists_mem_of_ne_nil _ writes.ne_nil
      rw [List.all_eq_false]
      exact ⟨c, by simp [member], by simp [notBlank c member]⟩
    have read := parse_append q.magnitude displayDigits (' ' :: q.unit.symbol.toList) (by simp) last
    -- the blank between the magnitude and the symbol does not change what the symbol is read as
    have alone : Catalog.standard.parse (String.ofList (' ' :: q.unit.symbol.toList)) =
        Catalog.standard.parse q.unit.symbol := by
      rw [← List.singleton_append, writes.parse_blanks_append (.single (by decide)), String.ofList_toList]
    rw [someUnit, if_neg Bool.false_ne_true, alone] at read
    rw [nonempty, if_neg Bool.false_ne_true, read]
    have symbol := writes.parse_eq
    rw [String.ofList_toList] at symbol
    rcases symbol with ⟨unit, parsed, same⟩ | overflow
    · rw [parsed]
      exact .inl ⟨_, rfl, PhysicalUnit.equivalent_iff_measure.2 same, rfl⟩
    · rw [overflow]
      exact .inr ⟨rfl, rfl⟩

/-- Minus two and a half per square of a volt per metre is read back as that. -/
theorem parse_text_inverse_square_field :
    ∃ unit, unit.symbol = "(V/m)^-2" ∧ Catalog.standard.Derives unit ∧
      ∃ parsed, Quantity.parse (Quantity.text ⟨-5 / 2, unit⟩) = .ok parsed ∧
        parsed.unit.equivalent unit = true ∧ parsed.magnitude = -5 / 2 := by
  have made : (do
      let volt ← Catalog.standard.find? "V"
      let metre ← Catalog.standard.find? "m"
      let field ← volt.div? metre
      let unit ← field.pow? ⟨-2, by decide, by decide⟩
      return unit.symbol) = some "(V/m)^-2" := by decide +kernel
  obtain ⟨volt, isVolt, made⟩ := Option.bind_eq_some_iff.1 made
  obtain ⟨metre, isMetre, made⟩ := Option.bind_eq_some_iff.1 made
  obtain ⟨field, isField, made⟩ := Option.bind_eq_some_iff.1 made
  obtain ⟨unit, isPower, made⟩ := Option.bind_eq_some_iff.1 made
  have symbol : unit.symbol = "(V/m)^-2" := Option.some.inj made
  have derived : Catalog.standard.Derives unit := .pow (.div (.named isVolt) (.named isMetre) isField) isPower
  have evaluates : (Catalog.standard.parse "(V/m)^-2").isOk = true := by decide +kernel
  have exact : nearest (-5 / 2) 12 = -5 / 2 := by decide +kernel
  rcases parse_text (q := ⟨-5 / 2, unit⟩) derived with ⟨parsed, read, same, magnitude⟩ | ⟨-, overflow⟩
  · exact ⟨unit, symbol, derived, parsed, read, same, magnitude.trans exact⟩
  · rw [symbol] at overflow
    rw [overflow] at evaluates
    cases evaluates

end Circuitry.Quantity
