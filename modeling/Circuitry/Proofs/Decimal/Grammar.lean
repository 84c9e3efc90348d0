import Circuitry.Decimal.Literal
import Circuitry.Proofs.Decimal.Numeral
import Circuitry.Proofs.PhysicalUnit.Grammar
import Mathlib.Algebra.Field.Rat
import Mathlib.Data.List.TakeDrop
import Mathlib.Data.List.TakeWhile
import Mathlib.Tactic.Ring

/-!
# The grammar of decimal literals

    literal  := sign? mantissa (('e' | 'E') sign? digit+)?
    mantissa := digit* ('.' digit*)?

A mantissa has at least one digit, and an exponent is at most `maxExponent` in size. Blanks around a literal and
underscores anywhere in it are ignored. A literal denotes the number of all its digits, moved by the exponent and
by as many places as there are digits behind the point.

Reading finds a literal exactly where one is spelled, as long as the place of its last digit fits 32 bits.
-/

set_option autoImplicit false

namespace Circuitry.Decimal

open UnitExpression (Sign)

/-! ### Signed digits -/

/-- A sign is split from what does not begin with another one. -/
theorem splitSign_spelling (sign : Sign) {rest : List Char} (unsigned : ∀ c ∈ rest.head?, c ≠ '-' ∧ c ≠ '+') :
    splitSign (sign.spelling ++ rest) = (decide (sign = .minus), rest) := by
  cases sign with
  | minus => rfl
  | plus => rfl
  | absent => exact splitSign_of_unsigned unsigned

/-- Whatever is split has a sign, which may be absent. -/
theorem splitSign_spelled (text : List Char) :
    ∃ sign : Sign, text = sign.spelling ++ (splitSign text).2 ∧ (splitSign text).1 = decide (sign = .minus) := by
  unfold splitSign
  split
  · exact ⟨.minus, rfl, rfl⟩
  · exact ⟨.plus, rfl, rfl⟩
  · exact ⟨.absent, rfl, rfl⟩

theorem apply_sign (sign : Sign) (magnitude : Nat) :
    sign.apply magnitude = if decide (sign = .minus) then -(magnitude : Int) else magnitude := by
  cases sign <;> rfl

/-- An integer is read from a sign and at least one digit. -/
theorem readInt?_eq_some_iff {text : List Char} {n : Int} :
    readInt? text = some n ↔ ∃ (sign : Sign) (digits : List Char), text = sign.spelling ++ digits ∧ digits ≠ [] ∧
      (∀ c ∈ digits, c.isDigit = true) ∧ n = sign.apply (digitsValue digits) := by
  constructor
  · intro read
    obtain ⟨sign, spelled, negative⟩ := splitSign_spelled text
    simp only [readInt?] at read
    split at read
    · cases read
    · rename_i accepted
      simp only [Bool.or_eq_true, List.isEmpty_iff, Bool.not_eq_true', not_or, Bool.not_eq_false,
        List.all_eq_true] at accepted
      refine ⟨sign, (splitSign text).2, spelled, accepted.1, accepted.2, ?_⟩
      rw [apply_sign, ← negative]
      exact (Option.some.inj read).symm
  · rintro ⟨sign, digits, rfl, nonempty, isDigit, rfl⟩
    have unsigned : ∀ c ∈ digits.head?, c ≠ '-' ∧ c ≠ '+' :=
      fun c first => isDigit_ne_sign (isDigit c (List.mem_of_mem_head? first))
    have someDigit : digits.isEmpty = false := by simpa using nonempty
    have allDigits : digits.all Char.isDigit = true := List.all_eq_true.2 isDigit
    simp only [readInt?, splitSign_spelling sign unsigned, someDigit, allDigits, apply_sign]
    rfl

/-- An integer is written with a sign if it is negative, and with its digits. -/
theorem intText_spelled (n : Int) :
    ∃ (sign : Sign) (digits : List Char), (intText n).toList = sign.spelling ++ digits ∧ digits ≠ [] ∧
      (∀ c ∈ digits, c.isDigit = true) ∧ sign.apply (digitsValue digits) = n := by
  have value : digitsValue (Nat.toDigits 10 n.natAbs) = n.natAbs := digitsValue_toDigits _
  by_cases negative : n < 0
  · refine ⟨.minus, Nat.toDigits 10 n.natAbs, ?_, Nat.toDigits_ne_nil, isDigit_toDigits _, ?_⟩
    · simp [intText, natText, negative, Sign.spelling]
    · rw [value, Sign.apply]
      omega
  · refine ⟨.absent, Nat.toDigits 10 n.natAbs, ?_, Nat.toDigits_ne_nil, isDigit_toDigits _, ?_⟩
    · simp [intText, natText, negative, Sign.spelling]
    · rw [value]
      change (n.natAbs : Int) = n
      omega

/-! ### Literals -/

/-- The digits of a literal, with a point among them or not. -/
structure Mantissa where
  whole : List Char
  /-- The digits behind the point, if there is a point. -/
  fraction : Option (List Char)
  isDigit : ∀ c ∈ whole ++ fraction.getD [], c.isDigit = true
  nonempty : whole ++ fraction.getD [] ≠ []

namespace Mantissa

/-- The digits behind the point. -/
def places (mantissa : Mantissa) : List Char := mantissa.fraction.getD []

/-- All digits, without the point. -/
def digits (mantissa : Mantissa) : List Char := mantissa.whole ++ mantissa.places

/-- A point and the digits behind it, or nothing. -/
def pointed : Option (List Char) → List Char
  | none => []
  | some digits => '.' :: digits

def spelling (mantissa : Mantissa) : List Char := mantissa.whole ++ pointed mantissa.fraction

end Mantissa

/-- An exponent as it is written. -/
structure WrittenExponent where
  mark : Char
  sign : Sign
  digits : List Char
  isMark : mark = 'e' ∨ mark = 'E'
  isDigit : ∀ c ∈ digits, c.isDigit = true
  nonempty : digits ≠ []
  bounded : (sign.apply (digitsValue digits)).natAbs ≤ maxExponent

namespace WrittenExponent

def spelling (exponent : WrittenExponent) : List Char :=
  exponent.mark :: (exponent.sign.spelling ++ exponent.digits)

def value (exponent : WrittenExponent) : Int := exponent.sign.apply (digitsValue exponent.digits)

end WrittenExponent

/-- The parts of a decimal literal. -/
structure Literal where
  sign : Sign
  mantissa : Mantissa
  exponent : Option WrittenExponent

namespace Literal

def spelling (literal : Literal) : List Char :=
  literal.sign.spelling ++ (literal.mantissa.spelling ++ (literal.exponent.map (·.spelling)).getD [])

/-- The exponent, which is zero unless one is written. -/
def power (literal : Literal) : Int := (literal.exponent.map (·.value)).getD 0

/-- The power of ten that the last digit counts. -/
def lastPlace (literal : Literal) : Int := literal.power - literal.mantissa.places.length

/-- The signed integer of all digits, the last of which counts a power of ten. -/
def value (literal : Literal) : Rat :=
  (literal.sign.apply (digitsValue literal.mantissa.digits) : Rat) * 10 ^ literal.lastPlace

/-- The number of fractional digits and the place of the last digit fit 32 bits. -/
def Fits (literal : Literal) : Prop :=
  literal.mantissa.places.length < 2 ^ 31 ∧ -2 ^ 31 ≤ literal.lastPlace

end Literal

/-- What counts in a text: no blanks around it and no underscores. -/
def bare (text : List Char) : List Char := (Text.trim text).filter (· ≠ '_')

/-! ### Reading the parts -/

/-- A text is parted where its characters first fail the test. -/
theorem span_eq_iff {p : Char → Bool} {text first second : List Char} :
    text.span p = (first, second) ↔
      text = first ++ second ∧ (∀ c ∈ first, p c = true) ∧ ∀ c ∈ second.head?, p c = false := by
  rw [List.span_eq_takeWhile_dropWhile, Prod.mk.injEq]
  constructor
  · rintro ⟨rfl, rfl⟩
    refine ⟨List.takeWhile_append_dropWhile.symm, fun c member => List.mem_takeWhile_imp member, ?_⟩
    intro c isHead
    have fails := List.head?_dropWhile_not p text
    rw [Option.mem_def.1 isHead] at fails
    exact fails
  · rintro ⟨rfl, passes, fails⟩
    rw [List.takeWhile_append_of_pos passes, List.dropWhile_append_of_pos passes]
    cases second with
    | nil => simp
    | cons c rest => simp [fails c rfl]

theorem isDigit_ne_point {c : Char} (digit : c.isDigit = true) : c ≠ '.' := by
  rintro rfl
  revert digit
  decide

theorem isExponentMark_iff {c : Char} : isExponentMark c = true ↔ c = 'e' ∨ c = 'E' := by
  simp [isExponentMark]

/-- A character of a mantissa. -/
def IsUnsignedChar (c : Char) : Prop := c.isDigit = true ∨ c = '.'

theorem not_isExponentMark {c : Char} (h : IsUnsignedChar c) : isExponentMark c = false := by
  rcases h with digit | rfl
  · have notLower : c ≠ 'e' := by rintro rfl; revert digit; decide
    have notUpper : c ≠ 'E' := by rintro rfl; revert digit; decide
    simp [isExponentMark, notLower, notUpper]
  · decide

theorem Mantissa.isUnsignedChar (mantissa : Mantissa) : ∀ c ∈ mantissa.spelling, IsUnsignedChar c := by
  intro c member
  rcases List.mem_append.1 member with inWhole | inPointed
  · exact .inl (mantissa.isDigit c (List.mem_append_left _ inWhole))
  · cases point : mantissa.fraction with
    | none =>
      rw [point] at inPointed
      cases inPointed
    | some digits =>
      rw [point] at inPointed
      rcases List.mem_cons.1 inPointed with rfl | inDigits
      · exact .inr rfl
      · exact .inl (mantissa.isDigit c (List.mem_append_right _ (by simpa [point] using inDigits)))

theorem readMantissa?_eq_some_iff {text whole places : List Char} :
    readMantissa? text = some (whole, places) ↔
      ∃ mantissa : Mantissa, text = mantissa.spelling ∧ whole = mantissa.whole ∧ places = mantissa.places := by
  constructor
  · intro read
    obtain ⟨⟨first, rest⟩, parted⟩ : ∃ parts, text.span (fun c => decide (c ≠ '.')) = parts := ⟨_, rfl⟩
    obtain ⟨rfl, _, stops⟩ := span_eq_iff.1 parted
    simp only [readMantissa?, parted] at read
    split at read
    · cases read
    · rename_i accepted
      simp only [Bool.or_eq_true, Bool.and_eq_true, List.isEmpty_iff, Bool.not_eq_true', not_or, Bool.not_eq_false,
        List.all_eq_true] at accepted
      obtain ⟨⟨some_digit, wholeDigits⟩, fractionDigits⟩ := accepted
      cases read
      have isDigit : ∀ c ∈ whole ++ rest.drop 1, c.isDigit = true :=
        List.forall_mem_append.2 ⟨wholeDigits, fractionDigits⟩
      have nonempty : whole ++ rest.drop 1 ≠ [] := fun empty => some_digit (List.append_eq_nil_iff.1 empty)
      cases rest with
      | nil => exact ⟨⟨whole, none, isDigit, nonempty⟩, rfl, rfl, rfl⟩
      | cons c digits =>
        obtain rfl : c = '.' := by simpa using stops c rfl
        exact ⟨⟨whole, some digits, isDigit, nonempty⟩, rfl, rfl, rfl⟩
  · rintro ⟨⟨whole, fraction, isDigit, nonempty⟩, rfl, rfl, rfl⟩
    obtain ⟨wholeDigits, fractionDigits⟩ := List.forall_mem_append.1 isDigit
    have parted : (whole ++ Mantissa.pointed fraction).span (fun c => decide (c ≠ '.')) =
        (whole, Mantissa.pointed fraction) := by
      refine span_eq_iff.2 ⟨rfl, fun c member => by simpa using isDigit_ne_point (wholeDigits c member), ?_⟩
      cases fraction <;> simp [Mantissa.pointed]
    have behind : (Mantissa.pointed fraction).drop 1 = fraction.getD [] := by cases fraction <;> rfl
    have someDigit : (whole.isEmpty && (fraction.getD []).isEmpty) = false := by
      rw [Bool.eq_false_iff]
      intro empty
      simp only [Bool.and_eq_true, List.isEmpty_iff] at empty
      exact nonempty (List.append_eq_nil_iff.2 empty)
    simp only [readMantissa?, Mantissa.spelling, Mantissa.places, parted, behind, someDigit,
      List.all_eq_true.2 wholeDigits, List.all_eq_true.2 fractionDigits]
    rfl

theorem readExponent?_eq_some_iff {text : List Char} {n : Int} {mark : Char} (isMark : mark = 'e' ∨ mark = 'E') :
    readExponent? text = some n ↔
      ∃ exponent : WrittenExponent, mark :: text = exponent.spelling ∧ n = exponent.value := by
  simp only [readExponent?, Option.filter_eq_some_iff, readInt?_eq_some_iff, decide_eq_true_eq]
  constructor
  · rintro ⟨⟨sign, digits, rfl, nonempty, isDigit, rfl⟩, bounded⟩
    exact ⟨⟨mark, sign, digits, isMark, isDigit, nonempty, bounded⟩, rfl, rfl⟩
  · rintro ⟨⟨mark, sign, digits, _, isDigit, nonempty, bounded⟩, same, rfl⟩
    exact ⟨⟨sign, digits, (List.cons.inj same).2, nonempty, isDigit, rfl⟩, bounded⟩

theorem int32?_eq_some_iff {n m : Int} : int32? n = some m ↔ m = n ∧ -2 ^ 31 ≤ n ∧ n < 2 ^ 31 := by
  unfold int32?
  split
  · rw [Option.some.injEq]
    omega
  · simp only [reduceCtorEq, false_iff]
    omega

theorem lastPlace?_eq_some_iff {power place : Int} {places : Nat} (bounded : power.natAbs ≤ maxExponent) :
    lastPlace? power places = some place ↔
      place = power - places ∧ places < 2 ^ 31 ∧ -2 ^ 31 ≤ power - places := by
  have bounded : power.natAbs ≤ 4096 := bounded
  simp only [lastPlace?, Option.bind_eq_bind, Option.bind_eq_some_iff, int32?_eq_some_iff]
  constructor
  · rintro ⟨_, ⟨rfl, _, _⟩, rfl, _, _⟩
    omega
  · rintro ⟨rfl, short, low⟩
    exact ⟨places, ⟨rfl, by omega, by omega⟩, rfl, low, by omega⟩

/-! ### Reading literals -/

/-- Behind a mantissa stands an exponent or nothing. -/
theorem readPower?_eq_some_iff {rest : List Char} (marked : ∀ c ∈ rest.head?, isExponentMark c = true) {power : Int} :
    readPower? rest = some power ↔
      ∃ exponent : Option WrittenExponent,
        rest = (exponent.map (·.spelling)).getD [] ∧ power = (exponent.map (·.value)).getD 0 := by
  constructor
  · intro read
    cases rest with
    | nil => exact ⟨none, rfl, (Option.some.inj read).symm⟩
    | cons mark text =>
      have isMark := isExponentMark_iff.1 (marked mark rfl)
      obtain ⟨exponent, spelled, value⟩ := (readExponent?_eq_some_iff isMark).1 read
      exact ⟨some exponent, spelled, value⟩
  · rintro ⟨exponent, rfl, rfl⟩
    cases exponent with
    | none => rfl
    | some exponent => exact (readExponent?_eq_some_iff exponent.isMark).2 ⟨exponent, rfl, rfl⟩

theorem Literal.natAbs_power_le (literal : Literal) : literal.power.natAbs ≤ maxExponent := by
  unfold power
  cases literal.exponent with
  | none => exact Nat.zero_le _
  | some exponent => exact exponent.bounded

/-- An unsigned literal is read part by part. -/
theorem readUnsigned?_eq_some_iff {text : List Char} {value : Rat} :
    readUnsigned? text = some value ↔
      ∃ literal : Literal, literal.sign = .absent ∧ text = literal.spelling ∧ literal.Fits ∧ literal.value = value := by
  have parts {first rest : List Char} (parted : text.span (!isExponentMark ·) = (first, rest)) :
      readUnsigned? text = some value ↔
        ∃ power, readPower? rest = some power ∧
          ∃ whole places, readMantissa? first = some (whole, places) ∧
            ∃ place, lastPlace? power places.length = some place ∧ scaled (whole ++ places) place = value := by
    simp only [readUnsigned?, parted, Option.bind_eq_bind, Option.bind_eq_some_iff, Prod.exists, Option.pure_def,
      Option.some.injEq]
  constructor
  · intro read
    obtain ⟨⟨first, rest⟩, parted⟩ : ∃ split, text.span (!isExponentMark ·) = split := ⟨_, rfl⟩
    obtain ⟨same, _, stops⟩ := span_eq_iff.1 parted
    have marked : ∀ c ∈ rest.head?, isExponentMark c = true := by simpa using stops
    obtain ⟨power, readPower, whole, places, readMantissa, place, fits, rfl⟩ := (parts parted).1 read
    obtain ⟨exponent, rfl, rfl⟩ := (readPower?_eq_some_iff marked).1 readPower
    obtain ⟨mantissa, rfl, rfl, rfl⟩ := readMantissa?_eq_some_iff.1 readMantissa
    let literal : Literal := ⟨.absent, mantissa, exponent⟩
    obtain ⟨rfl, short, low⟩ := (lastPlace?_eq_some_iff literal.natAbs_power_le).1 fits
    exact ⟨literal, rfl, same, ⟨short, low⟩, rfl⟩
  · rintro ⟨⟨sign, mantissa, exponent⟩, rfl, rfl, ⟨short, low⟩, rfl⟩
    let literal : Literal := ⟨.absent, mantissa, exponent⟩
    have parted : literal.spelling.span (!isExponentMark ·) =
        (mantissa.spelling, (exponent.map (·.spelling)).getD []) := by
      refine span_eq_iff.2 ⟨rfl, fun c member => ?_, ?_⟩
      · rw [not_isExponentMark (mantissa.isUnsignedChar c member)]
        rfl
      · cases exponent with
        | none => simp
        | some exponent =>
          intro c isHead
          obtain rfl : exponent.mark = c := Option.some.inj isHead
          simp [isExponentMark_iff.2 exponent.isMark]
    have marked : ∀ c ∈ ((exponent.map (·.spelling)).getD []).head?, isExponentMark c = true := by
      simpa using (span_eq_iff.1 parted).2.2
    refine (parts parted).2 ⟨literal.power, (readPower?_eq_some_iff marked).2 ⟨exponent, rfl, rfl⟩, ?_⟩
    refine ⟨_, _, readMantissa?_eq_some_iff.2 ⟨mantissa, rfl, rfl, rfl⟩, literal.lastPlace, ?_, rfl⟩
    exact (lastPlace?_eq_some_iff literal.natAbs_power_le).2 ⟨rfl, short, low⟩

theorem IsUnsignedChar.ne_sign {c : Char} (h : IsUnsignedChar c) : c ≠ '-' ∧ c ≠ '+' := by
  rcases h with digit | rfl
  · exact isDigit_ne_sign digit
  · decide

theorem Mantissa.spelling_ne_nil (mantissa : Mantissa) : mantissa.spelling ≠ [] := by
  intro empty
  obtain ⟨noWhole, noPoint⟩ := List.append_eq_nil_iff.1 empty
  refine mantissa.nonempty ?_
  cases point : mantissa.fraction with
  | none => simp [noWhole]
  | some digits =>
    rw [point] at noPoint
    cases noPoint

/-- A literal begins with its sign and goes on with its mantissa. -/
theorem splitSign_literal (literal : Literal) :
    splitSign literal.spelling =
      (decide (literal.sign = .minus), ({ literal with sign := .absent } : Literal).spelling) := by
  refine splitSign_spelling literal.sign fun c isHead => ?_
  obtain ⟨first, rest, same⟩ := List.exists_cons_of_ne_nil literal.mantissa.spelling_ne_nil
  rw [same, List.cons_append, List.head?_cons, Option.mem_some_iff] at isHead
  exact (literal.mantissa.isUnsignedChar c (by simp [same, isHead])).ne_sign

/-- The sign of a literal is the sign of its value. -/
theorem Literal.value_eq (literal : Literal) :
    literal.value =
      if decide (literal.sign = .minus) then -({ literal with sign := .absent } : Literal).value
      else ({ literal with sign := .absent } : Literal).value := by
  obtain ⟨sign, mantissa, exponent⟩ := literal
  cases sign <;> simp [value, Sign.apply, lastPlace, power]

/-- A text is a literal exactly if what counts of it is spelled as one that fits. -/
theorem parse?_eq_some_iff {text : String} {value : Rat} :
    parse? text = some value ↔
      ∃ literal : Literal, bare text.toList = literal.spelling ∧ literal.Fits ∧ literal.value = value := by
  have parts : parse? text = some value ↔
      ∃ magnitude, readUnsigned? (splitSign (bare text.toList)).2 = some magnitude ∧
        (if (splitSign (bare text.toList)).1 then -magnitude else magnitude) = value := by
    simp only [parse?, Option.bind_eq_bind, Option.bind_eq_some_iff, Option.pure_def, Option.some.injEq]
    rfl
  rw [parts]
  constructor
  · rintro ⟨magnitude, read, rfl⟩
    obtain ⟨sign, spelled, negative⟩ := splitSign_spelled (bare text.toList)
    obtain ⟨⟨_, mantissa, exponent⟩, rfl, rest, fits, rfl⟩ := readUnsigned?_eq_some_iff.1 read
    refine ⟨⟨sign, mantissa, exponent⟩, ?_, fits, ?_⟩
    · rw [spelled, rest]
      rfl
    · rw [Literal.value_eq, negative]
  · rintro ⟨literal, spelled, fits, rfl⟩
    rw [spelled, splitSign_literal, Literal.value_eq literal]
    exact ⟨_, readUnsigned?_eq_some_iff.2 ⟨{ literal with sign := .absent }, rfl, rfl, fits, rfl⟩, rfl⟩

/-! ### Short texts -/

theorem Literal.spelling_ne_nil (literal : Literal) : literal.spelling ≠ [] := by
  intro empty
  obtain ⟨_, rest⟩ := List.append_eq_nil_iff.1 empty
  exact literal.mantissa.spelling_ne_nil (List.append_eq_nil_iff.1 rest).1

theorem Mantissa.length_places_le (mantissa : Mantissa) :
    mantissa.places.length ≤ mantissa.spelling.length := by
  unfold places spelling
  cases mantissa.fraction with
  | none => exact Nat.zero_le _
  | some digits =>
    simp only [Option.getD_some, pointed, List.length_append, List.length_cons]
    omega

/-- A literal that is not spelled at enormous length fits. -/
theorem Literal.fits_of_length {literal : Literal} (short : literal.spelling.length < 2 ^ 30) : literal.Fits := by
  have places := literal.mantissa.length_places_le
  have power : literal.power.natAbs ≤ 4096 := literal.natAbs_power_le
  simp only [spelling, List.length_append] at short
  unfold Fits lastPlace
  omega

theorem length_bare_le (text : List Char) : (bare text).length ≤ text.length :=
  (List.length_filter_le _ _).trans (Text.trim_sublist text).length_le

end Circuitry.Decimal
