import Circuitry.Proofs.Decimal.Grammar
import Circuitry.Proofs.PhysicalUnit.Reading
import Circuitry.Proofs.Text.Blank
import Circuitry.Quantity.Literal

/-!
# Magnitudes of quantities

A quantity begins with its magnitude. The magnitude is first split from the text, by looking at one character
and its two neighbours at a time, and then read as a decimal literal. Reading passes over underscores wherever
they stand. Splitting does so only where no neighbour matters: an underscore before the sign of a literal or right
behind its exponent mark ends the magnitude there.
-/

set_option autoImplicit false

namespace Circuitry.Quantity

open Decimal UnitExpression

/-! ### Reading magnitudes -/

theorem parseMagnitude_of_parse? {text : String} {value : Rat} (read : parse? text = some value) :
    parseMagnitude text = .ok value := by
  simp [parseMagnitude, read]

theorem parseMagnitude_of_none {text : String} (missing : parse? text = none) :
    parseMagnitude text = .error (.invalidNumber text) := by
  simp [parseMagnitude, missing]

theorem parseMagnitude_eq_ok_iff {text : String} {value : Rat} :
    parseMagnitude text = .ok value ↔ parse? text = some value := by
  cases read : parse? text with
  | none => simp [parseMagnitude_of_none read]
  | some other => simp [parseMagnitude_of_parse? read]

/-- Of texts below a length, exactly those are magnitudes of which a literal is spelled by what counts, and they
denote the value of the literal. Every other text is reported as it was given. -/
theorem parseMagnitude_exact {text : String} (short : text.length < 2 ^ 30) :
    (∀ value, parseMagnitude text = .ok value ↔
      ∃ literal : Literal, bare text.toList = literal.spelling ∧ literal.value = value) ∧
    ((¬ ∃ literal : Literal, bare text.toList = literal.spelling) →
      parseMagnitude text = .error (.invalidNumber text)) := by
  have fits {literal : Literal} (spelled : bare text.toList = literal.spelling) : literal.Fits := by
    refine Literal.fits_of_length ?_
    have length := length_bare_le text.toList
    rw [spelled, String.length_toList] at length
    omega
  constructor
  · intro value
    rw [parseMagnitude_eq_ok_iff, parse?_eq_some_iff]
    constructor
    · rintro ⟨literal, spelled, _, same⟩
      exact ⟨literal, spelled, same⟩
    · rintro ⟨literal, spelled, same⟩
      exact ⟨literal, spelled, fits spelled, same⟩
  · intro notLiteral
    refine parseMagnitude_of_none (Option.eq_none_iff_forall_ne_some.2 fun value read => ?_)
    obtain ⟨literal, spelled, _, _⟩ := parse?_eq_some_iff.1 read
    exact notLiteral ⟨literal, spelled⟩

theorem parseMagnitude_eighth :
    " -1_2.5E_-2 ".length < 2 ^ 30 ∧ parseMagnitude " -1_2.5E_-2 " = .ok (-1 / 8) := by
  have length : " -1_2.5E_-2 ".length = 12 := by rfl
  have short : " -1_2.5E_-2 ".length < 2 ^ 30 := by omega
  let literal : Literal :=
    { sign := .minus
      mantissa := ⟨['1', '2'], some ['5'], List.all_eq_true.1 (by decide), by decide⟩
      exponent := some ⟨'E', .minus, ['2'], .inr rfl, List.all_eq_true.1 (by decide), by decide, by decide⟩ }
  have spelled : bare " -1_2.5E_-2 ".toList = literal.spelling := by decide
  have value : literal.value = -1 / 8 := by
    have digits : digitsValue literal.mantissa.digits = 125 := by decide
    have place : literal.lastPlace = -3 := by decide
    rw [Literal.value, digits, place]
    change ((-(125 : Nat) : Int) : Rat) * _ = _
    norm_num
  exact ⟨short, ((parseMagnitude_exact short).1 _).2 ⟨literal, spelled, value⟩⟩

/-! ### Splitting -/

/-- A character that belongs to a magnitude wherever it stands. -/
def IsPlain (c : Char) : Prop := IsUnsignedChar c ∨ c = '_'

theorem inMagnitude_plain {c : Char} (plain : IsPlain c) (before after : Option Char) :
    inMagnitude before c after = true := by
  rcases plain with (digit | rfl) | rfl
  · simp [inMagnitude, digit]
  · simp [inMagnitude]
  · simp [inMagnitude]

/-- The magnitude takes a run of characters as a whole, and goes on behind it. -/
def Taken (before : Option Char) (run rest : List Char) : Prop :=
  ∀ magnitude unit, splitMagnitude (run.getLast?.or before) rest = (magnitude, unit) →
    splitMagnitude before (run ++ rest) = (run ++ magnitude, unit)

namespace Taken

variable {before : Option Char} {run more rest : List Char}

theorem single {c : Char} (inside : inMagnitude before c rest.head? = true) : Taken before [c] rest := by
  intro magnitude unit split
  rw [List.getLast?_singleton, Option.some_or] at split
  simp [splitMagnitude, inside, split]

theorem append (first : Taken before run (more ++ rest)) (second : Taken (run.getLast?.or before) more rest) :
    Taken before (run ++ more) rest := by
  intro magnitude unit split
  rw [List.getLast?_append, Option.or_assoc] at split
  rw [List.append_assoc, first _ _ (second _ _ split), List.append_assoc]

theorem plain (plain : ∀ c ∈ run, IsPlain c) : Taken before run rest := by
  induction run generalizing before with
  | nil => exact fun magnitude unit split => split
  | cons c run ih =>
    have head : Taken before [c] (run ++ rest) := single (inMagnitude_plain (plain c (by simp)) _ _)
    exact head.append (ih fun d member => plain d (by simp [member]))

/-- A run that is taken is the magnitude if nothing behind it is. -/
theorem split_eq (taken : Taken before run rest)
    (stops : splitMagnitude (run.getLast?.or before) rest = ([], rest)) :
    splitMagnitude before (run ++ rest) = (run, rest) := by
  rw [taken _ _ stops, List.append_nil]

end Taken

theorem splitMagnitude_of_outside {before : Option Char} {c : Char} {rest : List Char}
    (outside : inMagnitude before c rest.head? = false) : splitMagnitude before (c :: rest) = ([], c :: rest) := by
  simp [splitMagnitude, outside]

theorem splitMagnitude_blank {rest : List Char} (ends : ∀ c ∈ rest.head?, c = ' ') (before : Option Char) :
    splitMagnitude before rest = ([], rest) := by
  cases rest with
  | nil => rfl
  | cons c rest =>
    obtain rfl := ends c rfl
    exact splitMagnitude_of_outside (by simp [inMagnitude, isSign, isExponentMark])

/-! ### Literals with underscores -/

theorem sign_cases (sign : Sign) : sign = .absent ∨ ∃ c, sign.spelling = [c] ∧ isSign c = true := by
  cases sign with
  | absent => exact .inl rfl
  | plus => exact .inr ⟨'+', rfl, rfl⟩
  | minus => exact .inr ⟨'-', rfl, rfl⟩

theorem isSign_iff {c : Char} : isSign c = true ↔ c = '-' ∨ c = '+' := by simp [isSign]

/-- Underscores apart, a run of plain characters. -/
theorem isPlain_of_filter {run text : List Char} (spelled : run.filter (· ≠ '_') = text)
    (unsigned : ∀ c ∈ text, IsUnsignedChar c) : ∀ c ∈ run, IsPlain c := by
  intro c member
  by_cases underscore : c = '_'
  · exact .inr underscore
  · exact .inl (unsigned c (spelled ▸ List.mem_filter.2 ⟨member, by simpa using underscore⟩))

/-- A signed number is taken where a sign may stand, unless an underscore comes before its sign. -/
theorem Taken.signed {before : Option Char} {run rest text : List Char} {sign : Sign}
    (spelled : run.filter (· ≠ '_') = sign.spelling ++ text) (unsigned : ∀ c ∈ text, IsUnsignedChar c)
    (opens : ∀ c ∈ before, isExponentMark c = true) (first : run.head? = some '_' → sign = .absent) :
    Taken before run rest := by
  rcases sign_cases sign with rfl | ⟨c, written, isSigned⟩
  · exact .plain (isPlain_of_filter spelled unsigned)
  · rw [written, List.singleton_append] at spelled
    obtain ⟨underscores, tail, rfl, isUnderscore, _, tailSpelled⟩ := List.filter_eq_cons_iff.1 spelled
    cases underscores with
    | cons d underscores =>
      obtain rfl : d = '_' := by simpa using isUnderscore d (by simp)
      rw [first rfl] at written
      cases written
    | nil =>
      have inside : inMagnitude before c (tail ++ rest).head? = true := by
        cases before with
        | none => simp [inMagnitude, isSigned]
        | some mark => simp [inMagnitude, isSigned, opens mark rfl]
      have head : Taken before [c] (tail ++ rest) := .single inside
      exact head.append (.plain (isPlain_of_filter tailSpelled unsigned))

/-- No underscore stands before the sign that opens a literal, and none right behind an exponent mark. -/
structure Seamless (text : List Char) : Prop where
  sign_first : ∀ c ∈ (text.filter (· ≠ '_')).head?, isSign c = true → text.head? = some c
  mark_followed : ∀ mark, isExponentMark mark = true → ¬ [mark, '_'] <:+: text

/-- A text that spells a literal with underscores has a signed mantissa, and perhaps a mark and a signed integer. -/
theorem exists_parts {text : List Char} {literal : Literal}
    (spelled : text.filter (· ≠ '_') = literal.spelling) :
    ∃ lead, lead <+: text ∧ lead.filter (· ≠ '_') = literal.sign.spelling ++ literal.mantissa.spelling ∧
      (text = lead ∨ ∃ (exponent : WrittenExponent) (tail : List Char), text = lead ++ exponent.mark :: tail ∧
        tail.filter (· ≠ '_') = exponent.sign.spelling ++ exponent.digits) := by
  rw [Literal.spelling, ← List.append_assoc] at spelled
  obtain ⟨lead, back, rfl, leadSpelled, backSpelled⟩ := List.filter_eq_append_iff.1 spelled
  cases written : literal.exponent with
  | none =>
    refine ⟨lead ++ back, List.prefix_rfl, ?_, .inl rfl⟩
    rw [List.filter_append, leadSpelled, backSpelled, written]
    exact List.append_nil _
  | some exponent =>
    rw [written] at backSpelled
    obtain ⟨underscores, tail, rfl, isUnderscore, _, tailSpelled⟩ := List.filter_eq_cons_iff.1 backSpelled
    have regrouped : lead ++ (underscores ++ exponent.mark :: tail) =
        (lead ++ underscores) ++ exponent.mark :: tail := by simp
    refine ⟨lead ++ underscores, ⟨_, regrouped.symm⟩, ?_, .inr ⟨exponent, tail, regrouped, tailSpelled⟩⟩
    rw [List.filter_append, leadSpelled, List.filter_eq_nil_iff.2 isUnderscore, List.append_nil]

/-- Where a literal has an exponent, its mark is followed by a sign or a digit unless an underscore comes first. -/
theorem follows_mark {tail : List Char} {exponent : WrittenExponent}
    (spelled : tail.filter (· ≠ '_') = exponent.sign.spelling ++ exponent.digits) (next : tail.head? ≠ some '_') :
    ∃ c rest, tail = c :: rest ∧ (c.isDigit = true ∨ isSign c = true) := by
  cases tail with
  | nil =>
    have empty := (List.append_eq_nil_iff.1 spelled.symm).2
    exact absurd empty exponent.nonempty
  | cons c rest =>
    have counts : (decide (c ≠ '_')) = true := by simpa using next
    rw [List.filter_cons, if_pos counts] at spelled
    refine ⟨c, rest, rfl, ?_⟩
    rcases sign_cases exponent.sign with absent | ⟨sign, written, isSigned⟩
    · rw [absent, Sign.spelling, List.nil_append] at spelled
      exact .inl (exponent.isDigit c (spelled ▸ List.mem_cons_self))
    · rw [written] at spelled
      exact .inr ((List.cons.inj spelled).1 ▸ isSigned)

/-- A mark is in the magnitude if it is followed by a sign or a digit. -/
theorem inMagnitude_mark {mark : Char} (isMark : mark = 'e' ∨ mark = 'E') (before after : Option Char) :
    inMagnitude before mark after = after.any fun c => c.isDigit || isSign c := by
  rcases isMark with rfl | rfl <;> simp [inMagnitude, isSign, isExponentMark]

/-- What a literal begins with, up to its exponent, is taken unless an underscore stands before its sign. -/
theorem Taken.lead {text lead : List Char} {literal : Literal}
    (signFirst : ∀ c ∈ (text.filter (· ≠ '_')).head?, isSign c = true → text.head? = some c)
    (spelled : text.filter (· ≠ '_') = literal.spelling) (starts : lead <+: text)
    (leadSpelled : lead.filter (· ≠ '_') = literal.sign.spelling ++ literal.mantissa.spelling) (rest : List Char) :
    Taken none lead rest := by
  refine .signed leadSpelled literal.mantissa.isUnsignedChar (by simp) fun underscore => ?_
  rcases sign_cases literal.sign with absent | ⟨sign, written, isSigned⟩
  · exact absent
  · have opens : (text.filter (· ≠ '_')).head? = some sign := by
      rw [spelled, Literal.spelling, written]
      rfl
    have first := signFirst sign opens isSigned
    obtain ⟨behind, rfl⟩ := starts
    rw [List.head?_append, underscore] at first
    cases first
    cases isSigned

/-- A text without seams that spells a literal is split off as a whole. -/
theorem Seamless.split_eq {text rest : List Char} {literal : Literal} (seamless : Seamless text)
    (spelled : text.filter (· ≠ '_') = literal.spelling) (ends : ∀ c ∈ rest.head?, c = ' ') :
    splitMagnitude none (text ++ rest) = (text, rest) := by
  refine Taken.split_eq ?_ (splitMagnitude_blank ends _)
  obtain ⟨lead, starts, leadSpelled, parts⟩ := exists_parts spelled
  have leadTaken := Taken.lead seamless.sign_first spelled starts leadSpelled
  rcases parts with rfl | ⟨exponent, tail, rfl, tailSpelled⟩
  · exact leadTaken rest
  · have isMark : isExponentMark exponent.mark = true := isExponentMark_iff.2 exponent.isMark
    have next : tail.head? ≠ some '_' := by
      intro underscore
      obtain ⟨after, rfl⟩ := List.head?_eq_some_iff.1 underscore
      exact seamless.mark_followed exponent.mark isMark ⟨lead, after, by simp⟩
    obtain ⟨c, after, rfl, follows⟩ := follows_mark tailSpelled next
    have inside (before : Option Char) : inMagnitude before exponent.mark ((c :: after) ++ rest).head? = true := by
      rw [inMagnitude_mark exponent.isMark]
      simpa using follows
    have tailTaken : Taken (some exponent.mark) (c :: after) rest :=
      .signed tailSpelled (fun d member => .inl (exponent.isDigit d member)) (by simpa using isMark)
        (fun underscore => absurd underscore next)
    have marked : Taken (lead.getLast?.or none) [exponent.mark] ((c :: after) ++ rest) := .single (inside _)
    exact (leadTaken _).append (marked.append tailTaken)

/-! ### Quantities without a unit -/

/-- A text whose magnitude is a number is a quantity in the unit behind it. -/
theorem parse_of_split {text : String} {magnitude unit : List Char} {value : Rat}
    (split : splitMagnitude none (Text.trim text.toList) = (magnitude, unit))
    (read : parse? (String.ofList magnitude) = some value) :
    Quantity.parse text =
      if unit.all Text.isBlank then .ok (ofNumber value)
      else
        match Catalog.standard.parse (String.ofList unit) with
        | .ok parsed => .ok ⟨value, parsed⟩
        | .error error => .error (.unit error) := by
  simp only [Quantity.parse, Catalog.parseQuantity, split, parseMagnitude_of_parse? read]
  rfl

/-- A text whose magnitude is no number is no quantity. -/
theorem parse_of_split_none {text : String} {magnitude unit : List Char}
    (split : splitMagnitude none (Text.trim text.toList) = (magnitude, unit))
    (missing : parse? (String.ofList magnitude) = none) :
    Quantity.parse text = .error (.invalidNumber (String.ofList magnitude)) := by
  simp only [Quantity.parse, Catalog.parseQuantity, split, parseMagnitude_of_none missing]
  rfl

/-- Blanks around a text play no part in what it counts as. -/
theorem parse?_trim (text : String) : parse? (String.ofList (Text.trim text.toList)) = parse? text := by
  simp only [parse?, String.toList_ofList, Text.trim_trim]

/-- No standard unit has the name of an exponent mark. -/
theorem parse_mark_fails {mark : Char} (isMark : mark = 'e' ∨ mark = 'E') (rest : List Char) :
    ∃ error, Catalog.standard.parse (String.ofList (mark :: '_' :: rest)) = .error error := by
  have missing : Catalog.standard.find? (String.ofList [mark]) = none := by
    rcases isMark with rfl | rfl <;> decide +kernel
  have letter : Text.isBlank mark = false ∧ isNameChar mark = true ∧ mark ≠ '(' ∧ mark ≠ '1' := by
    rcases isMark with rfl | rfl <;> decide +kernel
  obtain ⟨notBlank, isName, notBracket, notOne⟩ := letter
  have starts : step Catalog.standard .start mark 0 = .ok ⟨[], none, .naming [mark]⟩ := by
    simp [step, Reading.start, stepExpecting, notBlank, isName, notBracket, notOne]
  have ends : ∀ c ∈ ('_' :: rest).head?, isNameChar c = false := by
    intro c isHead
    obtain rfl : '_' = c := Option.some.inj isHead
    decide +kernel
  have unknown : named Catalog.standard (String.ofList [mark]) =
      .error (.unknownUnit (String.ofList [mark]) (Catalog.standard.suggest (String.ofList [mark]))) := by
    simp only [named, missing]
  have someChar : (String.ofList (mark :: '_' :: rest)).toList.all Text.isBlank = false := by simp [notBlank]
  refine ⟨.unknownUnit (String.ofList [mark]) (Catalog.standard.suggest (String.ofList [mark])), ?_⟩
  simp only [Catalog.parse, someChar, Bool.false_eq_true, if_false]
  change outcome Catalog.standard .start 0 (String.ofList (mark :: '_' :: rest)).toList = _
  rw [String.toList_ofList, outcome_cons_of_step starts, outcome_named ends]
  change (named Catalog.standard (String.ofList [mark]) >>= _) = _
  rw [unknown, error_bind]

/-- Underscores apart, a signed number has no exponent mark in it. -/
theorem not_isExponentMark_of_filter {run text : List Char} {sign : Sign}
    (spelled : run.filter (· ≠ '_') = sign.spelling ++ text) (unsigned : ∀ c ∈ text, IsUnsignedChar c) :
    ∀ c ∈ run, isExponentMark c = false := by
  have signs : ∀ c ∈ sign.spelling, isExponentMark c = false := sign.forall_mem_spelling (by decide) (by decide)
  intro c member
  by_cases underscore : c = '_'
  · rw [underscore]
    decide
  · have counts : c ∈ run.filter (· ≠ '_') := List.mem_filter.2 ⟨member, by simpa using underscore⟩
    rw [spelled] at counts
    rcases List.mem_append.1 counts with inSign | inText
    · exact signs c inSign
    · exact not_isExponentMark (unsigned c inText)

/-- Between texts without a mark, the mark that an underscore follows is the only one. -/
theorem underscore_of_mark {lead tail before after : List Char} {mark other : Char}
    (same : lead ++ mark :: tail = before ++ other :: '_' :: after) (isMark : isExponentMark other = true)
    (leadFree : ∀ c ∈ lead, isExponentMark c = false) (tailFree : ∀ c ∈ tail, isExponentMark c = false) :
    tail = '_' :: after := by
  rcases List.append_eq_append_iff.1 same with ⟨between, _, behind⟩ | ⟨between, split, behind⟩
  · cases between with
    | nil => exact (List.cons.inj behind).2
    | cons c between =>
      have free := tailFree other (by simp [(List.cons.inj behind).2])
      rw [isMark] at free
      cases free
  · cases between with
    | nil => exact (List.cons.inj behind).2.symm
    | cons c between =>
      have free := leadFree other (by simp [split, (List.cons.inj behind).1])
      rw [isMark] at free
      cases free

/-- An underscore before the sign leaves no digits to the magnitude. -/
theorem parse_fails_of_sign {text : String} {c : Char}
    (opens : c ∈ ((Text.trim text.toList).filter (· ≠ '_')).head?) (isSigned : isSign c = true)
    (behind : (Text.trim text.toList).head? ≠ some c) : ∃ error, Quantity.parse text = .error error := by
  obtain ⟨counted, spelled⟩ : ∃ counted, (Text.trim text.toList).filter (· ≠ '_') = c :: counted :=
    List.head?_eq_some_iff.1 opens
  obtain ⟨underscores, rest, same, isUnderscore, _, _⟩ := List.filter_eq_cons_iff.1 spelled
  have isUnderscore : ∀ d ∈ underscores, d = '_' := fun d member => by simpa using isUnderscore d member
  obtain ⟨last, isLast⟩ : ∃ last, underscores.getLast? = some last := by
    cases found : underscores.getLast? with
    | some last => exact ⟨last, rfl⟩
    | none =>
      rw [List.getLast?_eq_none_iff.1 found] at same
      rw [same] at behind
      exact absurd rfl behind
  obtain rfl : last = '_' := isUnderscore last (List.mem_of_mem_getLast? isLast)
  have outside : inMagnitude (underscores.getLast?.or none) c rest.head? = false := by
    rw [isLast]
    rcases isSign_iff.1 isSigned with rfl | rfl <;> simp [inMagnitude, isSign, isExponentMark]
  have taken : Taken none underscores (c :: rest) := .plain fun d member => .inr (isUnderscore d member)
  have split := taken.split_eq (splitMagnitude_of_outside outside)
  rw [← same] at split
  have missing : parse? (String.ofList underscores) = none := by
    refine Option.eq_none_iff_forall_ne_some.2 fun value read => ?_
    obtain ⟨literal, bareSpelled, _, _⟩ := parse?_eq_some_iff.1 read
    rw [String.toList_ofList] at bareSpelled
    have empty : bare underscores = [] := by
      refine List.filter_eq_nil_iff.2 fun d member => ?_
      simpa using isUnderscore d ((Text.trim_sublist underscores).subset member)
    exact literal.spelling_ne_nil (bareSpelled.symm.trans empty)
  exact ⟨_, parse_of_split_none split missing⟩

/-- An underscore behind the exponent mark leaves the mark to the unit. -/
theorem parse_fails_of_mark {text : String} {lead after : List Char} {mark : Char} (isMark : mark = 'e' ∨ mark = 'E')
    (same : Text.trim text.toList = lead ++ mark :: '_' :: after)
    (taken : ∀ rest, Taken none lead rest) : ∃ error, Quantity.parse text = .error error := by
  have outside : inMagnitude (lead.getLast?.or none) mark ('_' :: after).head? = false := by
    rw [inMagnitude_mark isMark]
    simp [isSign]
  have split := (taken _).split_eq (splitMagnitude_of_outside outside)
  rw [← same] at split
  cases read : parse? (String.ofList lead) with
  | none => exact ⟨_, parse_of_split_none split read⟩
  | some value =>
    have markNotBlank : Text.isBlank mark = false := by rcases isMark with rfl | rfl <;> decide
    have notBlank : (mark :: '_' :: after).all Text.isBlank = false := by simp [markNotBlank]
    obtain ⟨error, failed⟩ := parse_mark_fails isMark after
    rw [parse_of_split split read, notBlank, failed]
    exact ⟨_, rfl⟩

/-- A literal with a seam is cut at it. -/
theorem parse_fails_of_seam {text : String} {literal : Literal} (spelled : bare text.toList = literal.spelling)
    (seam : ¬ Seamless (Text.trim text.toList)) : ∃ error, Quantity.parse text = .error error := by
  by_cases signFirst : ∀ c ∈ ((Text.trim text.toList).filter (· ≠ '_')).head?,
      isSign c = true → (Text.trim text.toList).head? = some c
  · obtain ⟨lead, starts, leadSpelled, parts⟩ := exists_parts spelled
    have leadTaken := Taken.lead signFirst spelled starts leadSpelled
    have leadFree := not_isExponentMark_of_filter leadSpelled literal.mantissa.isUnsignedChar
    obtain ⟨mark, isMark, before, after, same⟩ : ∃ mark, isExponentMark mark = true ∧
        [mark, '_'] <:+: Text.trim text.toList := by
      by_contra apart
      exact seam ⟨signFirst, fun mark isMark inside => apart ⟨mark, isMark, inside⟩⟩
    have same : Text.trim text.toList = before ++ mark :: '_' :: after := by simp [← same]
    rcases parts with whole | ⟨exponent, tail, split, tailSpelled⟩
    · have free := leadFree mark (by rw [← whole, same]; simp)
      rw [isMark] at free
      cases free
    · have tailFree := not_isExponentMark_of_filter tailSpelled fun c member => .inl (exponent.isDigit c member)
      have behind := underscore_of_mark (split.symm.trans same) isMark leadFree tailFree
      rw [behind] at split
      exact parse_fails_of_mark exponent.isMark split leadTaken
  · push Not at signFirst
    obtain ⟨c, opens, isSigned, behind⟩ := signFirst
    exact parse_fails_of_sign opens isSigned behind

/-- A text without seams that is a decimal literal is the quantity of that number without a unit. -/
theorem parse_of_seamless {text : String} {value : Rat} (read : parse? text = some value)
    (seamless : Seamless (Text.trim text.toList)) : Quantity.parse text = .ok (ofNumber value) := by
  obtain ⟨literal, spelled, _, _⟩ := parse?_eq_some_iff.1 read
  have ends : ∀ c ∈ ([] : List Char).head?, c = ' ' := by simp
  have split := seamless.split_eq spelled ends
  rw [List.append_nil] at split
  rw [← parse?_trim] at read
  rw [parse_of_split split read]
  rfl

/-- A decimal literal is the quantity of its number exactly if no underscore stands before its sign or right
behind its exponent mark. Any other one is no quantity at all, although it is a literal. -/
theorem parse_literal {text : String} {value : Rat} (read : parse? text = some value) :
    (Quantity.parse text = .ok (ofNumber value) ↔ Seamless (Text.trim text.toList)) ∧
      (¬ Seamless (Text.trim text.toList) → ∃ error, Quantity.parse text = .error error) := by
  obtain ⟨literal, spelled, _, _⟩ := parse?_eq_some_iff.1 read
  refine ⟨⟨fun parsed => ?_, parse_of_seamless read⟩, parse_fails_of_seam spelled⟩
  by_contra seam
  obtain ⟨error, failed⟩ := parse_fails_of_seam spelled seam
  rw [failed] at parsed
  cases parsed

theorem parse_literal_thousandths :
    parse? " -_1_2.5_e-3_ " = some (-1 / 80) ∧ Quantity.parse " -_1_2.5_e-3_ " = .ok (ofNumber (-1 / 80)) := by
  have read : parse? " -_1_2.5_e-3_ " = some (-1 / 80) := by decide +kernel
  have trimmed : Text.trim " -_1_2.5_e-3_ ".toList = "-_1_2.5_e-3_".toList := by decide +kernel
  have seamless : Seamless (Text.trim " -_1_2.5_e-3_ ".toList) := by
    rw [trimmed]
    refine ⟨fun c opens _ => ?_, fun mark isMark => ?_⟩
    · have minus : ("-_1_2.5_e-3_".toList.filter (· ≠ '_')).head? = some '-' := by decide +kernel
      exact minus.symm.trans opens
    · rcases isExponentMark_iff.1 isMark with rfl | rfl <;> decide +kernel
  exact ⟨read, (parse_literal read).1.2 seamless⟩

/-- The number parser passes over the underscore, and the quantity is refused for its unit. -/
theorem mark_parted : parse? "1e_5" = some 100000 ∧ Quantity.parse "1e_5" ≠ .ok (ofNumber 100000) := by
  have read : parse? "1e_5" = some 100000 := by decide +kernel
  obtain ⟨literal, spelled, _, _⟩ := parse?_eq_some_iff.1 read
  have seam : ¬ Seamless (Text.trim "1e_5".toList) := by
    intro seamless
    exact seamless.mark_followed 'e' (by decide) (by decide)
  obtain ⟨error, failed⟩ := parse_fails_of_seam spelled seam
  refine ⟨read, ?_⟩
  rw [failed]
  exact nofun

end Circuitry.Quantity
