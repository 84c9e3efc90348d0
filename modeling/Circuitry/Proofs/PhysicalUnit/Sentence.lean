import Circuitry.Proofs.Decimal.Grammar
import Circuitry.Proofs.PhysicalUnit.Reading

/-!
# The texts that are unit expressions

A text is read to the end exactly if it is a sentence of the grammar whose phrase has a value, and then it
denotes that value. One direction reads the spelling of a phrase. For the other, the part of a text that
has been read is at every point the start of a sentence, of the form that the stage of the reading says.
-/

set_option autoImplicit false

namespace Circuitry.UnitExpression

variable {catalog : Catalog}

/-! ### Evaluation finds the value -/

theorem bind_eq_ok {α β : Type} {first : Except UnitError α} {next : α → Except UnitError β} {result : β} :
    (first >>= next) = .ok result ↔ ∃ value, first = .ok value ∧ next value = .ok result := by
  cases first with
  | error error => simp
  | ok value => simp

theorem named_eq_ok {name : String} {unit : PhysicalUnit} :
    named catalog name = .ok unit ↔ catalog.find? name = some unit := by
  unfold named
  split <;> simp_all

theorem raised_eq_ok {base unit : PhysicalUnit} {text : List Char} :
    raised base text = .ok unit ↔ ∃ exponent, exponent? text = some exponent ∧ base.pow? exponent = some unit := by
  unfold raised
  rw [← Option.bind_eq_some_iff]
  cases h : (exponent? text).bind base.pow? <;> simp

theorem combined_mul_eq_ok {product factor unit : PhysicalUnit} :
    combined (some (product, .mul)) factor = .ok unit ↔ product.mul? factor = some unit := by
  unfold combined
  cases h : product.mul? factor <;> simp [h]

theorem combined_div_eq_ok {product factor unit : PhysicalUnit} :
    combined (some (product, .div)) factor = .ok unit ↔ product.div? factor = some unit := by
  unfold combined
  cases h : product.div? factor <;> simp [h]

/-- A written exponent is the signed value of its digits, if that is in range. -/
theorem exponent?_spelling (sign : Sign) {digits : List Char} (nonempty : digits ≠ [])
    (isDigit : ∀ c ∈ digits, c.isDigit = true) :
    exponent? (sign.spelling ++ digits) = Exponent.ofInt? (sign.apply (Decimal.digitsValue digits)) := by
  have read := Decimal.readInt?_eq_some_iff.2 ⟨sign, digits, rfl, nonempty, isDigit, rfl⟩
  rw [exponent?, read, Option.bind_some]

/-- Evaluation gives the value of a phrase whenever there is one. -/
theorem Spells.evaluate_eq_ok_iff {category : Category} {phrase : Phrase category} {text : List Char}
    (spells : Spells phrase text) {unit : PhysicalUnit} :
    phrase.evaluate catalog = .ok unit ↔ phrase.value? catalog = some unit := by
  induction spells generalizing unit with
  | group _ _ _ ih => exact ih
  | one _ _ => simp [Phrase.evaluate, Phrase.value?]
  | name _ _ _ _ => exact named_eq_ok
  | plain _ ih => exact ih
  | raised _ _ nonempty isDigit _ ih =>
    simp only [Phrase.evaluate, Phrase.value?, bind_eq_ok, Option.bind_eq_bind, Option.bind_eq_some_iff, ih,
      raised_eq_ok, exponent?_spelling _ nonempty isDigit]
  | single _ ih => exact ih
  | times _ _ _ left right =>
    simp only [Phrase.evaluate, Phrase.value?, bind_eq_ok, Option.bind_eq_bind, Option.bind_eq_some_iff, left,
      right, combined_mul_eq_ok]
  | per _ _ left right =>
    simp only [Phrase.evaluate, Phrase.value?, bind_eq_ok, Option.bind_eq_bind, Option.bind_eq_some_iff, left,
      right, combined_div_eq_ok]

/-! ### What has been read

The prefix of a text that leads to a reading falls into what stands outside the innermost open group, up to
its parenthesis, and what stands inside. -/

/-- A text inside a group that a power may follow: nothing, or a product and an operator. -/
def Opens (text : List Char) : Prop :=
  text = [] ∨ ∃ product c, Sentence .product product ∧ (c = '/' ∨ IsTimes c) ∧ text = product ++ [c]

/-- The texts inside a group that lead to a stage. -/
inductive Inside : List Char → Stage → Prop where
  | expecting {before blanks : List Char} : Opens before → Blank blanks →
      Inside (before ++ blanks) .expecting
  | naming {before blanks reversed : List Char} : Opens before → Blank blanks → reversed ≠ [] →
      (∀ c ∈ reversed, isNameChar c = true) →
      Inside (before ++ (blanks ++ reversed.reverse)) (.naming reversed)
  | based {before atom : List Char} {base : PhysicalUnit} : Opens before → Sentence .atom atom →
      Inside (before ++ atom) (.based base)
  | raising {before atom blanks : List Char} {base : PhysicalUnit} : Opens before →
      Sentence .atom atom → Blank blanks → Inside (before ++ (atom ++ '^' :: blanks)) (.raising base)
  | counting {before atom blanks digits reversed : List Char} {sign : Sign} {base : PhysicalUnit} :
      Opens before → Sentence .atom atom → Blank blanks → (∀ c ∈ digits, c.isDigit = true) →
      reversed.reverse = sign.spelling ++ digits →
      Inside (before ++ (atom ++ '^' :: (blanks ++ (sign.spelling ++ digits)))) (.counting base reversed)
  | complete {product : List Char} {unit : PhysicalUnit} : Sentence .product product →
      Inside product (.complete unit)

/-- The texts up to the parenthesis of the innermost group, with as many groups open as products wait. -/
inductive Outside : List Char → List Pending → Prop where
  | nil : Outside [] []
  | cons {outside before blanks : List Char} {outer : List Pending} {pending : Pending} :
      Outside outside outer → Opens before → Blank blanks →
      Outside (outside ++ (before ++ (blanks ++ ['(']))) (pending :: outer)

/-- The texts that lead to a reading. -/
def LeadsTo (text : List Char) (reading : Reading) : Prop :=
  ∃ outside inside, text = outside ++ inside ∧ Outside outside reading.outer ∧
    Inside inside reading.stage

/-- A power joins the product that it stands behind. -/
theorem Opens.power {before power : List Char} (opens : Opens before) (sentence : Sentence .power power) :
    Sentence .product (before ++ power) := by
  obtain ⟨factor, spelled⟩ := sentence
  rcases opens with rfl | ⟨product, c, ⟨left, spelledLeft⟩, operator, rfl⟩
  · exact ⟨.single factor, .single spelled⟩
  · rw [List.append_assoc]
    rcases operator with rfl | times
    · exact ⟨.per left factor, .per spelledLeft spelled⟩
    · exact ⟨.times left factor, .times spelledLeft times spelled⟩

theorem Sentence.append_blanks {category : Category} {text blanks : List Char}
    (sentence : Sentence category text) (blank : Blank blanks) : Sentence category (text ++ blanks) := by
  obtain ⟨phrase, spelled⟩ := sentence
  exact ⟨phrase, spelled.append_blanks blank⟩

theorem Sentence.plain {text : List Char} (sentence : Sentence .atom text) : Sentence .power text := by
  obtain ⟨base, spelled⟩ := sentence
  exact ⟨.plain base, .plain spelled⟩

theorem Sentence.name {blanks letters : List Char} (blank : Blank blanks) (nonempty : letters ≠ [])
    (isName : ∀ c ∈ letters, isNameChar c = true) : Sentence .atom (blanks ++ letters) := by
  have spelled := Spells.name blank nonempty isName Blank.nil
  rw [List.append_nil] at spelled
  exact ⟨.name letters, spelled⟩

/-- An exponent that is applied has digits, so that it completes a power. -/
theorem Sentence.raised {atom blanks digits : List Char} {sign : Sign} {base power : PhysicalUnit}
    (sentence : Sentence .atom atom) (blank : Blank blanks) (isDigit : ∀ c ∈ digits, c.isDigit = true)
    (applied : UnitExpression.raised base (sign.spelling ++ digits) = .ok power) :
    Sentence .power (atom ++ '^' :: (blanks ++ (sign.spelling ++ digits))) := by
  obtain ⟨phrase, spelled⟩ := sentence
  have nonempty : digits ≠ [] := by
    rintro rfl
    obtain ⟨exponent, found, _⟩ := raised_eq_ok.1 applied
    have missing : exponent? (sign.spelling ++ []) = none := by cases sign <;> rfl
    rw [missing] at found
    cases found
  have spelledRaised : Spells (.raised phrase sign digits)
      (atom ++ '^' :: (blanks ++ (sign.spelling ++ digits ++ []))) :=
    .raised spelled blank nonempty isDigit Blank.nil
  rw [List.append_nil] at spelledRaised
  exact ⟨.raised phrase sign digits, spelledRaised⟩

section Steps

variable {outside : List Char} {outer : List Pending} {pending : Pending} {stage : Stage}
  {next : Reading} {c : Char} {offset : Nat}

theorem stepExpecting_leadsTo {before blanks : List Char} (around : Outside outside outer)
    (opens : Opens before) (blank : Blank blanks)
    (h : stepExpecting ⟨outer, pending, .expecting⟩ c offset = .ok next) :
    LeadsTo (outside ++ (before ++ (blanks ++ [c]))) next := by
  unfold stepExpecting at h
  split at h
  · rename_i isBlank
    cases h
    exact ⟨_, _, rfl, around, .expecting opens (blank.append (.single isBlank))⟩
  · split at h
    · rename_i bracket
      cases h
      subst bracket
      exact ⟨_, [], (List.append_nil _).symm, .cons around opens blank, .expecting (.inl rfl) .nil⟩
    · split at h
      · rename_i one
        cases h
        subst one
        exact ⟨_, _, rfl, around, .based opens ⟨.one, .one blank .nil⟩⟩
      · split at h
        · rename_i letter
          cases h
          have inside : Inside (before ++ (blanks ++ [c].reverse)) (.naming [c]) :=
            .naming opens blank (by simp) (by simpa using letter)
          exact ⟨_, _, rfl, around, inside⟩
        · cases h

theorem stepComplete_leadsTo {product : List Char} {unit : PhysicalUnit} (around : Outside outside outer)
    (sentence : Sentence .product product)
    (h : stepComplete ⟨outer, pending, stage⟩ unit c offset = .ok next) :
    LeadsTo (outside ++ (product ++ [c])) next := by
  unfold stepComplete at h
  split at h
  · rename_i isBlank
    cases h
    exact ⟨_, _, rfl, around, .complete (sentence.append_blanks (.single isBlank))⟩
  · split at h
    · rename_i times
      cases h
      have operator : c = '/' ∨ IsTimes c := .inr (by simpa [IsTimes] using times)
      refine ⟨_, _, rfl, around, ?_⟩
      simpa using Inside.expecting (.inr ⟨product, c, sentence, operator, rfl⟩) .nil
    · split at h
      · rename_i per
        cases h
        refine ⟨_, _, rfl, around, ?_⟩
        simpa using Inside.expecting (.inr ⟨product, c, sentence, .inl per, rfl⟩) .nil
      · split at h
        · rename_i waiting _ _ _
          cases h
          subst waiting
          -- The parenthesis closes the innermost group, which becomes an atom of the one around it.
          cases around with
          | @cons outside before blanks _ _ around opens blank =>
            obtain ⟨phrase, spelled⟩ := sentence
            refine ⟨outside, before ++ (blanks ++ '(' :: (product ++ ')' :: [])), ?_, around, ?_⟩
            · simp
            · exact .based opens ⟨.group phrase, .group blank spelled .nil⟩
        · cases h

theorem stepBased_leadsTo {before atom : List Char} {base : PhysicalUnit}
    (around : Outside outside outer) (opens : Opens before) (sentence : Sentence .atom atom)
    (h : stepBased ⟨outer, pending, stage⟩ base c offset = .ok next) :
    LeadsTo (outside ++ (before ++ (atom ++ [c]))) next := by
  unfold stepBased at h
  split at h
  · rename_i isBlank
    cases h
    exact ⟨_, _, rfl, around, .based opens (sentence.append_blanks (.single isBlank))⟩
  · split at h
    · rename_i caret
      cases h
      subst caret
      exact ⟨_, _, rfl, around, .raising opens sentence .nil⟩
    · obtain ⟨product, _, h⟩ := bind_eq_ok.1 h
      rw [← List.append_assoc before]
      exact stepComplete_leadsTo around (opens.power sentence.plain) h

theorem stepRaising_leadsTo {before atom blanks : List Char} {base : PhysicalUnit}
    (around : Outside outside outer) (opens : Opens before) (sentence : Sentence .atom atom)
    (blank : Blank blanks)
    (h : stepRaising ⟨outer, pending, .raising base⟩ base c offset = .ok next) :
    LeadsTo (outside ++ (before ++ (atom ++ '^' :: (blanks ++ [c])))) next := by
  unfold stepRaising at h
  split at h
  · rename_i isBlank
    cases h
    exact ⟨_, _, rfl, around, .raising opens sentence (blank.append (.single isBlank))⟩
  · split at h
    · rename_i opening
      cases h
      simp only [Bool.or_eq_true, decide_eq_true_eq] at opening
      -- an exponent begins with its sign or with its first digit
      have counting : ∀ (sign : Sign) (digits : List Char), (∀ d ∈ digits, d.isDigit = true) →
          sign.spelling ++ digits = [c] →
          Inside (before ++ (atom ++ '^' :: (blanks ++ [c]))) (.counting base [c]) := by
        intro sign digits isDigit spelled
        have inside : Inside (before ++ (atom ++ '^' :: (blanks ++ (sign.spelling ++ digits)))) (.counting base [c]) :=
          .counting opens sentence blank isDigit spelled.symm
        rwa [spelled] at inside
      refine ⟨_, _, rfl, around, ?_⟩
      rcases opening with (rfl | rfl) | digit
      · exact counting .minus [] (by simp) rfl
      · exact counting .plus [] (by simp) rfl
      · exact counting .absent [c] (by simpa using digit) rfl
    · cases h

/-- One character further, the text read leads to the next reading. -/
theorem step_leadsTo {text : List Char} {reading : Reading} (leads : LeadsTo text reading)
    (h : step catalog reading c offset = .ok next) : LeadsTo (text ++ [c]) next := by
  obtain ⟨outer, pending, stage⟩ := reading
  obtain ⟨outside, inside, rfl, around, within⟩ := leads
  cases within with
  | expecting opens blank => simpa using stepExpecting_leadsTo around opens blank h
  | @naming before blanks reversed opens blank nonempty isName =>
    simp only [step] at h
    split at h
    · rename_i letter
      cases h
      have longer := Inside.naming opens blank (by simp) (List.forall_mem_cons.2 ⟨letter, isName⟩)
      exact ⟨outside, _, by simp, around, longer⟩
    · obtain ⟨base, _, h⟩ := bind_eq_ok.1 h
      have atom : Sentence .atom (blanks ++ reversed.reverse) :=
        .name blank (by simpa using nonempty) (by simpa using isName)
      simpa using stepBased_leadsTo around opens atom h
  | based opens sentence => simpa using stepBased_leadsTo around opens sentence h
  | raising opens sentence blank => simpa using stepRaising_leadsTo around opens sentence blank h
  | @counting before atom blanks digits reversed sign base opens sentence blank isDigit written =>
    simp only [step] at h
    split at h
    · rename_i digit
      cases h
      have all : ∀ d ∈ digits ++ [c], d.isDigit = true := by
        simpa [or_imp, forall_and] using ⟨isDigit, digit⟩
      have longer : (c :: reversed).reverse = sign.spelling ++ (digits ++ [c]) := by
        rw [List.reverse_cons, written, List.append_assoc]
      exact ⟨outside, _, by simp, around, .counting opens sentence blank all longer⟩
    · obtain ⟨power, applied, h⟩ := bind_eq_ok.1 h
      obtain ⟨product, _, h⟩ := bind_eq_ok.1 h
      rw [written] at applied
      simpa using stepComplete_leadsTo around (opens.power (sentence.raised blank isDigit applied)) h
  | complete sentence => simpa using stepComplete_leadsTo around sentence h

end Steps

/-- Reading on leads from what has been read to the whole of it. -/
theorem run_leadsTo {text rest : List Char} {reading last : Reading} {offset : Nat}
    (leads : LeadsTo text reading) (h : run catalog reading offset rest = .ok last) :
    LeadsTo (text ++ rest) last := by
  induction rest generalizing text reading offset with
  | nil =>
    cases h
    rw [List.append_nil]
    exact leads
  | cons c rest ih =>
    obtain ⟨next, read, h⟩ := bind_eq_ok.1 h
    have further := ih (step_leadsTo leads read) h
    rwa [List.append_assoc] at further

/-- The product of the innermost group, if the text inside it can end at a stage. -/
def ended (catalog : Catalog) (pending : Pending) : Stage → Except UnitError PhysicalUnit
  | .expecting => .error .unexpectedEnd
  | .naming reversed => named catalog (String.ofList reversed.reverse) >>= combined pending
  | .based base => combined pending base
  | .raising _ => .error .unexpectedEnd
  | .counting base reversed => raised base reversed.reverse >>= combined pending
  | .complete product => .ok product

/-- A reading finishes with what its stage ends with, if no group is open. -/
theorem finish_eq (outer : List Pending) (pending : Pending) (stage : Stage) :
    finish catalog ⟨outer, pending, stage⟩ =
      (ended catalog pending stage >>= fun product =>
        if outer.isEmpty then .ok product else .error .unexpectedEnd) := by
  cases stage <;> simp only [finish, ended, bind_assoc]

/-- A reading ends outside every group, where its stage ends. -/
theorem finish_eq_ok {outer : List Pending} {pending : Pending} {stage : Stage} {unit : PhysicalUnit}
    (h : finish catalog ⟨outer, pending, stage⟩ = .ok unit) :
    outer = [] ∧ ended catalog pending stage = .ok unit := by
  rw [finish_eq] at h
  obtain ⟨product, found, h⟩ := bind_eq_ok.1 h
  by_cases closed : outer.isEmpty = true
  · rw [if_pos closed] at h
    cases h
    exact ⟨List.isEmpty_iff.1 closed, found⟩
  · rw [if_neg closed] at h
    cases h

/-- What stands inside a group that can end is a product. -/
theorem Inside.product {text : List Char} {pending : Pending} {stage : Stage} {unit : PhysicalUnit}
    (inside : Inside text stage) (ended : ended catalog pending stage = .ok unit) :
    Sentence .product text := by
  cases inside with
  | expecting _ _ => cases ended
  | naming opens blank nonempty isName =>
    have atom := Sentence.name blank (List.reverse_ne_nil_iff.2 nonempty)
      (fun c member => isName c (List.mem_reverse.1 member))
    exact opens.power atom.plain
  | based opens sentence => exact opens.power sentence.plain
  | raising _ _ _ => cases ended
  | counting opens sentence blank isDigit written =>
    obtain ⟨power, applied, _⟩ := bind_eq_ok.1 ended
    rw [written] at applied
    exact opens.power (sentence.raised blank isDigit applied)
  | complete sentence => exact sentence

end Circuitry.UnitExpression

namespace Circuitry

open UnitExpression

/-- Only the sentences of the grammar are read to the end. -/
theorem Catalog.sentence_of_parse {catalog : Catalog} {text : String} {unit : PhysicalUnit}
    (h : catalog.parse text = .ok unit) : Sentence .product text.toList := by
  unfold Catalog.parse at h
  split at h
  · cases h
  · obtain ⟨⟨outer, pending, stage⟩, read, ended⟩ := bind_eq_ok.1 h
    have start : LeadsTo [] .start := ⟨[], [], rfl, .nil, .expecting (.inl rfl) .nil⟩
    obtain ⟨outside, inside, same, around, within⟩ := run_leadsTo start read
    obtain ⟨rfl, complete⟩ := finish_eq_ok ended
    cases around with
    | nil =>
      rw [List.nil_append, List.nil_append] at same
      rw [same]
      exact within.product complete

/-- A text denotes a unit exactly if it spells a product of the grammar with that value: every name is in the
catalog, every exponent is in range, and evaluation from left to right overflows nowhere. -/
theorem Catalog.parse_eq_ok_iff (catalog : Catalog) (text : String) (unit : PhysicalUnit) :
    catalog.parse text = .ok unit ↔
      ∃ sentence : Phrase .product, Spells sentence text.toList ∧ sentence.value? catalog = some unit := by
  constructor
  · intro h
    obtain ⟨sentence, spelled⟩ := sentence_of_parse h
    rw [parse_of_spells spelled] at h
    exact ⟨sentence, spelled, spelled.evaluate_eq_ok_iff.1 h⟩
  · rintro ⟨sentence, spelled, value⟩
    rw [parse_of_spells spelled]
    exact spelled.evaluate_eq_ok_iff.2 value

end Circuitry
