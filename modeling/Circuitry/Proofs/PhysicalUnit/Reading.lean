import Circuitry.Proofs.PhysicalUnit.Grammar

/-!
# Reading phrases

What reading the spelling of a phrase does. The reading goes on behind the phrase as the value of the
phrase says, or stops with the error of the evaluation. What follows the phrase must not run into its last
token: a name character would prolong a name, and `^` would take the last atom out of a product.
-/

set_option autoImplicit false

namespace Circuitry.UnitExpression

variable {catalog : Catalog}

/-! ### Evaluation -/

/-- The evaluation of a phrase from left to right, with the error of the first step that fails. -/
def Phrase.evaluate (catalog : Catalog) {category : Category} :
    Phrase category → Except UnitError PhysicalUnit
  | .group inner => inner.evaluate catalog
  | .one => .ok .one
  | .name letters => named catalog (String.ofList letters)
  | .plain base => base.evaluate catalog
  | .raised base sign digits => do
    UnitExpression.raised (← base.evaluate catalog) (sign.spelling ++ digits)
  | .single factor => factor.evaluate catalog
  | .times left right => do
    let product ← left.evaluate catalog
    combined (some (product, .mul)) (← right.evaluate catalog)
  | .per left right => do
    let product ← left.evaluate catalog
    combined (some (product, .div)) (← right.evaluate catalog)

/-! ### Outcomes -/

@[simp] theorem ok_bind {α β : Type} (value : α) (next : α → Except UnitError β) :
    (Except.ok value >>= next) = next value := rfl

@[simp] theorem error_bind {α β : Type} (error : UnitError) (next : α → Except UnitError β) :
    (Except.error error >>= next) = .error error := rfl

/-- The outcome of reading a text from a given reading on, to the end. -/
def outcome (catalog : Catalog) (reading : Reading) (offset : Nat) (text : List Char) :
    Except UnitError PhysicalUnit := do
  finish catalog (← run catalog reading offset text)

/-- The offset behind a text. -/
def past (offset : Nat) (text : List Char) : Nat := text.foldl (fun offset c => offset + c.utf8Size) offset

@[simp] theorem past_nil (offset : Nat) : past offset [] = offset := rfl

@[simp] theorem past_cons (offset : Nat) (c : Char) (text : List Char) :
    past offset (c :: text) = past (offset + c.utf8Size) text := rfl

@[simp] theorem past_append (offset : Nat) (first second : List Char) :
    past offset (first ++ second) = past (past offset first) second := by
  simp only [past, List.foldl_append]

theorem outcome_nil (reading : Reading) (offset : Nat) :
    outcome catalog reading offset [] = finish catalog reading := rfl

theorem outcome_cons (reading : Reading) (offset : Nat) (c : Char) (rest : List Char) :
    outcome catalog reading offset (c :: rest) =
      (step catalog reading c offset >>= fun next => outcome catalog next (offset + c.utf8Size) rest) := by
  simp only [outcome, run, bind_assoc]

/-- A character that leads to a certain reading is read. -/
theorem outcome_cons_of_step {reading next : Reading} {offset : Nat} {c : Char}
    (h : step catalog reading c offset = .ok next) (rest : List Char) :
    outcome catalog reading offset (c :: rest) = outcome catalog next (offset + c.utf8Size) rest := by
  rw [outcome_cons, h]
  rfl

/-- Blanks are skipped wherever one leaves the reading as it is. -/
theorem outcome_blanks {reading : Reading} {blanks : List Char} (blank : Blank blanks)
    (skips : ∀ c offset, Text.isBlank c = true → step catalog reading c offset = .ok reading)
    (offset : Nat) (rest : List Char) :
    outcome catalog reading offset (blanks ++ rest) = outcome catalog reading (past offset blanks) rest := by
  induction blanks generalizing offset with
  | nil => rfl
  | cons c blanks ih =>
    have read := skips c offset (blank c (by simp))
    rw [List.cons_append, outcome_cons_of_step read, ih fun d member => blank d (by simp [member]),
      past_cons]

/-! ### Tokens -/

section Tokens

variable {outer : List Pending} {pending : Pending}

theorem step_expecting_blank (c : Char) (offset : Nat) (blank : Text.isBlank c = true) :
    step catalog ⟨outer, pending, .expecting⟩ c offset = .ok ⟨outer, pending, .expecting⟩ := by
  simp [step, stepExpecting, blank]

theorem step_based_blank {base : PhysicalUnit} (c : Char) (offset : Nat) (blank : Text.isBlank c = true) :
    step catalog ⟨outer, pending, .based base⟩ c offset = .ok ⟨outer, pending, .based base⟩ := by
  simp [step, stepBased, blank]

theorem step_raising_blank {base : PhysicalUnit} (c : Char) (offset : Nat)
    (blank : Text.isBlank c = true) :
    step catalog ⟨outer, pending, .raising base⟩ c offset = .ok ⟨outer, pending, .raising base⟩ := by
  simp [step, stepRaising, blank]

theorem step_complete_blank {product : PhysicalUnit} (c : Char) (offset : Nat)
    (blank : Text.isBlank c = true) :
    step catalog ⟨outer, pending, .complete product⟩ c offset = .ok ⟨outer, pending, .complete product⟩ := by
  simp [step, stepComplete, blank]

/-- A name is read to its last character. -/
theorem outcome_naming {letters : List Char} (isName : ∀ c ∈ letters, isNameChar c = true)
    (reversed : List Char) (offset : Nat) (rest : List Char) :
    outcome catalog ⟨outer, pending, .naming reversed⟩ offset (letters ++ rest) =
      outcome catalog ⟨outer, pending, .naming (letters.reverse ++ reversed)⟩ (past offset letters) rest := by
  induction letters generalizing reversed offset with
  | nil => rfl
  | cons c letters ih =>
    have letter := isName c (by simp)
    have read : step catalog ⟨outer, pending, .naming reversed⟩ c offset =
        .ok ⟨outer, pending, .naming (c :: reversed)⟩ := by
      simp [step, letter]
    rw [List.cons_append, outcome_cons_of_step read, ih fun d member => isName d (by simp [member])]
    simp

/-- A name is looked up as soon as something else follows it. -/
theorem outcome_named {reversed : List Char} {offset : Nat} {rest : List Char}
    (ends : ∀ c ∈ rest.head?, isNameChar c = false) :
    outcome catalog ⟨outer, pending, .naming reversed⟩ offset rest =
      (named catalog (String.ofList reversed.reverse) >>= fun base =>
        outcome catalog ⟨outer, pending, .based base⟩ offset rest) := by
  cases rest with
  | nil => simp only [outcome_nil, finish]
  | cons c rest =>
    have notName := ends c rfl
    simp only [outcome_cons, step, notName, Bool.false_eq_true, if_false, bind_assoc]
    rfl

/-- The digits of an exponent are read to the last. -/
theorem outcome_counting {base : PhysicalUnit} {digits : List Char}
    (isDigit : ∀ c ∈ digits, c.isDigit = true) (reversed : List Char) (offset : Nat) (rest : List Char) :
    outcome catalog ⟨outer, pending, .counting base reversed⟩ offset (digits ++ rest) =
      outcome catalog ⟨outer, pending, .counting base (digits.reverse ++ reversed)⟩ (past offset digits)
        rest := by
  induction digits generalizing reversed offset with
  | nil => rfl
  | cons c digits ih =>
    have digit := isDigit c (by simp)
    have read : step catalog ⟨outer, pending, .counting base reversed⟩ c offset =
        .ok ⟨outer, pending, .counting base (c :: reversed)⟩ := by
      simp [step, digit]
    rw [List.cons_append, outcome_cons_of_step read, ih fun d member => isDigit d (by simp [member])]
    simp

/-- An exponent is applied as soon as something else follows it. -/
theorem outcome_counted {base : PhysicalUnit} {reversed : List Char} {offset : Nat} {rest : List Char}
    (ends : ∀ c ∈ rest.head?, c.isDigit = false) :
    outcome catalog ⟨outer, pending, .counting base reversed⟩ offset rest =
      (raised base reversed.reverse >>= fun power => combined pending power >>= fun product =>
        outcome catalog ⟨outer, pending, .complete product⟩ offset rest) := by
  cases rest with
  | nil =>
    simp only [outcome_nil, finish]
    cases raised base reversed.reverse with
    | error => rfl
    | ok power => cases h : combined pending power <;> simp [h]
  | cons c rest =>
    have notDigit := ends c rfl
    simp only [outcome_cons, step, notDigit, Bool.false_eq_true, if_false, bind_assoc]
    rfl

/-- A power without an exponent joins its product as soon as it is certain that no exponent follows. -/
theorem outcome_based {base : PhysicalUnit} {offset : Nat} {rest : List Char}
    (ends : ∀ c ∈ rest.head?, Text.isBlank c = false ∧ c ≠ '^') :
    outcome catalog ⟨outer, pending, .based base⟩ offset rest =
      (combined pending base >>= fun product =>
        outcome catalog ⟨outer, pending, .complete product⟩ offset rest) := by
  cases rest with
  | nil =>
    simp only [outcome_nil, finish]
    cases combined pending base <;> rfl
  | cons c rest =>
    obtain ⟨notBlank, notCaret⟩ := ends c rfl
    simp only [outcome_cons, step, stepBased, notBlank, notCaret, Bool.false_eq_true, if_false, bind_assoc]
    rfl

/-- Once a product is complete, what it was put together from no longer matters. -/
theorem outcome_complete (other : Pending) {product : PhysicalUnit} {offset : Nat} {rest : List Char} :
    outcome catalog ⟨outer, pending, .complete product⟩ offset rest =
      outcome catalog ⟨outer, other, .complete product⟩ offset rest := by
  induction rest generalizing offset with
  | nil => rfl
  | cons c rest ih =>
    by_cases blank : Text.isBlank c = true
    · rw [outcome_cons_of_step (step_complete_blank c offset blank),
        outcome_cons_of_step (step_complete_blank c offset blank), ih]
    · simp only [outcome_cons, step, stepComplete, blank]
      rfl

end Tokens

/-! ### Phrases -/

/-- A text that a product can end before: nothing, an operator or a closing parenthesis. -/
def EndsProduct (rest : List Char) : Prop := ∀ c ∈ rest.head?, c = '/' ∨ c = ')' ∨ IsTimes c

/-- Reading `text` as a phrase of a category gives `value`, whatever stands before and behind it. A product
stands at the start of its group, so nothing waits for it there. -/
def ReadsAs (catalog : Catalog) (value : Except UnitError PhysicalUnit) (text : List Char) :
    Category → Prop
  | .atom => ∀ outer pending offset rest, (∀ c ∈ rest.head?, isNameChar c = false) →
    outcome catalog ⟨outer, pending, .expecting⟩ offset (text ++ rest) =
      (value >>= fun base => outcome catalog ⟨outer, pending, .based base⟩ (past offset text) rest)
  | .power => ∀ outer pending offset rest, EndsProduct rest →
    outcome catalog ⟨outer, pending, .expecting⟩ offset (text ++ rest) =
      (value >>= fun power => combined pending power >>= fun product =>
        outcome catalog ⟨outer, pending, .complete product⟩ (past offset text) rest)
  | .product => ∀ outer offset rest, EndsProduct rest →
    outcome catalog ⟨outer, none, .expecting⟩ offset (text ++ rest) =
      (value >>= fun product =>
        outcome catalog ⟨outer, none, .complete product⟩ (past offset text) rest)

theorem readsAs_one {before after : List Char} (blankBefore : Blank before) (blankAfter : Blank after) :
    ReadsAs catalog (.ok .one) (before ++ '1' :: after) .atom := by
  intro outer pending offset rest _
  have read (offset : Nat) : step catalog ⟨outer, pending, .expecting⟩ '1' offset =
      .ok ⟨outer, pending, .based .one⟩ := by
    have notBlank : Text.isBlank '1' = false := by decide
    simp [step, stepExpecting, notBlank]
  simp only [List.append_assoc, List.cons_append, past_append, past_cons, ok_bind]
  rw [outcome_blanks blankBefore step_expecting_blank, outcome_cons_of_step (read _),
    outcome_blanks blankAfter step_based_blank]

theorem readsAs_name {letters before after : List Char} (blankBefore : Blank before)
    (nonempty : letters ≠ []) (isName : ∀ c ∈ letters, isNameChar c = true) (blankAfter : Blank after) :
    ReadsAs catalog (named catalog (String.ofList letters)) (before ++ (letters ++ after)) .atom := by
  intro outer pending offset rest ends
  obtain ⟨c, letters, rfl⟩ := List.exists_cons_of_ne_nil nonempty
  have letter : isNameChar c = true := isName c (by simp)
  have read (offset : Nat) : step catalog ⟨outer, pending, .expecting⟩ c offset =
      .ok ⟨outer, pending, .naming [c]⟩ := by
    have notBlank := isBlank_of_isNameChar letter
    have notBracket : c ≠ '(' := by rintro rfl; revert letter; decide
    have notOne : c ≠ '1' := by rintro rfl; revert letter; decide
    simp [step, stepExpecting, notBlank, notBracket, notOne, letter]
  have nameEnds : ∀ d ∈ (after ++ rest).head?, isNameChar d = false := by
    cases after with
    | nil => exact ends
    | cons d after => simpa using isNameChar_of_isBlank (blankAfter d (by simp))
  simp only [List.append_assoc, List.cons_append, past_append, past_cons]
  rw [outcome_blanks blankBefore step_expecting_blank, outcome_cons_of_step (read _),
    outcome_naming fun d member => isName d (by simp [member]), outcome_named nameEnds]
  simp only [List.reverse_append, List.reverse_reverse, List.reverse_singleton, List.singleton_append]
  congr 1
  funext base
  rw [outcome_blanks blankAfter step_based_blank]

theorem readsAs_group {value : Except UnitError PhysicalUnit} {before text after : List Char}
    (blankBefore : Blank before) (inner : ReadsAs catalog value text .product)
    (blankAfter : Blank after) :
    ReadsAs catalog value (before ++ '(' :: (text ++ ')' :: after)) .atom := by
  intro outer pending offset rest _
  have opens (offset : Nat) : step catalog ⟨outer, pending, .expecting⟩ '(' offset =
      .ok ⟨pending :: outer, none, .expecting⟩ := by
    have notBlank : Text.isBlank '(' = false := by decide
    simp [step, stepExpecting, notBlank]
  have closes (product : PhysicalUnit) (offset : Nat) :
      step catalog ⟨pending :: outer, none, .complete product⟩ ')' offset =
        .ok ⟨outer, pending, .based product⟩ := by
    have notBlank : Text.isBlank ')' = false := by decide
    simp [step, stepComplete, notBlank]
  have ends : EndsProduct (')' :: (after ++ rest)) := by simp [EndsProduct]
  simp only [List.append_assoc, List.cons_append, past_append, past_cons]
  rw [outcome_blanks blankBefore step_expecting_blank, outcome_cons_of_step (opens _), inner _ _ _ ends]
  congr 1
  funext product
  rw [outcome_cons_of_step (closes product _), outcome_blanks blankAfter step_based_blank]

theorem EndsProduct.not_name {rest : List Char} (ends : EndsProduct rest) :
    ∀ c ∈ rest.head?, isNameChar c = false := by
  intro c first
  rcases ends c first with rfl | rfl | rfl | rfl <;> decide

theorem EndsProduct.not_caret {rest : List Char} (ends : EndsProduct rest) :
    ∀ c ∈ rest.head?, Text.isBlank c = false ∧ c ≠ '^' := by
  intro c first
  rcases ends c first with rfl | rfl | rfl | rfl <;> decide

theorem EndsProduct.not_digit {rest : List Char} (ends : EndsProduct rest) :
    ∀ c ∈ rest.head?, c.isDigit = false := by
  intro c first
  rcases ends c first with rfl | rfl | rfl | rfl <;> decide

theorem readsAs_plain {value : Except UnitError PhysicalUnit} {text : List Char}
    (base : ReadsAs catalog value text .atom) : ReadsAs catalog value text .power := by
  intro outer pending offset rest ends
  rw [base _ _ _ _ ends.not_name]
  congr 1
  funext power
  exact outcome_based ends.not_caret

/-- A written exponent is a sign or a digit, followed by digits. -/
theorem Sign.spelling_append (sign : Sign) {digits : List Char} (nonempty : digits ≠ [])
    (isDigit : ∀ c ∈ digits, c.isDigit = true) :
    ∃ first more, sign.spelling ++ digits = first :: more ∧
      (first = '-' ∨ first = '+' ∨ first.isDigit = true) ∧ ∀ c ∈ more, c.isDigit = true := by
  cases sign with
  | absent =>
    obtain ⟨first, more, rfl⟩ := List.exists_cons_of_ne_nil nonempty
    exact ⟨first, more, rfl, .inr (.inr (isDigit first (by simp))), fun c member => isDigit c (by simp [member])⟩
  | plus => exact ⟨'+', digits, rfl, .inr (.inl rfl), isDigit⟩
  | minus => exact ⟨'-', digits, rfl, .inl rfl, isDigit⟩

theorem readsAs_raised {value : Except UnitError PhysicalUnit} {sign : Sign}
    {digits text before after : List Char} (base : ReadsAs catalog value text .atom)
    (blankBefore : Blank before) (nonempty : digits ≠ []) (isDigit : ∀ c ∈ digits, c.isDigit = true)
    (blankAfter : Blank after) :
    ReadsAs catalog (value >>= fun unit => raised unit (sign.spelling ++ digits))
      (text ++ '^' :: (before ++ (sign.spelling ++ digits ++ after))) .power := by
  intro outer pending offset rest ends
  have caret (unit : PhysicalUnit) (offset : Nat) :
      step catalog ⟨outer, pending, .based unit⟩ '^' offset = .ok ⟨outer, pending, .raising unit⟩ := by
    have notBlank : Text.isBlank '^' = false := by decide
    simp [step, stepBased, notBlank]
  have exponentEnds : ∀ c ∈ (after ++ rest).head?, c.isDigit = false := by
    cases after with
    | nil => exact ends.not_digit
    | cons d after =>
      have blank := blankAfter d (by simp)
      have notDigit : d.isDigit = false := by
        rw [Bool.eq_false_iff]
        intro digit
        simp [Text.isBlank_of_isDigit digit] at blank
      simpa using notDigit
  obtain ⟨first, more, spelled, opens, digitsMore⟩ := sign.spelling_append nonempty isDigit
  have counts (unit : PhysicalUnit) (offset : Nat) :
      step catalog ⟨outer, pending, .raising unit⟩ first offset =
        .ok ⟨outer, pending, .counting unit [first]⟩ := by
    have notBlank : Text.isBlank first = false := by
      rcases opens with rfl | rfl | digit
      · decide
      · decide
      · exact Text.isBlank_of_isDigit digit
    simp [step, stepRaising, notBlank, opens, or_assoc]
  have notName : ∀ c ∈ ('^' :: (before ++ (sign.spelling ++ digits ++ after) ++ rest)).head?,
      isNameChar c = false := by
    intro c same
    cases same
    decide
  rw [spelled] at notName ⊢
  simp only [List.append_assoc, List.cons_append, past_append, past_cons] at notName ⊢
  rw [base _ _ _ _ notName, bind_assoc]
  congr 1
  funext unit
  rw [outcome_cons_of_step (caret unit _), outcome_blanks blankBefore step_raising_blank,
    outcome_cons_of_step (counts unit _), outcome_counting digitsMore, outcome_counted exponentEnds]
  simp only [List.reverse_append, List.reverse_reverse, List.reverse_singleton, List.singleton_append]
  congr 1
  funext power
  congr 1
  funext product
  rw [outcome_blanks blankAfter step_complete_blank]

theorem readsAs_single {value : Except UnitError PhysicalUnit} {text : List Char}
    (factor : ReadsAs catalog value text .power) : ReadsAs catalog value text .product := by
  intro outer offset rest ends
  rw [factor _ _ _ _ ends]
  rfl

/-- The step of a product: an operator takes the product before it as what waits for the next power. -/
theorem readsAs_operation {value factor : Except UnitError PhysicalUnit} {first second : List Char}
    {c : Char} (operation : Operation)
    (operates : ∀ outer product offset, step catalog ⟨outer, none, .complete product⟩ c offset =
      .ok ⟨outer, some (product, operation), .expecting⟩)
    (ends : c = '/' ∨ IsTimes c) (left : ReadsAs catalog value first .product)
    (right : ReadsAs catalog factor second .power) :
    ReadsAs catalog (value >>= fun product => factor >>= combined (some (product, operation)))
      (first ++ c :: second) .product := by
  intro outer offset rest restEnds
  have operatorEnds : EndsProduct (c :: (second ++ rest)) := by
    intro d same
    cases same
    exact ends.elim .inl fun times => .inr (.inr times)
  simp only [List.append_assoc, List.cons_append, past_append, past_cons, bind_assoc]
  rw [left _ _ _ operatorEnds]
  congr 1
  funext product
  rw [outcome_cons_of_step (operates outer product _), right _ _ _ _ restEnds]
  congr 1
  funext power
  congr 1
  funext result
  exact outcome_complete none

theorem readsAs_times {value factor : Except UnitError PhysicalUnit} {first second : List Char} {c : Char}
    (left : ReadsAs catalog value first .product) (times : IsTimes c)
    (right : ReadsAs catalog factor second .power) :
    ReadsAs catalog (value >>= fun product => factor >>= combined (some (product, .mul)))
      (first ++ c :: second) .product := by
  refine readsAs_operation .mul (fun outer product offset => ?_) (.inr times) left right
  have notBlank : Text.isBlank c = false := by rcases times with rfl | rfl <;> decide
  rcases times with rfl | rfl <;> simp [step, stepComplete, notBlank]

theorem readsAs_per {value factor : Except UnitError PhysicalUnit} {first second : List Char}
    (left : ReadsAs catalog value first .product) (right : ReadsAs catalog factor second .power) :
    ReadsAs catalog (value >>= fun product => factor >>= combined (some (product, .div)))
      (first ++ '/' :: second) .product := by
  refine readsAs_operation .div (fun outer product offset => ?_) (.inl rfl) left right
  have notBlank : Text.isBlank '/' = false := by decide
  simp [step, stepComplete, notBlank]

/-- The spelling of a phrase reads as the phrase. -/
theorem Spells.readsAs {category : Category} {phrase : Phrase category} {text : List Char}
    (spells : Spells phrase text) : ReadsAs catalog (phrase.evaluate catalog) text category := by
  induction spells with
  | group before _ after ih => exact readsAs_group before ih after
  | one before after => exact readsAs_one before after
  | name before nonempty isName after => exact readsAs_name before nonempty isName after
  | plain _ ih => exact readsAs_plain ih
  | raised _ before nonempty isDigit after ih => exact readsAs_raised ih before nonempty isDigit after
  | single _ ih => exact readsAs_single ih
  | times _ times _ left right => exact readsAs_times left times right
  | per _ _ left right => exact readsAs_per left right

end Circuitry.UnitExpression

namespace Circuitry

open UnitExpression

/-- A text that spells a product is read as the product, errors included. -/
theorem Catalog.parse_of_spells {catalog : Catalog} {sentence : Phrase .product} {text : String}
    (spells : Spells sentence text.toList) : catalog.parse text = sentence.evaluate catalog := by
  have notBlank : text.toList.all Text.isBlank = false := by
    rw [Bool.eq_false_iff, ne_eq, List.all_eq_true]
    exact spells.not_blank
  have readsAs : ReadsAs catalog (sentence.evaluate catalog) text.toList .product := spells.readsAs
  have read := readsAs [] 0 [] (by simp [EndsProduct])
  rw [List.append_nil] at read
  simp only [Catalog.parse, notBlank, Bool.false_eq_true, if_false]
  change outcome catalog .start 0 text.toList = _
  rw [Reading.start, read]
  simp only [outcome_nil, finish]
  cases sentence.evaluate catalog <;> rfl

end Circuitry
