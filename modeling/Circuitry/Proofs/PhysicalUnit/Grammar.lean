import Circuitry.PhysicalUnit.Expression
import Circuitry.Proofs.Text.Blank

/-!
# The grammar of unit expressions

    product := power (('*' | '·' | '/') power)*
    power   := atom ('^' [+-]? digits)?
    atom    := '(' product ')' | '1' | name

A phrase is a parse tree of one of the three categories. What it denotes is said without regard to how a
text is read: products and quotients associate to the left, and a power applies to the atom before it.
Which texts spell a phrase is a relation of its own. Blanks may stand around every token and nowhere else.
A name is as long as its characters allow, because nothing in the grammar puts another name character
right after it.
-/

set_option autoImplicit false

namespace Circuitry.UnitExpression

/-! ### The characters of tokens -/

/-- No range of blanks meets a range of letters. -/
theorem isNameChar_of_isBlank {c : Char} (blank : Text.isBlank c = true) : isNameChar c = false := by
  have apart : ∀ r ∈ Text.blankRanges, ∀ i < r.2 + 1 - r.1,
      Text.letterRanges.contains (r.1 + i) = false ∧ r.1 + i ≠ '%'.toNat := by decide +kernel
  obtain ⟨r, member, low, high⟩ := (Text.CodeRanges.contains_iff Text.blankRanges_ordered _).1 blank
  have code : r.1 + (c.toNat - r.1) = c.toNat := by omega
  obtain ⟨notLetter, notPercent⟩ := apart r member (c.toNat - r.1) (by omega)
  rw [code] at notLetter notPercent
  have differs : c ≠ '%' := fun same => notPercent (congrArg Char.toNat same)
  simp [isNameChar, Text.isLetter, notLetter, differs]

theorem isBlank_of_isNameChar {c : Char} (letter : isNameChar c = true) : Text.isBlank c = false := by
  rw [Bool.eq_false_iff]
  intro blank
  have := isNameChar_of_isBlank blank
  simp_all

/-! ### Phrases and what they denote -/

/-- The syntactic categories. -/
inductive Category where
  | atom
  | power
  | product
  deriving DecidableEq

/-- The sign that an exponent is written with, if any. -/
inductive Sign where
  | absent
  | plus
  | minus
  deriving DecidableEq

namespace Sign

/-- The characters of the sign. -/
def spelling : Sign → List Char
  | absent => []
  | plus => ['+']
  | minus => ['-']

/-- The integer of a sign and a magnitude. -/
def apply : Sign → Nat → Int
  | minus, magnitude => -(magnitude : Int)
  | _, magnitude => magnitude

theorem forall_mem_spelling {p : Char → Prop} (sign : Sign) (plus : p '+') (minus : p '-') :
    ∀ c ∈ sign.spelling, p c := by
  cases sign with
  | absent => exact fun _ member => nomatch member
  | plus => exact List.forall_mem_singleton.2 plus
  | minus => exact List.forall_mem_singleton.2 minus

end Sign

/-- The parse trees of each category. -/
inductive Phrase : Category → Type where
  | group (inner : Phrase .product) : Phrase .atom
  | one : Phrase .atom
  | name (letters : List Char) : Phrase .atom
  | plain (base : Phrase .atom) : Phrase .power
  | raised (base : Phrase .atom) (sign : Sign) (digits : List Char) : Phrase .power
  | single (factor : Phrase .power) : Phrase .product
  | times (left : Phrase .product) (right : Phrase .power) : Phrase .product
  | per (left : Phrase .product) (right : Phrase .power) : Phrase .product

/-- The unit that a phrase denotes, if its names are in the catalog, its exponents are in range and no
dimension of an intermediate result overflows. -/
def Phrase.value? (catalog : Catalog) {category : Category} : Phrase category → Option PhysicalUnit
  | .group inner => inner.value? catalog
  | .one => some .one
  | .name letters => catalog.find? (String.ofList letters)
  | .plain base => base.value? catalog
  | .raised base sign digits => do
    let unit ← base.value? catalog
    let exponent ← Exponent.ofInt? (sign.apply (Decimal.digitsValue digits))
    unit.pow? exponent
  | .single factor => factor.value? catalog
  | .times left right => do
    let product ← left.value? catalog
    let factor ← right.value? catalog
    product.mul? factor
  | .per left right => do
    let product ← left.value? catalog
    let factor ← right.value? catalog
    product.div? factor

/-! ### Spelling -/

/-- A text of blanks only. -/
def Blank (text : List Char) : Prop := ∀ c ∈ text, Text.isBlank c = true

/-- The characters that multiply. -/
def IsTimes (c : Char) : Prop := c = '*' ∨ c = '·'

/-- The texts that spell a phrase, with any blanks around its tokens. -/
inductive Spells : {category : Category} → Phrase category → List Char → Prop where
  | group {inner : Phrase .product} {before text after : List Char} :
      Blank before → Spells inner text → Blank after →
      Spells (.group inner) (before ++ '(' :: (text ++ ')' :: after))
  | one {before after : List Char} : Blank before → Blank after → Spells .one (before ++ '1' :: after)
  | name {letters before after : List Char} :
      Blank before → letters ≠ [] → (∀ c ∈ letters, isNameChar c = true) → Blank after →
      Spells (.name letters) (before ++ (letters ++ after))
  | plain {base : Phrase .atom} {text : List Char} : Spells base text → Spells (.plain base) text
  | raised {base : Phrase .atom} {sign : Sign} {digits text before after : List Char} :
      Spells base text → Blank before → digits ≠ [] → (∀ c ∈ digits, c.isDigit = true) → Blank after →
      Spells (.raised base sign digits) (text ++ '^' :: (before ++ (sign.spelling ++ digits ++ after)))
  | single {factor : Phrase .power} {text : List Char} : Spells factor text → Spells (.single factor) text
  | times {left : Phrase .product} {right : Phrase .power} {first second : List Char} {c : Char} :
      Spells left first → IsTimes c → Spells right second →
      Spells (.times left right) (first ++ c :: second)
  | per {left : Phrase .product} {right : Phrase .power} {first second : List Char} :
      Spells left first → Spells right second → Spells (.per left right) (first ++ '/' :: second)

/-- A text that spells some phrase of a category. -/
def Sentence (category : Category) (text : List Char) : Prop :=
  ∃ phrase : Phrase category, Spells phrase text

theorem Blank.nil : Blank [] := by simp [Blank]

theorem Blank.cons {c : Char} {text : List Char} (head : Text.isBlank c = true) (tail : Blank text) :
    Blank (c :: text) := by
  intro d member
  rcases List.mem_cons.1 member with rfl | later
  · exact head
  · exact tail d later

theorem Blank.append {first second : List Char} (h₁ : Blank first) (h₂ : Blank second) :
    Blank (first ++ second) := by
  intro c member
  rcases List.mem_append.1 member with early | late
  · exact h₁ c early
  · exact h₂ c late

theorem Blank.single {c : Char} (h : Text.isBlank c = true) : Blank [c] := .cons h .nil

namespace Spells

variable {category : Category} {phrase : Phrase category} {text : List Char}

/-- Further blanks before a phrase change nothing. -/
theorem blanks_append {blanks : List Char} (h : Spells phrase text) (blank : Blank blanks) :
    Spells phrase (blanks ++ text) := by
  induction h with
  | group before inner after _ =>
    rw [← List.append_assoc]
    exact .group (blank.append before) inner after
  | one before after =>
    rw [← List.append_assoc]
    exact .one (blank.append before) after
  | name before nonempty letters after =>
    rw [← List.append_assoc]
    exact .name (blank.append before) nonempty letters after
  | plain _ ih => exact .plain ih
  | raised _ before nonempty digits after ih =>
    rw [← List.append_assoc]
    exact .raised ih before nonempty digits after
  | single _ ih => exact .single ih
  | times _ operator right ih _ =>
    rw [← List.append_assoc]
    exact .times ih operator right
  | per _ right ih _ =>
    rw [← List.append_assoc]
    exact .per ih right

/-- Further blanks after a phrase change nothing. -/
theorem append_blanks {blanks : List Char} (h : Spells phrase text) (blank : Blank blanks) :
    Spells phrase (text ++ blanks) := by
  induction h with
  | group before inner after _ =>
    simpa using Spells.group before inner (after.append blank)
  | one before after => simpa using Spells.one before (after.append blank)
  | name before nonempty letters after =>
    simpa using Spells.name before nonempty letters (after.append blank)
  | plain _ ih => exact .plain ih
  | raised base before nonempty digits after _ =>
    simpa using Spells.raised base before nonempty digits (after.append blank)
  | single _ ih => exact .single ih
  | times left operator _ _ ih => simpa using Spells.times left operator ih
  | per left _ _ ih => simpa using Spells.per left ih

/-- A name is spelled by its letters. -/
theorem name_tight {letters : List Char} (nonempty : letters ≠ []) (isName : ∀ c ∈ letters, isNameChar c = true) :
    Spells (.name letters) letters := by
  have spelled := Spells.name Blank.nil nonempty isName Blank.nil
  rwa [List.nil_append, List.append_nil] at spelled

/-- A power is spelled by its base, a caret and its exponent. -/
theorem raised_tight {base : Phrase .atom} {sign : Sign} {digits : List Char} (h : Spells base text)
    (nonempty : digits ≠ []) (isDigit : ∀ c ∈ digits, c.isDigit = true) :
    Spells (.raised base sign digits) (text ++ '^' :: (sign.spelling ++ digits)) := by
  have spelled : Spells (.raised base sign digits) (text ++ '^' :: ([] ++ (sign.spelling ++ digits ++ []))) :=
    .raised h Blank.nil nonempty isDigit Blank.nil
  rwa [List.nil_append, List.append_nil] at spelled

/-- A phrase has a character that is no blank. -/
theorem not_blank (h : Spells phrase text) : ¬ Blank text := by
  have bracket : Text.isBlank '(' = false := by decide
  have digit : Text.isBlank '1' = false := by decide
  induction h with
  | group _ _ _ _ => intro blank; simpa [bracket] using blank '(' (by simp)
  | one _ _ => intro blank; simpa [digit] using blank '1' (by simp)
  | @name letters _ _ _ nonempty isName _ =>
    intro blank
    obtain ⟨c, member⟩ := List.exists_mem_of_ne_nil letters nonempty
    have letter := isBlank_of_isNameChar (isName c member)
    simpa [letter] using blank c (by simp [member])
  | plain _ ih => exact ih
  | raised _ _ _ _ _ ih => exact fun blank => ih fun c member => blank c (by simp [member])
  | single _ ih => exact ih
  | times _ _ _ ih _ => exact fun blank => ih fun c member => blank c (by simp [member])
  | per _ _ ih _ => exact fun blank => ih fun c member => blank c (by simp [member])

end Spells

end Circuitry.UnitExpression
