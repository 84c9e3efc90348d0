import Circuitry.Proofs.PhysicalUnit.Sentence

/-!
# Where a character is unexpected

A reading looks at one character at a time, so what it reports depends on nothing that comes later. Only reading a
character can find it unexpected, and then it is this character, which is no blank, and the offset is the number of
bytes before it: looking up a name, raising to a power and combining products fail in other ways, and so does the
end of the text. So every text that agrees with one up to its unexpected character has the same one.
-/

set_option autoImplicit false

namespace Circuitry.UnitExpression

variable {catalog : Catalog} {α β : Type} {allowed : Char → Nat → Prop}

/-! ### Who finds characters unexpected -/

/-- A computation finds no character unexpected but those allowed, at the offsets allowed. -/
def Blames (allowed : Char → Nat → Prop) (result : Except UnitError α) : Prop :=
  ∀ found place, result = .error (.unexpectedChar found place) → allowed found place

theorem Blames.ok (value : α) : Blames allowed (.ok value : Except UnitError α) := by
  intro found place fails
  cases fails

theorem Blames.bind {first : Except UnitError α} {next : α → Except UnitError β} (before : Blames allowed first)
    (after : ∀ value, Blames allowed (next value)) : Blames allowed (first >>= next) := by
  intro found place fails
  cases first with
  | error error =>
    cases fails
    exact before found place rfl
  | ok value => exact after value found place fails

theorem named_blames (name : String) : Blames allowed (named catalog name) := by
  intro found place fails
  unfold named at fails
  split at fails <;> cases fails

theorem raised_blames (base : PhysicalUnit) (text : List Char) : Blames allowed (raised base text) := by
  intro found place fails
  unfold raised at fails
  split at fails <;> cases fails

theorem combined_blames (pending : Pending) (power : PhysicalUnit) : Blames allowed (combined pending power) := by
  intro found place fails
  simp only [combined] at fails
  split at fails <;> cases fails

section Step

variable {reading : Reading} {c : Char} {offset : Nat}

/-- The character that is read, where it stands, if it is no blank. -/
def Itself (c : Char) (offset : Nat) (found : Char) (place : Nat) : Prop :=
  found = c ∧ place = offset ∧ Text.isBlank c = false

theorem itself_unexpected (notBlank : ¬Text.isBlank c = true) :
    Blames (Itself c offset) (.error (.unexpectedChar c offset) : Except UnitError α) := by
  intro found place fails
  cases fails
  exact ⟨rfl, rfl, Bool.eq_false_iff.2 notBlank⟩

theorem stepExpecting_blames : Blames (Itself c offset) (stepExpecting reading c offset) := by
  unfold stepExpecting
  split
  · exact .ok _
  · rename_i notBlank
    repeat' split
    · exact .ok _
    · exact .ok _
    · exact .ok _
    · exact itself_unexpected notBlank

theorem stepComplete_blames {product : PhysicalUnit} :
    Blames (Itself c offset) (stepComplete reading product c offset) := by
  unfold stepComplete
  split
  · exact .ok _
  · rename_i notBlank
    repeat' split
    · exact .ok _
    · exact .ok _
    · exact .ok _
    · exact itself_unexpected notBlank

theorem stepBased_blames {base : PhysicalUnit} : Blames (Itself c offset) (stepBased reading base c offset) := by
  unfold stepBased
  split
  · exact .ok _
  · split
    · exact .ok _
    · exact (combined_blames _ _).bind fun _ => stepComplete_blames

theorem stepRaising_blames {base : PhysicalUnit} :
    Blames (Itself c offset) (stepRaising reading base c offset) := by
  unfold stepRaising
  split
  · exact .ok _
  · rename_i notBlank
    split
    · exact .ok _
    · exact itself_unexpected notBlank

/-- Reading a character finds no other one unexpected. -/
theorem step_blames : Blames (Itself c offset) (step catalog reading c offset) := by
  unfold step
  split
  · exact stepExpecting_blames
  · split
    · exact .ok _
    · exact (named_blames _).bind fun _ => stepBased_blames
  · exact stepBased_blames
  · exact stepRaising_blames
  · split
    · exact .ok _
    · exact (raised_blames _ _).bind fun _ => (combined_blames _ _).bind fun _ => stepComplete_blames
  · exact stepComplete_blames

end Step

theorem end_blames : Blames allowed (.error .unexpectedEnd : Except UnitError α) := by
  intro found place fails
  cases fails

/-- At the end of a text no character is unexpected. -/
theorem finish_blames (reading : Reading) : Blames allowed (finish catalog reading) := by
  obtain ⟨outer, pending, stage⟩ := reading
  rw [finish_eq]
  refine Blames.bind ?_ fun product => ?_
  · cases stage with
    | expecting => exact end_blames
    | naming reversed => exact (named_blames _).bind fun _ => combined_blames _ _
    | based base => exact combined_blames _ _
    | raising base => exact end_blames
    | counting base reversed => exact (raised_blames _ _).bind fun _ => combined_blames _ _
    | complete product => exact .ok _
  · split
    · exact .ok _
    · exact end_blames

/-! ### What comes before and after -/

theorem past_eq (offset : Nat) (text : List Char) : past offset text = offset + (String.ofList text).utf8ByteSize := by
  induction text generalizing offset with
  | nil => rfl
  | cons c text ih =>
    rw [past_cons, ih, String.ofList_cons, String.utf8ByteSize_append, String.utf8ByteSize_singleton, Nat.add_assoc]

/-- A text with an unexpected character is read up to there. -/
theorem run_unexpectedChar {reading : Reading} {offset place : Nat} {text : List Char} {found : Char}
    (fails : run catalog reading offset text = .error (.unexpectedChar found place)) :
    ∃ before after last, text = before ++ found :: after ∧ place = past offset before ∧
      Text.isBlank found = false ∧ run catalog reading offset before = .ok last ∧
      step catalog last found place = .error (.unexpectedChar found place) := by
  induction text generalizing reading offset with
  | nil => cases fails
  | cons c rest ih =>
    unfold run at fails
    cases read : step catalog reading c offset with
    | error error =>
      rw [read] at fails
      cases fails
      obtain ⟨rfl, rfl, notBlank⟩ := step_blames found place read
      exact ⟨[], rest, reading, rfl, rfl, notBlank, rfl, read⟩
    | ok next =>
      rw [read] at fails
      obtain ⟨before, after, last, rfl, rfl, notBlank, reads, stops⟩ := ih fails
      refine ⟨c :: before, after, last, rfl, rfl, notBlank, ?_, stops⟩
      rw [run, read]
      exact reads

/-- Where reading stops, it stops whatever follows. -/
theorem run_stops {reading last : Reading} {offset : Nat} {before : List Char} {c : Char} {error : UnitError}
    (reads : run catalog reading offset before = .ok last)
    (stops : step catalog last c (past offset before) = .error error) (rest : List Char) :
    run catalog reading offset (before ++ c :: rest) = .error error := by
  induction before generalizing reading offset with
  | nil =>
    cases reads
    rw [past_nil] at stops
    rw [List.nil_append, run, stops]
    rfl
  | cons d before ih =>
    obtain ⟨next, read, further⟩ := bind_eq_ok.1 reads
    rw [List.cons_append, run, read]
    exact ih further stops

end Circuitry.UnitExpression

namespace Circuitry

open UnitExpression

/-- A character that is found unexpected stands at the reported offset, counted in bytes, and is no blank; and every
text that agrees up to this character has it reported in the same way, whatever follows. -/
theorem Catalog.parse_unexpectedChar {catalog : Catalog} {text : String} {found : Char} {offset : Nat}
    (fails : catalog.parse text = .error (.unexpectedChar found offset)) :
    ∃ before after : String, text = before ++ String.singleton found ++ after ∧ before.utf8ByteSize = offset ∧
      Text.isBlank found = false ∧
      ∀ rest : String,
        catalog.parse (before ++ String.singleton found ++ rest) = .error (.unexpectedChar found offset) := by
  unfold Catalog.parse at fails
  split at fails
  · cases fails
  · cases read : run catalog .start 0 text.toList with
    | ok last =>
      rw [read] at fails
      have silent : Blames (fun _ _ => False) (finish catalog last) := finish_blames last
      exact (silent found offset fails).elim
    | error error =>
      rw [read] at fails
      cases fails
      obtain ⟨before, after, last, same, rfl, notBlank, reads, stops⟩ := run_unexpectedChar read
      refine ⟨String.ofList before, String.ofList after, ?_, ?_, notBlank, fun rest => ?_⟩
      · rw [← String.toList_inj]
        simp [same]
      · rw [past_eq, Nat.zero_add]
      · have written : (String.ofList before ++ String.singleton found ++ rest).toList =
            before ++ found :: rest.toList := by simp
        have someCharacter : (before ++ found :: rest.toList).all Text.isBlank = false := by
          simp [notBlank]
        unfold Catalog.parse
        rw [written, someCharacter, run_stops reads stops]
        rfl

/-- The second digit cannot stand where it does; the dot before it takes two bytes. -/
theorem Catalog.digit_unexpected :
    Catalog.standard.parse "1 · 2 V" = .error (.unexpectedChar '2' 5) ∧
      ∃ before after : String, "1 · 2 V" = before ++ String.singleton '2' ++ after ∧ before.utf8ByteSize = 5 ∧
        Text.isBlank '2' = false ∧
        ∀ rest : String,
          Catalog.standard.parse (before ++ String.singleton '2' ++ rest) = .error (.unexpectedChar '2' 5) :=
  have fails : Catalog.standard.parse "1 · 2 V" = .error (.unexpectedChar '2' 5) := rfl
  ⟨fails, Catalog.parse_unexpectedChar fails⟩

end Circuitry
