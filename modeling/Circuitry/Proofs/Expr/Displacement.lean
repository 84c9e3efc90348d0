import Circuitry.Proofs.Expr.Slots

/-!
# Arguments that are displaced

Every argument of a call that binds without a report is meant for one slot, and no two given by position, or two
given by name, are meant for the same. But an argument given by position takes its slot even if an earlier one
took it by name, and nothing is reported of that. So every argument is kept exactly if none names a parameter
whose slot is taken by position.
-/

set_option autoImplicit false

namespace Circuitry

namespace Signature

/-- The slot for which an argument is meant, given where it stands: that of its name or, without a name, the next
one. -/
def destination? (signature : Signature) (supplied : List Supplied) (position : Nat) : Option Nat :=
  supplied[position]?.bind fun argument =>
    match argument.name with
    | some name => signature.index? name
    | none => some (Supplied.positional (supplied.take position)).length

/-- Every argument ends up in a slot of its own, and only defaults are in the other slots. -/
structure Keeps (signature : Signature) (supplied : List Supplied) (values : List Value) : Prop where
  placed : ∀ (position : Nat) (argument : Supplied), supplied[position]? = some argument →
    ∃ slot, signature.destination? supplied position = some slot ∧ values[slot]? = some argument.value
  apart : ∀ position other slot, signature.destination? supplied position = some slot →
    signature.destination? supplied other = some slot → position = other
  others : ∀ (slot : Nat) (parameter : Parameter), signature.parameters[slot]? = some parameter →
    (∀ position, signature.destination? supplied position ≠ some slot) → values[slot]? = parameter.fallback

variable {signature : Signature} {settings : Settings} {supplied : List Supplied} {span : Span}

/-! ### Destinations -/

section Destinations

variable {position slot : Nat} {argument : Supplied}

theorem split_at (found : supplied[position]? = some argument) :
    supplied = supplied.take position ++ argument :: supplied.drop (position + 1) := by
  obtain ⟨inside, same⟩ := List.getElem?_eq_some_iff.1 found
  rw [← same, List.getElem_cons_drop, List.take_append_drop]

theorem destination?_named (found : supplied[position]? = some argument) (named : argument.name.isSome = true) :
    signature.destination? supplied position = signature.named? argument := by
  obtain ⟨name, is⟩ := Option.isSome_iff_exists.1 named
  simp [destination?, found, is, named?]

theorem destination?_unnamed (found : supplied[position]? = some argument) (unnamed : argument.name = none) :
    signature.destination? supplied position = some (Supplied.positional (supplied.take position)).length := by
  simp [destination?, found, unnamed]

/-- An argument given by position comes after as many others as its destination says. -/
theorem positional_at (found : supplied[position]? = some argument) (unnamed : argument.name = none) :
    (Supplied.positional supplied)[(Supplied.positional (supplied.take position)).length]? = some argument := by
  have parts : Supplied.positional supplied = Supplied.positional (supplied.take position) ++
      argument :: Supplied.positional (supplied.drop (position + 1)) := by
    conv_lhs => rw [split_at found, Supplied.positional_append]
    simp [Supplied.positional, unnamed]
  rw [parts]
  simp

/-- For every place among the arguments given by position there is one that is meant for it. -/
theorem exists_positional (inside : slot < (Supplied.positional supplied).length) :
    ∃ position argument, supplied[position]? = some argument ∧ argument.name = none ∧
      (Supplied.positional (supplied.take position)).length = slot := by
  induction supplied using List.reverseRecOn with
  | nil => cases inside
  | append_singleton before last ih =>
    have earlier (small : slot < (Supplied.positional before).length) :
        ∃ position argument, (before ++ [last])[position]? = some argument ∧ argument.name = none ∧
          (Supplied.positional ((before ++ [last]).take position)).length = slot := by
      obtain ⟨position, argument, found, unnamed, rank⟩ := ih small
      have within : position < before.length := (List.getElem?_eq_some_iff.1 found).1
      refine ⟨position, argument, (List.getElem?_append_left within).trans found, unnamed, ?_⟩
      rwa [List.take_append_of_le_length (Nat.le_of_lt within)]
    cases name : last.name with
    | some called =>
      rw [Supplied.positional_concat_named (by simp [name])] at inside
      exact earlier inside
    | none =>
      rw [Supplied.positional_concat_unnamed name, List.length_append, List.length_singleton] at inside
      rcases Nat.lt_succ_iff_lt_or_eq.1 inside with small | same
      · exact earlier small
      · exact ⟨before.length, last, by simp, name, by simp [same]⟩

/-- Of two arguments given by position, the later one is meant for a later slot. -/
theorem rank_lt {other : Nat} (found : supplied[position]? = some argument) (unnamed : argument.name = none)
    (before : position < other) : (Supplied.positional (supplied.take position)).length <
      (Supplied.positional (supplied.take other)).length := by
  have here : (supplied.take other)[position]? = some argument := by rw [List.getElem?_take_of_lt before, found]
  have among := positional_at here unnamed
  rw [List.take_take, Nat.min_eq_left (Nat.le_of_lt before)] at among
  exact (List.getElem?_eq_some_iff.1 among).1

end Destinations

/-! ### Arguments that are bound -/

section Bound

variable {values : List Value} (binds : signature.Binds supplied values) {position slot : Nat} {argument : Supplied}
include binds

/-- What ends up in a slot is the argument that holds it. -/
theorem Binds.value_of_holder (holds : signature.holder? supplied slot = some argument)
    (inside : slot < signature.parameters.length) : values[slot]? = some argument.value := by
  rw [binds.each slot _ (List.getElem?_eq_getElem inside), holds]
  rfl

/-- No argument given by position is displaced. -/
theorem Binds.unnamed_kept (found : supplied[position]? = some argument) (unnamed : argument.name = none) :
    values[(Supplied.positional (supplied.take position)).length]? = some argument.value := by
  have among := positional_at found unnamed
  have inside := (List.getElem?_eq_some_iff.1 among).1
  exact binds.value_of_holder (by simp [holder?, among]) (Nat.lt_of_lt_of_le inside binds.room)

/-- A named argument found its slot empty. -/
theorem Binds.named_free (found : supplied[position]? = some argument) (named : argument.name.isSome = true) :
    ∃ slot, signature.named? argument = some slot ∧ signature.holder? (supplied.take position) slot = none :=
  binds.placeable _ argument _ (split_at found) named

/-- It keeps it unless one given by position is meant for it. -/
theorem Binds.named_kept (found : supplied[position]? = some argument) (names : signature.named? argument = some slot)
    (apart : (Supplied.positional supplied).length ≤ slot) : values[slot]? = some argument.value := by
  have named : argument.name.isSome = true := by
    obtain ⟨name, is, -⟩ := Option.bind_eq_some_iff.1 names
    simp [is]
  obtain ⟨slot', names', free⟩ := binds.named_free found named
  cases names.symm.trans names'
  obtain ⟨-, none_before⟩ := Option.or_eq_none_iff.1 free
  refine binds.value_of_holder ?_ (named?_lt names)
  unfold holder?
  rw [List.getElem?_eq_none apart, Option.none_or, split_at found, List.find?_append, none_before, Option.none_or]
  simp [names]

/-- The later one of two arguments is not meant for the slot of the earlier one, as long as none given by position
is meant for the slot of a named one. -/
theorem Binds.destination_ne_of_lt
    (undisplaced : ∀ argument ∈ supplied, ∀ slot, signature.named? argument = some slot →
      (Supplied.positional supplied).length ≤ slot)
    {other : Nat} (before : position < other) (meant : signature.destination? supplied position = some slot) :
    signature.destination? supplied other ≠ some slot := by
  intro meant'
  obtain ⟨argument, found, -⟩ := Option.bind_eq_some_iff.1 meant
  obtain ⟨argument', found', -⟩ := Option.bind_eq_some_iff.1 meant'
  have beyond {place : Nat} {named : Supplied} (is : supplied[place]? = some named)
      (names : signature.named? named = some slot) : (Supplied.positional supplied).length ≤ slot :=
    undisplaced named (List.mem_of_getElem? is) slot names
  have among {place : Nat} {given : Supplied} (is : supplied[place]? = some given) (unnamed : given.name = none)
      (rank : (Supplied.positional (supplied.take place)).length = slot) :
      slot < (Supplied.positional supplied).length :=
    rank ▸ (List.getElem?_eq_some_iff.1 (positional_at is unnamed)).1
  cases name : argument.name with
  | none =>
    rw [destination?_unnamed found name, Option.some.injEq] at meant
    cases name' : argument'.name with
    | none =>
      rw [destination?_unnamed found' name', Option.some.injEq] at meant'
      have earlier := rank_lt found name before
      omega
    | some called =>
      rw [destination?_named found' (by simp [name'])] at meant'
      exact Nat.not_le_of_lt (among found name meant) (beyond found' meant')
  | some called =>
    rw [destination?_named found (by simp [name])] at meant
    cases name' : argument'.name with
    | none =>
      rw [destination?_unnamed found' name', Option.some.injEq] at meant'
      exact Nat.not_le_of_lt (among found' name' meant') (beyond found meant)
    | some called' =>
      -- the slot of the later one was empty, so no earlier one named it
      rw [destination?_named found' (by simp [name'])] at meant'
      obtain ⟨slot', names, free⟩ := binds.named_free found' (by simp [name'])
      cases meant'.symm.trans names
      obtain ⟨-, none_before⟩ := Option.or_eq_none_iff.1 free
      have here : (supplied.take other)[position]? = some argument := by rw [List.getElem?_take_of_lt before, found]
      have apart := List.find?_eq_none.1 none_before argument (List.mem_of_getElem? here)
      simp [meant] at apart

/-- A slot for which no argument is meant has the default. -/
theorem Binds.default_of_free {parameter : Parameter} (found : signature.parameters[slot]? = some parameter)
    (free : ∀ position, signature.destination? supplied position ≠ some slot) :
    values[slot]? = parameter.fallback := by
  have by_position : (Supplied.positional supplied)[slot]? = none := by
    refine List.getElem?_eq_none_iff.2 (Nat.le_of_not_lt fun inside => ?_)
    obtain ⟨position, argument, found, unnamed, rank⟩ := exists_positional inside
    exact free position (rank ▸ destination?_unnamed found unnamed)
  have by_name : (supplied.find? fun argument => signature.named? argument = some slot) = none := by
    refine List.find?_eq_none.2 fun argument member names => ?_
    obtain ⟨position, found⟩ := List.mem_iff_getElem?.1 member
    obtain ⟨name, is, -⟩ := Option.bind_eq_some_iff.1 (of_decide_eq_true names)
    exact free position ((destination?_named found (by simp [is])).trans (of_decide_eq_true names))
  rw [binds.each slot parameter found, holder?, by_position, by_name]
  rfl

/-- All arguments are kept if none given by position is meant for the slot of a named one. -/
theorem Binds.keeps
    (undisplaced : ∀ argument ∈ supplied, ∀ slot, signature.named? argument = some slot →
      (Supplied.positional supplied).length ≤ slot) : signature.Keeps supplied values where
  placed position argument found := by
    cases name : argument.name with
    | none => exact ⟨_, destination?_unnamed found name, binds.unnamed_kept found name⟩
    | some called =>
      obtain ⟨slot, names, -⟩ := binds.named_free found (by simp [name])
      have apart := undisplaced argument (List.mem_of_getElem? found) slot names
      exact ⟨slot, (destination?_named found (by simp [name])).trans names, binds.named_kept found names apart⟩
  apart position other slot meant meant' := by
    rcases Nat.lt_trichotomy position other with before | same | after
    · exact absurd meant' (binds.destination_ne_of_lt undisplaced before meant)
    · exact same
    · exact absurd meant (binds.destination_ne_of_lt undisplaced after meant')
  others slot parameter found free := binds.default_of_free found free

end Bound

/-- If two arguments are never meant for the same slot, then none given by position is meant for that of a named
one. -/
theorem Keeps.undisplaced {values : List Value} (keeps : signature.Keeps supplied values) {argument : Supplied}
    (member : argument ∈ supplied) {slot : Nat} (names : signature.named? argument = some slot) :
    (Supplied.positional supplied).length ≤ slot := by
  obtain ⟨position, found⟩ := List.mem_iff_getElem?.1 member
  obtain ⟨name, is, -⟩ := Option.bind_eq_some_iff.1 names
  have meant := (destination?_named found (by simp [is])).trans names
  refine Nat.le_of_not_lt fun inside => ?_
  obtain ⟨other, taker, found', unnamed, rank⟩ := exists_positional inside
  cases keeps.apart position other slot meant (rank ▸ destination?_unnamed found' unnamed)
  cases found.symm.trans found'
  cases is.symm.trans unnamed

/-- If nothing is reported, all arguments are bound and kept in slots of their own, unless as many are given by
position as to reach the slot of a named one. -/
theorem bind_keeps_iff {bound : Option (List Value)}
    (silent : signature.bind settings supplied span = .ok (bound, [])) :
    ∃ values, bound = some values ∧
      (signature.Keeps supplied values ↔
        ∀ argument ∈ supplied, ∀ slot, signature.named? argument = some slot →
          (Supplied.positional supplied).length ≤ slot) := by
  cases bound with
  | none => exact absurd rfl (Reporting.reported_of_ifSilent silent)
  | some values =>
    obtain ⟨-, binds⟩ := bind_eq_some_iff.1 silent
    exact ⟨values, rfl, fun keeps argument member slot names => keeps.undisplaced member names, binds.keeps⟩

end Signature

namespace Scaling

def place : Span := .atStart 0

def number (value : Rat) : Value := .ofQuantity (.ofNumber value)

/-- A number, and a factor that has a default. -/
def signature : Signature :=
  ⟨[⟨"x", .anyNumber, none⟩, ⟨"by", .exactly .plainNumber, some (number 2)⟩], .sameAs 0⟩

/-- The factor by name, and then the number by position. -/
def factorFirst : List Supplied := [⟨some "by", number 3, place⟩, ⟨none, number 4, place⟩]

/-- The number by name, and then another one by position. -/
def numberTwice : List Supplied := [⟨some "x", number 3, place⟩, ⟨none, number 4, place⟩]

end Scaling

/-- A named argument that comes first is kept where the others leave its slot alone. -/
theorem Signature.factor_kept :
    Scaling.signature.bind .standard Scaling.factorFirst Scaling.place =
        .ok (some [Scaling.number 4, Scaling.number 3], []) ∧
      Scaling.signature.Keeps Scaling.factorFirst [Scaling.number 4, Scaling.number 3] := by
  have bound : Scaling.signature.bind .standard Scaling.factorFirst Scaling.place =
      .ok (some [Scaling.number 4, Scaling.number 3], []) := by rfl
  obtain ⟨values, same, keeps⟩ := bind_keeps_iff bound
  cases same
  refine ⟨bound, keeps.2 fun argument member slot names => ?_⟩
  rcases List.mem_pair.1 member with rfl | rfl
  · have meant : Scaling.signature.named? ⟨some "by", Scaling.number 3, Scaling.place⟩ = some 1 := by rfl
    cases meant.symm.trans names
    exact Nat.le_refl 1
  · cases names

/-- A call that gives a parameter by name and then by position loses the first argument without a report. -/
theorem Signature.displaced_without_report :
    Scaling.signature.bind .standard Scaling.numberTwice Scaling.place =
        .ok (some [Scaling.number 4, Scaling.number 2], []) ∧
      Scaling.number 3 ∈ Scaling.numberTwice.map Supplied.value ∧
      Scaling.number 3 ∉ [Scaling.number 4, Scaling.number 2] := by
  refine ⟨rfl, by simp [Scaling.numberTwice], ?_⟩
  simp [Scaling.number, Value.ofQuantity, Quantity.ofNumber]

end Circuitry
