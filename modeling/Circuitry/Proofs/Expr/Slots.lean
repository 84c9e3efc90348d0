import Circuitry.Proofs.Expr.Binding
import Mathlib.Data.List.Induction

/-!
# What fills the slots

Which argument ends up in a slot can be said without the slots: the one given for this position, wherever it
stands, or else the first one that names the parameter. While arguments are placed this holds of those placed so
far, and it holds whatever is reported. Nothing is reported exactly if each named argument finds its slot empty.

So binding comes down to a relation between the arguments and the values they give to the parameters
(`Signature.Binds`), which says nothing of how arguments are placed.
-/

set_option autoImplicit false

namespace Circuitry

/-- What an argument puts into its slot. -/
def Supplied.filler (argument : Supplied) : Filler := ⟨argument.value, argument.span⟩

/-- The arguments that are given by position, in order. -/
def Supplied.positional (supplied : List Supplied) : List Supplied :=
  supplied.filter fun argument => argument.name.isNone

/-- The slot of the parameter that an argument names, if it names one. -/
def Signature.named? (signature : Signature) (argument : Supplied) : Option Nat :=
  argument.name.bind signature.index?

/-- The argument that ends up in a slot: the one given for this position, or else the first one that names the
parameter. -/
def Signature.holder? (signature : Signature) (supplied : List Supplied) (slot : Nat) : Option Supplied :=
  (Supplied.positional supplied)[slot]?.or (supplied.find? fun argument => signature.named? argument = some slot)

/-- An argument that is placed after others finds a parameter of its name, if it has one, and an empty slot. -/
def Signature.Free (signature : Signature) (before : List Supplied) (argument : Supplied) : Prop :=
  argument.name.isSome = true →
    ∃ slot, signature.named? argument = some slot ∧ signature.holder? before slot = none

/-- So does each of some arguments, after those before it. -/
def Signature.Placeable (signature : Signature) (supplied : List Supplied) : Prop :=
  ∀ before argument after, supplied = before ++ argument :: after → signature.Free before argument

/-! ### One argument more -/

section Concat

variable {signature : Signature} {before : List Supplied} {argument : Supplied}

theorem Signature.index?_lt {name : String} {slot : Nat} (found : signature.index? name = some slot) :
    slot < signature.parameters.length :=
  (List.findIdx?_eq_some_iff_getElem.1 found).1

theorem Signature.named?_lt {slot : Nat} (names : signature.named? argument = some slot) :
    slot < signature.parameters.length := by
  obtain ⟨name, -, found⟩ := Option.bind_eq_some_iff.1 names
  exact index?_lt found

theorem Supplied.positional_append (supplied others : List Supplied) :
    positional (supplied ++ others) = positional supplied ++ positional others := by
  simp [positional]

theorem Supplied.positional_concat_unnamed (unnamed : argument.name = none) :
    positional (before ++ [argument]) = positional before ++ [argument] := by
  simp [positional, unnamed]

theorem Supplied.positional_concat_named (named : argument.name.isSome = true) :
    positional (before ++ [argument]) = positional before := by
  simp [positional, Option.isSome_iff_ne_none.1 named]

/-- An argument given by position takes the next slot, whatever was in it. -/
theorem Signature.holder?_concat_unnamed (unnamed : argument.name = none) (slot : Nat) :
    signature.holder? (before ++ [argument]) slot =
      if slot = (Supplied.positional before).length then some argument else signature.holder? before slot := by
  have nameless : signature.named? argument = none := by simp [named?, unnamed]
  unfold holder?
  rw [Supplied.positional_concat_unnamed unnamed, List.find?_append]
  split
  · rename_i same
    simp [same]
  · rename_i apart
    have others : (Supplied.positional before ++ [argument])[slot]? = (Supplied.positional before)[slot]? := by
      rcases Nat.lt_or_gt_of_ne apart with small | large
      · exact List.getElem?_append_left small
      · have outside : (Supplied.positional before).length < slot := large
        rw [List.getElem?_eq_none (by simp; omega), List.getElem?_eq_none (by omega)]
    simp [others, nameless]

/-- An argument given by name takes the slot of its name if that is empty. -/
theorem Signature.holder?_concat_named (named : argument.name.isSome = true) (slot : Nat) :
    signature.holder? (before ++ [argument]) slot =
      (signature.holder? before slot).or (if signature.named? argument = some slot then some argument else none) := by
  unfold holder?
  rw [Supplied.positional_concat_named named, List.find?_append, Option.or_assoc]
  by_cases names : signature.named? argument = some slot <;> simp [names]

theorem Signature.placeable_concat :
    signature.Placeable (before ++ [argument]) ↔ signature.Placeable before ∧ signature.Free before argument := by
  constructor
  · intro placeable
    refine ⟨fun earlier other after parts => ?_, placeable before argument [] rfl⟩
    exact placeable earlier other (after ++ [argument]) (by simp [parts])
  · rintro ⟨placeable, free⟩ earlier other after parts
    rcases List.eq_nil_or_concat after with rfl | ⟨rest, last, rfl⟩
    · obtain ⟨rfl, same⟩ := List.append_inj' parts rfl
      cases same
      exact free
    · have regrouped : before ++ [argument] = (earlier ++ other :: rest) ++ [last] := by simpa using parts
      exact placeable earlier other rest (List.append_inj' regrouped rfl).1

end Concat

/-! ### Placing -/

namespace Filling

variable {signature : Signature} {placed : List Supplied} {filling : Filling}

/-- What the state of placing arguments tells of those placed so far. -/
structure Shows (signature : Signature) (placed : List Supplied) (filling : Filling) : Prop where
  length : filling.slots.length = signature.parameters.length
  positional : filling.positional = (Supplied.positional placed).length
  excess : filling.excess = [] ↔ (Supplied.positional placed).length ≤ signature.parameters.length
  slots : ∀ slot < signature.parameters.length,
    filling.filler? slot = (signature.holder? placed slot).map Supplied.filler

theorem start_shows (signature : Signature) : (start signature.parameters).Shows signature [] where
  length := by simp [start]
  positional := rfl
  excess := by simp [start, Supplied.positional]
  slots slot inside := by simp [start, filler?, Signature.holder?, Supplied.positional, inside]

/-- Filling a slot changes no other. -/
theorem filler?_fill {index : Nat} (inside : index < filling.slots.length) (filler : Filler) (slot : Nat) :
    (filling.fill index filler).filler? slot = if slot = index then some filler else filling.filler? slot := by
  unfold filler? fill
  by_cases same : slot = index
  · simp [same, inside]
  · simp [same, List.getElem?_set_ne (Ne.symm same)]

theorem Shows.placeNext (shows : filling.Shows signature placed) {argument : Supplied}
    (unnamed : argument.name = none) :
    (filling.placeNext argument.filler).Shows signature (placed ++ [argument]) := by
  have counted : Supplied.positional (placed ++ [argument]) = Supplied.positional placed ++ [argument] :=
    Supplied.positional_concat_unnamed unnamed
  have holders (slot : Nat) : signature.holder? (placed ++ [argument]) slot = _ :=
    Signature.holder?_concat_unnamed unnamed slot
  obtain ⟨length, positional, excess, slots⟩ := shows
  unfold Filling.placeNext
  simp only
  split
  · rename_i inside
    refine ⟨by simpa [fill] using length, by simp [fill, counted, positional], ?_, fun slot small => ?_⟩
    · simp only [fill, counted, List.length_append, List.length_singleton, excess]
      omega
    · have filled : (fill { filling with positional := filling.positional + 1 } filling.positional
          argument.filler).filler? slot = _ := filler?_fill inside argument.filler slot
      rw [holders, filled, ← positional]
      split
      · rfl
      · exact slots slot small
  · rename_i outside
    refine ⟨length, by simp [counted, positional], ?_, fun slot small => ?_⟩
    · simp only [counted, List.length_append, List.length_singleton, List.append_eq_nil_iff, List.cons_ne_nil,
        and_false, false_iff]
      omega
    · rw [holders, if_neg (by omega)]
      exact slots slot small

/-- Placing one argument keeps what is shown, and reports nothing exactly if its slot is free. -/
theorem Shows.place (shows : filling.Shows signature placed) (settings : Settings) (argument : Supplied) :
    ∃ next reported, filling.place settings signature argument = .ok (next, reported) ∧
      next.Shows signature (placed ++ [argument]) ∧ (reported = [] ↔ signature.Free placed argument) := by
  cases name : argument.name with
  | none =>
    refine ⟨filling.placeNext argument.filler, [], ?_, shows.placeNext name, ?_⟩
    · simp only [Filling.place, name]
      rfl
    · simp [Signature.Free, name]
  | some called =>
    have named : argument.name.isSome = true := by simp [name]
    have counted : Supplied.positional (placed ++ [argument]) = Supplied.positional placed :=
      Supplied.positional_concat_named named
    have holders (slot : Nat) : signature.holder? (placed ++ [argument]) slot = _ :=
      Signature.holder?_concat_named named slot
    have names : signature.named? argument = signature.index? called := by simp [Signature.named?, name]
    simp only [Filling.place, name, placeNamed]
    cases found : signature.index? called with
    | none =>
      rw [found] at names
      refine ⟨filling, _, rfl, ⟨shows.length, by rw [counted]; exact shows.positional,
        by rw [counted]; exact shows.excess, fun slot inside => ?_⟩, ?_⟩
      · rw [holders, shows.slots slot inside]
        simp [names]
      · simp [Signature.Free, named, names]
    | some index =>
      rw [found] at names
      have inside := Signature.index?_lt found
      have filler := shows.slots index inside
      simp only
      cases holder : signature.holder? placed index with
      | none =>
        rw [holder, Option.map_none] at filler
        rw [filler]
        refine ⟨filling.fill index argument.filler, [], rfl, ⟨by simpa [fill] using shows.length,
          by rw [counted]; exact shows.positional, by rw [counted]; exact shows.excess, fun slot small => ?_⟩, ?_⟩
        · rw [holders, filler?_fill (by rw [shows.length]; exact inside), shows.slots slot small, names]
          by_cases same : slot = index
          · simp [same, holder]
          · simp [same, Ne.symm same]
        · simp [Signature.Free, named, names, holder]
      | some previous =>
        rw [holder, Option.map_some] at filler
        rw [filler]
        refine ⟨filling, _, rfl, ⟨shows.length, by rw [counted]; exact shows.positional,
          by rw [counted]; exact shows.excess, fun slot small => ?_⟩, ?_⟩
        · rw [holders, shows.slots slot small, names]
          by_cases same : slot = index
          · simp [same, holder]
          · simp [Ne.symm same]
        · simp [Signature.Free, named, names, holder]

/-- The same of all arguments. -/
theorem placeAll_shows (signature : Signature) (settings : Settings) (supplied : List Supplied) :
    ∃ filling reported,
      supplied.foldlM (Filling.place settings signature) (start signature.parameters) = .ok (filling, reported) ∧
        filling.Shows signature supplied ∧ (reported = [] ↔ signature.Placeable supplied) := by
  induction supplied using List.reverseRecOn with
  | nil =>
    refine ⟨start signature.parameters, [], rfl, start_shows signature, ?_⟩
    simp [Signature.Placeable]
  | append_singleton before argument ih =>
    obtain ⟨filling, reported, placed, shows, silent⟩ := ih
    obtain ⟨next, further, place, shows', silent'⟩ := shows.place settings argument
    refine ⟨next, reported ++ further, ?_, shows', ?_⟩
    · rw [List.foldlM_append]
      refine Reporting.bind_of_ok placed ?_
      rw [List.foldlM_cons]
      exact (Reporting.bind_of_ok place rfl).trans (by rw [List.append_nil])
    · rw [List.append_eq_nil_iff, silent, silent', Signature.placeable_concat]

end Filling

/-! ### Defaults -/

namespace Parameter

/-- What is in the slot of a parameter in the end: what was in it, or else the default. -/
def filled? (span : Span) (parameter : Parameter) (slot : Option Filler) : Option Filler :=
  slot.or (parameter.fallback.map fun value => ⟨value, span⟩)

theorem fillSlot_silent {span : Span} {parameter : Parameter} {slot result : Option Filler} :
    parameter.fillSlot span slot = .ok (result, []) ↔
      result = parameter.filled? span slot ∧ result.isSome = true := by
  unfold fillSlot filled?
  cases slot with
  | some filler =>
    constructor
    · intro same
      cases same
      exact ⟨rfl, rfl⟩
    · rintro ⟨rfl, -⟩
      rfl
  | none =>
    cases parameter.fallback with
    | some value =>
      constructor
      · intro same
        cases same
        exact ⟨rfl, rfl⟩
      · rintro ⟨rfl, -⟩
        rfl
    | none =>
      constructor
      · intro same
        cases same
      · rintro ⟨rfl, impossible⟩
        cases impossible

theorem fillSlots_silent {span : Span} {parameters : List Parameter} {slots results : List (Option Filler)}
    (length : slots.length = parameters.length) :
    Parameter.fillSlots span parameters slots = .ok (results, []) ↔
      results.length = parameters.length ∧
        ∀ (index : Nat) (parameter : Parameter), parameters[index]? = some parameter →
          ∃ filler, results[index]? = some (some filler) ∧
            parameter.filled? span slots[index]?.join = some filler := by
  induction parameters generalizing slots results with
  | nil =>
    obtain rfl := List.length_eq_zero_iff.1 length
    constructor
    · intro same
      cases same
      simp
    · rintro ⟨empty, -⟩
      obtain rfl := List.length_eq_zero_iff.1 empty
      rfl
  | cons parameter rest ih =>
    cases slots with
    | nil => cases length
    | cons slot slots =>
      have lengths : slots.length = rest.length := by simpa using length
      simp only [fillSlots]
      rw [Reporting.bind_silent]
      simp only [Reporting.bind_silent, fillSlot_silent, ih lengths]
      constructor
      · rintro ⟨first, ⟨rfl, present⟩, others, ⟨counted, each⟩, same⟩
        cases same
        refine ⟨by simp [counted], fun index parameter' found => ?_⟩
        cases index with
        | zero =>
          cases found
          obtain ⟨filler, is⟩ := Option.isSome_iff_exists.1 present
          exact ⟨filler, congrArg some is, is⟩
        | succ index => exact each index parameter' found
      · rintro ⟨counted, each⟩
        obtain ⟨first, others, rfl⟩ := List.exists_cons_of_length_eq_add_one counted
        obtain ⟨filler, is, filled⟩ := each 0 parameter rfl
        cases is
        refine ⟨some filler, ⟨filled.symm, rfl⟩, others, ⟨by simpa using counted, fun index parameter' found => ?_⟩,
          rfl⟩
        exact each (index + 1) parameter' found

theorem map_value_filled? (span : Span) (parameter : Parameter) (slot : Option Filler) :
    (parameter.filled? span slot).map Filler.value = (slot.map Filler.value).or parameter.fallback := by
  unfold filled?
  cases slot with
  | some filler => rfl
  | none => cases parameter.fallback <;> rfl

end Parameter

/-! ### Binding -/

theorem Filling.reportExcess_silent {filling : Filling} (span : Span) :
    filling.reportExcess span = .ok (⟨⟩, []) ↔ filling.excess = [] := by
  unfold reportExcess
  cases filling.excess with
  | nil => exact ⟨fun _ => rfl, fun _ => rfl⟩
  | cons first rest =>
    constructor
    · intro same
      cases same
    · intro same
      cases same

namespace Signature

variable {signature : Signature} {settings : Settings} {supplied : List Supplied} {span : Span}

/-- Lists with one item for each parameter are equal if they have the same one for each. -/
theorem ext_parameters {α : Type} {items others : List α} (length : items.length = signature.parameters.length)
    (length' : others.length = signature.parameters.length)
    (each : ∀ (slot : Nat) (parameter : Parameter), signature.parameters[slot]? = some parameter →
      items[slot]? = others[slot]?) : items = others := by
  refine List.ext_getElem? fun slot => ?_
  cases is : signature.parameters[slot]? with
  | none =>
    have outside := List.getElem?_eq_none_iff.1 is
    rw [List.getElem?_eq_none (by omega), List.getElem?_eq_none (by omega)]
  | some parameter => exact each slot parameter is

/-- The slots in the end, as far as they are filled. -/
def settled (signature : Signature) (supplied : List Supplied) (span : Span) : List (Option Filler) :=
  signature.parameters.mapIdx fun slot parameter =>
    parameter.filled? span ((signature.holder? supplied slot).map Supplied.filler)

theorem length_settled : (signature.settled supplied span).length = signature.parameters.length := by
  simp [settled]

theorem getElem?_settled {slot : Nat} {parameter : Parameter}
    (found : signature.parameters[slot]? = some parameter) :
    (signature.settled supplied span)[slot]? =
      some (parameter.filled? span ((signature.holder? supplied slot).map Supplied.filler)) := by
  simp [settled, found]

/-- The value in a slot is that of the argument for it, or else the default. -/
theorem map_value_settled {slot : Nat} {parameter : Parameter} {filler : Filler}
    (found : signature.parameters[slot]? = some parameter)
    (filled : (signature.settled supplied span)[slot]? = some (some filler)) :
    ((signature.holder? supplied slot).map Supplied.value).or parameter.fallback = some filler.value := by
  rw [getElem?_settled found, Option.some.injEq] at filled
  have valued := parameter.map_value_filled? span ((signature.holder? supplied slot).map Supplied.filler)
  rw [filled, Option.map_some, Option.map_map] at valued
  exact valued.symm

/-- Nothing is reported of the places of arguments exactly if each can be placed, there is a slot for each given by
position, and no slot is left empty. -/
theorem filled_silent {slots : List (Option Filler)} :
    signature.filled settings supplied span = .ok (slots, []) ↔
      signature.Placeable supplied ∧ (Supplied.positional supplied).length ≤ signature.parameters.length ∧
        slots = signature.settled supplied span ∧ none ∉ slots := by
  obtain ⟨filling, reported, placed, shows, silent⟩ := Filling.placeAll_shows signature settings supplied
  have fills : Parameter.fillSlots span signature.parameters filling.slots = .ok (slots, []) ↔
      slots = signature.settled supplied span ∧ none ∉ slots := by
    have found : ∀ (slot : Nat) (parameter : Parameter), signature.parameters[slot]? = some parameter →
        (signature.settled supplied span)[slot]? =
          some (parameter.filled? span filling.slots[slot]?.join) := by
      intro slot parameter is
      rw [getElem?_settled is, ← shows.slots slot (List.getElem?_eq_some_iff.1 is).1]
      rfl
    rw [Parameter.fillSlots_silent shows.length]
    constructor
    · rintro ⟨length, each⟩
      refine ⟨ext_parameters length length_settled fun slot parameter is => ?_, fun member => ?_⟩
      · obtain ⟨filler, here, filled⟩ := each slot parameter is
        rw [here, found slot parameter is, filled]
      · obtain ⟨slot, empty⟩ := List.mem_iff_getElem?.1 member
        have inside : slot < signature.parameters.length := length ▸ (List.getElem?_eq_some_iff.1 empty).1
        obtain ⟨filler, here, -⟩ := each slot _ (List.getElem?_eq_getElem inside)
        cases empty.symm.trans here
    · rintro ⟨rfl, full⟩
      refine ⟨length_settled, fun slot parameter is => ?_⟩
      have here := found slot parameter is
      cases filled : parameter.filled? span filling.slots[slot]?.join with
      | none => exact absurd (List.mem_of_getElem? (filled ▸ here)) full
      | some filler => exact ⟨filler, filled ▸ here, rfl⟩
  unfold filled
  rw [Reporting.bind_silent]
  simp only [Reporting.bind_silent, ← fills, ← silent, ← shows.excess,
    ← Filling.reportExcess_silent span]
  constructor
  · rintro ⟨given, gave, ⟨⟩, excess, rest⟩
    cases placed.symm.trans gave
    exact ⟨rfl, excess, rest⟩
  · rintro ⟨rfl, excess, rest⟩
    exact ⟨filling, placed, ⟨⟩, excess, rest⟩

/-- What arguments are bound to: each argument can be placed, and each parameter has a value that it accepts, from
the argument for it or else its default. -/
structure Binds (signature : Signature) (supplied : List Supplied) (values : List Value) : Prop where
  placeable : signature.Placeable supplied
  room : (Supplied.positional supplied).length ≤ signature.parameters.length
  length : values.length = signature.parameters.length
  each : ∀ (slot : Nat) (parameter : Parameter), signature.parameters[slot]? = some parameter →
    values[slot]? = ((signature.holder? supplied slot).map Supplied.value).or parameter.fallback
  accepted : signature.AcceptsAll values

/-- The values in full slots are those that the arguments and defaults give. -/
theorem values_iff {values : List Value} :
    none ∉ signature.settled supplied span ∧ values = (signature.settled supplied span).map slotValue ↔
      values.length = signature.parameters.length ∧
        ∀ (slot : Nat) (parameter : Parameter), signature.parameters[slot]? = some parameter →
          values[slot]? = ((signature.holder? supplied slot).map Supplied.value).or parameter.fallback := by
  constructor
  · rintro ⟨full, rfl⟩
    refine ⟨by rw [List.length_map, length_settled], fun slot parameter is => ?_⟩
    cases filled : (signature.settled supplied span)[slot]? with
    | none => simp [getElem?_settled is] at filled
    | some result =>
      cases result with
      | none => exact absurd (List.mem_of_getElem? filled) full
      | some filler =>
        rw [map_value_settled is filled, List.getElem?_map, filled]
        rfl
  · rintro ⟨length, each⟩
    have present : ∀ (slot : Nat) (parameter : Parameter), signature.parameters[slot]? = some parameter →
        ∃ filler, (signature.settled supplied span)[slot]? = some (some filler) := by
      intro slot parameter is
      have inside : slot < values.length := length ▸ (List.getElem?_eq_some_iff.1 is).1
      have given := each slot parameter is
      rw [List.getElem?_eq_getElem inside] at given
      cases filled : parameter.filled? span ((signature.holder? supplied slot).map Supplied.filler) with
      | none =>
        have valued := parameter.map_value_filled? span ((signature.holder? supplied slot).map Supplied.filler)
        rw [filled, Option.map_none, Option.map_map] at valued
        cases given.trans valued.symm
      | some filler => exact ⟨filler, by rw [getElem?_settled is, filled]⟩
    have mapped : ((signature.settled supplied span).map slotValue).length = signature.parameters.length := by
      rw [List.length_map, length_settled]
    refine ⟨fun member => ?_, ext_parameters length mapped fun slot parameter is => ?_⟩
    · obtain ⟨slot, empty⟩ := List.mem_iff_getElem?.1 member
      have inside : slot < signature.parameters.length := length_settled ▸ (List.getElem?_eq_some_iff.1 empty).1
      obtain ⟨filler, filled⟩ := present slot _ (List.getElem?_eq_getElem inside)
      cases empty.symm.trans filled
    · obtain ⟨filler, filled⟩ := present slot parameter is
      rw [each slot parameter is, map_value_settled is filled, List.getElem?_map, filled]
      rfl

/-- A call binds its arguments to some values exactly if these are what the arguments are bound to. -/
theorem bind_eq_some_iff {values : List Value} {diagnostics : List Diagnostic} :
    signature.bind settings supplied span = .ok (some values, diagnostics) ↔
      diagnostics = [] ∧ signature.Binds supplied values := by
  rw [bind_eq_some]
  refine and_congr_right fun _ => ⟨?_, fun binds => ?_⟩
  · rintro ⟨slots, filled, rfl, accepted⟩
    obtain ⟨placeable, room, rfl, full⟩ := filled_silent.1 filled
    obtain ⟨length, each⟩ := values_iff.1 ⟨full, rfl⟩
    exact ⟨placeable, room, length, each, accepted⟩
  · obtain ⟨full, same⟩ : none ∉ signature.settled supplied span ∧
        values = (signature.settled supplied span).map slotValue := values_iff.2 ⟨binds.length, binds.each⟩
    exact ⟨_, filled_silent.2 ⟨binds.placeable, binds.room, rfl, full⟩, same, binds.accepted⟩

end Signature

end Circuitry
