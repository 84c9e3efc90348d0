import Circuitry.Proofs.Expr.Displacement
import Circuitry.Proofs.Kernel.Matching

/-!
# Arguments that fit a signature

Where all arguments given by position come before the named ones, and parameters have different names, no slot need
be considered to tell whether a call binds its arguments: each parameter has the value given for its position, or
under its name, or by default, and what is asked of the arguments does not depend on the order of the named ones.
-/

set_option autoImplicit false

namespace Circuitry

/-- What a constraint asks of the type of an argument, given the types of those that have one. -/
def Constraint.Allows (typeAt : Nat → Option Ty) (ty : Ty) : Constraint → Prop
  | .any => True
  | .anyNumber => ∃ dims, ty = .number dims
  | .exactly expected => expected.same ty = true
  | .sameAs index => ∀ expected, typeAt index = some expected → expected.same ty = true

/-- The argument for a parameter: the one given for its position, or else the one under its name. -/
def Parameter.argument? (byPosition byName : List Supplied) (slot : Nat) (parameter : Parameter) : Option Supplied :=
  byPosition[slot]?.or (byName.find? fun argument => argument.name = some parameter.name)

/-- The value that is given for the parameter at a position, or else its default. -/
def Signature.given? (signature : Signature) (byPosition byName : List Supplied) (slot : Nat) : Option Value :=
  signature.parameters[slot]?.bind fun parameter =>
    ((parameter.argument? byPosition byName slot).map Supplied.value).or parameter.fallback

/-- What is asked of arguments by position and by name. -/
structure Signature.Fits (signature : Signature) (byPosition byName : List Supplied) : Prop where
  /-- No more are given by position than there are parameters. -/
  room : byPosition.length ≤ signature.parameters.length
  /-- No name is given twice. -/
  distinct : (byName.map Supplied.name).Nodup
  /-- Each name is that of a parameter that is not given by position. -/
  names : ∀ argument ∈ byName, ∃ slot parameter, signature.parameters[slot]? = some parameter ∧
    argument.name = some parameter.name ∧ byPosition.length ≤ slot
  /-- Every other parameter has a default. -/
  complete : ∀ slot parameter, signature.parameters[slot]? = some parameter → byPosition.length ≤ slot →
    (∀ argument ∈ byName, argument.name ≠ some parameter.name) → parameter.fallback.isSome = true
  /-- Each value that has a type satisfies the constraint of its parameter. -/
  accepted : ∀ slot parameter value ty, signature.parameters[slot]? = some parameter →
    signature.given? byPosition byName slot = some value → value.ty? = some ty →
    parameter.constraint.Allows (fun other => (signature.given? byPosition byName other).bind Value.ty?) ty

/-! ### Constraints -/

theorem Constraint.accepts_iff {constraint : Constraint} {ty : Ty} {bound : List (Option Ty)} :
    constraint.accepts ty bound = true ↔ constraint.Allows (fun slot => bound[slot]?.join) ty := by
  cases constraint with
  | any => simp [accepts, Allows]
  | anyNumber => cases ty <;> simp [accepts, Allows, Ty.isNumber]
  | exactly expected => rfl
  | sameAs index =>
    simp only [accepts, Allows]
    cases bound[index]? with
    | none => simp
    | some slot => cases slot <;> simp

namespace Signature

variable {signature : Signature}

theorem acceptsAll_iff {values : List Value} :
    signature.AcceptsAll values ↔ signature.parameters.length = values.length ∧
      ∀ (slot : Nat) (parameter : Parameter) (value : Value) (ty : Ty), signature.parameters[slot]? = some parameter →
        values[slot]? = some value → value.ty? = some ty →
        parameter.constraint.Allows (fun other => values[other]?.bind Value.ty?) ty := by
  have types (slot : Nat) : (values.map Value.ty?)[slot]?.join = values[slot]?.bind Value.ty? := by
    rw [List.getElem?_map]
    cases values[slot]? <;> rfl
  unfold AcceptsAll
  simp only [List.forall₂_iff_get, Constraint.accepts_iff, types, List.get_eq_getElem]
  refine and_congr_right fun length => ⟨fun each slot parameter value ty found given typed => ?_, ?_⟩
  · obtain ⟨inside, rfl⟩ := List.getElem?_eq_some_iff.1 found
    obtain ⟨inside', rfl⟩ := List.getElem?_eq_some_iff.1 given
    exact each slot inside inside' ty typed
  · intro each slot inside inside' ty typed
    exact each slot _ _ ty (List.getElem?_eq_getElem inside) (List.getElem?_eq_getElem inside') typed

/-- Where names are different, an argument names the parameter that has its name. -/
theorem named?_iff (distinct : (signature.parameters.map Parameter.name).Nodup) {argument : Supplied} {slot : Nat} :
    signature.named? argument = some slot ↔
      ∃ parameter, signature.parameters[slot]? = some parameter ∧ argument.name = some parameter.name := by
  unfold named?
  rw [Option.bind_eq_some_iff]
  constructor
  · rintro ⟨name, is, found⟩
    obtain ⟨parameter, here, rfl⟩ := (findIdx?_key_iff distinct).1 found
    exact ⟨parameter, here, is⟩
  · rintro ⟨parameter, here, is⟩
    exact ⟨parameter.name, is, (findIdx?_key_iff distinct).2 ⟨parameter, here, rfl⟩⟩

/-! ### Arguments by position, and then by name -/

section Leading

variable {byPosition byName : List Supplied} (distinct : (signature.parameters.map Parameter.name).Nodup)
  (unnamed : ∀ argument ∈ byPosition, argument.name = none)

include unnamed in
theorem positional_leading (named : ∀ argument ∈ byName, argument.name.isSome = true) :
    Supplied.positional (byPosition ++ byName) = byPosition := by
  have first : Supplied.positional byPosition = byPosition :=
    List.filter_eq_self.2 fun argument member => by simp [unnamed argument member]
  have second : Supplied.positional byName = [] :=
    List.filter_eq_nil_iff.2 fun argument member => by simp [Option.isSome_iff_ne_none.1 (named argument member)]
  rw [Supplied.positional_append, first, second, List.append_nil]

include distinct unnamed

/-- A slot is held by the argument for its parameter. -/
theorem holder?_leading (named : ∀ argument ∈ byName, argument.name.isSome = true) {slot : Nat}
    {parameter : Parameter} (found : signature.parameters[slot]? = some parameter) :
    signature.holder? (byPosition ++ byName) slot = parameter.argument? byPosition byName slot := by
  have nameless : (byPosition.find? fun argument => signature.named? argument = some slot) = none :=
    List.find?_eq_none.2 fun argument member => by simp [named?, unnamed argument member]
  have names (argument : Supplied) :
      signature.named? argument = some slot ↔ argument.name = some parameter.name := by
    rw [named?_iff distinct]
    constructor
    · rintro ⟨other, here, is⟩
      cases found.symm.trans here
      exact is
    · exact fun is => ⟨parameter, found, is⟩
  unfold holder? Parameter.argument?
  rw [positional_leading unnamed named, List.find?_append, nameless, Option.none_or]
  simp only [names]

/-- A named argument is free to be placed if it names a parameter that is not given by position, and no earlier
one has the same name. -/
theorem free_leading (named : ∀ argument ∈ byName, argument.name.isSome = true) {argument : Supplied}
    (naming : argument.name.isSome = true) :
    signature.Free (byPosition ++ byName) argument ↔ argument.name ∉ byName.map Supplied.name ∧
      ∃ slot parameter, signature.parameters[slot]? = some parameter ∧ argument.name = some parameter.name ∧
        byPosition.length ≤ slot := by
  simp only [Free, naming, true_implies, named?_iff distinct]
  constructor
  · rintro ⟨slot, ⟨parameter, found, is⟩, free⟩
    rw [holder?_leading distinct unnamed named found] at free
    obtain ⟨outside, absent⟩ := Option.or_eq_none_iff.1 free
    refine ⟨fun repeated => ?_, slot, parameter, found, is, List.getElem?_eq_none_iff.1 outside⟩
    obtain ⟨earlier, member, same⟩ := List.mem_map.1 repeated
    simpa [same, is] using List.find?_eq_none.1 absent earlier member
  · rintro ⟨fresh, slot, parameter, found, is, beyond⟩
    refine ⟨slot, ⟨parameter, found, is⟩, ?_⟩
    rw [holder?_leading distinct unnamed named found]
    refine Option.or_eq_none_iff.2 ⟨List.getElem?_eq_none beyond, List.find?_eq_none.2 fun earlier member same => ?_⟩
    exact fresh (is ▸ List.mem_map.2 ⟨earlier, member, of_decide_eq_true same⟩)

theorem placeable_leading (named : ∀ argument ∈ byName, argument.name.isSome = true) :
    signature.Placeable (byPosition ++ byName) ↔ (byName.map Supplied.name).Nodup ∧
      ∀ argument ∈ byName, ∃ slot parameter, signature.parameters[slot]? = some parameter ∧
        argument.name = some parameter.name ∧ byPosition.length ≤ slot := by
  induction byName using List.reverseRecOn with
  | nil =>
    refine iff_of_true (fun before argument after parts naming => ?_) (by simp)
    have member : argument ∈ byPosition := by
      rw [List.append_nil] at parts
      simp [parts]
    simp [unnamed argument member] at naming
  | append_singleton before argument ih =>
    have named' : ∀ earlier ∈ before, earlier.name.isSome = true :=
      fun earlier member => named earlier (by simp [member])
    rw [← List.append_assoc, placeable_concat, ih named',
      free_leading distinct unnamed named' (named argument (by simp))]
    simp only [List.map_append, List.map_singleton, List.nodup_append, List.nodup_singleton, List.mem_append,
      List.mem_singleton, or_imp, forall_and, forall_eq, true_and]
    grind

/-- Arguments that fit are bound to what is given for each parameter, without a report, and no others are bound. -/
theorem bind_iff_fits (named : ∀ argument ∈ byName, argument.name.isSome = true) {settings : Settings} {span : Span}
    {values : List Value} {diagnostics : List Diagnostic} :
    signature.bind settings (byPosition ++ byName) span = .ok (some values, diagnostics) ↔
      diagnostics = [] ∧ signature.Fits byPosition byName ∧ values.length = signature.parameters.length ∧
        ∀ slot, values[slot]? = signature.given? byPosition byName slot := by
  rw [bind_eq_some_iff]
  refine and_congr_right fun _ => ⟨fun binds => ?_, ?_⟩
  · obtain ⟨placeable, room, length, each, accepted⟩ := binds
    have given (slot : Nat) : values[slot]? = signature.given? byPosition byName slot := by
      unfold given?
      cases found : signature.parameters[slot]? with
      | none =>
        have outside := List.getElem?_eq_none_iff.1 found
        exact List.getElem?_eq_none (by omega)
      | some parameter =>
        rw [each slot parameter found, holder?_leading distinct unnamed named found, Option.bind_some]
    obtain ⟨different, names⟩ := (placeable_leading distinct unnamed named).1 placeable
    rw [positional_leading unnamed named] at room
    refine ⟨⟨room, different, names, fun slot parameter found beyond absent => ?_, ?_⟩, length, given⟩
    · have inside : slot < values.length := length ▸ (List.getElem?_eq_some_iff.1 found).1
      have missing : parameter.argument? byPosition byName slot = none :=
        Option.or_eq_none_iff.2 ⟨List.getElem?_eq_none beyond, List.find?_eq_none.2 (by simpa using absent)⟩
      have value := given slot
      rw [List.getElem?_eq_getElem inside, given?, found, Option.bind_some, missing] at value
      exact Option.isSome_iff_exists.2 ⟨_, value.symm⟩
    · simpa only [given] using (acceptsAll_iff.1 accepted).2
  · rintro ⟨fits, length, given⟩
    refine ⟨(placeable_leading distinct unnamed named).2 ⟨fits.distinct, fits.names⟩, ?_, length, ?_, ?_⟩
    · rw [positional_leading unnamed named]
      exact fits.room
    · intro slot parameter found
      rw [given slot, given?, found, Option.bind_some, holder?_leading distinct unnamed named found]
    · refine acceptsAll_iff.2 ⟨length.symm, ?_⟩
      simpa only [given] using fits.accepted

/-- Nor is an argument displaced then: each ends up in a slot of its own. -/
theorem bind_leading_keeps (named : ∀ argument ∈ byName, argument.name.isSome = true) {settings : Settings}
    {span : Span} {values : List Value} {diagnostics : List Diagnostic}
    (bound : signature.bind settings (byPosition ++ byName) span = .ok (some values, diagnostics)) :
    signature.Keeps (byPosition ++ byName) values := by
  obtain ⟨-, fits, -⟩ := (bind_iff_fits distinct unnamed named).1 bound
  obtain ⟨-, binds⟩ := bind_eq_some_iff.1 bound
  refine binds.keeps fun argument member slot names => ?_
  rw [positional_leading unnamed named]
  rcases List.mem_append.1 member with early | late
  · simp [named?, unnamed argument early] at names
  · obtain ⟨slot', parameter, found, is, beyond⟩ := fits.names argument late
    cases names.symm.trans ((named?_iff distinct).2 ⟨parameter, found, is⟩)
    exact beyond

end Leading

/-! ### All values, and the order of the named ones -/

section Order

variable {byPosition byName : List Supplied}

/-- Arguments that fit give each parameter a value. -/
theorem Fits.given (fits : signature.Fits byPosition byName) {slot : Nat}
    (inside : slot < signature.parameters.length) :
    ∃ value, signature.given? byPosition byName slot = some value := by
  have found := List.getElem?_eq_getElem inside
  rw [given?, found, Option.bind_some]
  cases holds : signature.parameters[slot].argument? byPosition byName slot with
  | some argument => exact ⟨argument.value, rfl⟩
  | none =>
    obtain ⟨outside, absent⟩ := Option.or_eq_none_iff.1 holds
    obtain ⟨value, fallback⟩ := Option.isSome_iff_exists.1 <|
      fits.complete slot _ found (List.getElem?_eq_none_iff.1 outside) (by simpa using List.find?_eq_none.1 absent)
    exact ⟨value, fallback⟩

theorem Fits.exists_values (fits : signature.Fits byPosition byName) :
    ∃ values : List Value, values.length = signature.parameters.length ∧
      ∀ slot, values[slot]? = signature.given? byPosition byName slot := by
  refine ⟨signature.parameters.mapIdx fun slot _ => (signature.given? byPosition byName slot).getD .placeholder,
    List.length_mapIdx, fun slot => ?_⟩
  rw [List.getElem?_mapIdx]
  cases found : signature.parameters[slot]? with
  | none => simp [given?, found]
  | some parameter =>
    obtain ⟨value, is⟩ := fits.given (List.getElem?_eq_some_iff.1 found).1
    rw [is, Option.map_some, Option.getD_some]

theorem given?_perm {others : List Supplied} (perm : byName.Perm others) (distinct : (byName.map Supplied.name).Nodup)
    (slot : Nat) : signature.given? byPosition others slot = signature.given? byPosition byName slot := by
  unfold given? Parameter.argument?
  simp only [find?_key_perm perm distinct]

theorem Fits.perm {others : List Supplied} (fits : signature.Fits byPosition byName) (perm : byName.Perm others) :
    signature.Fits byPosition others where
  room := fits.room
  distinct := (perm.map _).nodup_iff.1 fits.distinct
  names argument member := fits.names argument (perm.mem_iff.2 member)
  complete slot parameter found beyond absent :=
    fits.complete slot parameter found beyond fun argument member => absent argument (perm.mem_iff.1 member)
  accepted := by
    simpa only [given?_perm perm fits.distinct] using fits.accepted

/-- Where parameters have different names and arguments by position come first, a call binds its arguments exactly if
they fit. It then binds each parameter to what is given for it and reports nothing, and the order of the named
arguments makes no difference. -/
theorem bind_position_first (distinct : (signature.parameters.map Parameter.name).Nodup)
    (unnamed : ∀ argument ∈ byPosition, argument.name = none)
    (named : ∀ argument ∈ byName, argument.name.isSome = true) (settings : Settings) (span : Span) :
    ((∃ values diagnostics, signature.bind settings (byPosition ++ byName) span = .ok (some values, diagnostics)) ↔
        signature.Fits byPosition byName) ∧
      (∀ values diagnostics,
        signature.bind settings (byPosition ++ byName) span = .ok (some values, diagnostics) →
          diagnostics = [] ∧ values.length = signature.parameters.length ∧
            ∀ slot, values[slot]? = signature.given? byPosition byName slot) ∧
      ∀ others, byName.Perm others → ∀ values diagnostics,
        signature.bind settings (byPosition ++ byName) span = .ok (some values, diagnostics) ↔
          signature.bind settings (byPosition ++ others) span = .ok (some values, diagnostics) := by
  refine ⟨⟨?_, fun fits => ?_⟩, fun values diagnostics bound => ?_, fun others perm values diagnostics => ?_⟩
  · rintro ⟨values, diagnostics, bound⟩
    exact ((bind_iff_fits distinct unnamed named).1 bound).2.1
  · obtain ⟨values, length, given⟩ := fits.exists_values
    exact ⟨values, [], (bind_iff_fits distinct unnamed named).2 ⟨rfl, fits, length, given⟩⟩
  · obtain ⟨silent, -, length, given⟩ := (bind_iff_fits distinct unnamed named).1 bound
    exact ⟨silent, length, given⟩
  · have named' : ∀ argument ∈ others, argument.name.isSome = true :=
      fun argument member => named argument (perm.mem_iff.2 member)
    rw [bind_iff_fits distinct unnamed named, bind_iff_fits distinct unnamed named']
    refine and_congr_right fun _ => ⟨?_, ?_⟩
    · rintro ⟨fits, length, given⟩
      exact ⟨fits.perm perm, length, by simpa only [given?_perm perm fits.distinct] using given⟩
    · rintro ⟨fits, length, given⟩
      exact ⟨fits.perm perm.symm, length, by simpa only [given?_perm perm.symm fits.distinct] using given⟩

end Order

end Signature

namespace Clamping

def place : Span := .atStart 0

def number (value : Rat) : Value := .ofQuantity (.ofNumber value)

/-- A number, a factor that has a default, and a limit of the type of the first. -/
def signature : Signature where
  parameters := [⟨"x", .anyNumber, none⟩, ⟨"by", .exactly .plainNumber, some (number 2)⟩, ⟨"limit", .sameAs 0, none⟩]
  returns := .sameAs 0

def byPosition : List Supplied := [⟨none, number 4, place⟩]

def limit : Supplied := ⟨some "limit", number 9, place⟩

def factor : Supplied := ⟨some "by", number 3, place⟩

end Clamping

/-- A factor and a limit by name may come in either order. -/
theorem Signature.bind_either_order :
    Clamping.signature.bind .standard (Clamping.byPosition ++ [Clamping.limit, Clamping.factor]) Clamping.place =
        .ok (some [Clamping.number 4, Clamping.number 3, Clamping.number 9], []) ∧
      Clamping.signature.bind .standard (Clamping.byPosition ++ [Clamping.factor, Clamping.limit]) Clamping.place =
        .ok (some [Clamping.number 4, Clamping.number 3, Clamping.number 9], []) := by
  have bound : Clamping.signature.bind .standard (Clamping.byPosition ++ [Clamping.limit, Clamping.factor])
      Clamping.place = .ok (some [Clamping.number 4, Clamping.number 3, Clamping.number 9], []) := by rfl
  have either := @bind_position_first Clamping.signature Clamping.byPosition [Clamping.limit, Clamping.factor]
    (by decide) (by decide) (by decide) .standard Clamping.place
  exact ⟨bound, (either.2.2 _ (List.Perm.swap ..) _ _).1 bound⟩

end Circuitry
