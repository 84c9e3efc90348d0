import Circuitry.Proofs.Expr.Fitting
import Circuitry.Proofs.Template.Arguments

/-!
# Arguments under the names of parameters

An instance of a template takes its arguments by name, a call of the template as a function by position as well. It
hands on a value for each parameter under its name, defaults included. For proper arguments this makes no other
instance than the arguments of the call do under their names, in whatever order these are given.
-/

set_option autoImplicit false

namespace Circuitry

/-- A known value of the type of a parameter, whichever type is compared with the other. -/
def TemplateParameter.Admits (parameter : TemplateParameter) (value : Value) : Prop :=
  ∃ ty payload, value = .known ty payload ∧ ty.same parameter.ty = true ∧ parameter.ty.same ty = true

namespace Template

/-- Parameters have different names, and known defaults of their types if any. -/
structure Regular (template : Template) : Prop where
  distinct : (template.parameters.map TemplateParameter.name).Nodup
  defaults : ∀ parameter ∈ template.parameters, ∀ value, parameter.fallback = some value → parameter.Admits value

/-- Proper arguments of a call, by position and then by name: known values of the types of the parameters, at most one
for each, and one for each without a default. -/
structure Serves (template : Template) (byPosition byName : List Supplied) : Prop where
  unnamed : ∀ argument ∈ byPosition, argument.name = none
  room : byPosition.length ≤ template.parameters.length
  distinct : (byName.map Supplied.name).Nodup
  names : ∀ argument ∈ byName, ∃ slot parameter, template.parameters[slot]? = some parameter ∧
    argument.name = some parameter.name ∧ byPosition.length ≤ slot
  complete : ∀ (slot : Nat) (parameter : TemplateParameter), template.parameters[slot]? = some parameter →
    parameter.fallback = none →
      slot < byPosition.length ∨ ∃ argument ∈ byName, argument.name = some parameter.name
  typedByPosition : ∀ (slot : Nat) (parameter : TemplateParameter) (argument : Supplied),
    template.parameters[slot]? = some parameter → byPosition[slot]? = some argument → parameter.Admits argument.value
  typedByName : ∀ argument ∈ byName, ∀ parameter ∈ template.parameters, argument.name = some parameter.name →
    parameter.Admits argument.value

/-- The arguments of a call under names, those given by position under the names of their parameters. -/
def underNames (template : Template) (byPosition byName : List Supplied) : List (String × Value) :=
  template.named (byPosition.map Supplied.value) ++
    byName.filterMap fun argument => argument.name.map fun name => (name, argument.value)

/-- What a parameter is bound to, given arguments by name: the argument of its name, or else its default. -/
def valueOf? (arguments : List (String × Value)) (parameter : TemplateParameter) : Option Value :=
  (arguments.lookup parameter.name).or parameter.fallback

/-- Proper arguments by name: known values of the types of parameters, each under a name of its own, and one for each
parameter without a default. -/
structure Proper (template : Template) (arguments : List (String × Value)) : Prop where
  distinct : (Record.names arguments).Nodup
  declared : ∀ argument ∈ arguments, ∃ parameter ∈ template.parameters, parameter.name = argument.1
  complete : ∀ parameter ∈ template.parameters, ∃ value, valueOf? arguments parameter = some value
  typed : ∀ parameter ∈ template.parameters, ∀ value, arguments.lookup parameter.name = some value →
    parameter.Admits value

variable {template : Template} {settings : Settings}

/-! ### Values of parameters -/

theorem parameterValue_of_admits (template : Template) {parameter : TemplateParameter} {value : Value}
    (admits : parameter.Admits value) : template.parameterValue parameter (some value) = .ok (value, []) := by
  obtain ⟨ty, payload, rfl, same, -⟩ := admits
  exact template.parameterValue_of_same rfl same

/-- Parameters are bound alike wherever the same value is made for each. -/
theorem bindFrom_congr {context : ContextId} {given given' : Given} (index : Nat)
    {parameters : List TemplateParameter}
    (agree : ∀ (offset : Nat) (parameter : TemplateParameter), parameters[offset]? = some parameter →
      template.parameterValue parameter (given.lookup (index + offset)) =
        template.parameterValue parameter (given'.lookup (index + offset))) :
    template.bindFrom context given index parameters = template.bindFrom context given' index parameters := by
  induction parameters generalizing index with
  | nil => rfl
  | cons parameter rest ih =>
    have others := ih (index + 1) fun offset other found => by
      have same := agree (offset + 1) other found
      rwa [← Nat.add_assoc, Nat.add_right_comm] at same
    have here := agree 0 parameter rfl
    rw [Nat.add_zero] at here
    simp only [bindFrom, here, others]

/-! ### Names and positions -/

section Names

variable (distinct : (template.parameters.map TemplateParameter.name).Nodup)
include distinct

/-- What is taken for a parameter is the argument of its name. -/
theorem lookup_positioned {index : Nat} {parameter : TemplateParameter}
    (found : template.parameters[index]? = some parameter) (arguments : List (String × Value)) :
    (template.positioned arguments).lookup index = arguments.lookup parameter.name := by
  induction arguments with
  | nil => rfl
  | cons argument rest ih =>
    obtain ⟨name, value⟩ := argument
    have names : template.position? name = some index ↔ name = parameter.name := by
      rw [findIdx?_key_iff distinct]
      constructor
      · rintro ⟨other, here, rfl⟩
        cases found.symm.trans here
        rfl
      · rintro rfl
        exact ⟨parameter, found, rfl⟩
    unfold positioned at ih ⊢
    rw [List.filterMap_cons, List.lookup_cons]
    cases position : template.position? name with
    | none =>
      have apart : parameter.name ≠ name := fun same => by simp [names.2 same.symm] at position
      rw [beq_false_of_ne apart]
      exact ih
    | some other =>
      simp only [Option.map_some, List.lookup_cons]
      by_cases same : index = other
      · subst same
        rw [names.1 position, beq_self_eq_true, beq_self_eq_true]
      · have apart : parameter.name ≠ name := fun equal => same (by simpa [position] using (names.2 equal.symm).symm)
        rw [beq_false_of_ne apart, beq_false_of_ne same]
        exact ih

/-- Under the name of a parameter is the value for its position. -/
theorem lookup_named {slot : Nat} {parameter : TemplateParameter}
    (found : template.parameters[slot]? = some parameter) (values : List Value) :
    (template.named values).lookup parameter.name = values[slot]? := by
  unfold named
  generalize template.parameters = parameters at distinct found
  induction parameters generalizing slot values with
  | nil => cases found
  | cons first rest ih =>
    obtain ⟨fresh, distinct⟩ := List.nodup_cons.1 distinct
    cases values with
    | nil => simp
    | cons value values =>
      rw [List.zip_cons_cons, List.map_cons, List.lookup_cons]
      cases slot with
      | zero =>
        cases found
        simp
      | succ slot =>
        have member : parameter.name ∈ rest.map TemplateParameter.name :=
          List.mem_map_of_mem (List.mem_of_getElem? (by simpa using found))
        have apart : parameter.name ≠ first.name := fun same => fresh (same ▸ member)
        rw [beq_false_of_ne apart, List.getElem?_cons_succ]
        exact ih values distinct (by simpa using found)

end Names

/-- Values have the names of the first parameters. -/
theorem names_named (template : Template) (values : List Value) :
    Record.names (template.named values) = (template.parameters.take values.length).map TemplateParameter.name := by
  unfold named
  induction template.parameters generalizing values with
  | nil => simp [Record.names]
  | cons first rest ih =>
    cases values with
    | nil => simp [Record.names]
    | cons value values => simpa [Record.names] using ih values

/-- Where names are different, the order makes no difference to what is found. -/
theorem lookup_perm {arguments others : List (String × Value)} (distinct : (Record.names arguments).Nodup)
    (perm : arguments.Perm others) (name : String) : others.lookup name = arguments.lookup name := by
  have distinct' : (Record.names others).Nodup := (perm.map _).nodup_iff.1 distinct
  refine Option.ext fun value => ⟨fun found => ?_, fun found => ?_⟩
  · exact Record.lookup_of_mem distinct (perm.mem_iff.2 (Record.mem_of_lookup found))
  · exact Record.lookup_of_mem distinct' (perm.mem_iff.1 (Record.mem_of_lookup found))

/-! ### Instances -/

section Proper

variable {arguments others : List (String × Value)}

theorem Proper.perm (proper : template.Proper arguments) (perm : arguments.Perm others) : template.Proper others where
  distinct := (perm.map _).nodup_iff.1 proper.distinct
  declared argument member := proper.declared argument (perm.mem_iff.2 member)
  complete := by simpa only [valueOf?, lookup_perm proper.distinct perm] using proper.complete
  typed := by simpa only [lookup_perm proper.distinct perm] using proper.typed

/-- Proper arguments are taken without a report. -/
theorem Proper.takeAll (proper : template.Proper arguments) :
    template.takeAll settings arguments = .ok (template.positioned arguments, []) := by
  refine foldlM_take_silent proper.distinct (fun argument member => ?_) fun _ _ _ _ => rfl
  obtain ⟨parameter, declared, same⟩ := proper.declared argument member
  refine Option.isSome_iff_exists.1 (List.findIdx?_isSome.trans (List.any_eq_true.2 ⟨parameter, declared, ?_⟩))
  exact decide_eq_true same

/-- They give each parameter its value. -/
theorem Proper.parameterValue (proper : template.Proper arguments) {parameter : TemplateParameter}
    (member : parameter ∈ template.parameters) :
    ∃ value, valueOf? arguments parameter = some value ∧
      template.parameterValue parameter (arguments.lookup parameter.name) = .ok (value, []) := by
  obtain ⟨value, is⟩ := proper.complete parameter member
  refine ⟨value, is, ?_⟩
  cases given : arguments.lookup parameter.name with
  | none =>
    rw [valueOf?, given, Option.none_or] at is
    exact template.parameterValue_of_fallback is
  | some argument =>
    rw [valueOf?, given, Option.some_or] at is
    cases is
    exact template.parameterValue_of_admits (proper.typed parameter member _ given)

/-- Proper arguments that give each parameter the same value make the same instance. -/
theorem Proper.instantiate_eq (distinct : (template.parameters.map TemplateParameter.name).Nodup)
    (proper : template.Proper arguments) (proper' : template.Proper others)
    (same : ∀ parameter ∈ template.parameters, valueOf? arguments parameter = valueOf? others parameter)
    (around : Surroundings) (parent : ContextId) :
    template.instantiate around parent arguments = template.instantiate around parent others := by
  have bound (context : ContextId) :
      template.bindFrom context (template.positioned arguments) 0 template.parameters =
        template.bindFrom context (template.positioned others) 0 template.parameters := by
    refine bindFrom_congr 0 fun offset parameter found => ?_
    have member := List.mem_of_getElem? found
    obtain ⟨value, is, made⟩ := proper.parameterValue member
    obtain ⟨value', is', made'⟩ := proper'.parameterValue member
    cases (is.symm.trans (same parameter member)).trans is'
    rw [Nat.zero_add, lookup_positioned distinct found, lookup_positioned distinct found, made, made']
  have takes {arguments : List (String × Value)} (proper : template.Proper arguments) :
      template.takeAll around.settings arguments = Reporting.give (template.positioned arguments) := proper.takeAll
  unfold instantiate
  simp only [takes proper, takes proper', Run.lift_give_bind, bound]

end Proper

/-! ### Calls -/

section Calls

variable {byPosition byName : List Supplied}

/-- The values of named arguments under their names. -/
theorem lookup_named_arguments (byName : List Supplied) (name : String) :
    (byName.filterMap fun argument => argument.name.map fun name => (name, argument.value)).lookup name =
      (byName.find? fun argument => argument.name = some name).map Supplied.value := by
  induction byName with
  | nil => rfl
  | cons argument rest ih =>
    rw [List.filterMap_cons, List.find?_cons]
    cases is : argument.name with
    | none => simpa [is] using ih
    | some called =>
      simp only [Option.map_some, List.lookup_cons]
      by_cases same : name = called
      · simp [same]
      · simp [beq_false_of_ne same, Ne.symm same, ih]

/-- Under the name of a parameter is the argument for it. -/
theorem lookup_underNames (distinct : (template.parameters.map TemplateParameter.name).Nodup) {slot : Nat}
    {parameter : TemplateParameter} (found : template.parameters[slot]? = some parameter) :
    (template.underNames byPosition byName).lookup parameter.name =
      (parameter.toParameter.argument? byPosition byName slot).map Supplied.value := by
  unfold underNames Parameter.argument?
  rw [List.lookup_append, lookup_named distinct found, lookup_named_arguments, List.getElem?_map, Option.map_or]
  rfl

/-- A parameter of the function of a template is made of one of the template. -/
theorem parameters_signature {ty : Ty} {slot : Nat} {parameter : Parameter}
    (found : (template.signature ty).parameters[slot]? = some parameter) :
    ∃ declared, template.parameters[slot]? = some declared ∧ declared.toParameter = parameter := by
  rw [signature, List.getElem?_map] at found
  exact Option.map_eq_some_iff.1 found

/-- The function of a template gives its parameters the values that are given under their names. -/
theorem given?_signature (distinct : (template.parameters.map TemplateParameter.name).Nodup) (ty : Ty) {slot : Nat}
    {parameter : TemplateParameter} (found : template.parameters[slot]? = some parameter) :
    (template.signature ty).given? byPosition byName slot =
      valueOf? (template.underNames byPosition byName) parameter := by
  have found' : (template.signature ty).parameters[slot]? = some parameter.toParameter := by
    simp [signature, found]
  rw [Signature.given?, found', Option.bind_some, valueOf?, lookup_underNames distinct found]
  rfl

variable (regular : template.Regular) (serves : template.Serves byPosition byName)
include regular serves

/-- No name is among those of the arguments by position and among the others. -/
theorem Serves.apart {argument : Supplied} (member : argument ∈ byName) {name : String}
    (is : argument.name = some name) : name ∉ Record.names (template.named (byPosition.map Supplied.value)) := by
  intro early
  rw [names_named, List.length_map] at early
  obtain ⟨parameter, first, rfl⟩ := List.mem_map.1 early
  obtain ⟨slot, found⟩ := List.mem_iff_getElem?.1 first
  have small : slot < byPosition.length := by
    have inside := (List.getElem?_eq_some_iff.1 found).1
    rw [List.length_take] at inside
    omega
  rw [List.getElem?_take_of_lt small] at found
  obtain ⟨slot', parameter', found', is', beyond⟩ := serves.names argument member
  have same : parameter.name = parameter'.name := Option.some.inj (is.symm.trans is')
  have position := (findIdx?_key_iff regular.distinct).2 ⟨parameter, found, rfl⟩
  have position' := (findIdx?_key_iff regular.distinct).2 ⟨parameter', found', same.symm⟩
  cases position.symm.trans position'
  omega

theorem Serves.proper : template.Proper (template.underNames byPosition byName) where
  distinct := by
    have others : (byName.filterMap fun argument =>
        argument.name.map fun name => (name, argument.value)).map Prod.fst = byName.filterMap Supplied.name := by
      simp [List.map_filterMap, Function.comp_def]
    unfold underNames Record.names
    rw [List.map_append, others]
    refine List.nodup_append'.2 ⟨?_, ?_, fun name early late => ?_⟩
    · rw [← Record.names, names_named]
      exact regular.distinct.sublist ((List.take_sublist ..).map _)
    · have distinct := serves.distinct.filterMap fun (first second : Option String) name is is' => is.trans is'.symm
      simpa [List.filterMap_map] using distinct
    · obtain ⟨argument, member, is⟩ := List.mem_filterMap.1 late
      exact serves.apart regular member is early
  declared argument member := by
    rcases List.mem_append.1 member with early | late
    · have named := List.mem_map_of_mem (f := Prod.fst) early
      rw [← Record.names, names_named] at named
      obtain ⟨parameter, first, same⟩ := List.mem_map.1 named
      exact ⟨parameter, List.mem_of_mem_take first, same⟩
    · obtain ⟨supplied, given, is⟩ := List.mem_filterMap.1 late
      obtain ⟨name, called, rfl⟩ := Option.map_eq_some_iff.1 is
      obtain ⟨slot, parameter, found, called', -⟩ := serves.names supplied given
      exact ⟨parameter, List.mem_of_getElem? found, Option.some.inj (called'.symm.trans called)⟩
  complete parameter member := by
    obtain ⟨slot, found⟩ := List.mem_iff_getElem?.1 member
    rw [valueOf?, lookup_underNames regular.distinct found]
    cases fallback : parameter.fallback with
    | some value => exact Option.isSome_iff_exists.1 (by simp)
    | none =>
      rw [Option.or_none, ← Option.isSome_iff_exists, Option.isSome_map, Parameter.argument?]
      rcases serves.complete slot parameter found fallback with early | ⟨argument, given, is⟩
      · simp [early]
      · have late : (byName.find? fun argument => argument.name = some parameter.name).isSome = true :=
          List.find?_isSome.2 ⟨argument, given, decide_eq_true is⟩
        rw [Option.isSome_or]
        exact (Bool.or_eq_true ..).symm ▸ .inr late
  typed parameter member value given := by
    obtain ⟨slot, found⟩ := List.mem_iff_getElem?.1 member
    rw [lookup_underNames regular.distinct found] at given
    obtain ⟨argument, holds, rfl⟩ := Option.map_eq_some_iff.1 given
    rcases Option.or_eq_some_iff.1 holds with early | ⟨-, late⟩
    · exact serves.typedByPosition slot parameter argument found early
    · have is : argument.name = some parameter.toParameter.name := by simpa using List.find?_some late
      exact serves.typedByName argument (List.mem_of_find?_eq_some late) parameter member is

/-- Each parameter is given a value that it admits. -/
theorem Serves.admits {parameter : TemplateParameter} (member : parameter ∈ template.parameters) :
    ∃ value, valueOf? (template.underNames byPosition byName) parameter = some value ∧ parameter.Admits value := by
  obtain ⟨value, is⟩ := (serves.proper regular).complete parameter member
  refine ⟨value, is, ?_⟩
  rcases Option.or_eq_some_iff.1 is with given | ⟨-, fallback⟩
  · exact (serves.proper regular).typed parameter member value given
  · exact regular.defaults parameter member value fallback

/-- Proper arguments of a call fit the signature of the function that the template makes. -/
theorem Serves.fits (ty : Ty) : (template.signature ty).Fits byPosition byName where
  room := by simpa [signature] using serves.room
  distinct := serves.distinct
  names argument member := by
    obtain ⟨slot, parameter, found, is, beyond⟩ := serves.names argument member
    exact ⟨slot, parameter.toParameter, by simp [signature, found], is, beyond⟩
  complete slot parameter found beyond absent := by
    obtain ⟨declared, here, rfl⟩ := parameters_signature found
    refine Option.isSome_iff_ne_none.2 fun fallback => ?_
    rcases serves.complete slot declared here fallback with early | ⟨argument, member, is⟩
    · omega
    · exact absent argument member is
  accepted slot parameter value ty found given typed := by
    obtain ⟨declared, here, rfl⟩ := parameters_signature found
    obtain ⟨_, is, _, _, rfl, -, same⟩ := serves.admits regular (List.mem_of_getElem? here)
    rw [given?_signature regular.distinct _ here, is] at given
    cases given
    cases typed
    exact same

/-- All that they are bound to is known. -/
theorem Serves.known {ty : Ty} {slot : Nat} {value : Value}
    (given : (template.signature ty).given? byPosition byName slot = some value) : value.isKnown = true := by
  obtain ⟨parameter, found, -⟩ := Option.bind_eq_some_iff.1 given
  obtain ⟨declared, here, rfl⟩ := parameters_signature found
  obtain ⟨value', is, _, _, rfl, -⟩ := serves.admits regular (List.mem_of_getElem? here)
  rw [given?_signature regular.distinct ty here, is] at given
  cases given
  rfl

/-- What a call hands on makes the same instance as its arguments do under their names, in any order. -/
theorem Serves.instantiate_named {arguments : List (String × Value)} {values : List Value} {ty : Ty}
    (length : values.length = template.parameters.length)
    (given : ∀ slot, values[slot]? = (template.signature ty).given? byPosition byName slot)
    (perm : (template.underNames byPosition byName).Perm arguments) (around : Surroundings) (parent : ContextId) :
    template.instantiate around parent (template.named values) = template.instantiate around parent arguments := by
  have proper := serves.proper regular
  -- every parameter has an argument in what is handed on
  have found {parameter : TemplateParameter} (member : parameter ∈ template.parameters) :
      (template.named values).lookup parameter.name = valueOf? (template.underNames byPosition byName) parameter := by
    obtain ⟨slot, here⟩ := List.mem_iff_getElem?.1 member
    rw [lookup_named regular.distinct here, given, given?_signature regular.distinct ty here]
  have names : Record.names (template.named values) = template.parameters.map TemplateParameter.name := by
    rw [names_named, length, List.take_length]
  have full : template.Proper (template.named values) := by
    refine ⟨names ▸ regular.distinct, fun argument member => ?_, fun parameter member => ?_,
      fun parameter member value is => ?_⟩
    · have named := List.mem_map_of_mem (f := Prod.fst) member
      rw [← Record.names, names] at named
      exact List.mem_map.1 named
    · obtain ⟨value, is⟩ := proper.complete parameter member
      exact ⟨value, by rw [valueOf?, found member, is, Option.some_or]⟩
    · obtain ⟨value', is', admits⟩ := serves.admits regular member
      cases (is.symm.trans (found member)).trans is'
      exact admits
  refine full.instantiate_eq regular.distinct (proper.perm perm) (fun parameter member => ?_) around parent
  obtain ⟨value, is⟩ := proper.complete parameter member
  have permuted : valueOf? arguments parameter = some value := by
    rwa [valueOf?, lookup_perm proper.distinct perm]
  rw [permuted, valueOf?, found member, is, Option.some_or]

end Calls

end Template

end Circuitry
