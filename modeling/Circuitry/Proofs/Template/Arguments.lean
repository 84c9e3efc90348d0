import Circuitry.Proofs.Template.Instance

/-!
# Proper arguments

Arguments that name different parameters, have the types of these and leave out only parameters with defaults
are taken and bound without a report.
-/

set_option autoImplicit false

namespace Circuitry.Template

variable {registry : Registry} {settings : Settings} {template : Template}

/-- The position of the parameter that an argument names. -/
abbrev position? (template : Template) (name : String) : Option Nat :=
  template.parameters.findIdx? fun parameter => parameter.name = name

/-- Proper arguments: each names a parameter, which no other does, and has its type; and there is one for each
parameter that has no default. -/
structure Fits (registry : Registry) (template : Template) (arguments : List (String × Value)) : Prop where
  distinct : (Record.names arguments).Nodup
  sound : ∀ argument ∈ arguments, argument.2.wellFormed registry = true
  typed : ∀ argument ∈ arguments, ∃ index parameter, template.position? argument.1 = some index ∧
    template.parameters[index]? = some parameter ∧ argument.2.hasType parameter.ty = true
  supplied : ∀ index parameter, template.parameters[index]? = some parameter → parameter.fallback = none →
    ∃ argument ∈ arguments, template.position? argument.1 = some index

/-- The arguments that name parameters, by position. -/
def positioned (template : Template) (arguments : List (String × Value)) : Given :=
  arguments.filterMap fun argument => (template.position? argument.1).map fun index => (index, argument.2)

theorem mem_positioned {arguments : List (String × Value)} {index : Nat} {value : Value} :
    (index, value) ∈ template.positioned arguments ↔
      ∃ name, (name, value) ∈ arguments ∧ template.position? name = some index := by
  simp [positioned]

/-- One position has one name. -/
theorem position?_injective {name other : String} {index : Nat} (found : template.position? name = some index)
    (found' : template.position? other = some index) : name = other := by
  obtain ⟨inside, named, -⟩ := List.findIdx?_eq_some_iff_getElem.1 found
  obtain ⟨_, named', -⟩ := List.findIdx?_eq_some_iff_getElem.1 found'
  exact (of_decide_eq_true named).symm.trans (of_decide_eq_true named')

/-- An argument for a parameter that has none yet is taken. -/
theorem take_silent {given : Given} {name : String} {value : Value} {index : Nat}
    (declared : template.position? name = some index) (free : given.lookup index = none) :
    template.take settings given (name, value) = .ok (given ++ [(index, value)], []) := by
  simp only [take, declared, free]
  rfl

/-- Arguments that name different parameters are all taken, if the ones before them named others. -/
theorem foldlM_take_silent {arguments : List (String × Value)} (distinct : (Record.names arguments).Nodup)
    (declared : ∀ argument ∈ arguments, ∃ index, template.position? argument.1 = some index) {given : Given}
    (free : ∀ argument ∈ arguments, ∀ index, template.position? argument.1 = some index →
      given.lookup index = none) :
    arguments.foldlM (template.take settings) given = .ok (given ++ template.positioned arguments, []) := by
  induction arguments generalizing given with
  | nil =>
    rw [positioned, List.filterMap_nil, List.append_nil]
    rfl
  | cons argument rest ih =>
    obtain ⟨name, value⟩ := argument
    obtain ⟨index, found⟩ := declared (name, value) (by simp)
    obtain ⟨fresh, distinctRest⟩ := List.nodup_cons.1 distinct
    have freeRest : ∀ argument ∈ rest, ∀ other, template.position? argument.1 = some other →
        (given ++ [(index, value)]).lookup other = none := by
      intro argument member other found'
      have apart : other ≠ index := by
        rintro rfl
        exact fresh (position?_injective found found' ▸ List.mem_map_of_mem (f := Prod.fst) member)
      rw [List.lookup_append, free argument (List.mem_cons_of_mem _ member) other found', Option.none_or,
        List.lookup_cons, beq_false_of_ne apart]
      rfl
    have folded := ih distinctRest (fun argument member => declared argument (List.mem_cons_of_mem _ member))
      freeRest
    rw [List.foldlM_cons]
    refine (Reporting.bind_of_ok (take_silent found (free _ (by simp) index found)) folded).trans ?_
    simp only [positioned, List.filterMap_cons, found, Option.map_some, List.append_assoc, List.nil_append,
      List.cons_append]
    rfl

theorem takeAll_silent {arguments : List (String × Value)} (fits : template.Fits registry arguments) :
    template.takeAll settings arguments = .ok (template.positioned arguments, []) := by
  refine foldlM_take_silent fits.distinct (fun argument member => ?_) fun _ _ _ _ => rfl
  obtain ⟨index, -, found, -⟩ := fits.typed argument member
  exact ⟨index, found⟩

/-- What is given for a parameter, if anything is, makes a value that has its type; if nothing is, it has a
default. -/
structure Covers (registry : Registry) (parameter : TemplateParameter) (given : Option Value) : Prop where
  sound : ∀ value, given = some value → value.wellFormed registry = true
  typed : ∀ value, given = some value → value.hasType parameter.ty = true
  supplied : parameter.fallback = none → given ≠ none

theorem parameterValue_silent (template : Template) {parameter : TemplateParameter}
    (sound : parameter.Sound registry) {given : Option Value} (covers : Covers registry parameter given) :
    ∃ value, template.parameterValue parameter given = .ok (value, []) := by
  cases given with
  | none =>
    cases fallback : parameter.fallback with
    | none => exact absurd rfl (covers.supplied fallback)
    | some value => exact ⟨value, template.parameterValue_of_fallback fallback⟩
  | some value =>
    have has := covers.typed value rfl
    obtain ⟨ty, is, -⟩ := Value.hasType_iff.1 has
    have same := (sound.hasType_iff (covers.sound value rfl) is).2 has
    exact ⟨value, template.parameterValue_of_same is same⟩

/-- Parameters that are covered are bound without a report. -/
theorem bindFrom_silent {context : ContextId} {given : Given} {parameters : List TemplateParameter}
    (sound : ∀ parameter ∈ parameters, parameter.Sound registry) (index : Nat)
    (covers : ∀ offset parameter, parameters[offset]? = some parameter →
      Covers registry parameter (given.lookup (index + offset)))
    {contexts last : ContextForest} {diagnostics : List Diagnostic}
    (bound : template.bindFrom context given index parameters contexts = (last, .ok (⟨⟩, diagnostics))) :
    diagnostics = [] := by
  induction parameters generalizing index contexts diagnostics with
  | nil =>
    cases bound
    rfl
  | cons parameter rest ih =>
    obtain ⟨value, before, after, made, -, -, others, rfl⟩ := bindFrom_cons_eq_ok.1 bound
    obtain ⟨value', made'⟩ := template.parameterValue_silent (sound parameter (by simp))
      (covers 0 parameter rfl)
    cases made.symm.trans made'
    refine ih (fun parameter member => sound parameter (List.mem_cons_of_mem _ member)) (index + 1)
      (fun offset parameter found => ?_) others
    rw [Nat.add_right_comm, Nat.add_assoc]
    exact covers (offset + 1) parameter found

/-- Proper arguments cover all parameters. -/
theorem Fits.covers {arguments : List (String × Value)} (fits : template.Fits registry arguments) {index : Nat}
    {parameter : TemplateParameter} (found : template.parameters[index]? = some parameter) :
    Covers registry parameter ((template.positioned arguments).lookup index) := by
  have listed : ∀ value, (template.positioned arguments).lookup index = some value →
      ∃ name, (name, value) ∈ arguments ∧ template.position? name = some index := by
    intro value is
    obtain ⟨before, after, split, -⟩ := List.lookup_eq_some_iff.1 is
    exact mem_positioned.1 (by simp [split])
  refine ⟨fun value is => ?_, fun value is => ?_, fun missing nothing => ?_⟩
  · obtain ⟨name, member, -⟩ := listed value is
    exact fits.sound _ member
  · obtain ⟨name, member, named⟩ := listed value is
    obtain ⟨index', parameter', named', found', has⟩ := fits.typed _ member
    cases named.symm.trans named'
    cases found.symm.trans found'
    exact has
  · obtain ⟨⟨name, value⟩, member, named⟩ := fits.supplied index parameter found missing
    have absent := List.lookup_eq_none_iff.1 nothing (index, value) (mem_positioned.2 ⟨name, member, named⟩)
    simp at absent

end Circuitry.Template
