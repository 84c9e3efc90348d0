import Circuitry.Proofs.Block.Forecast
import Circuitry.Proofs.Expr.Agreement
import Mathlib.Tactic.NormNum

/-!
# Evaluation in a context

What an expression of well-formed literals comes to in a context of well-formed bindings. No fault ends its
evaluation, whatever the shapes of the values that meet in it, and its value is well-formed. An answer that is
not a placeholder stands: once more is known, the same expression comes to a refinement of it, so an answer that
leaves nothing open does not change any more. And it does not matter in which units quantities are written, nor
in which order attributes are: neither to the value, nor to the places and kinds of what is reported.
-/

set_option autoImplicit false

namespace Circuitry

/-! ### A supply with a voltage -/

namespace Supply

def supply : Symbol := ⟨0, "supply", ⟨0⟩⟩

def volt : PhysicalUnit := .coherent "V" .voltage

/-- A supply of a given voltage. -/
def rail (voltage : Value) : Value :=
  .known (.object [("voltage", .number .voltage), ("label", .string)])
    (.object [("voltage", voltage), ("label", .ofString "main")])

def bound (voltage : Value) : ContextForest := .sealedRoot [(supply, rail voltage)]

/-- Whether the voltage is still positive after a drop. -/
def holdsAfter (drop : Quantity) : Expr :=
  .binary (.order .greater)
    (.binary (.arithmetic .sub) (.access (.symbol supply (.atStart 0)) "voltage" (.atStart 0))
      (.literal (.ofQuantity drop) (.atStart 0)) (.atStart 0))
    (.literal (.ofQuantity ⟨0, volt⟩) (.atStart 0)) (.atStart 0)

def holds : Expr := holdsAfter ⟨1, volt⟩

def surroundings : Surroundings := ⟨⟨.ofList [], 0⟩, fun _ => .affirming, .standard⟩

theorem holds_literals : ∀ value ∈ holds.literals, value.wellFormed .ofPredicates = true := by
  simp only [holds, holdsAfter, Expr.literals, List.nil_append, List.cons_append, List.mem_cons,
    List.not_mem_nil, or_false]
  rintro value (rfl | rfl) <;> rfl

theorem rail_matches {related : Value → Value → Prop} {voltage voltage' : Value}
    (voltages : related voltage voltage') (labels : related (.ofString "main") (.ofString "main")) :
    Record.Matches related [("voltage", voltage), ("label", .ofString "main")]
      [("voltage", voltage'), ("label", .ofString "main")] :=
  have aligned : Record.Aligned related [("voltage", voltage), ("label", .ofString "main")]
      [("voltage", voltage'), ("label", .ofString "main")] := .cons ⟨rfl, voltages⟩ (.cons ⟨rfl, labels⟩ .nil)
  aligned.matches_of_nodup (by simp [Record.names])

theorem value?_bound (voltage : Value) (symbol : Symbol) :
    (bound voltage).value? ⟨0⟩ symbol = if symbol = supply then some (rail voltage) else none := by
  have path : (bound voltage).path ⟨0⟩ = [⟨0⟩] := rfl
  have bindings : (bound voltage).bindings ⟨0⟩ = [(supply, rail voltage)] := rfl
  simp only [ContextForest.value?, path, ContextForest.direct?, bindings, List.findSome?_cons,
    List.lookup_cons, List.lookup_nil, List.findSome?_nil]
  by_cases same : symbol = supply
  · simp [same]
  · simp [same, beq_false_of_ne same]

theorem bound_sees {voltage : Value} (sound : (rail voltage).wellFormed .ofPredicates = true) :
    (bound voltage).Sees .ofPredicates ⟨0⟩ := by
  intro symbol value found
  rw [value?_bound] at found
  split at found
  · cases found
    exact sound
  · cases found

end Supply

/-! ### No faults -/

variable {registry : Registry} {around : Surroundings} {contexts later : ContextForest}
  {context inner : ContextId} {expr : Expr}

theorem Surroundings.environment_sound (sound : (around.hostIn contexts).Sound registry)
    (sees : contexts.Sees registry context) : (around.environment contexts context).Sound registry :=
  ⟨sound, sees⟩

/-- No payload of the wrong shape, no type that is not a number, no ordering of different dimensions and no
parameter out of range ends an evaluation, and its value is well-formed. -/
theorem Expr.run_wellFormed (sound : (around.hostIn contexts).Sound registry)
    (sees : contexts.Sees registry context)
    (literals : ∀ value ∈ expr.literals, value.wellFormed registry = true) :
    ∃ value diagnostics, expr.run around context contexts = (contexts, .ok (value, diagnostics)) ∧
      value.wellFormed registry = true := by
  obtain ⟨value, diagnostics, evaluated, soundValue⟩ :=
    expr.eval_gives (Surroundings.environment_sound sound sees) literals
  exact ⟨value, diagnostics, Statement.run_expr_eq_ok.2 ⟨rfl, evaluated⟩, soundValue⟩

theorem Supply.holds_wellFormed :
    ∃ value diagnostics,
      Supply.holds.run Supply.surroundings ⟨0⟩ (Supply.bound (.unknown (.number .voltage))) =
        (Supply.bound (.unknown (.number .voltage)), .ok (value, diagnostics)) ∧
      value.wellFormed .ofPredicates = true :=
  Expr.run_wellFormed Host.affirming_sound (Supply.bound_sees rfl) Supply.holds_literals

/-! ### Answers stand -/

/-- What one context binds is filled in further in another one, and the hosts say no less there. -/
structure Surroundings.FilledIn (registry : Registry) (around : Surroundings) (contexts : ContextForest)
    (context : ContextId) (later : ContextForest) (inner : ContextId) : Prop where
  sound : (around.hostIn contexts).Sound registry
  sound' : (around.hostIn later).Sound registry
  honest : (around.hostIn later).Honest registry
  monotone : (around.hostIn contexts).RefinedBy registry (around.hostIn later)
  sees : contexts.Sees registry context
  sees' : later.Sees registry inner
  refined : ∀ symbol,
    Option.Rel (Value.RefinedBy registry) (contexts.value? context symbol) (later.value? inner symbol)

theorem Surroundings.FilledIn.forecast (filled : around.FilledIn registry contexts context later inner) :
    (around.environment contexts context).Forecast registry true (around.environment later inner) where
  sound := environment_sound filled.sound filled.sees
  sound' := environment_sound filled.sound' filled.sees'
  honest := filled.honest
  complete impossible := nomatch impossible
  host := filled.monotone
  values symbol := rel_imp (filled.refined symbol) fun _ _ _ _ => .of_refined

/-- Answers stand: what an expression comes to once more is known refines what it came to before, unless one of the
two is a placeholder. If the earlier answer left nothing open, the later one is the same. -/
theorem Expr.run_stable (filled : around.FilledIn registry contexts context later inner)
    (literals : ∀ value ∈ expr.literals, value.wellFormed registry = true) :
    ∃ value diagnostics result reported,
      expr.run around context contexts = (contexts, .ok (value, diagnostics)) ∧
      expr.run around inner later = (later, .ok (result, reported)) ∧
      (value ≠ .placeholder → result ≠ .placeholder →
        value.RefinedBy registry result ∧ (value.isDecided = true → value.same result = true)) := by
  have forecast := filled.forecast
  obtain ⟨value, diagnostics, evaluated, -⟩ := expr.eval_gives forecast.sound literals
  obtain ⟨result, reported, evaluated', -⟩ := expr.eval_gives forecast.sound' literals
  refine ⟨value, diagnostics, result, reported, Statement.run_expr_eq_ok.2 ⟨rfl, evaluated⟩,
    Statement.run_expr_eq_ok.2 ⟨rfl, evaluated'⟩, fun typed typed' => ?_⟩
  obtain ⟨forecastValue, -⟩ := expr.eval_forecasts forecast literals value diagnostics result reported evaluated
    evaluated' (.inl rfl)
  have refined := (forecastValue.foretells.strict typed).resolve_left typed'
  exact ⟨refined, refined.same_of_decided⟩

theorem Supply.filledIn :
    Supply.surroundings.FilledIn .ofPredicates (Supply.bound (.unknown (.number .voltage))) ⟨0⟩
      (Supply.bound (.ofQuantity ⟨5, Supply.volt⟩)) ⟨0⟩ where
  sound := Host.affirming_sound
  sound' := Host.affirming_sound
  honest := Host.affirming_honest
  monotone := Host.affirming_refinedBy
  sees := Supply.bound_sees rfl
  sees' := Supply.bound_sees rfl
  refined symbol := by
    rw [Supply.value?_bound, Supply.value?_bound]
    split
    · exact .some (.object rfl (Supply.rail_matches (.unknown rfl rfl) (.refl rfl)))
    · exact .none

/-- With the voltage filled in, the answer refines the one given before. -/
theorem Supply.holds_stable :
    ∃ value diagnostics result reported,
      Supply.holds.run Supply.surroundings ⟨0⟩ (Supply.bound (.unknown (.number .voltage))) =
        (Supply.bound (.unknown (.number .voltage)), .ok (value, diagnostics)) ∧
      Supply.holds.run Supply.surroundings ⟨0⟩ (Supply.bound (.ofQuantity ⟨5, Supply.volt⟩)) =
        (Supply.bound (.ofQuantity ⟨5, Supply.volt⟩), .ok (result, reported)) ∧
      (value ≠ .placeholder → result ≠ .placeholder →
        value.RefinedBy .ofPredicates result ∧ (value.isDecided = true → value.same result = true)) :=
  Expr.run_stable Supply.filledIn Supply.holds_literals

/-! ### Other units and other orders -/

/-- Two contexts bind the same values, however these are written, and the hosts answer alike there. -/
structure Surroundings.Agrees (registry : Registry) (around : Surroundings) (contexts : ContextForest)
    (context : ContextId) (later : ContextForest) (inner : ContextId) : Prop where
  sound : (around.hostIn contexts).Sound registry
  sound' : (around.hostIn later).Sound registry
  host : (around.hostIn contexts).Agrees registry (around.hostIn later)
  sees : contexts.Sees registry context
  sees' : later.Sees registry inner
  values : ∀ symbol, Option.Rel (fun value value' => value.same value' = true)
    (contexts.value? context symbol) (later.value? inner symbol)

theorem Surroundings.Agrees.environment (agrees : around.Agrees registry contexts context later inner) :
    (around.environment contexts context).Agrees registry (around.environment later inner) where
  sound := environment_sound agrees.sound agrees.sees
  sound' := environment_sound agrees.sound' agrees.sees'
  host := agrees.host
  values := agrees.values

/-- Expressions of the same shape, whose literals are the same though they may be written otherwise, come to the
same value in contexts that bind the same, and report mistakes of the same kinds at the same places. -/
theorem Expr.run_agrees {expr' : Expr} (agrees : around.Agrees registry contexts context later inner)
    (alike : expr.Alike (Value.Agrees registry) expr') :
    ∃ value diagnostics result reported,
      expr.run around context contexts = (contexts, .ok (value, diagnostics)) ∧
      expr'.run around inner later = (later, .ok (result, reported)) ∧
      value.same result = true ∧ List.Forall₂ Diagnostic.Alike diagnostics reported := by
  obtain ⟨value, diagnostics, result, reported, evaluated, evaluated', values, reports⟩ :=
    expr.eval_agrees agrees.environment expr' alike
  exact ⟨value, diagnostics, result, reported, Statement.run_expr_eq_ok.2 ⟨rfl, evaluated⟩,
    Statement.run_expr_eq_ok.2 ⟨rfl, evaluated'⟩, values.same, reports⟩

namespace Supply

def kilovolt : PhysicalUnit := volt.scaledByTen "kV" 3

def millivolt : PhysicalUnit := volt.scaledByTen "mV" (-3)

theorem kilovolts_equivalent : (⟨5, kilovolt⟩ : Quantity).equivalent ⟨5000, volt⟩ = true :=
  Quantity.equivalent_iff.2 ⟨rfl, by
    norm_num [Quantity.base, kilovolt, volt, PhysicalUnit.scaledByTen, PhysicalUnit.coherent, Decimal.tenTo]⟩

theorem millivolts_equivalent : (⟨1, volt⟩ : Quantity).equivalent ⟨1000, millivolt⟩ = true :=
  Quantity.equivalent_iff.2 ⟨rfl, by
    norm_num [Quantity.base, millivolt, volt, PhysicalUnit.scaledByTen, PhysicalUnit.coherent, Decimal.tenTo]⟩

theorem holdsAfter_alike {drop drop' : Quantity} (equivalent : drop.equivalent drop' = true) :
    (holdsAfter drop).Alike (Value.Agrees .ofPredicates) (holdsAfter drop') :=
  .binary _ _ (.binary _ _ (.access _ _ (.symbol _ _)) (.literal _ (.ofQuantity equivalent)))
    (.literal _ (.refl rfl))

theorem fromKilovolts :
    surroundings.Agrees .ofPredicates (bound (.ofQuantity ⟨5, kilovolt⟩)) ⟨0⟩
      (bound (.ofQuantity ⟨5000, volt⟩)) ⟨0⟩ where
  sound := Host.affirming_sound
  sound' := Host.affirming_sound
  host := Host.affirming_agrees
  sees := bound_sees rfl
  sees' := bound_sees rfl
  values symbol := by
    have voltages : (Value.ofQuantity ⟨5, kilovolt⟩).Agrees .ofPredicates (.ofQuantity ⟨5000, volt⟩) :=
      .ofQuantity kilovolts_equivalent
    rw [value?_bound, value?_bound]
    split
    · exact .some (Value.same_known.2 ⟨rfl, Payload.same_object.2 (rail_matches voltages.same rfl)⟩)
    · exact .none

end Supply

/-- With the voltage in volts instead of kilovolts and the drop in millivolts, the answer is the same. -/
theorem Supply.holds_agrees :
    ∃ value diagnostics result reported,
      Supply.holds.run Supply.surroundings ⟨0⟩ (Supply.bound (.ofQuantity ⟨5, Supply.kilovolt⟩)) =
        (Supply.bound (.ofQuantity ⟨5, Supply.kilovolt⟩), .ok (value, diagnostics)) ∧
      (Supply.holdsAfter ⟨1000, Supply.millivolt⟩).run Supply.surroundings ⟨0⟩
          (Supply.bound (.ofQuantity ⟨5000, Supply.volt⟩)) =
        (Supply.bound (.ofQuantity ⟨5000, Supply.volt⟩), .ok (result, reported)) ∧
      value.same result = true ∧ List.Forall₂ Diagnostic.Alike diagnostics reported :=
  Expr.run_agrees Supply.fromKilovolts (Supply.holdsAfter_alike Supply.millivolts_equivalent)

end Circuitry
