import DaemonChoir.Common.Config
import DaemonChoir.Common.Metrics
import DaemonChoir.Foundation.Sync
set_option autoImplicit false

/-!
# Conductor: the mapping engine (`conductor/src/mapping.rs`)

One snapshot and one rule list become one parameter list.  `none` stands for a panic,
which only `f64::clamp` can raise here.
-/

namespace DaemonChoir.Conductor

open DaemonChoir.Common DaemonChoir.Foundation Float64

/-- `MappedParam`. -/
structure MappedParam (F : Type) where
  oscAddress : String
  value : F
  deriving DecidableEq, Repr, Inhabited

section Transform

variable {F : Type} [Float64 F] [Libm F]

/-- The `match` of `apply_transform`.  No character outside ASCII has a lower-case form
in one of the three names, so that only ASCII letters need folding. -/
def shape (transform : String) (ratio outMin outMax : F) : F :=
  match transform.toLower with
  | "exponential" =>
      if gt outMin (lit 0) && gt outMax (lit 0) then
        mul outMin (Libm.powf (div outMax outMin) ratio)
      else
        -- quadratic when a bound is zero or negative
        add outMin (mul (sub outMax outMin) (Libm.powi ratio 2))
  | "logarithmic" =>
      let logRatio := div (Libm.ln (add (lit 1) (mul ratio (lit 9)))) (Libm.ln (lit 10))
      add outMin (mul (sub outMax outMin) logRatio)
  | "step" =>
      let steps := lit 5
      let steppedRatio := div (floor (mul ratio steps)) steps
      add outMin (mul (sub outMax outMin) steppedRatio)
  | _ => add outMin (mul (sub outMax outMin) ratio)

/-- `apply_transform`. -/
def applyTransform (x : F) (transform : String) (inMin inMax outMin outMax : F) :
    Option F :=
  if ge inMin inMax then some outMin
  else
    match clamp x inMin inMax with
    | none => none
    | some clampedInput =>
        let ratio := div (sub clampedInput inMin) (sub inMax inMin)
        some (shape transform ratio outMin outMax)

/-- `apply_transform` with the fields of a rule. -/
def applyRule (rule : MappingRule F) (val : F) : Option F :=
  applyTransform val rule.transform rule.inputRange.1 rule.inputRange.2
    rule.outputRange.1 rule.outputRange.2

/-- The loop over `active_rules`. -/
def mapRules (metrics : MetricMap F) : List (MappingRule F) → Option (List (MappedParam F))
  | [] => some []
  | rule :: rest =>
      match metrics.getValue rule.sourceMetric with
      | none => mapRules metrics rest
      | some val =>
          match applyRule rule val with
          | none => none
          | some mappedVal =>
              match mapRules metrics rest with
              | none => none
              | some params =>
                  some ({ oscAddress := rule.oscAddress, value := mappedVal } :: params)

/-- What the engine does with a snapshot it has received. -/
inductive Frame (F : Type) where
  /-- The rules lock is poisoned. -/
  | skipped
  | panicked
  /-- The parameters that `try_send` is given. -/
  | mapped (params : List (MappedParam F))
  deriving DecidableEq, Repr

/-- One turn of `MappingEngine::run`, up to the send. -/
def mappingFrame (rules : RwLock (List (MappingRule F))) (snapshot : StateSnapshot F) :
    Frame F :=
  match rules.read with
  | none => .skipped
  | some activeRules =>
      match mapRules snapshot.metrics activeRules with
      | none => .panicked
      | some params => .mapped params

/-! ## Panics -/

theorem applyTransform_isSome_iff (x : F) (transform : String)
    (inMin inMax outMin outMax : F) :
    (applyTransform x transform inMin inMax outMin outMax).isSome = true ↔
      ge inMin inMax = true ∨ le inMin inMax = true := by
  unfold applyTransform
  by_cases hguard : ge inMin inMax = true
  · simp [hguard]
  · rw [if_neg hguard, or_iff_right hguard, ← clamp_isSome_iff (x := x)]
    cases clamp x inMin inMax with
    | none => rfl
    | some clampedInput => rfl

/-- The loop over the rules gets to its end exactly when no rule with a known metric
panics. -/
theorem mapRules_isSome_iff (metrics : MetricMap F) (rules : List (MappingRule F)) :
    (mapRules metrics rules).isSome = true ↔
      ∀ rule ∈ rules, rule.sourceMetric ∈ metricNames →
        ge rule.inputRange.1 rule.inputRange.2 = true ∨
          le rule.inputRange.1 rule.inputRange.2 = true := by
  induction rules with
  | nil => simp [mapRules]
  | cons rule rest ih =>
      rw [List.forall_mem_cons, ← ih, ← metrics.getValue_isSome_iff, mapRules]
      cases hval : metrics.getValue rule.sourceMetric with
      | none => simp
      | some val =>
          have happly : (applyRule rule val).isSome = true ↔
              ge rule.inputRange.1 rule.inputRange.2 = true ∨
                le rule.inputRange.1 rule.inputRange.2 = true :=
            applyTransform_isSome_iff val rule.transform _ _ _ _
          rw [← happly]
          cases hmapped : applyRule rule val with
          | none => simp [hmapped]
          | some mappedVal => cases mapRules metrics rest <;> simp [hmapped]

/-- The parameter carries the address of the rule and the transformed metric. -/
def IsMapped (metrics : MetricMap F) (rule : MappingRule F) (param : MappedParam F) : Prop :=
  param.oscAddress = rule.oscAddress ∧
    ∃ val, metrics.getValue rule.sourceMetric = some val ∧
      applyRule rule val = some param.value

/-- A finished loop has exactly one parameter for each rule with a known metric, in rule
order. -/
theorem mapRules_forall₂ {metrics : MetricMap F} {rules : List (MappingRule F)}
    {params : List (MappedParam F)} (h : mapRules metrics rules = some params) :
    List.Forall₂ (IsMapped metrics)
      (rules.filter fun rule => (metrics.getValue rule.sourceMetric).isSome) params := by
  induction rules generalizing params with
  | nil =>
      simp only [mapRules, Option.some.injEq] at h
      rw [← h]
      exact .nil
  | cons rule rest ih =>
      rw [mapRules] at h
      cases hval : metrics.getValue rule.sourceMetric with
      | none =>
          rw [hval] at h
          rw [List.filter_cons_of_neg (by simp [hval])]
          exact ih h
      | some val =>
          cases hmapped : applyRule rule val with
          | none => simp [hval, hmapped] at h
          | some mappedVal =>
              cases hrest : mapRules metrics rest with
              | none => simp [hval, hmapped, hrest] at h
              | some others =>
                  simp only [hval, hmapped, hrest, Option.some.injEq] at h
                  rw [← h, List.filter_cons_of_pos (by simp [hval])]
                  exact .cons ⟨rfl, val, hval, hmapped⟩ (ih hrest)

theorem exists_isMapped {metrics : MetricMap F} {rules : List (MappingRule F)}
    {params : List (MappedParam F)} (h : mapRules metrics rules = some params)
    {rule : MappingRule F} (hrule : rule ∈ rules)
    (hknown : (metrics.getValue rule.sourceMetric).isSome = true) :
    ∃ param ∈ params, IsMapped metrics rule param := by
  have hmem : rule ∈ rules.filter fun rule => (metrics.getValue rule.sourceMetric).isSome :=
    List.mem_filter.mpr ⟨hrule, hknown⟩
  have hall := mapRules_forall₂ h
  generalize rules.filter (fun rule => (metrics.getValue rule.sourceMetric).isSome) = known
    at hmem hall
  clear h
  induction hall with
  | nil => cases hmem
  | cons hmapped _ ih =>
      rcases List.mem_cons.mp hmem with rfl | hmem
      · exact ⟨_, List.mem_cons_self, hmapped⟩
      · obtain ⟨param, hparam, hother⟩ := ih hmem
        exact ⟨param, List.mem_cons_of_mem _ hparam, hother⟩

theorem mappingFrame_cases (rules : RwLock (List (MappingRule F)))
    (snapshot : StateSnapshot F) :
    (rules.poisoned = true ∧ mappingFrame rules snapshot = .skipped) ∨
    (rules.poisoned = false ∧ mapRules snapshot.metrics rules.value = none ∧
      mappingFrame rules snapshot = .panicked) ∨
    ∃ params, rules.poisoned = false ∧
      mapRules snapshot.metrics rules.value = some params ∧
      mappingFrame rules snapshot = .mapped params := by
  cases hpoisoned : rules.poisoned with
  | true => exact .inl ⟨rfl, by simp [mappingFrame, RwLock.read, hpoisoned]⟩
  | false =>
      have hread := RwLock.read_eq_some hpoisoned
      cases hmapped : mapRules snapshot.metrics rules.value with
      | none => exact .inr (.inl ⟨rfl, rfl, by simp [mappingFrame, hread, hmapped]⟩)
      | some params =>
          exact .inr (.inr ⟨params, rfl, rfl, by simp [mappingFrame, hread, hmapped]⟩)

end Transform

end DaemonChoir.Conductor
