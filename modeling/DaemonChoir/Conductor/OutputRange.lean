import DaemonChoir.Conductor.OscOutput
import DaemonChoir.Conductor.Transforms
set_option autoImplicit false

/-!
# Conductor: what is ever heard

A parameter lies in the output range of its rule whatever the metric, the transform and the
bounds, so that the rules that were ever in force say how loud and how high the daemon can
get.
-/

namespace DaemonChoir.Conductor

open DaemonChoir.Common DaemonChoir.Foundation Float64

/-! ## One rule -/

/-- The value of a rule lies between its two outputs, in whatever order they stand. -/
theorem applyRule_mem_uIcc {rule : MappingRule ℝ} {val value : ℝ}
    (h : applyRule rule val = some value) :
    value ∈ Set.uIcc rule.outputRange.1 rule.outputRange.2 := by
  unfold applyRule at h
  by_cases hbounds : rule.inputRange.1 < rule.inputRange.2
  · rw [applyTransform_exact _ _ _ _ hbounds, Option.some.injEq] at h
    rw [← h]
    exact (shape_ramp rule.transform _ _).between (position_mem hbounds val)
  · rw [applyTransform_degenerate _ _ _ _ (not_lt.mp hbounds), Option.some.injEq] at h
    rw [← h]
    exact Set.left_mem_uIcc

/-- The message carries the address of the rule, and one value in its output range. -/
def InRange (rule : MappingRule ℝ) (message : OscMessage ℝ) : Prop :=
  message.addr = rule.oscAddress ∧
    ∃ value ∈ Set.uIcc rule.outputRange.1 rule.outputRange.2, message.args = [value]

namespace Delivery

theorem IsMessage.inRange {metrics : MetricMap ℝ} {rule : MappingRule ℝ}
    {message : OscMessage ℝ} (h : IsMessage metrics rule message) : InRange rule message := by
  obtain ⟨haddress, val, value, _, happly, hargs⟩ := h
  exact ⟨haddress, value, applyRule_mem_uIcc happly, hargs⟩

theorem IsBundle.inRange {metrics : MetricMap ℝ} {rules : List (MappingRule ℝ)}
    {bundle : OscBundle ℝ} (h : IsBundle metrics rules bundle) :
    List.Forall₂ InRange (rules.filter fun rule => rule.sourceMetric ∈ metricNames)
      bundle.content := by
  have hknown : (rules.filter fun rule => (metrics.getValue rule.sourceMetric).isSome) =
      rules.filter fun rule => rule.sourceMetric ∈ metricNames := by
    refine List.filter_congr fun rule _ => ?_
    rw [Bool.eq_iff_iff, decide_eq_true_iff]
    exact metrics.getValue_isSome_iff rule.sourceMetric
  have hall := List.Forall₂.imp (fun _ _ => IsMessage.inRange) h
  rwa [hknown] at hall

theorem exists_rule_of_mem {rules : List (MappingRule ℝ)} {messages : List (OscMessage ℝ)}
    (h : List.Forall₂ InRange rules messages) {message : OscMessage ℝ}
    (hmem : message ∈ messages) : ∃ rule ∈ rules, InRange rule message := by
  induction h with
  | nil => cases hmem
  | cons hfirst _ ih =>
      rcases List.mem_cons.mp hmem with rfl | hmem
      · exact ⟨_, List.mem_cons_self, hfirst⟩
      · obtain ⟨rule, hrule, hrange⟩ := ih hmem
        exact ⟨rule, List.mem_cons_of_mem _ hrule, hrange⟩

/-! ## The rules of a run -/

section Rules

variable {F : Type}

/-- The list that an update writes to `mapping_rules`. -/
def rewritten : Delivery F × DeliveryLabel F → Option (List (MappingRule F))
  | (_, .write (.rules rules)) => some rules
  | _ => none

/-- The lists that may have been in force: that of the startup file, and those of updates. -/
def ruleLists (config : Config F) (history : List (Delivery F × DeliveryLabel F)) :
    List (List (MappingRule F)) :=
  config.mapping :: history.filterMap rewritten

theorem mem_ruleLists_append {config : Config F}
    {history : List (Delivery F × DeliveryLabel F)} {rules : List (MappingRule F)}
    (h : rules ∈ ruleLists config history) (later : List (Delivery F × DeliveryLabel F)) :
    rules ∈ ruleLists config (history ++ later) := by
  rw [ruleLists, List.filterMap_append, ← List.cons_append]
  exact List.mem_append_left _ h

variable [Float64 F] [Libm F] {encode : OscBundle F → Option (List UInt8)}
  {delivery next : Delivery F} {label : DeliveryLabel F}

theorem Moves.mappingRules (moves : Moves encode delivery label next) :
    next.cells.mappingRules.value = delivery.cells.mappingRules.value ∨
      rewritten (delivery, label) = some next.cells.mappingRules.value := by
  cases moves with
  | written write =>
      cases write with
      | rules list =>
          simp only [ConfigCells.perform, RwLock.write]
          split
          · exact .inl rfl
          · exact .inr rfl
      | _ => exact .inl rfl
  | _ => exact .inl rfl

/-- Every list in force was in the startup file or in an update. -/
theorem mem_ruleLists_of_run {config : Config F}
    {trace : List (Delivery F × DeliveryLabel F)} {final : Delivery F}
    (run : Run (step encode) (started config) trace final) :
    final.cells.mappingRules.value ∈ ruleLists config trace := by
  induction run with
  | nil => exact List.mem_cons_self
  | @snoc trace before next label _ taken ih =>
      rcases (step_moves taken).mappingRules with hsame | hwritten
      · rw [hsame]
        exact mem_ruleLists_append ih _
      · refine List.mem_cons_of_mem _ (List.mem_filterMap.mpr ⟨(before, label), ?_, hwritten⟩)
        exact List.mem_append_right _ List.mem_cons_self

end Rules

/-! ## Everything that is sent -/

section Heard

variable {encode : OscBundle ℝ → Option (List UInt8)} {config : Config ℝ}
  {trace : List (Delivery ℝ × DeliveryLabel ℝ)} {final : Delivery ℝ}

theorem bundle_inRange (run : Run (step encode) (started config) trace final)
    {front back : List (Delivery ℝ × DeliveryLabel ℝ)} {visit : Delivery ℝ × DeliveryLabel ℝ}
    {bundle : Tagged (OscBundle ℝ)} (hsplit : trace = front ++ visit :: back)
    (hdispatched : dispatched encode visit = some bundle) :
    ∃ rules ∈ ruleLists config front,
      List.Forall₂ InRange (rules.filter fun rule => rule.sourceMetric ∈ metricNames)
        bundle.item.content := by
  obtain ⟨before, emission, between, reading, after, snapshot, hfront, _, hbundle⟩ :=
    made_of_dispatched run hsplit hdispatched
  refine ⟨_, ?_, hbundle.inRange⟩
  subst hsplit
  obtain ⟨hbefore, _⟩ := run.at_visit
  have hmem : reading ∈ front := by simp [hfront]
  obtain ⟨earlier, later, _, rfl, hearlier, _, _⟩ := hbefore.of_mem hmem
  exact mem_ruleLists_append (mem_ruleLists_of_run hearlier) _

/-- Whatever happens in the kernel and however the rules are rewritten, every bundle has one
message for each rule, in order, of one of the rule lists that were in force before, and each
value lies in the output range of its rule.  What all rules for an address keep within, so
does every message to that address. -/
theorem heard_in_range (run : Run (step encode) (started config) trace final) :
    (∀ front visit back bundle, trace = front ++ visit :: back →
      dispatched encode visit = some bundle →
        ∃ rules ∈ ruleLists config front,
          List.Forall₂ InRange (rules.filter fun rule => rule.sourceMetric ∈ metricNames)
            bundle.item.content) ∧
    ∀ address low high,
      (∀ rules ∈ ruleLists config trace, ∀ rule ∈ rules, rule.oscAddress = address →
        Set.uIcc rule.outputRange.1 rule.outputRange.2 ⊆ Set.Icc low high) →
      ∀ visit ∈ trace, ∀ bundle, dispatched encode visit = some bundle →
        ∀ message ∈ bundle.item.content, message.addr = address →
          ∃ value ∈ Set.Icc low high, message.args = [value] := by
  refine ⟨fun front visit back bundle hsplit hdispatched => bundle_inRange run hsplit hdispatched,
    ?_⟩
  intro address low high hlimits visit hmem bundle hdispatched message hmessage haddress
  obtain ⟨front, back, hsplit⟩ := List.append_of_mem hmem
  obtain ⟨rules, hlisted, hall⟩ := bundle_inRange run hsplit hdispatched
  obtain ⟨rule, hrule, hsame, value, hvalue, hargs⟩ := exists_rule_of_mem hall hmessage
  have hwritten : rules ∈ ruleLists config trace := by
    rw [hsplit]
    exact mem_ruleLists_append hlisted _
  exact ⟨value, hlimits rules hwritten rule (List.mem_of_mem_filter hrule)
    (hsame.symm.trans haddress) hvalue, hargs⟩

/-! ## One bundle -/

/-- An inverted range, and a backend. -/
noncomputable def inverted : Config ℝ :=
  { (Config.default : Config ℝ) with
    backends := { osc := [{ name := "supercollider", address := "127.0.0.1:57120" }] }
    mapping := [{ sourceMetric := "cpu.sched.context_rate"
                  oscAddress := "/choir/voice/0/amplitude"
                  transform := "Exponential"
                  inputRange := (0, 1)
                  outputRange := (lit (1 / 2), lit (1 / 4)) }] }

theorem exists_mapped_inverted (snapshot : StateSnapshot ℝ) :
    ∃ value, mappingFrame (ConfigCells.new inverted).mappingRules snapshot =
      .mapped [{ oscAddress := "/choir/voice/0/amplitude", value := value }] := by
  have happly := applyTransform_exact snapshot.metrics.cpuSchedContextRate "Exponential"
    (lit (1 / 2)) (lit (1 / 4)) (show (0 : ℝ) < 1 by norm_num)
  have hval : snapshot.metrics.getValue "cpu.sched.context_rate" =
      some snapshot.metrics.cpuSchedContextRate := rfl
  have hmap : ∃ value, mapRules snapshot.metrics inverted.mapping =
      some [{ oscAddress := "/choir/voice/0/amplitude", value := value }] :=
    ⟨_, by simp only [inverted, mapRules, hval, applyRule, happly]; rfl⟩
  obtain ⟨value, hmap⟩ := hmap
  have hread : (ConfigCells.new inverted).mappingRules.read = some inverted.mapping :=
    RwLock.read_eq_some rfl
  exact ⟨value, by simp only [mappingFrame, hread, hmap]⟩

/-- A tick, its snapshot mapped, and the bundle sent. -/
theorem heard_in_range_inverted :
    ∃ trace final, Run (step fun _ => some []) (started inverted) trace final ∧
      (trace.filterMap (dispatched fun _ => some [])).length = 1 ∧
      ∀ visit ∈ trace, ∀ bundle, dispatched (fun _ => some []) visit = some bundle →
        ∀ message ∈ bundle.item.content, message.addr = "/choir/voice/0/amplitude" →
          ∃ value ∈ Set.Icc (1 / 4 : ℝ) (1 / 2), message.args = [value] := by
  obtain ⟨_, _, htick⟩ :=
    (Aggregator.new inverted.daemon.windowMs : Aggregator ℝ).tick_eq 1000000 0
  generalize (Aggregator.new inverted.daemon.windowMs : Aggregator ℝ).advance = window at htick
  generalize StateSnapshot.mk _ _ _ _ _ = snapshot at htick
  obtain ⟨value, hmapped⟩ := exists_mapped_inverted snapshot
  have hticked : (started inverted).step (fun _ => some []) (.tick 1000000 0) =
      some { started inverted with
        aggregator := window, ticking := some snapshot, snapshotTimestampUs := 1000000 } := by
    simp only [step, tick, started, htick]
  have hread : ({ started inverted with
      aggregator := window, emissions := 1, snapshotTimestampUs := 1000000
      engine := .holding ⟨0, snapshot⟩ } : Delivery ℝ).step (fun _ => some []) .readRules =
      some { started inverted with
        aggregator := window, emissions := 1, snapshotTimestampUs := 1000000
        engine := .sending
          ⟨0, [{ oscAddress := "/choir/voice/0/amplitude", value := value }]⟩ } := by
    simp only [step, readRules, started, hmapped]
  have run : Run (step fun _ => some []) (started inverted) _ _ :=
    ((Run.single hticked).append (execute_sound [.emit, .receiveSnapshot] rfl)).append
      ((Run.single hread).append
        (execute_sound [.sendParams, .receiveParams, .readBackends, .stamp ⟨1001000000⟩] rfl))
  refine ⟨_, _, run, rfl, ?_⟩
  refine (heard_in_range run).2 "/choir/voice/0/amplitude" (1 / 4) (1 / 2) ?_
  intro rules hrules rule hrule _
  obtain rfl : rules = inverted.mapping := List.mem_singleton.mp hrules
  rw [List.mem_singleton.mp hrule]
  have hquarter : (lit (1 / 4) : ℝ) = 1 / 4 := by norm_num [exact_lit]
  have hhalf : (lit (1 / 2) : ℝ) = 1 / 2 := by norm_num [exact_lit]
  show Set.uIcc (lit (1 / 2) : ℝ) (lit (1 / 4)) ⊆ Set.Icc (1 / 4) (1 / 2)
  rw [hquarter, hhalf]
  exact (Set.uIcc_of_ge (by norm_num)).subset

end Heard

end Delivery

end DaemonChoir.Conductor
