import DaemonChoir.Conductor.ScrapeCounts
set_option autoImplicit false

/-!
# Conductor: when a scrape is consistent with itself

The numbers of a response belong together in pairs: what succeeded is part of what was
attempted, and each bucket of a histogram is part of the next one and of the count.  The
handler loads the two counters of a pair at two moments, and a call increments them at
two moments.

For the two counters of the dispatcher, and for the last bucket and the count, the handler
loads the larger counter first and a call increments the larger one first.  The calls
that the first load caught half done are then on the safe side; what spoils the pair is
an increment of the smaller counter between the two loads.  For the other pairs of
buckets the smaller counter is first on both sides: an increment between the two loads
helps, and what spoils the pair is a call that the first load caught half done.
-/

namespace DaemonChoir.Conductor

open DaemonChoir.Common DaemonChoir.Foundation

namespace Scrape

variable {F : Type} [Float64 F] {probesStats : List ProbeStats} {responseMs : F}
  {tasks : List (MetricsTask F)} {trace : List (Threads Scrape MetricsOp × ℕ)}
  {final : Threads Scrape MetricsOp}

/-! ## The numbers of the response -/

/-- The value of a sample. -/
def sample? (response : List (MetricsLine F)) (family : String)
    (labels : List (String × String)) : Option UInt64 :=
  response.findSome? fun line =>
    match line with
    | .sample name tags value => if name = family ∧ tags = labels then some value else none
    | _ => none

/-- The samples of a histogram are there, and they are cumulative up to the count. -/
def Cumulative (response : List (MetricsLine F)) (family : String) : Prop :=
  ∃ le5 le10 le20 count,
    sample? response (family ++ "_bucket") [("le", "5")] = some le5 ∧
    sample? response (family ++ "_bucket") [("le", "10")] = some le10 ∧
    sample? response (family ++ "_bucket") [("le", "20")] = some le20 ∧
    sample? response (family ++ "_bucket") [("le", "+Inf")] = some count ∧
    sample? response (family ++ "_count") [] = some count ∧
    le5 ≤ le10 ∧ le10 ≤ le20 ∧ le20 ≤ count

/-- No more dispatches have succeeded than were attempted. -/
def SuccessBounded (response : List (MetricsLine F)) : Prop :=
  ∃ total success,
    sample? response "osc_dispatch_total" [("backend", "osc")] = some total ∧
    sample? response "osc_dispatch_success_total" [("backend", "osc")] = some success ∧
    success ≤ total

/-- The numbers of the response agree with each other. -/
structure SelfConsistent (response : List (MetricsLine F)) : Prop where
  dispatchLatency : Cumulative response "dispatch_latency_ms"
  apiResponse : Cumulative response "api_response_ms"
  dispatches : SuccessBounded response

/-- The pairs of counters, the smaller one first, of which the handler loads the larger
one first. -/
def largeFirst : List (Counter × Counter) :=
  [(.oscDispatchSuccessTotal, .oscDispatchTotal),
    (.dispatchLatency .bucketLe20, .dispatchLatency .count),
    (.apiResponse .bucketLe20, .apiResponse .count)]

/-- The pairs of counters, the smaller one first, of which the handler loads the smaller
one first. -/
def smallFirst : List (Counter × Counter) :=
  [(.dispatchLatency .bucketLe5, .dispatchLatency .bucketLe10),
    (.dispatchLatency .bucketLe10, .dispatchLatency .bucketLe20),
    (.apiResponse .bucketLe5, .apiResponse .bucketLe10),
    (.apiResponse .bucketLe10, .apiResponse .bucketLe20)]

/-- The pairs of counters whose loaded values have to be in order. -/
def inOrder : List (Counter × Counter) := largeFirst ++ smallFirst

omit [Float64 F] in
@[simp] theorem sample?_nil (family : String) (labels : List (String × String)) :
    sample? ([] : List (MetricsLine F)) family labels = none := rfl

omit [Float64 F] in
@[simp] theorem sample?_text (line : String) (rest : List (MetricsLine F))
    (family : String) (labels : List (String × String)) :
    sample? (.text line :: rest) family labels = sample? rest family labels := rfl

omit [Float64 F] in
@[simp] theorem sample?_sampleMs (name : String) (value : F) (rest : List (MetricsLine F))
    (family : String) (labels : List (String × String)) :
    sample? (.sampleMs name value :: rest) family labels = sample? rest family labels := rfl

omit [Float64 F] in
@[simp] theorem sample?_sample (name : String) (tags : List (String × String))
    (value : UInt64) (rest : List (MetricsLine F)) (family : String)
    (labels : List (String × String)) :
    sample? (.sample name tags value :: rest) family labels =
      if name = family ∧ tags = labels then some value else sample? rest family labels := by
  rw [sample?, List.findSome?_cons]
  by_cases h : name = family ∧ tags = labels
  · simp [h]
  · simp [h, sample?]

omit [Float64 F] in
theorem sample?_append (front back : List (MetricsLine F)) (family : String)
    (labels : List (String × String)) :
    sample? (front ++ back) family labels =
      (sample? front family labels).or (sample? back family labels) :=
  List.findSome?_append

omit [Float64 F] in
theorem sample?_eventsLostLines (probesStats : List ProbeStats) (value : Counter → UInt64)
    {family : String} (hfamily : family ≠ "events_lost_total")
    (labels : List (String × String)) :
    sample? (eventsLostLines probesStats value : List (MetricsLine F)) family labels =
      none := by
  rw [sample?, List.findSome?_eq_none_iff]
  intro line hline
  simp only [eventsLostLines, List.mem_append, List.mem_cons, List.not_mem_nil, or_false,
    List.mem_map] at hline
  rcases hline with ((rfl | rfl) | ⟨visit, _, rfl⟩) | rfl
  · rfl
  · rfl
  · exact if_neg fun h => hfamily h.1.symm
  · rfl

theorem sample?_metricsBody (probesStats : List ProbeStats) (value : Counter → UInt64)
    {family : String} (hfamily : family ≠ "events_lost_total")
    (labels : List (String × String)) :
    sample? (metricsBody probesStats value : List (MetricsLine F)) family labels =
      sample? (dispatchLines value ++
        histogramLines "dispatch_latency_ms" "Ring buffer to OSC dispatch latency"
          (fun cell => value (.dispatchLatency cell)) ++
        histogramLines "api_response_ms" "Control API response latency"
          (fun cell => value (.apiResponse cell)) ++
        probeLoadErrorLines value : List (MetricsLine F)) family labels := by
  simp only [metricsBody, sample?_append, sample?_eventsLostLines probesStats value hfamily,
    Option.or_none]

theorem cumulative_dispatchLatency_iff (probesStats : List ProbeStats)
    (value : Counter → UInt64) :
    Cumulative (metricsBody probesStats value : List (MetricsLine F)) "dispatch_latency_ms" ↔
      value (.dispatchLatency .bucketLe5) ≤ value (.dispatchLatency .bucketLe10) ∧
      value (.dispatchLatency .bucketLe10) ≤ value (.dispatchLatency .bucketLe20) ∧
      value (.dispatchLatency .bucketLe20) ≤ value (.dispatchLatency .count) := by
  have hbucket : "dispatch_latency_ms" ++ "_bucket" ≠ "events_lost_total" := by simp
  have hcount : "dispatch_latency_ms" ++ "_count" ≠ "events_lost_total" := by simp
  simp only [Cumulative, sample?_metricsBody _ _ hbucket, sample?_metricsBody _ _ hcount]
  simp [dispatchLines, histogramLines]

theorem cumulative_apiResponse_iff (probesStats : List ProbeStats)
    (value : Counter → UInt64) :
    Cumulative (metricsBody probesStats value : List (MetricsLine F)) "api_response_ms" ↔
      value (.apiResponse .bucketLe5) ≤ value (.apiResponse .bucketLe10) ∧
      value (.apiResponse .bucketLe10) ≤ value (.apiResponse .bucketLe20) ∧
      value (.apiResponse .bucketLe20) ≤ value (.apiResponse .count) := by
  have hbucket : "api_response_ms" ++ "_bucket" ≠ "events_lost_total" := by simp
  have hcount : "api_response_ms" ++ "_count" ≠ "events_lost_total" := by simp
  simp only [Cumulative, sample?_metricsBody _ _ hbucket, sample?_metricsBody _ _ hcount]
  simp [dispatchLines, histogramLines]

theorem successBounded_iff (probesStats : List ProbeStats) (value : Counter → UInt64) :
    SuccessBounded (metricsBody probesStats value : List (MetricsLine F)) ↔
      value .oscDispatchSuccessTotal ≤ value .oscDispatchTotal := by
  have htotal : "osc_dispatch_total" ≠ "events_lost_total" := by simp
  have hsuccess : "osc_dispatch_success_total" ≠ "events_lost_total" := by simp
  simp only [SuccessBounded, sample?_metricsBody _ _ htotal,
    sample?_metricsBody _ _ hsuccess]
  simp [dispatchLines]

theorem selfConsistent_iff (probesStats : List ProbeStats) (value : Counter → UInt64) :
    SelfConsistent (metricsBody probesStats value : List (MetricsLine F)) ↔
      ∀ pair ∈ inOrder, value pair.1 ≤ value pair.2 := by
  constructor
  · intro h
    have hdispatch := (cumulative_dispatchLatency_iff _ _).mp h.dispatchLatency
    have hapi := (cumulative_apiResponse_iff _ _).mp h.apiResponse
    have hsuccess := (successBounded_iff _ _).mp h.dispatches
    simp only [inOrder, largeFirst, smallFirst, List.forall_mem_append, List.forall_mem_cons,
      List.not_mem_nil, false_implies, implies_true, and_true]
    exact ⟨⟨hsuccess, hdispatch.2.2, hapi.2.2⟩, hdispatch.1, hdispatch.2.1, hapi.1, hapi.2.1⟩
  · intro h
    simp only [inOrder, largeFirst, smallFirst, List.forall_mem_append, List.forall_mem_cons,
      List.not_mem_nil, false_implies, implies_true, and_true] at h
    obtain ⟨⟨hsuccess, hdispatch20, hapi20⟩, hdispatch5, hdispatch10, hapi5, hapi10⟩ := h
    exact ⟨(cumulative_dispatchLatency_iff _ _).mpr ⟨hdispatch5, hdispatch10, hdispatch20⟩,
      (cumulative_apiResponse_iff _ _).mpr ⟨hapi5, hapi10, hapi20⟩,
      (successBounded_iff _ _).mpr hsuccess⟩

/-! ## Which runs are consistent -/

/-- The larger counter is loaded first: the increments of the smaller one between the two
loads are at most as many as the calls that the first load saw in the larger one only. -/
def LargeFirstBalanced (trace : List (Threads Scrape MetricsOp × ℕ)) (small large : Counter) :
    Prop :=
  (seenBetween trace large small small).card + 2 ^ 64 * rounds trace large ≤
    (seenAt trace large large \ seenAt trace large small).card + 2 ^ 64 * rounds trace small

/-- The smaller counter is loaded first: the calls that the first load saw in the smaller
one only are at most as many as those it saw in the larger one only and the increments of
the larger one between the two loads. -/
def SmallFirstBalanced (trace : List (Threads Scrape MetricsOp × ℕ)) (small large : Counter) :
    Prop :=
  (seenAt trace small small \ seenAt trace small large).card + 2 ^ 64 * rounds trace large ≤
    (seenAt trace small large \ seenAt trace small small).card +
      (seenBetween trace small large large).card + 2 ^ 64 * rounds trace small

/-- No pair of counters is spoiled between its two loads. -/
structure Balanced (trace : List (Threads Scrape MetricsOp × ℕ)) : Prop where
  largeFirst : ∀ pair ∈ largeFirst, LargeFirstBalanced trace pair.1 pair.2
  smallFirst : ∀ pair ∈ smallFirst, SmallFirstBalanced trace pair.1 pair.2

theorem inOrder_loaded (probes : ℕ) :
    ∀ pair ∈ inOrder, (pair.1.IsTally ∧ pair.1 ∈ metricsLoads probes) ∧
      pair.2.IsTally ∧ pair.2 ∈ metricsLoads probes := by
  simp [inOrder, largeFirst, smallFirst, metricsLoads, histogramLoads, Counter.IsTally]

theorem precedes_metricsLoads {first second : Counter}
    (hlost : ∀ probe, second ≠ .eventsLost probe)
    (hdispatches : Precedes (MetricsOp.load first) (.load second)
      ([.oscDispatchTotal, .oscDispatchSuccessTotal].map .load))
    (hdispatchLatency : Precedes (MetricsOp.load first) (.load second)
      ((histogramLoads.map .dispatchLatency).map .load))
    (hapiResponse : Precedes (MetricsOp.load first) (.load second)
      ((histogramLoads.map .apiResponse).map .load))
    (herrors : second ≠ .probeLoadErrorsTotal) (probes : ℕ) :
    Precedes (MetricsOp.load first) (.load second) ((metricsLoads probes).map .load) := by
  have hlosses : MetricsOp.load second ∉
      ((List.range probes).map Counter.eventsLost).map MetricsOp.load := by
    simpa using fun probe _ => (hlost probe).symm
  simp only [metricsLoads, List.map_append]
  refine (((hdispatches.append (.of_notMem hlosses)).append hdispatchLatency).append
    hapiResponse).append (.of_notMem ?_)
  simpa using herrors

theorem loads_largeFirst (probes : ℕ) :
    ∀ pair ∈ largeFirst, Precedes (MetricsOp.load pair.2) (.load pair.1)
      ((metricsLoads probes).map .load) := by
  simp only [largeFirst, List.forall_mem_cons, List.not_mem_nil, false_implies, implies_true,
    and_true]
  refine ⟨?_, ?_, ?_⟩ <;>
    exact precedes_metricsLoads (by simp) (by decide) (by decide) (by decide) (by simp) probes

theorem loads_smallFirst (probes : ℕ) :
    ∀ pair ∈ smallFirst, Precedes (MetricsOp.load pair.1) (.load pair.2)
      ((metricsLoads probes).map .load) := by
  simp only [smallFirst, List.forall_mem_cons, List.not_mem_nil, false_implies, implies_true,
    and_true]
  refine ⟨?_, ?_, ?_, ?_⟩ <;>
    exact precedes_metricsLoads (by simp) (by decide) (by decide) (by decide) (by simp) probes

theorem seenAt_largeFirst
    (run : Run (Threads.step perform) (started probesStats responseMs tasks) trace final)
    (moment : Counter) :
    ∀ pair ∈ largeFirst, seenAt trace moment pair.1 ⊆ seenAt trace moment pair.2 := by
  simp only [largeFirst, List.forall_mem_cons, List.not_mem_nil, false_implies, implies_true,
    and_true]
  refine ⟨?_, ?_, ?_⟩
  · exact seenAt_subset run credit_of_increments (fun _ => rfl) (fun _ _ => nofun)
      offer_precedes_credit moment
  · exact seenAt_subset run dispatchLatency_of_increments (fun _ => rfl) (fun _ _ => nofun)
      dispatchLatency_precedes moment
  · exact seenAt_subset run apiResponse_of_increments (fun _ => rfl) (fun _ _ => nofun)
      apiResponse_precedes moment

/-- A response is consistent with itself exactly when no pair of counters is spoiled
between its two loads. -/
theorem selfConsistent_iff_balanced
    (run : Run (Threads.step perform) (started probesStats responseMs tasks) trace final)
    {response : List (MetricsLine F)} (answered : final.memory.response? = some response) :
    SelfConsistent response ↔ Balanced trace := by
  unfold response? at answered
  dsimp only at answered
  split at answered
  · rename_i hall
    rw [← Option.some.inj answered, selfConsistent_iff]
    have hvalue : ∀ counter, counter.IsTally →
        counter ∈ metricsLoads final.memory.metrics.probesStats.length →
          (final.memory.local? counter).getD 0 =
            UInt64.ofNat (seenAt trace counter counter).card := by
      intro counter htally hmem
      obtain ⟨value, hlocal⟩ :=
        Option.isSome_iff_exists.mp (List.all_eq_true.mp hall counter hmem)
      rw [hlocal]
      exact local_eq run htally hlocal
    have hlarge : ∀ pair ∈ Scrape.largeFirst, ((final.memory.local? pair.1).getD 0 ≤
        (final.memory.local? pair.2).getD 0 ↔ LargeFirstBalanced trace pair.1 pair.2) := by
      intro pair hpair
      obtain ⟨⟨hsmall, hsmallMem⟩, hlarge, hlargeMem⟩ :=
        inOrder_loaded _ pair (List.mem_append_left _ hpair)
      have hcard := card_seenAt run (loads_largeFirst _ pair hpair) pair.1
      rw [hvalue _ hsmall hsmallMem, hvalue _ hlarge hlargeMem, LargeFirstBalanced, rounds,
        rounds, hcard]
      exact ofNat_add_le_iff_of_subset (seenAt_largeFirst run pair.2 pair hpair) _
    have hsmall : ∀ pair ∈ Scrape.smallFirst, ((final.memory.local? pair.1).getD 0 ≤
        (final.memory.local? pair.2).getD 0 ↔ SmallFirstBalanced trace pair.1 pair.2) := by
      intro pair hpair
      obtain ⟨⟨hsmall, hsmallMem⟩, hlarge, hlargeMem⟩ :=
        inOrder_loaded _ pair (List.mem_append_right _ hpair)
      have hcard := card_seenAt run (loads_smallFirst _ pair hpair) pair.2
      rw [hvalue _ hsmall hsmallMem, hvalue _ hlarge hlargeMem, SmallFirstBalanced, rounds,
        rounds, hcard]
      exact ofNat_le_add_iff _ _ _
    rw [inOrder, List.forall_mem_append]
    constructor
    · rintro ⟨hlargeFirst, hsmallFirst⟩
      exact ⟨fun pair hpair => (hlarge pair hpair).mp (hlargeFirst pair hpair),
        fun pair hpair => (hsmall pair hpair).mp (hsmallFirst pair hpair)⟩
    · intro balanced
      exact ⟨fun pair hpair => (hlarge pair hpair).mpr (balanced.largeFirst pair hpair),
        fun pair hpair => (hsmall pair hpair).mpr (balanced.smallFirst pair hpair)⟩
  · cases answered

instance (trace : List (Threads Scrape MetricsOp × ℕ)) (small large : Counter) :
    Decidable (LargeFirstBalanced trace small large) :=
  inferInstanceAs (Decidable (_ ≤ _))

instance (trace : List (Threads Scrape MetricsOp × ℕ)) (small large : Counter) :
    Decidable (SmallFirstBalanced trace small large) :=
  inferInstanceAs (Decidable (_ ≤ _))

/-! ## Two orders -/

/-- A dispatch loop that sends one packet. -/
def oneSend {F : Type} : List (MetricsTask F) :=
  [.dispatch [{ outcomes := [true], latency := none }]]

/-- A dispatch loop that fails to send a packet and then sends it to the next backend. -/
def secondSend {F : Type} : List (MetricsTask F) :=
  [.dispatch [{ outcomes := [false, true], latency := none }]]

/-- The failed send is counted before the first load, the successful one between the
first two loads. -/
theorem selfConsistent_iff_balanced_second :
    ∃ trace final response,
      Run (Threads.step perform) (started [] (0 : ℚ) secondSend) trace final ∧
      (final.memory.response? : Option (List (MetricsLine ℚ))) = some response ∧
      (seenBetween trace .oscDispatchTotal .oscDispatchSuccessTotal
        .oscDispatchSuccessTotal).card = 1 ∧
      SelfConsistent response := by
  have run : Run (Threads.step perform) (started [] (0 : ℚ) secondSend) _ _ :=
    execute_sound ([1, 0, 1, 1] ++ List.replicate 12 0) rfl
  refine ⟨_, _, _, run, rfl, by decide, ?_⟩
  exact (selfConsistent_iff_balanced run rfl).mpr ⟨by decide, by decide⟩

/-- The packet is sent between the loads of the two counters of the dispatcher: more
successes than attempts. -/
theorem not_always_selfConsistent :
    ¬ ∀ (probesStats : List ProbeStats) (responseMs : ℚ) (tasks : List (MetricsTask ℚ))
        (trace : List (Threads Scrape MetricsOp × ℕ)) (final : Threads Scrape MetricsOp)
        (response : List (MetricsLine ℚ)),
        Run (Threads.step perform) (started probesStats responseMs tasks) trace final →
          final.memory.response? = some response → SelfConsistent response := by
  intro hclaim
  have run : Run (Threads.step perform) (started [] (0 : ℚ) oneSend) _ _ :=
    execute_sound ([0, 1, 1] ++ List.replicate 12 0) rfl
  have hconsistent := (selfConsistent_iff _ _).mp (hclaim _ _ _ _ _ _ run rfl)
  have hsuccess := hconsistent (.oscDispatchSuccessTotal, .oscDispatchTotal) (by decide)
  exact absurd hsuccess (by decide)

end Scrape

end DaemonChoir.Conductor
