import DaemonChoir.Conductor.Scrape
import Mathlib.Data.List.Flatten
set_option autoImplicit false

/-!
# Conductor: what the loads of a scrape count

A counter that goes up by one at a time is a tally of calls.  Three facts about the
threads make a loaded value readable: a call increments a counter at most once, the
handler loads a counter at most once, and both keep an order of their own, which every
interleaving keeps too.

With the first two, a loaded value is the number of the calls that had made their
increment when the load took place.  With the third, two values that are loaded one
after the other can be compared: the second load has seen what the first one has, and
what was incremented in between.
-/

namespace DaemonChoir.Conductor

open DaemonChoir.Common DaemonChoir.Foundation

/-! ## What an operation does to a counter -/

/-- The counter goes up by one for each call of some kind, from zero. -/
def Counter.IsTally : Counter → Prop
  | .oscDispatchTotal => True
  | .oscDispatchSuccessTotal => True
  | .dispatchLatency cell => cell ≠ .sumUs
  | .apiResponse cell => cell ≠ .sumUs
  | _ => False

/-- The counter that the operation increments by one, and for which call. -/
def MetricsOp.tallied : MetricsOp → Option (Counter × CallId)
  | .offer call => some (.oscDispatchTotal, call)
  | .credit call => some (.oscDispatchSuccessTotal, call)
  | .dispatchLatency call add => add.tallied.map fun cell => (.dispatchLatency cell, call)
  | .apiResponse call add => add.tallied.map fun cell => (.apiResponse cell, call)
  | .load _ => none

/-- The call for which the operation increments the counter. -/
def MetricsOp.increments (counter : Counter) (operation : MetricsOp) : Option CallId :=
  operation.tallied.bind fun (tallied, call) => if tallied = counter then some call else none

namespace Scrape

/-- A tally goes up by one at each of its increments and stays at any other operation. -/
theorem load_perform {counter : Counter} (htally : counter.IsTally) (scrape : Scrape)
    (operation : MetricsOp) :
    (scrape.perform operation).metrics.load counter =
      scrape.metrics.load counter + if (operation.increments counter).isSome then 1 else 0 := by
  cases operation with
  | offer call =>
      cases counter <;> simp [perform, AppMetrics.load, MetricsOp.increments, MetricsOp.tallied]
  | credit call =>
      cases counter <;> simp [perform, AppMetrics.load, MetricsOp.increments, MetricsOp.tallied]
  | dispatchLatency call add =>
      cases counter with
      | dispatchLatency cell =>
          have hload := scrape.metrics.dispatchLatencyHistogram.load_add add htally
          cases hadd : add.tallied <;>
            simp [perform, AppMetrics.load, MetricsOp.increments, MetricsOp.tallied, hload, hadd]
      | _ =>
          cases hadd : add.tallied <;>
            simp [perform, AppMetrics.load, MetricsOp.increments, MetricsOp.tallied, hadd]
  | apiResponse call add =>
      cases counter with
      | apiResponse cell =>
          have hload := scrape.metrics.apiResponseHistogram.load_add add htally
          cases hadd : add.tallied <;>
            simp [perform, AppMetrics.load, MetricsOp.increments, MetricsOp.tallied, hload, hadd]
      | _ =>
          cases hadd : add.tallied <;>
            simp [perform, AppMetrics.load, MetricsOp.increments, MetricsOp.tallied, hadd]
  | load loaded =>
      simp [perform, MetricsOp.increments, MetricsOp.tallied]

theorem load_new {counter : Counter} (htally : counter.IsTally)
    (probesStats : List ProbeStats) : (AppMetrics.new probesStats).load counter = 0 := by
  cases counter with
  | eventsLost probe => cases htally
  | probeLoadErrorsTotal => cases htally
  | dispatchLatency cell => cases cell <;> rfl
  | apiResponse cell => cases cell <;> rfl
  | _ => rfl

theorem local?_perform (counter : Counter) (scrape : Scrape) (operation : MetricsOp) :
    (scrape.perform operation).local? counter =
      if operation = .load counter then some (scrape.metrics.load counter)
      else scrape.local? counter := by
  cases operation with
  | load loaded =>
      simp only [perform, local?, List.lookup_cons, MetricsOp.load.injEq]
      by_cases h : loaded = counter
      · subst h
        simp
      · have hne : (counter == loaded) = false := by simpa using fun heq => h heq.symm
        simp [h, hne]
  | _ => simp [perform, local?]

end Scrape

/-! ## No call increments a counter twice -/

section Distinct

variable {F : Type} [Float64 F]

omit [Float64 F] in
/-- A list without repetitions has its element once at most. -/
theorem filterMap_ite_sublist {α β : Type} [DecidableEq α] {items : List α}
    (distinct : items.Nodup) (wanted : α) (image : β) :
    (items.filterMap fun item => if item = wanted then some image else none).Sublist
      [image] := by
  induction items with
  | nil => simp
  | cons item items ih =>
      obtain ⟨hnew, hrest⟩ := List.nodup_cons.mp distinct
      by_cases h : item = wanted
      · subst h
        have hnone : (items.filterMap fun other =>
            if other = item then some image else none) = [] := by
          apply List.filterMap_eq_nil_iff.mpr
          intro other hother
          rw [if_neg]
          intro heq
          subst heq
          exact hnew hother
        simp [hnone]
      · simpa [h] using ih hrest

/-- The fields that a call of `observe` can increment by one, in order. -/
def observedCells : List HistogramCell := [.count, .bucketLe5, .bucketLe10, .bucketLe20]

/-- The counters that a call can increment by one, in order. -/
def MetricsCall.counters {F : Type} : MetricsCall F → List Counter
  | .send _ => [.oscDispatchTotal, .oscDispatchSuccessTotal]
  | .dispatchLatency _ => observedCells.map .dispatchLatency
  | .apiResponse _ => observedCells.map .apiResponse

theorem observe_tallied_sublist (ms : F) :
    ((observe ms).filterMap HistogramAdd.tallied).Sublist observedCells := by
  unfold observe observedCells
  split_ifs <;> simp [HistogramAdd.tallied, List.filterMap_cons]

theorem observe_operations_sublist {operation : HistogramAdd → MetricsOp}
    {field : HistogramCell → Counter} {number : CallId}
    (htallied : ∀ add, (operation add).tallied =
      add.tallied.map fun cell => (field cell, number)) (ms : F) :
    (((observe ms).map operation).filterMap MetricsOp.tallied).Sublist
      ((observedCells.map field).map fun counter => (counter, number)) := by
  have hcells := (observe_tallied_sublist ms).map fun cell => (field cell, number)
  rw [List.map_filterMap] at hcells
  rw [List.filterMap_map, List.map_map]
  simpa only [Function.comp_def, htallied] using hcells

theorem tallied_sublist (number : CallId) (call : MetricsCall F) :
    ((call.operations number).filterMap MetricsOp.tallied).Sublist
      (call.counters.map fun counter => (counter, number)) := by
  cases call with
  | send ok =>
      cases ok <;> simp [MetricsCall.operations, MetricsCall.counters, MetricsOp.tallied]
  | dispatchLatency ms => exact observe_operations_sublist (fun _ => rfl) ms
  | apiResponse ms => exact observe_operations_sublist (fun _ => rfl) ms

omit [Float64 F] in
theorem nodup_counters (call : MetricsCall F) : call.counters.Nodup := by
  cases call with
  | send ok => exact (by decide : [Counter.oscDispatchTotal, .oscDispatchSuccessTotal].Nodup)
  | dispatchLatency ms => exact (by decide : (observedCells.map Counter.dispatchLatency).Nodup)
  | apiResponse ms => exact (by decide : (observedCells.map Counter.apiResponse).Nodup)

theorem increments_sublist (counter : Counter) (number : CallId) (call : MetricsCall F) :
    ((call.operations number).filterMap (MetricsOp.increments counter)).Sublist
      [number] := by
  have hpieces := (tallied_sublist number call).filterMap fun pair : Counter × CallId =>
    if pair.1 = counter then some pair.2 else none
  rw [List.filterMap_filterMap, List.filterMap_map] at hpieces
  exact hpieces.trans (filterMap_ite_sublist (nodup_counters call) counter number)

theorem increments_numbered_sublist (counter : Counter) (thread : ℕ)
    (calls : List (MetricsCall F)) :
    ((numbered thread calls).filterMap (MetricsOp.increments counter)).Sublist
      ((List.range calls.length).map fun place => (thread, place)) := by
  have hplaces : (List.range calls.length).map (fun place => (thread, place)) =
      calls.zipIdx.map fun visit => (thread, visit.2) := by
    rw [List.range_eq_range', ← List.zipIdx_map_snd 0 calls, List.map_map]
    rfl
  rw [numbered, List.filterMap_flatMap, hplaces, List.map_eq_flatMap]
  apply List.Sublist.flatMap_right
  intro visit _
  exact increments_sublist counter _ visit.1

/-- Threads share no calls, and a thread repeats none. -/
theorem nodup_started (counter : Counter) (probesStats : List ProbeStats) (responseMs : F)
    (tasks : List (MetricsTask F)) :
    ((Scrape.started probesStats responseMs tasks).pending.flatten.filterMap
      (MetricsOp.increments counter)).Nodup := by
  have hids : ((Scrape.started probesStats responseMs tasks).pending.flatten.filterMap
      (MetricsOp.increments counter)).Sublist
        ((0, 0) :: tasks.zipIdx.flatMap fun visit =>
          (List.range visit.1.calls.length).map fun place => (visit.2 + 1, place)) := by
    have hloads : ((metricsLoads probesStats.length).map MetricsOp.load).filterMap
        (MetricsOp.increments counter) = [] := by
      rw [List.filterMap_map, List.filterMap_eq_nil_iff]
      intro _ _
      rfl
    have hthreads : ((tasks.zipIdx.map fun visit => numbered (visit.2 + 1) visit.1.calls)
        ).flatten.filterMap (MetricsOp.increments counter) =
          tasks.zipIdx.flatMap fun visit =>
            (numbered (visit.2 + 1) visit.1.calls).filterMap
              (MetricsOp.increments counter) := by
      rw [← List.flatMap_def, List.filterMap_flatMap]
    have hown := increments_numbered_sublist counter 0 [MetricsCall.apiResponse responseMs]
    rw [Scrape.started, List.flatten_cons, List.filterMap_append, List.filterMap_append,
      hloads, List.nil_append, hthreads]
    apply hown.append
    apply List.Sublist.flatMap_right
    intro visit _
    exact increments_numbered_sublist counter _ _
  refine hids.nodup (List.nodup_cons.mpr ⟨by simp, ?_⟩)
  rw [List.nodup_flatMap]
  constructor
  · intro visit _
    exact List.nodup_range.map fun _ _ h => (Prod.mk.inj h).2
  · have hindices : (tasks.zipIdx.map Prod.snd).Nodup := by
      rw [List.zipIdx_map_snd]
      exact List.nodup_range'
    refine (List.pairwise_map.mp hindices).imp ?_
    intro left right hne id hleft hright
    obtain ⟨_, _, rfl⟩ := List.mem_map.mp hleft
    obtain ⟨_, _, heq⟩ := List.mem_map.mp hright
    exact hne (Nat.succ.inj (Prod.mk.inj heq).1).symm

theorem nodup_metricsLoads (probes : ℕ) : (metricsLoads probes).Nodup := by
  have hlost : ((List.range probes).map Counter.eventsLost).Nodup :=
    List.nodup_range.map fun _ _ => Counter.eventsLost.inj
  simp [metricsLoads, histogramLoads, List.nodup_append, hlost]

theorem load_notMem_operations (counter : Counter) (number : CallId) (call : MetricsCall F) :
    MetricsOp.load counter ∉ call.operations number := by
  cases call with
  | send ok => cases ok <;> simp [MetricsCall.operations]
  | dispatchLatency ms => simp [MetricsCall.operations]
  | apiResponse ms => simp [MetricsCall.operations]

/-- A load occurs once at most in the threads. -/
theorem count_load_started (counter : Counter) (probesStats : List ProbeStats)
    (responseMs : F) (tasks : List (MetricsTask F)) :
    (Scrape.started probesStats responseMs tasks).pending.flatten.count (.load counter) ≤ 1 := by
  have hnumbered : ∀ thread (calls : List (MetricsCall F)),
      MetricsOp.load counter ∉ numbered thread calls := by
    intro thread calls hmem
    obtain ⟨⟨call, place⟩, _, hmem⟩ := List.mem_flatMap.mp hmem
    exact load_notMem_operations counter _ call hmem
  have hothers : MetricsOp.load counter ∉
      (tasks.zipIdx.map fun visit => numbered (visit.2 + 1) visit.1.calls).flatten := by
    intro hmem
    obtain ⟨operations, hoperations, hmem⟩ := List.mem_flatten.mp hmem
    obtain ⟨visit, _, rfl⟩ := List.mem_map.mp hoperations
    exact hnumbered _ _ hmem
  have hloads : ((metricsLoads probesStats.length).map MetricsOp.load).Nodup :=
    (nodup_metricsLoads _).map fun _ _ => MetricsOp.load.inj
  rw [Scrape.started, List.flatten_cons, List.count_append, List.count_append,
    List.count_eq_zero.mpr (hnumbered _ _), List.count_eq_zero.mpr hothers]
  exact List.nodup_iff_count_le_one.mp hloads _

end Distinct

/-! ## In which order the threads make their operations -/

section Order

variable {F : Type} [Float64 F]

theorem tallied_of_increments {counter : Counter} {operation : MetricsOp} {call : CallId}
    (h : operation.increments counter = some call) : operation.tallied = some (counter, call) := by
  obtain ⟨⟨tallied, number⟩, htallied, hnumber⟩ := Option.bind_eq_some_iff.mp h
  dsimp only at hnumber
  split at hnumber
  · rename_i heq
    rw [htallied, heq, Option.some.inj hnumber]
  · cases hnumber

theorem credit_of_increments (operation : MetricsOp) (call : CallId)
    (h : operation.increments .oscDispatchSuccessTotal = some call) :
    operation = .credit call := by
  have htallied := tallied_of_increments h
  cases operation with
  | credit number =>
      obtain rfl : number = call := by simpa [MetricsOp.tallied] using htallied
      rfl
  | _ => simp [MetricsOp.tallied] at htallied

theorem bucketLe20_of_tallied {add : HistogramAdd} (h : add.tallied = some .bucketLe20) :
    add = .bucketLe20 := by
  cases add with
  | bucketLe20 => rfl
  | _ => simp [HistogramAdd.tallied] at h

theorem dispatchLatency_of_increments (operation : MetricsOp) (call : CallId)
    (h : operation.increments (.dispatchLatency .bucketLe20) = some call) :
    operation = .dispatchLatency call .bucketLe20 := by
  have htallied := tallied_of_increments h
  cases operation with
  | dispatchLatency number add =>
      obtain ⟨cell, hadd, hcell⟩ := Option.map_eq_some_iff.mp htallied
      simp only [Prod.mk.injEq, Counter.dispatchLatency.injEq] at hcell
      obtain ⟨rfl, rfl⟩ := hcell
      rw [bucketLe20_of_tallied hadd]
  | _ => simp [MetricsOp.tallied] at htallied

theorem apiResponse_of_increments (operation : MetricsOp) (call : CallId)
    (h : operation.increments (.apiResponse .bucketLe20) = some call) :
    operation = .apiResponse call .bucketLe20 := by
  have htallied := tallied_of_increments h
  cases operation with
  | apiResponse number add =>
      obtain ⟨cell, hadd, hcell⟩ := Option.map_eq_some_iff.mp htallied
      simp only [Prod.mk.injEq, Counter.apiResponse.injEq] at hcell
      obtain ⟨rfl, rfl⟩ := hcell
      rw [bucketLe20_of_tallied hadd]
  | _ => simp [MetricsOp.tallied] at htallied

theorem precedes_started {first second : MetricsOp} {probesStats : List ProbeStats}
    (hloads : Precedes first second ((metricsLoads probesStats.length).map .load))
    (hcalls : ∀ (number : CallId) (call : MetricsCall F),
      Precedes first second (call.operations number))
    (responseMs : F) (tasks : List (MetricsTask F)) :
    ∀ writes ∈ (Scrape.started probesStats responseMs tasks).pending,
      Precedes first second writes := by
  have hnumbered : ∀ thread (calls : List (MetricsCall F)),
      Precedes first second (numbered thread calls) := by
    intro thread calls
    exact Precedes.flatMap fun visit _ => hcalls _ visit.1
  intro writes hwrites
  rcases List.mem_cons.mp hwrites with rfl | hwrites
  · exact hloads.append (hnumbered 0 _)
  · obtain ⟨visit, _, rfl⟩ := List.mem_map.mp hwrites
    exact hnumbered _ _

theorem offer_precedes_credit (call : CallId) (number : CallId) (made : MetricsCall F) :
    Precedes (.offer call) (.credit call) (made.operations number) := by
  cases made with
  | send ok =>
      by_cases h : number = call
      · subst h
        simp [Precedes, before, MetricsCall.operations]
      · apply Precedes.of_notMem
        cases ok <;> simp [MetricsCall.operations, Ne.symm h]
  | dispatchLatency ms => exact .of_notMem (by simp [MetricsCall.operations])
  | apiResponse ms => exact .of_notMem (by simp [MetricsCall.operations])

theorem count_precedes_bucketLe20 {operation : CallId → HistogramAdd → MetricsOp}
    (hinjective : ∀ {call number add added},
      operation call add = operation number added → call = number ∧ add = added)
    (call number : CallId) (ms : F) :
    Precedes (operation call .count) (operation call .bucketLe20)
      ((observe ms).map (operation number)) := by
  by_cases h : number = call
  · subst h
    have hsum : ∀ sum, operation number (.sumUs sum) ≠ operation number .count :=
      fun _ heq => HistogramAdd.noConfusion (hinjective heq).2
    have hbucket : ∀ sum, operation number .bucketLe20 ≠ operation number (.sumUs sum) :=
      fun _ heq => HistogramAdd.noConfusion (hinjective heq).2
    simp [Precedes, before, observe, hsum, hbucket]
  · apply Precedes.of_notMem
    intro hmem
    obtain ⟨_, _, heq⟩ := List.mem_map.mp hmem
    exact h (hinjective heq).1

theorem dispatchLatency_precedes (call : CallId) (number : CallId) (made : MetricsCall F) :
    Precedes (.dispatchLatency call .count) (.dispatchLatency call .bucketLe20)
      (made.operations number) := by
  cases made with
  | send ok => exact .of_notMem (by cases ok <;> simp [MetricsCall.operations])
  | dispatchLatency ms =>
      exact count_precedes_bucketLe20 (fun h => MetricsOp.dispatchLatency.inj h) call number ms
  | apiResponse ms => exact .of_notMem (by simp [MetricsCall.operations])

theorem apiResponse_precedes (call : CallId) (number : CallId) (made : MetricsCall F) :
    Precedes (.apiResponse call .count) (.apiResponse call .bucketLe20)
      (made.operations number) := by
  cases made with
  | send ok => exact .of_notMem (by cases ok <;> simp [MetricsCall.operations])
  | dispatchLatency ms => exact .of_notMem (by simp [MetricsCall.operations])
  | apiResponse ms =>
      exact count_precedes_bucketLe20 (fun h => MetricsOp.apiResponse.inj h) call number ms

end Order

/-! ## The loaded values -/

namespace Scrape

/-- The calls that had incremented `counter` when `moment` was loaded. -/
def seenAt (trace : List (Threads Scrape MetricsOp × ℕ)) (moment counter : Counter) :
    Finset CallId :=
  callsOf (MetricsOp.increments counter)
    (before (.load moment) (Threads.executed trace))

/-- The calls that incremented `counter` after the load of `first`, up to the load of
`second`. -/
def seenBetween (trace : List (Threads Scrape MetricsOp × ℕ))
    (first second counter : Counter) : Finset CallId :=
  callsOf (MetricsOp.increments counter)
    (between (.load first) (.load second) (Threads.executed trace))

/-- How often a counter had gone round when it was loaded. -/
def rounds (trace : List (Threads Scrape MetricsOp × ℕ)) (counter : Counter) : ℕ :=
  (seenAt trace counter counter).card / 2 ^ 64

variable {F : Type} [Float64 F] {probesStats : List ProbeStats} {responseMs : F}
  {tasks : List (MetricsTask F)} {trace : List (Threads Scrape MetricsOp × ℕ)}
  {final : Threads Scrape MetricsOp}

theorem nodup_executed
    (run : Run (Threads.step perform) (started probesStats responseMs tasks) trace final)
    (counter : Counter) :
    ((Threads.executed trace).filterMap (MetricsOp.increments counter)).Nodup := by
  have hall := ((Threads.executed_perm run).filterMap (MetricsOp.increments counter)).nodup_iff.mpr
    (nodup_started counter probesStats responseMs tasks)
  rw [List.filterMap_append] at hall
  exact hall.of_append_left

theorem local_eq (run : Run (Threads.step perform) (started probesStats responseMs tasks)
      trace final) {counter : Counter} (htally : counter.IsTally) {value : UInt64}
    (h : final.memory.local? counter = some value) :
    value = UInt64.ofNat (seenAt trace counter counter).card := by
  have honce : (Threads.executed trace).count (.load counter) ≤ 1 := by
    have hcount := (Threads.executed_perm run).count_eq (.load counter)
    have hstart := count_load_started counter probesStats responseMs tasks
    rw [List.count_append] at hcount
    omega
  have hdistinct : ((before (.load counter) (Threads.executed trace)).filterMap
      (MetricsOp.increments counter)).Nodup :=
    ((before_isInitial _ _).sublist.filterMap _).nodup (nodup_executed run counter)
  rw [Threads.memory_eq run] at h
  have hread := local_foldl (fun scrape : Scrape => scrape.local? counter)
    (fun scrape => scrape.metrics.load counter) (local?_perform counter) rfl honce h
  exact hread.trans <| counter_eq_card (fun scrape : Scrape => scrape.metrics.load counter)
    (load_perform htally) (load_new htally probesStats) hdistinct

theorem card_seenAt
    (run : Run (Threads.step perform) (started probesStats responseMs tasks) trace final)
    {first second : Counter}
    (hloads : Precedes (MetricsOp.load first) (.load second)
      ((metricsLoads probesStats.length).map .load)) (counter : Counter) :
    (seenAt trace second counter).card =
      (seenAt trace first counter).card + (seenBetween trace first second counter).card := by
  have hcalls : ∀ (number : CallId) (call : MetricsCall F),
      Precedes (MetricsOp.load first) (.load second) (call.operations number) :=
    fun number call => .of_notMem (load_notMem_operations second number call)
  have horder := Threads.executed_precedes run
    (precedes_started hloads hcalls responseMs tasks)
  have hdistinct : ((before (.load second) (Threads.executed trace)).filterMap
      (MetricsOp.increments counter)).Nodup :=
    ((before_isInitial _ _).sublist.filterMap _).nodup (nodup_executed run counter)
  rw [before_eq_append_between horder] at hdistinct
  rw [seenAt, before_eq_append_between horder, card_callsOf_append hdistinct]
  rfl

/-- Where every call increments `large` before `small`, no load sees a call in `small`
only. -/
theorem seenAt_subset
    (run : Run (Threads.step perform) (started probesStats responseMs tasks) trace final)
    {small large : Counter} {first second : CallId → MetricsOp}
    (hsecond : ∀ operation call, operation.increments small = some call → operation = second call)
    (hfirst : ∀ call, (first call).increments large = some call)
    (hloads : ∀ call counter, second call ≠ .load counter)
    (hcalls : ∀ (call number : CallId) (made : MetricsCall F),
      Precedes (first call) (second call) (made.operations number)) (moment : Counter) :
    seenAt trace moment small ⊆ seenAt trace moment large := by
  intro call hcall
  obtain ⟨operation, hmem, hincrements⟩ :=
    List.mem_filterMap.mp (List.mem_toFinset.mp hcall)
  obtain rfl := hsecond operation call hincrements
  have habsent : second call ∉ (metricsLoads probesStats.length).map MetricsOp.load := by
    intro h
    obtain ⟨counter, _, heq⟩ := List.mem_map.mp h
    exact hloads call counter heq.symm
  have horder := Threads.executed_precedes run
    (precedes_started (.of_notMem habsent) (hcalls call) responseMs tasks)
  have hearlier := (horder.of_isInitial (before_isInitial _ _)).mem hmem
  exact List.mem_toFinset.mpr (List.mem_filterMap.mpr ⟨first call, hearlier, hfirst call⟩)

end Scrape

end DaemonChoir.Conductor
