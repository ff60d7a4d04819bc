import DaemonChoir.Foundation.Run
import Mathlib.Algebra.BigOperators.Group.Finset.Piecewise
set_option autoImplicit false

/-!
# Foundation: scripts of atomic operations, and a service that runs many at once

A script asks for one operation after the other, and goes on with each answer.  A service keeps
a state and the scripts of all calls so far: any call may take its next operation at any time,
and other tasks may change the state in between.  What an operation finds outside the state
comes with the step.

A script is a tree of operations and answers, and `bind` is the sequence of two.  `Uses`
says that whatever the answers are, a script asks only for operations with a property;
`Leads` that with these exchanges a script comes to this result.  Both follow the structure
of the script, so a handler that is written with `do` is analysed clause by clause.

A run of the service interleaves the exchanges of the calls with the moves of the tasks.
Read for one call, the run is a path through its script (`leads_of_run`, `calls_of_run`);
read for the state, it is a sequence of effects.  A quantity that each call changes by what
its own script says is, in the end, the sum over the calls (`measure_of_run`).
-/

namespace DaemonChoir.Foundation

universe u v w x y z

/-! ## Scripts -/

/-- Operations with answers, and a result at the end. -/
inductive Script (Op : Type u) (Answer : Op → Type v) (ρ : Type w) where
  | pure (result : ρ)
  | ask (op : Op) (next : Answer op → Script Op Answer ρ)

namespace Script

variable {Op : Type u} {Answer : Op → Type v} {ρ ρ' : Type w} {β : Type x}

/-- One script, and a second one with its result. -/
def bind (script : Script Op Answer ρ) (rest : ρ → Script Op Answer ρ') :
    Script Op Answer ρ' :=
  match script with
  | .pure result => rest result
  | .ask op next => .ask op fun answer => (next answer).bind rest

instance : Monad (Script Op Answer) where
  pure := .pure
  bind := .bind

/-- A single operation. -/
def perform (op : Op) : Script Op Answer (Answer op) := .ask op .pure

/-- One script for each item, in order, with all results. -/
def collect (script : β → Script Op Answer ρ) : List β → Script Op Answer (List ρ)
  | [] => .pure []
  | item :: items =>
      (script item).bind fun result => (collect script items).bind fun results =>
        .pure (result :: results)

@[simp] theorem bind_eq_bind {ρ ρ' : Type w} (script : Script Op Answer ρ)
    (rest : ρ → Script Op Answer ρ') : script >>= rest = script.bind rest := rfl

@[simp] theorem pure_eq_pure {ρ : Type w} (result : ρ) :
    (Pure.pure result : Script Op Answer ρ) = .pure result := rfl

/-! ### The operations a script may ask for -/

/-- Whatever the answers are, only such operations are asked for. -/
def Uses (allowed : Op → Prop) : Script Op Answer ρ → Prop
  | .pure _ => True
  | .ask op next => allowed op ∧ ∀ answer, (next answer).Uses allowed

theorem uses_bind {allowed : Op → Prop} {script : Script Op Answer ρ}
    {rest : ρ → Script Op Answer ρ'} (first : script.Uses allowed)
    (second : ∀ result, (rest result).Uses allowed) : (script.bind rest).Uses allowed := by
  induction script with
  | pure result => exact second result
  | ask op next ih =>
      obtain ⟨hop, hnext⟩ := first
      exact ⟨hop, fun answer => ih answer (hnext answer)⟩

theorem uses_perform {allowed : Op → Prop} {op : Op} (hop : allowed op) :
    (perform op : Script Op Answer (Answer op)).Uses allowed :=
  ⟨hop, fun _ => trivial⟩

theorem uses_collect {allowed : Op → Prop} {script : β → Script Op Answer ρ}
    (each : ∀ item, (script item).Uses allowed) (items : List β) :
    (collect script items).Uses allowed := by
  induction items with
  | nil => trivial
  | cons item items ih =>
      exact uses_bind (each item) fun result => uses_bind ih fun results => trivial

theorem Uses.mono {weak strong : Op → Prop} {script : Script Op Answer ρ}
    (uses : script.Uses strong) (implies : ∀ op, strong op → weak op) : script.Uses weak := by
  induction script with
  | pure result => trivial
  | ask op next ih =>
      obtain ⟨hop, hnext⟩ := uses
      exact ⟨implies op hop, fun answer => ih answer (hnext answer)⟩

/-! ### A script that runs alone -/

section Alone

variable {σ : Type y} {ε : Type z}

/-- The result and the state of a script that nothing comes between. -/
def alone (perform : σ → (op : Op) → ε → Option (Answer op × σ)) (surroundings : ε) :
    Script Op Answer ρ → σ → Option (ρ × σ)
  | .pure result, state => some (result, state)
  | .ask op next, state =>
      match perform state op surroundings with
      | some (answer, after) => (next answer).alone perform surroundings after
      | none => none

variable {perform : σ → (op : Op) → ε → Option (Answer op × σ)} {surroundings : ε}

theorem alone_bind (script : Script Op Answer ρ) (rest : ρ → Script Op Answer ρ') (state : σ) :
    (script.bind rest).alone perform surroundings state =
      (script.alone perform surroundings state).bind fun (result, after) =>
        (rest result).alone perform surroundings after := by
  induction script generalizing state with
  | pure result => rfl
  | ask op next ih =>
      rw [bind, alone, alone]
      cases perform state op surroundings with
      | none => rfl
      | some pair => exact ih pair.1 pair.2

theorem alone_perform (op : Op) (state : σ) :
    (Script.perform op : Script Op Answer (Answer op)).alone perform surroundings state =
      perform state op surroundings := by
  rw [Script.perform, alone]
  cases perform state op surroundings with
  | none => rfl
  | some pair => rfl

/-- Scripts that only change the state, one after the other. -/
theorem alone_collect_effect {script : β → Script Op Answer ρ} {result : β → ρ}
    {effect : σ → β → σ}
    (each : ∀ item state, (script item).alone perform surroundings state =
      some (result item, effect state item)) (items : List β) (state : σ) :
    (collect script items).alone perform surroundings state =
      some (items.map result, items.foldl effect state) := by
  induction items generalizing state with
  | nil => rfl
  | cons item items ih => simp [collect, alone_bind, each, ih, alone]

end Alone

/-! ### How far a script has come -/

/-- An operation and its answer. -/
abbrev Exchange (Answer : Op → Type v) : Type (max u v) := Sigma Answer

/-- After these exchanges the second script is left of the first. -/
inductive Leads : Script Op Answer ρ → List (Exchange Answer) → Script Op Answer ρ → Prop
  | refl (script : Script Op Answer ρ) : Leads script [] script
  | ask {op : Op} {next : Answer op → Script Op Answer ρ} {answer : Answer op}
      {exchanges : List (Exchange Answer)} {left : Script Op Answer ρ}
      (later : Leads (next answer) exchanges left) :
      Leads (.ask op next) (⟨op, answer⟩ :: exchanges) left

theorem Leads.snoc {script : Script Op Answer ρ} {exchanges : List (Exchange Answer)} {op : Op}
    {next : Answer op → Script Op Answer ρ} (leads : Leads script exchanges (.ask op next))
    (answer : Answer op) : Leads script (exchanges ++ [⟨op, answer⟩]) (next answer) := by
  generalize hleft : Script.ask op next = left at leads
  induction leads with
  | refl script =>
      subst hleft
      exact .ask (.refl _)
  | ask later ih => exact .ask (ih hleft)

/-- What a script asks for, and what is left of it, is allowed throughout. -/
theorem Leads.uses {allowed : Op → Prop} {script left : Script Op Answer ρ}
    {exchanges : List (Exchange Answer)} (leads : Leads script exchanges left)
    (uses : script.Uses allowed) :
    (∀ exchange ∈ exchanges, allowed exchange.1) ∧ left.Uses allowed := by
  induction leads with
  | refl script => exact ⟨by simp, uses⟩
  | ask later ih =>
      obtain ⟨hop, hnext⟩ := uses
      obtain ⟨hlater, hleft⟩ := ih (hnext _)
      exact ⟨List.forall_mem_cons.mpr ⟨hop, hlater⟩, hleft⟩

/-- A finished script has no more exchanges. -/
theorem leads_pure_iff {result : ρ} {exchanges : List (Exchange Answer)}
    {left : Script Op Answer ρ} :
    Leads (.pure result) exchanges left ↔ exchanges = [] ∧ left = .pure result := by
  constructor
  · intro leads
    cases leads
    exact ⟨rfl, rfl⟩
  · rintro ⟨rfl, rfl⟩
    exact .refl _

/-- The first exchange of a script that comes to its end is its first operation. -/
theorem leads_ask_iff {op : Op} {next : Answer op → Script Op Answer ρ} {result : ρ}
    {exchanges : List (Exchange Answer)} :
    Leads (.ask op next) exchanges (.pure result) ↔
      ∃ answer later, exchanges = ⟨op, answer⟩ :: later ∧
        Leads (next answer) later (.pure result) := by
  constructor
  · intro leads
    cases leads with
    | ask later => exact ⟨_, _, rfl, later⟩
  · rintro ⟨answer, later, rfl, leads⟩
    exact .ask leads

/-- A composed script comes to its end by way of the result of the first. -/
theorem leads_bind_iff {script : Script Op Answer ρ} {rest : ρ → Script Op Answer ρ'}
    {result : ρ'} {exchanges : List (Exchange Answer)} :
    Leads (script.bind rest) exchanges (.pure result) ↔
      ∃ middle front back, exchanges = front ++ back ∧
        Leads script front (.pure middle) ∧ Leads (rest middle) back (.pure result) := by
  induction script generalizing exchanges with
  | pure middle =>
      constructor
      · intro leads
        exact ⟨middle, [], exchanges, rfl, .refl _, leads⟩
      · rintro ⟨other, front, back, rfl, hfront, hback⟩
        obtain ⟨rfl, hmiddle⟩ := leads_pure_iff.mp hfront
        cases hmiddle
        exact hback
  | ask op next ih =>
      constructor
      · intro leads
        obtain ⟨answer, later, rfl, hlater⟩ := leads_ask_iff.mp leads
        obtain ⟨middle, front, back, rfl, hfront, hback⟩ := (ih answer).mp hlater
        exact ⟨middle, ⟨op, answer⟩ :: front, back, rfl, .ask hfront, hback⟩
      · rintro ⟨middle, front, back, rfl, hfront, hback⟩
        obtain ⟨answer, later, rfl, hlater⟩ := leads_ask_iff.mp hfront
        exact leads_ask_iff.mpr
          ⟨answer, later ++ back, rfl, (ih answer).mpr ⟨middle, later, back, rfl, hlater, hback⟩⟩

theorem leads_perform_iff {op : Op} {answer : Answer op} {exchanges : List (Exchange Answer)} :
    Leads (perform op) exchanges (.pure answer) ↔ exchanges = [⟨op, answer⟩] := by
  constructor
  · intro leads
    obtain ⟨other, later, rfl, hlater⟩ := leads_ask_iff.mp leads
    obtain ⟨rfl, hanswer⟩ := leads_pure_iff.mp hlater
    cases hanswer
    rfl
  · rintro rfl
    exact .ask (.refl _)

/-- One script for each item: each result comes from the exchanges of its own script. -/
theorem leads_collect {script : β → Script Op Answer ρ} {items : List β} {results : List ρ}
    {exchanges : List (Exchange Answer)}
    (leads : Leads (collect script items) exchanges (.pure results)) :
    List.Forall₂ (fun item result => ∃ part, part ⊆ exchanges ∧
      Leads (script item) part (.pure result)) items results := by
  induction items generalizing results exchanges with
  | nil =>
      obtain ⟨_, hresults⟩ := leads_pure_iff.mp leads
      cases hresults
      exact .nil
  | cons item items ih =>
      obtain ⟨result, front, back, rfl, hfront, hback⟩ := leads_bind_iff.mp leads
      obtain ⟨later, middle, last, rfl, hmiddle, hlast⟩ := leads_bind_iff.mp hback
      obtain ⟨rfl, hresults⟩ := leads_pure_iff.mp hlast
      cases hresults
      refine .cons ⟨front, List.subset_append_left _ _, hfront⟩ ?_
      refine (ih hmiddle).imp fun item result ⟨part, hsubset, hpart⟩ => ⟨part, ?_, hpart⟩
      exact fun exchange hmem => List.mem_append_right _ (by simpa using hsubset hmem)

end Script

/-! ## A service -/

/-- The state, and each call so far with what is left of its script. -/
structure Service (σ : Type y) (κ : Type w) (Op : Type u) (Answer : Op → Type v)
    (ρ : Type w) where
  state : σ
  calls : List (κ × Script Op Answer ρ)

/-- What happens next: a call comes in, a call takes its next operation, or a task takes a
step. -/
inductive ServiceLabel (κ ε β : Type w) where
  | call (request : κ)
  | advance (index : ℕ) (surroundings : ε)
  | task (label : β)
  deriving DecidableEq, Repr

namespace Service

variable {σ : Type y} {κ ε ρ β : Type w} {Op : Type u} {Answer : Op → Type v}

/-- Let a call take its next operation; with the exchange. -/
def exchange (perform : σ → (op : Op) → ε → Option (Answer op × σ))
    (service : Service σ κ Op Answer ρ) (index : ℕ) (surroundings : ε) :
    Option (Script.Exchange Answer × Service σ κ Op Answer ρ) :=
  match service.calls[index]? with
  | some (request, .ask op next) =>
      (perform service.state op surroundings).map fun (answer, state) =>
        (⟨op, answer⟩,
          { state := state, calls := service.calls.set index (request, next answer) })
  | _ => none

/-- One step of the service. -/
def step (perform : σ → (op : Op) → ε → Option (Answer op × σ)) (tasks : σ → β → Option σ)
    (script : κ → Script Op Answer ρ) (service : Service σ κ Op Answer ρ) :
    ServiceLabel κ ε β → Option (Service σ κ Op Answer ρ)
  | .call request =>
      some { service with calls := service.calls ++ [(request, script request)] }
  | .advance index surroundings =>
      (service.exchange perform index surroundings).map Prod.snd
  | .task label => (tasks service.state label).map fun state => { service with state := state }

variable {perform : σ → (op : Op) → ε → Option (Answer op × σ)} {tasks : σ → β → Option σ}
  {script : κ → Script Op Answer ρ}

/-! ### What a step does -/

/-- All a call can do with its turn. -/
theorem exchange_cases {service after : Service σ κ Op Answer ρ} {index : ℕ} {surroundings : ε}
    {exchange : Script.Exchange Answer}
    (h : service.exchange perform index surroundings = some (exchange, after)) :
    ∃ request next, service.calls[index]? = some (request, .ask exchange.1 next) ∧
      perform service.state exchange.1 surroundings = some (exchange.2, after.state) ∧
      after.calls = service.calls.set index (request, next exchange.2) := by
  unfold Service.exchange at h
  split at h
  · rename_i request op next hcall
    obtain ⟨⟨answer, state⟩, hperform, hpair⟩ := Option.map_eq_some_iff.mp h
    obtain ⟨rfl, rfl⟩ := Prod.mk.inj hpair
    exact ⟨request, next, hcall, hperform, rfl⟩
  · cases h

/-- All a step can do. -/
theorem step_cases {service after : Service σ κ Op Answer ρ} {label : ServiceLabel κ ε β}
    (h : step perform tasks script service label = some after) :
    (∃ request, label = .call request ∧ after.state = service.state ∧
      after.calls = service.calls ++ [(request, script request)]) ∨
    (∃ index surroundings exchange, label = .advance index surroundings ∧
      service.exchange perform index surroundings = some (exchange, after)) ∨
    (∃ move, label = .task move ∧ tasks service.state move = some after.state ∧
      after.calls = service.calls) := by
  cases label with
  | call request =>
      cases h
      exact .inl ⟨request, rfl, rfl, rfl⟩
  | advance index surroundings =>
      obtain ⟨⟨exchange, _⟩, hexchange, rfl⟩ := Option.map_eq_some_iff.mp h
      exact .inr (.inl ⟨index, surroundings, exchange, rfl, hexchange⟩)
  | task move =>
      obtain ⟨state, htask, rfl⟩ := Option.map_eq_some_iff.mp h
      exact .inr (.inr ⟨move, rfl, htask, rfl⟩)

/-! ### The exchanges of a run -/

/-- The exchange of a visit, and the call it belongs to. -/
def exchanged (perform : σ → (op : Op) → ε → Option (Answer op × σ))
    (visit : Service σ κ Op Answer ρ × ServiceLabel κ ε β) :
    Option (ℕ × Script.Exchange Answer) :=
  match visit.2 with
  | .advance index surroundings =>
      (visit.1.exchange perform index surroundings).map fun (exchange, _) => (index, exchange)
  | _ => none

/-- The exchanges of one call, in order. -/
def history (perform : σ → (op : Op) → ε → Option (Answer op × σ)) (index : ℕ)
    (trace : List (Service σ κ Op Answer ρ × ServiceLabel κ ε β)) :
    List (Script.Exchange Answer) :=
  (trace.filterMap (exchanged perform)).filterMap fun (owner, exchange) =>
    if owner = index then some exchange else none

/-- The exchange of one more step. -/
theorem exchanged_append_singleton
    (trace : List (Service σ κ Op Answer ρ × ServiceLabel κ ε β))
    (visit : Service σ κ Op Answer ρ × ServiceLabel κ ε β) :
    (trace ++ [visit]).filterMap (exchanged perform) =
      trace.filterMap (exchanged perform) ++ (exchanged perform visit).toList := by
  rw [List.filterMap_append]
  cases hvisit : exchanged perform visit with
  | none => simp [hvisit]
  | some pair => simp [hvisit]

theorem history_append_singleton (index : ℕ)
    (trace : List (Service σ κ Op Answer ρ × ServiceLabel κ ε β))
    (visit : Service σ κ Op Answer ρ × ServiceLabel κ ε β) :
    history perform index (trace ++ [visit]) =
      history perform index trace ++ ((exchanged perform visit).bind fun (owner, exchange) =>
        if owner = index then some exchange else none).toList := by
  unfold history
  rw [exchanged_append_singleton, List.filterMap_append]
  cases exchanged perform visit with
  | none => simp
  | some pair => by_cases howner : pair.1 = index <;> simp [howner]

/-- An exchange of a call took place in a state of the run. -/
theorem exists_visit_of_mem_history {index : ℕ} {exchange : Script.Exchange Answer}
    {trace : List (Service σ κ Op Answer ρ × ServiceLabel κ ε β)}
    (hmem : exchange ∈ history perform index trace) :
    ∃ service surroundings after, (service, .advance index surroundings) ∈ trace ∧
      perform service.state exchange.1 surroundings = some (exchange.2, after) := by
  obtain ⟨⟨owner, other⟩, hpair, howner⟩ := List.mem_filterMap.mp hmem
  obtain ⟨⟨service, label⟩, hvisit, hexchanged⟩ := List.mem_filterMap.mp hpair
  obtain ⟨rfl, hother⟩ := Option.ite_none_right_eq_some.mp howner
  cases hother
  cases label with
  | call request => cases hexchanged
  | task move => cases hexchanged
  | advance index surroundings =>
      obtain ⟨⟨_, after⟩, hexchange, hsame⟩ := Option.map_eq_some_iff.mp hexchanged
      cases hsame
      obtain ⟨request, next, _, hperform, _⟩ := exchange_cases hexchange
      exact ⟨service, surroundings, after.state, hvisit, hperform⟩

/-- Each call has come as far in its script as its exchanges say; and who has not called yet
has none. -/
theorem leads_of_run {start final : Service σ κ Op Answer ρ}
    {trace : List (Service σ κ Op Answer ρ × ServiceLabel κ ε β)}
    (run : Run (step perform tasks script) start trace final) (hstart : start.calls = []) :
    (∀ index request left, final.calls[index]? = some (request, left) →
      (script request).Leads (history perform index trace) left) ∧
    ∀ index, final.calls.length ≤ index → history perform index trace = [] := by
  induction run with
  | nil =>
      rw [hstart]
      exact ⟨fun _ _ _ hcall => by simp at hcall, fun _ _ => rfl⟩
  | @snoc trace service after label run taken ih =>
      obtain ⟨hleads, hnone⟩ := ih
      rcases step_cases taken with ⟨request, rfl, _, hcalls⟩ |
        ⟨index, surroundings, exchange, rfl, hexchange⟩ | ⟨move, rfl, _, hcalls⟩
      · have hsame : ∀ index, history perform index (trace ++ [(service, .call request)]) =
            history perform index trace := fun index => by
          simp [history_append_singleton, exchanged]
        constructor
        · intro index other left hcall
          rw [hsame]
          rw [hcalls, List.getElem?_append] at hcall
          split at hcall
          · exact hleads index other left hcall
          · rename_i hlength
            obtain ⟨hindex, hpair⟩ := List.getElem?_eq_some_iff.mp hcall
            have hzero : index - service.calls.length = 0 := by
              simpa using hindex
            simp only [hzero, List.getElem_cons_zero] at hpair
            cases hpair
            rw [hnone index (Nat.le_of_not_lt hlength)]
            exact .refl _
        · intro index hindex
          rw [hsame]
          rw [hcalls, List.length_append] at hindex
          exact hnone index (Nat.le_of_add_right_le hindex)
      · obtain ⟨request, next, hcall, _, hcalls⟩ := exchange_cases hexchange
        have hbound := (List.getElem?_eq_some_iff.mp hcall).1
        have hother : ∀ other, other ≠ index →
            history perform other (trace ++ [(service, .advance index surroundings)]) =
              history perform other trace := fun other hne => by
          simp [history_append_singleton, exchanged, hexchange, Ne.symm hne]
        constructor
        · intro other caller left hleft
          by_cases hsame : other = index
          · subst hsame
            rw [hcalls, List.getElem?_set_self hbound] at hleft
            cases hleft
            rw [history_append_singleton]
            simpa [exchanged, hexchange] using (hleads other request _ hcall).snoc exchange.2
          · rw [hother other hsame]
            rw [hcalls, List.getElem?_set_ne (Ne.symm hsame)] at hleft
            exact hleads other caller left hleft
        · intro other hlength
          rw [hcalls, List.length_set] at hlength
          rw [hother other (by omega)]
          exact hnone other hlength
      · have hsame : ∀ index, history perform index (trace ++ [(service, .task move)]) =
            history perform index trace := fun index => by
          simp [history_append_singleton, exchanged]
        rw [hcalls]
        simp only [hsame]
        exact ⟨hleads, hnone⟩

/-! ### Calls and tasks of a run -/

/-- The step of a task. -/
def task? : ServiceLabel κ ε β → Option β
  | .task move => some move
  | _ => none

/-- The calls that have come in. -/
def arrivals (trace : List (Service σ κ Op Answer ρ × ServiceLabel κ ε β)) : List κ :=
  trace.filterMap fun visit =>
    match visit.2 with
    | .call request => some request
    | _ => none

theorem calls_of_run {start final : Service σ κ Op Answer ρ}
    {trace : List (Service σ κ Op Answer ρ × ServiceLabel κ ε β)}
    (run : Run (step perform tasks script) start trace final) :
    final.calls.map Prod.fst = start.calls.map Prod.fst ++ arrivals trace := by
  induction run with
  | nil => simp [arrivals]
  | @snoc trace service after label run taken ih =>
      unfold arrivals at ih ⊢
      rw [List.filterMap_append]
      rcases step_cases taken with ⟨request, rfl, _, hcalls⟩ |
        ⟨index, surroundings, exchange, rfl, hexchange⟩ | ⟨move, rfl, _, hcalls⟩
      · rw [hcalls, List.map_append, ih]
        simp
      · obtain ⟨request, next, hcall, _, hcalls⟩ := exchange_cases hexchange
        have hsame : (service.calls.map Prod.fst).set index request =
            service.calls.map Prod.fst := by
          obtain ⟨hindex, hpair⟩ := List.getElem?_eq_some_iff.mp hcall
          apply List.ext_getElem (by simp)
          intro place _ _
          by_cases hplace : index = place
          · subst hplace
            simp [hpair]
          · simp [List.getElem_set_ne hplace]
        rw [hcalls, List.map_set, hsame, ih]
        simp
      · rw [hcalls, ih]
        simp

/-- Where no call that comes in can touch a part of the state, the tasks move it as if there
were no calls at all. -/
theorem tasks_alone {τ : Type x} {view : σ → τ} {lowTasks : τ → β → Option τ} {quiet : Op → Prop}
    (hidden : ∀ {state op surroundings answer next}, quiet op →
      perform state op surroundings = some (answer, next) → view next = view state)
    (shown : ∀ {state move next}, tasks state move = some next →
      lowTasks (view state) move = some (view next))
    {start final : Service σ κ Op Answer ρ}
    {trace : List (Service σ κ Op Answer ρ × ServiceLabel κ ε β)}
    (run : Run (step perform tasks script) start trace final) (hstart : start.calls = [])
    (hquiet : ∀ request ∈ arrivals trace, (script request).Uses quiet) :
    Run lowTasks (view start.state)
      (trace.filterMap fun visit => (task? visit.2).map fun move => (view visit.1.state, move))
      (view final.state) := by
  induction run with
  | nil => exact .nil
  | @snoc trace service after label run taken ih =>
      have hbefore : ∀ request ∈ arrivals trace, (script request).Uses quiet := by
        intro request hmem
        apply hquiet request
        unfold arrivals at hmem ⊢
        rw [List.filterMap_append]
        exact List.mem_append_left _ hmem
      have hrun := ih hbefore
      rw [List.filterMap_append]
      rcases step_cases taken with ⟨request, rfl, hstate, _⟩ |
        ⟨index, surroundings, exchange, rfl, hexchange⟩ | ⟨move, rfl, htask, _⟩
      · simpa [task?, hstate] using hrun
      · obtain ⟨request, next, hcall, hperform, _⟩ := exchange_cases hexchange
        have hmem : request ∈ arrivals trace := by
          have hcalls := calls_of_run run
          rw [hstart, List.map_nil, List.nil_append] at hcalls
          rw [← hcalls]
          exact List.mem_map_of_mem (List.mem_of_getElem? hcall)
        have hleads := (leads_of_run run hstart).1 index request _ hcall
        have hop : quiet exchange.1 := (hleads.uses (hbefore request hmem)).2.1
        simpa [task?, hidden hop hperform] using hrun
      · simpa [task?] using hrun.snoc (shown htask)

/-! ### What calls add up to -/

section Sums

variable {M : Type x} [AddCommMonoid M]

/-- A sum over all exchanges is a sum over the calls they belong to. -/
theorem sum_by_owner (cost : Script.Exchange Answer → M)
    {pairs : List (ℕ × Script.Exchange Answer)} {bound : ℕ}
    (hbound : ∀ pair ∈ pairs, pair.1 < bound) :
    (pairs.map fun pair => cost pair.2).sum = ∑ index ∈ Finset.range bound,
      ((pairs.filterMap fun (owner, exchange) =>
        if owner = index then some exchange else none).map cost).sum := by
  induction pairs with
  | nil => simp
  | cons pair pairs ih =>
      obtain ⟨hpair, hpairs⟩ := List.forall_mem_cons.mp hbound
      have hterm : ∀ index, (((pair :: pairs).filterMap fun (owner, exchange) =>
            if owner = index then some exchange else none).map cost).sum =
          (if pair.1 = index then cost pair.2 else 0) +
            ((pairs.filterMap fun (owner, exchange) =>
              if owner = index then some exchange else none).map cost).sum := by
        intro index
        by_cases howner : pair.1 = index <;> simp [howner]
      simp only [hterm, Finset.sum_add_distrib, List.map_cons, List.sum_cons, ih hpairs]
      rw [Finset.sum_ite_eq, if_pos (Finset.mem_range.mpr hpair)]

/-- What every exchange adds to a measure of the state, and no task changes, is what the calls
have added. -/
theorem measure_of_run (measure : σ → M) (cost : Script.Exchange Answer → M)
    {start final : Service σ κ Op Answer ρ}
    {trace : List (Service σ κ Op Answer ρ × ServiceLabel κ ε β)}
    (run : Run (step perform tasks script) start trace final)
    (adds : ∀ {state op surroundings answer next},
      perform state op surroundings = some (answer, next) →
        measure next = measure state + cost ⟨op, answer⟩)
    (keeps : ∀ {state move next}, tasks state move = some next → measure next = measure state) :
    measure final.state = measure start.state + ((List.range final.calls.length).map
      fun index => ((history perform index trace).map cost).sum).sum := by
  have htotal : measure final.state = measure start.state +
        ((trace.filterMap (exchanged perform)).map fun pair => cost pair.2).sum ∧
      ∀ pair ∈ trace.filterMap (exchanged perform), pair.1 < final.calls.length := by
    induction run with
    | nil => simp
    | @snoc trace service after label run taken ih =>
        obtain ⟨hsum, hbound⟩ := ih
        rw [exchanged_append_singleton]
        rcases step_cases taken with ⟨request, rfl, hstate, hcalls⟩ |
          ⟨index, surroundings, exchange, rfl, hexchange⟩ | ⟨move, rfl, htask, hcalls⟩
        · rw [hstate, hcalls, List.length_append]
          refine ⟨by simpa [exchanged] using hsum, fun pair hmem => ?_⟩
          exact Nat.lt_add_right _ (hbound pair (by simpa [exchanged] using hmem))
        · obtain ⟨request, next, hcall, hperform, hcalls⟩ := exchange_cases hexchange
          have hindex := (List.getElem?_eq_some_iff.mp hcall).1
          have hlast : exchanged perform ((service, .advance index surroundings) :
              Service σ κ Op Answer ρ × ServiceLabel κ ε β) = some (index, exchange) := by
            simp [exchanged, hexchange]
          rw [hlast, Option.toList_some, adds hperform, hsum, hcalls, List.length_set]
          refine ⟨by simp [add_assoc], fun pair hmem => ?_⟩
          rcases List.mem_append.mp hmem with hmem | hmem
          · exact hbound pair hmem
          · obtain rfl := List.mem_singleton.mp hmem
            exact hindex
        · rw [keeps htask, hcalls]
          refine ⟨by simpa [exchanged] using hsum, fun pair hmem => ?_⟩
          exact hbound pair (by simpa [exchanged] using hmem)
  rw [htotal.1, sum_by_owner cost htotal.2]
  rfl

end Sums

end Service

end DaemonChoir.Foundation
