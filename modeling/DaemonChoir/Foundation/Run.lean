import Mathlib.Data.List.Induction
set_option autoImplicit false

/-!
# Foundation: finite runs of a partial step function

A component is given by a partial step function `step : σ → α → Option σ`: the
label carries every choice that is made outside the component (which task moves,
what a clock reads, how a third party answers), so that a run is determined by
its labels.  `Run step s trace t` records, beside the two ends, the *visits* of
the run: every label paired with the state it was taken in.  A property of a
history is then a property of a list.

Three rules carry most proofs on top of this module.  An invariant that a step keeps holds
in every state that is reached (`state_invariant`, `invariant`); a simulation of the steps
is one of the runs (`simulated_within`); and a view that shows some steps and hides the
others has a run of its own (`project`).  A rank that goes down bounds the runs and gives a
last state (`length_add_rank_le`, `exists_run_to_end`).

Runs grow at the end.  What happened before a visit is then a prefix of the trace, which is
how most properties of a history are stated: wherever the trace is cut, what comes before
and the visit at the cut are related.
-/

namespace DaemonChoir.Foundation

universe u v w x

variable {σ : Type u} {α : Type v}

/-- From `s`, the visits of `trace` lead to `t`.  A visit is the state a step is
taken in together with the label of the step. -/
inductive Run (step : σ → α → Option σ) (s : σ) : List (σ × α) → σ → Prop
  /-- The empty run. -/
  | nil : Run step s [] s
  /-- One more step at the end of a run. -/
  | snoc {trace : List (σ × α)} {t next : σ} {label : α}
      (run : Run step s trace t) (taken : step t label = some next) :
      Run step s (trace ++ [(t, label)]) next

namespace Run

variable {step : σ → α → Option σ}

/-- Runs compose. -/
theorem append {s t final : σ} {front back : List (σ × α)}
    (first : Run step s front t) (second : Run step t back final) :
    Run step s (front ++ back) final := by
  induction second with
  | nil => simpa using first
  | snoc _ taken ih =>
      rw [← List.append_assoc]
      exact ih.snoc taken

/-- A run of one step. -/
theorem single {s next : σ} {label : α} (taken : step s label = some next) :
    Run step s [(s, label)] next := by
  have empty : Run step s [] s := .nil
  simpa using empty.snoc taken

/-- Put one step in front of a run. -/
theorem cons {s next final : σ} {label : α} {trace : List (σ × α)}
    (taken : step s label = some next) (rest : Run step next trace final) :
    Run step s ((s, label) :: trace) final :=
  (Run.single taken).append rest

/-- The empty run ends where it starts. -/
theorem eq_of_nil {s t : σ} (run : Run step s [] t) : t = s := by
  generalize htrace : ([] : List (σ × α)) = trace at run
  cases run with
  | nil => rfl
  | snoc _ _ => simp at htrace

/-- The last step of a nonempty run. -/
theorem of_snoc {s final : σ} {trace : List (σ × α)} {visit : σ × α}
    (run : Run step s (trace ++ [visit]) final) :
    Run step s trace visit.1 ∧ step visit.1 visit.2 = some final := by
  generalize htrace : trace ++ [visit] = whole at run
  cases run with
  | nil => simp at htrace
  | snoc earlier taken =>
      obtain ⟨rfl, hvisit⟩ := List.append_inj' htrace rfl
      obtain rfl := List.singleton_inj.mp hvisit
      exact ⟨earlier, taken⟩

/-- A run splits at every cut point of its trace. -/
theorem split {s final : σ} {front : List (σ × α)} :
    ∀ {back : List (σ × α)}, Run step s (front ++ back) final →
      ∃ middle, Run step s front middle ∧ Run step middle back final := by
  intro back
  induction back using List.reverseRecOn generalizing final with
  | nil =>
      intro run
      exact ⟨final, by simpa using run, .nil⟩
  | append_singleton back visit ih =>
      intro run
      rw [← List.append_assoc] at run
      obtain ⟨earlier, taken⟩ := run.of_snoc
      obtain ⟨middle, hfront, hback⟩ := ih earlier
      exact ⟨middle, hfront, hback.snoc taken⟩

/-- The first step of a nonempty run. -/
theorem uncons {s final : σ} {visit : σ × α} {trace : List (σ × α)}
    (run : Run step s (visit :: trace) final) :
    visit.1 = s ∧ ∃ next, step s visit.2 = some next ∧ Run step next trace final := by
  have whole : Run step s ([visit] ++ trace) final := by simpa using run
  obtain ⟨next, first, rest⟩ := whole.split
  have alone : Run step s ([] ++ [visit]) next := by simpa using first
  obtain ⟨empty, taken⟩ := alone.of_snoc
  have hstart : visit.1 = s := empty.eq_of_nil
  exact ⟨hstart, next, by rw [← hstart]; exact taken, rest⟩

/-- What surrounds a visit at a given place of the trace. -/
theorem at_visit {s final : σ} {front back : List (σ × α)} {visit : σ × α}
    (run : Run step s (front ++ visit :: back) final) :
    Run step s front visit.1 ∧
      ∃ next, step visit.1 visit.2 = some next ∧ Run step next back final := by
  obtain ⟨middle, hfront, hback⟩ := run.split
  obtain ⟨rfl, next, taken, rest⟩ := hback.uncons
  exact ⟨hfront, next, taken, rest⟩

/-- What surrounds a visit: the run that leads to it and its step. -/
theorem of_mem {s final : σ} {trace : List (σ × α)} {visit : σ × α}
    (run : Run step s trace final) (hmem : visit ∈ trace) :
    ∃ front back next, trace = front ++ visit :: back ∧
      Run step s front visit.1 ∧ step visit.1 visit.2 = some next ∧
      Run step next back final := by
  obtain ⟨front, back, rfl⟩ := List.append_of_mem hmem
  obtain ⟨hfront, next, taken, rest⟩ := run.at_visit
  exact ⟨front, back, next, rfl, hfront, taken, rest⟩

/-- A run of a given start and labels has one trace and one end. -/
theorem functional {s left right : σ} {first second : List (σ × α)}
    (leftRun : Run step s first left) (rightRun : Run step s second right)
    (hlabels : first.map Prod.snd = second.map Prod.snd) :
    first = second ∧ left = right := by
  induction leftRun generalizing second right with
  | nil =>
      have hempty : second = [] := by simpa using hlabels.symm
      subst hempty
      exact ⟨rfl, rightRun.eq_of_nil.symm⟩
  | snoc _ taken ih =>
      cases rightRun with
      | nil => simp at hlabels
      | snoc earlier rightTaken =>
          simp only [List.map_append, List.map_cons, List.map_nil] at hlabels
          obtain ⟨hfront, hlast⟩ := List.append_inj' hlabels rfl
          obtain ⟨rfl, rfl⟩ := ih earlier hfront
          obtain rfl := List.singleton_inj.mp hlast
          rw [taken] at rightTaken
          exact ⟨rfl, Option.some.inj rightTaken⟩

/-! ## Invariants -/

/-- What holds at the start and is kept by every step holds at the end.  The
history may occur in the invariant. -/
theorem invariant {s final : σ} {trace : List (σ × α)}
    (run : Run step s trace final) (inv : List (σ × α) → σ → Prop)
    (start : inv [] s)
    (keep : ∀ {front : List (σ × α)} {t next : σ} {label : α},
      Run step s front t → inv front t → step t label = some next →
        inv (front ++ [(t, label)]) next) :
    inv trace final := by
  induction run with
  | nil => exact start
  | snoc earlier taken ih => exact keep earlier ih taken

/-- The invariant rule for a property of the state alone. -/
theorem state_invariant {s final : σ} {trace : List (σ × α)}
    (run : Run step s trace final) (inv : σ → Prop) (start : inv s)
    (keep : ∀ {t next : σ} {label : α}, inv t → step t label = some next → inv next) :
    inv final :=
  run.invariant (fun _ t => inv t) start fun _ => keep

/-- The invariant rule when the property is kept by the steps of some labels only, and the
run takes no others: then it holds at every visit, too. -/
theorem invariant_of_labels {s final : σ} {trace : List (σ × α)}
    (run : Run step s trace final) (inv : σ → Prop) (allowed : α → Prop) (start : inv s)
    (keep : ∀ {t next : σ} {label : α}, inv t → allowed label → step t label = some next →
      inv next)
    (hlabels : ∀ visit ∈ trace, allowed visit.2) :
    inv final ∧ ∀ visit ∈ trace, inv visit.1 := by
  induction run with
  | nil => exact ⟨start, by simp⟩
  | @snoc trace t next label _ taken ih =>
      obtain ⟨hbefore, hvisits⟩ := ih fun visit hmem => hlabels visit (List.mem_append_left _ hmem)
      refine ⟨keep hbefore (hlabels (t, label) (by simp)) taken, fun visit hmem => ?_⟩
      rw [List.mem_append, List.mem_singleton] at hmem
      rcases hmem with hmem | rfl
      · exact hvisits visit hmem
      · exact hbefore

/-- A property that no step can establish holds at every visit of a run that
ends with it. -/
theorem of_antitone {s final : σ} {trace : List (σ × α)}
    (run : Run step s trace final) (inv : σ → Prop) (holds : inv final)
    (back : ∀ {t next : σ} {label : α}, step t label = some next → inv next → inv t) :
    inv s ∧ ∀ visit ∈ trace, inv visit.1 := by
  induction run with
  | nil => exact ⟨holds, by simp⟩
  | snoc _ taken ih =>
      have hbefore := back taken holds
      obtain ⟨hstart, hvisits⟩ := ih hbefore
      refine ⟨hstart, fun visit hmem => ?_⟩
      rw [List.mem_append, List.mem_singleton] at hmem
      rcases hmem with hmem | rfl
      · exact hvisits visit hmem
      · exact hbefore

/-! ## Projection to a second step function -/

/-- Project every visit that has an image, which may depend on the state. -/
def projectVisits {σ' : Type w} {β : Type v} (view : σ → σ') (low : σ × α → Option β) :
    List (σ × α) → List (σ' × β) :=
  List.filterMap fun visit => (low visit).map fun label => (view visit.1, label)

/-- When visits without image leave the view alone and the others act on the view
as `lowStep` does, a run projects to a run of `lowStep`. -/
theorem projectedVisits {σ' : Type w} {β : Type v} {view : σ → σ'}
    {low : σ × α → Option β} {lowStep : σ' → β → Option σ'}
    (hidden : ∀ {t next label}, low (t, label) = none → step t label = some next →
      view next = view t)
    (shown : ∀ {t next label image}, low (t, label) = some image →
      step t label = some next → lowStep (view t) image = some (view next))
    {s final : σ} {trace : List (σ × α)} (run : Run step s trace final) :
    Run lowStep (view s) (projectVisits view low trace) (view final) := by
  induction run with
  | nil => exact .nil
  | @snoc trace t next label _ taken ih =>
      unfold projectVisits at ih ⊢
      rw [List.filterMap_append]
      cases hlow : low (t, label) with
      | none => simpa [hlow, hidden hlow taken] using ih
      | some image => simpa [hlow] using ih.snoc (shown hlow taken)

/-- A step is hidden from a view, or taken by the step function of the view. -/
def Simulates {σ' : Type w} {β : Type v} (view : σ → σ') (low : σ × α → Option β)
    (lowStep : σ' → β → Option σ') (t next : σ) (label : α) : Prop :=
  (low (t, label) = none ∧ view next = view t) ∨
    ∃ image, low (t, label) = some image ∧ lowStep (view t) image = some (view next)

/-- The projection when the steps are simulated only within an invariant, and up to a state
in which something has not happened yet. -/
theorem simulated_within {σ' : Type w} {β : Type v} {view : σ → σ'}
    {low : σ × α → Option β} {lowStep : σ' → β → Option σ'} (inv ok : σ → Prop)
    (keep : ∀ {t next label}, inv t → step t label = some next → inv next)
    (back : ∀ {t next label}, step t label = some next → ok next → ok t)
    (simulates : ∀ {t next label}, inv t → ok next → step t label = some next →
      Simulates view low lowStep t next label)
    {s final : σ} {trace : List (σ × α)} (run : Run step s trace final) (start : inv s)
    (hok : ok final) :
    inv final ∧ Run lowStep (view s) (projectVisits view low trace) (view final) := by
  induction run with
  | nil => exact ⟨start, .nil⟩
  | @snoc trace t next label _ taken ih =>
      obtain ⟨hinv, hrun⟩ := ih (back taken hok)
      refine ⟨keep hinv taken, ?_⟩
      unfold projectVisits at hrun ⊢
      rw [List.filterMap_append]
      rcases simulates hinv hok taken with ⟨hnone, hsame⟩ | ⟨image, hsome, hstep⟩
      · simpa [hnone, hsame] using hrun
      · simpa [hsome] using hrun.snoc hstep

/-- Project every visit whose label has an image. -/
def project {σ' : Type w} {β : Type v} (view : σ → σ') (low : α → Option β) :
    List (σ × α) → List (σ' × β) :=
  List.filterMap fun visit => (low visit.2).map fun label => (view visit.1, label)

/-- The projection of a run when only the label decides about the image. -/
theorem projected {σ' : Type w} {β : Type v} {view : σ → σ'} {low : α → Option β}
    {lowStep : σ' → β → Option σ'}
    (hidden : ∀ {t next label}, low label = none → step t label = some next →
      view next = view t)
    (shown : ∀ {t next label image}, low label = some image →
      step t label = some next → lowStep (view t) image = some (view next))
    {s final : σ} {trace : List (σ × α)} (run : Run step s trace final) :
    Run lowStep (view s) (project view low trace) (view final) :=
  run.projectedVisits hidden shown

/-- The labels of a projected trace are the images of the labels. -/
theorem project_labels {σ' : Type w} {β : Type v} (view : σ → σ')
    (low : α → Option β) (trace : List (σ × α)) :
    (project view low trace).map Prod.snd =
      (trace.map Prod.snd).filterMap low := by
  induction trace with
  | nil => rfl
  | cons visit rest ih =>
      unfold project at ih ⊢
      cases hlow : low visit.2 with
      | none => simpa [hlow] using ih
      | some image => simpa [hlow] using ih

/-- Two runs that look the same at the start and keep the same labels look the same
throughout. -/
theorem project_eq {σ' : Type w} {β : Type v} {view : σ → σ'} {low : α → Option β}
    {lowStep : σ' → β → Option σ'}
    (hidden : ∀ {t next label}, low label = none → step t label = some next →
      view next = view t)
    (shown : ∀ {t next label image}, low label = some image →
      step t label = some next → lowStep (view t) image = some (view next))
    {s s' left right : σ} {first second : List (σ × α)} (leftRun : Run step s first left)
    (rightRun : Run step s' second right) (hstart : view s = view s')
    (hlabels : (first.map Prod.snd).filterMap low = (second.map Prod.snd).filterMap low) :
    project view low first = project view low second ∧ view left = view right := by
  have leftLow := leftRun.projected hidden shown
  have rightLow := rightRun.projected hidden shown
  rw [← hstart] at rightLow
  apply leftLow.functional rightLow
  rw [project_labels, project_labels, hlabels]

/-- How many of the steps that `low` keeps are taken before the view is `stopped`; one more
than all of them when it never is. -/
def stepsUntil {σ' : Type w} {β : Type v} (view : σ → σ') (low : α → Option β)
    (stopped : σ' → Bool) (trace : List (σ × α)) (final : σ) : ℕ :=
  ((project view low trace).map Prod.fst ++ [view final]).findIdx stopped

/-- What can be read off the visits that are kept is read off the projected trace. -/
theorem filterMap_project {σ' : Type w} {β : Type v} {γ : Type x} {view : σ → σ'}
    {low : α → Option β} {read : σ × α → Option γ} {lowRead : σ' × β → Option γ}
    (hread : ∀ visit, read visit =
      (low visit.2).bind fun label => lowRead (view visit.1, label))
    (trace : List (σ × α)) :
    trace.filterMap read = (project view low trace).filterMap lowRead := by
  unfold project
  rw [List.filterMap_filterMap]
  refine congrArg (fun f => List.filterMap f trace) (funext fun visit => ?_)
  rw [hread]
  cases low visit.2 with
  | none => rfl
  | some label => rfl

/-! ## Runs that come to an end -/

/-- Where every step of a kind lowers a rank, the rank bounds the runs of such steps. -/
theorem length_add_rank_le {rank : σ → ℕ} {kind : α → Prop}
    (lower : ∀ {t next : σ} {label : α}, kind label → step t label = some next →
      rank next < rank t)
    {s final : σ} {trace : List (σ × α)} (run : Run step s trace final)
    (hkind : ∀ visit ∈ trace, kind visit.2) : trace.length + rank final ≤ rank s := by
  induction run with
  | nil => simp
  | @snoc trace t next label _ taken ih =>
      have hbefore := ih fun visit hmem => hkind visit (List.mem_append_left _ hmem)
      have hlast := lower (hkind (t, label) (by simp)) taken
      rw [List.length_append, List.length_singleton]
      omega

/-- Where every step of a kind lowers a rank, such steps lead to a state without any. -/
theorem exists_run_to_end {rank : σ → ℕ} {kind : α → Prop}
    (lower : ∀ {t next : σ} {label : α}, kind label → step t label = some next →
      rank next < rank t) (s : σ) :
    ∃ trace final, Run step s trace final ∧ (∀ visit ∈ trace, kind visit.2) ∧
      ∀ label, kind label → step final label = none := by
  generalize hrank : rank s = bound
  induction bound using Nat.strongRecOn generalizing s with
  | ind bound ih =>
      by_cases hend : ∀ label, kind label → step s label = none
      · exact ⟨[], s, .nil, by simp, hend⟩
      · push Not at hend
        obtain ⟨label, hkind, hstep⟩ := hend
        obtain ⟨next, taken⟩ := Option.ne_none_iff_exists'.mp hstep
        have hlower : rank next < bound := hrank ▸ lower hkind taken
        obtain ⟨trace, final, rest, hrest, hstuck⟩ := ih (rank next) hlower next rfl
        refine ⟨(s, label) :: trace, final, .cons taken rest, ?_, hstuck⟩
        simpa [hkind] using hrest

end Run

/-! ## Execution -/

/-- Take the labels one after another, keeping the visits. -/
def execute (step : σ → α → Option σ) (s : σ) : List α → Option (List (σ × α) × σ)
  | [] => some ([], s)
  | label :: rest =>
      match step s label with
      | none => none
      | some next =>
          match execute step next rest with
          | none => none
          | some (trace, final) => some ((s, label) :: trace, final)

/-- What `execute` returns is a run. -/
theorem execute_sound {step : σ → α → Option σ} {s final : σ} {trace : List (σ × α)}
    (labels : List α) (h : execute step s labels = some (trace, final)) :
    Run step s trace final := by
  induction labels generalizing s trace with
  | nil =>
      simp only [execute, Option.some.injEq, Prod.mk.injEq] at h
      obtain ⟨rfl, rfl⟩ := h
      exact .nil
  | cons label rest ih =>
      rw [execute] at h
      cases hstep : step s label with
      | none => simp [hstep] at h
      | some next =>
          cases hrest : execute step next rest with
          | none => simp [hstep, hrest] at h
          | some result =>
              simp only [hstep, hrest, Option.some.injEq, Prod.mk.injEq] at h
              obtain ⟨rfl, rfl⟩ := h
              exact .cons hstep (ih hrest)

end DaemonChoir.Foundation
