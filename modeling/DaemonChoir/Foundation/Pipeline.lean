import DaemonChoir.Foundation.Run
set_option autoImplicit false

/-!
# Foundation: pipelines of queues that may drop

Items are numbered as they enter at the end of a chain of queues and hands; the chain
lists the numbers under way, oldest first.  A step may let one item in and take items
out anywhere, but it delivers from the front only.  Then the delivered numbers
increase, and every number that ever entered is under way or was taken out in a
definite step.

A hand that drops nothing is the simple case: its items can be compared themselves.

The rules are about runs of any step function with such a chain.  `ordered` and `accounted`
are the two results, `Run.in_order` the simple case.
-/

namespace DaemonChoir.Foundation

universe u v w

/-- An item with the number it entered under. -/
structure Tagged (α : Type u) where
  origin : ℕ
  item : α
  deriving DecidableEq, Repr

/-- A step function seen as a pipeline. -/
structure Pipeline {σ : Type u} {α : Type v} (step : σ → α → Option σ) where
  /-- The numbers under way, oldest first. -/
  chain : σ → List ℕ
  /-- The number of the next item. -/
  issued : σ → ℕ
  /-- An item enters at the visit. -/
  enters : σ × α → Bool
  /-- The numbers taken out at the visit. -/
  removed : σ × α → List ℕ
  /-- The numbers delivered at the visit. -/
  delivered : σ × α → List ℕ
  /-- Which states the rules are about. -/
  ok : σ → Prop
  /-- No step establishes `ok`. -/
  ok_back : ∀ {t next label}, step t label = some next → ok next → ok t
  /-- What a step may do. -/
  step_chain : ∀ {t next label}, step t label = some next → ok next →
    ∃ front back,
      chain t ++ (if enters (t, label) then [issued t] else []) =
          front ++ removed (t, label) ++ back ∧
        chain next = front ++ back ∧
        issued next = issued t + (if enters (t, label) then 1 else 0) ∧
        (delivered (t, label) = [] ∨
          delivered (t, label) = removed (t, label) ∧ front = [])

namespace Pipeline

variable {σ : Type u} {α : Type v} {step : σ → α → Option σ}
  (pipeline : Pipeline step) {s final : σ} {trace : List (σ × α)}

/-- The numbers delivered in a run, and after them those under way, increase. -/
theorem ordered (run : Run step s trace final) (hchain : pipeline.chain s = [])
    (hok : pipeline.ok final) :
    (trace.flatMap pipeline.delivered ++ pipeline.chain final).Pairwise (· < ·) ∧
      ∀ n ∈ trace.flatMap pipeline.delivered ++ pipeline.chain final,
        n < pipeline.issued final := by
  induction run with
  | nil => simp [hchain]
  | @snoc trace t next label _ taken ih =>
      obtain ⟨hsorted, hbound⟩ := ih (pipeline.ok_back taken hok)
      obtain ⟨front, back, hwhole, hnext, hissued, hdelivered⟩ :=
        pipeline.step_chain taken hok
      have hentered : (trace.flatMap pipeline.delivered ++ pipeline.chain t ++
            (if pipeline.enters (t, label) then [pipeline.issued t] else [])).Pairwise
              (· < ·) ∧
          ∀ n ∈ trace.flatMap pipeline.delivered ++ pipeline.chain t ++
            (if pipeline.enters (t, label) then [pipeline.issued t] else []),
            n < pipeline.issued next := by
        rw [hissued]
        cases pipeline.enters (t, label) with
        | false =>
            simp only [Bool.false_eq_true, if_false, List.append_nil, Nat.add_zero]
            exact ⟨hsorted, hbound⟩
        | true =>
            refine ⟨List.pairwise_append.mpr ⟨hsorted, List.pairwise_singleton _ _, ?_⟩, ?_⟩
            · intro n hn m hm
              rw [List.mem_singleton.mp hm]
              exact hbound n hn
            · intro n hn
              rcases List.mem_append.mp hn with hn | hn
              · exact Nat.lt_succ_of_lt (hbound n hn)
              · rw [List.mem_singleton.mp hn]
                exact Nat.lt_succ_self _
      have hsublist : List.Sublist
          ((trace ++ [(t, label)]).flatMap pipeline.delivered ++ pipeline.chain next)
          (trace.flatMap pipeline.delivered ++ pipeline.chain t ++
            (if pipeline.enters (t, label) then [pipeline.issued t] else [])) := by
        rw [List.append_assoc, hwhole, hnext, List.flatMap_append, List.flatMap_singleton,
          List.append_assoc]
        refine List.Sublist.append_left ?_ _
        rcases hdelivered with hnone | ⟨hall, hfront⟩
        · rw [hnone, List.nil_append]
          exact (List.sublist_append_left front _).append_right back
        · have hsame : pipeline.delivered (t, label) ++ (front ++ back) =
              front ++ pipeline.removed (t, label) ++ back := by
            rw [hall, hfront, List.nil_append, List.nil_append]
          exact hsame ▸ List.Sublist.refl _
      exact ⟨hentered.1.sublist hsublist, fun n hn => hentered.2 n (hsublist.subset hn)⟩

/-- Every number issued in a run is under way or was taken out. -/
theorem accounted (run : Run step s trace final) (hissued : pipeline.issued s = 0)
    (hok : pipeline.ok final) {n : ℕ} (hn : n < pipeline.issued final) :
    n ∈ pipeline.chain final ∨ ∃ visit ∈ trace, n ∈ pipeline.removed visit := by
  induction run with
  | nil =>
      rw [hissued] at hn
      exact absurd hn (Nat.not_lt_zero n)
  | @snoc trace t next label _ taken ih =>
      obtain ⟨front, back, hwhole, hnext, hcount, _⟩ := pipeline.step_chain taken hok
      have hwithin : n ∈ pipeline.chain t ++
            (if pipeline.enters (t, label) then [pipeline.issued t] else []) →
          n ∈ pipeline.chain next ∨
            ∃ visit ∈ trace ++ [(t, label)], n ∈ pipeline.removed visit := by
        intro hmem
        rw [hwhole] at hmem
        rw [hnext]
        rcases List.mem_append.mp hmem with hmem | hmem
        · rcases List.mem_append.mp hmem with hmem | hmem
          · exact .inl (List.mem_append_left _ hmem)
          · exact .inr ⟨(t, label), by simp, hmem⟩
        · exact .inl (List.mem_append_right _ hmem)
      by_cases hearlier : n < pipeline.issued t
      · rcases ih (pipeline.ok_back taken hok) hearlier with hchain | ⟨visit, hvisit, hmem⟩
        · exact hwithin (List.mem_append_left _ hchain)
        · exact .inr ⟨visit, List.mem_append_left _ hvisit, hmem⟩
      · refine hwithin (List.mem_append_right _ ?_)
        cases henters : pipeline.enters (t, label) with
        | false =>
            rw [henters] at hcount
            simp only [Bool.false_eq_true, if_false] at hcount
            omega
        | true =>
            rw [henters] at hcount
            simp only [if_true] at hcount
            rw [if_pos rfl, List.mem_singleton]
            omega

end Pipeline

/-! ## Hands that drop nothing -/

/-- What goes through a hand in order and without loss comes out as it went in, up to what
the hand still holds. -/
theorem Run.in_order {σ : Type u} {α : Type v} {β : Type w} {step : σ → α → Option σ}
    {s final : σ} {trace : List (σ × α)} (run : Run step s trace final) (held : σ → List β)
    (entered left : σ × α → List β) (hempty : held s = [])
    (keep : ∀ {t next : σ} {label : α}, step t label = some next →
      held t ++ entered (t, label) = left (t, label) ++ held next) :
    trace.flatMap entered = trace.flatMap left ++ held final := by
  induction run with
  | nil => rw [hempty, List.flatMap_nil, List.flatMap_nil, List.append_nil]
  | @snoc trace t next label _ taken ih =>
      rw [List.flatMap_append, List.flatMap_append, List.flatMap_singleton,
        List.flatMap_singleton, ih, List.append_assoc, keep taken, List.append_assoc]

end DaemonChoir.Foundation
