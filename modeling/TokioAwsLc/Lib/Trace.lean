import Mathlib

/-!
# Traces and runs

General facts about finite histories and about machines that are driven by a list of inputs. Nothing
here knows what the entries or the states are.

* **Ordering patterns** over a trace `t : List α`: `Respects ok t` (every entry is right for its
  past), with the instances `NeverAfter P Q t` (no `Q`-entry follows a `P`-entry) and
  `OnlyAfter P Q t` (every `Q`-entry follows a `P`-entry), and `Always I t` (`I` holds of every
  initial segment). There is one rule for appending an entry, which is how a trace that is only ever
  extended is reasoned about.
* **Runs**: `Runs.exec step s is` feeds the inputs to a machine until one of them does not complete.
  `exec_invariant` is the induction over a run.
* **Labelled chains**: `Links r s as t` goes from `s` to `t` by steps with the labels `as`.
* **Step closures**: `invariant_of_steps` is the induction over a chain of small steps.
-/

namespace TokioAwsLc.Lib

namespace Trace

variable {α β : Type*} {P Q : α → Prop} {t : List α} {a : α}

/-! ## Ordering patterns -/

/-- Every entry is right for the entries before it. -/
def Respects (ok : List α → α → Prop) (t : List α) : Prop :=
  ∀ u a v, t = u ++ a :: v → ok u a

/-- No `Q`-entry comes after a `P`-entry. -/
def NeverAfter (P Q : α → Prop) (t : List α) : Prop :=
  Respects (fun u a => Q a → ∀ b ∈ u, ¬ P b) t

/-- Every `Q`-entry comes after some `P`-entry. -/
def OnlyAfter (P Q : α → Prop) (t : List α) : Prop :=
  Respects (fun u a => Q a → ∃ b ∈ u, P b) t

/-- `I` holds of every initial segment of the trace, the empty and the whole one included. -/
def Always (I : List α → Prop) (t : List α) : Prop :=
  ∀ u, u <+: t → I u

/-- The empty trace has no entry that could be wrong. -/
@[simp] theorem respects_nil {ok : List α → α → Prop} : Respects ok [] := by
  intro u a v h
  simp at h

/-- Appending an entry keeps `Respects` iff the entry is right for the whole trace before it. -/
theorem respects_concat {ok : List α → α → Prop} :
    Respects ok (t ++ [a]) ↔ Respects ok t ∧ ok t a := by
  constructor
  · intro h
    exact ⟨fun u b v hu => h u b (v ++ [a]) (by simp [hu]), h t a [] rfl⟩
  · rintro ⟨ht, ha⟩ u b v hu
    rcases List.eq_nil_or_concat v with rfl | ⟨v', c, rfl⟩
    · obtain ⟨rfl, hba⟩ := List.append_inj' hu rfl
      simp only [List.cons.injEq, and_true] at hba
      subst hba
      exact ha
    · rw [List.concat_eq_append, ← List.cons_append, ← List.append_assoc] at hu
      obtain ⟨hu', -⟩ := List.append_inj' hu rfl
      exact ht u b v' hu'

/-- A weaker requirement on the entries. -/
theorem Respects.mono {ok ok' : List α → α → Prop} (ht : Respects ok t)
    (h : ∀ u a, ok u a → ok' u a) : Respects ok' t :=
  fun u a v hu => h u a (ht u a v hu)

/-- Under `NeverAfter P P` there is at most one `P`-entry. -/
theorem length_filter_le_one [DecidablePred P] (h : NeverAfter P P t) :
    (t.filter P).length ≤ 1 := by
  induction t using List.reverseRecOn with
  | nil => simp
  | append_singleton t a ih =>
      obtain ⟨ht, ha⟩ := respects_concat.mp h
      by_cases hp : P a
      · have hnone : t.filter P = [] := List.filter_eq_nil_iff.mpr fun b hb => by
          simpa using ha hp b hb
        simp [hnone, hp]
      · simpa [hp] using ih ht

/-- A chain is extended by an element that may follow its last one. -/
theorem isChain_concat_of_getLast {R : α → α → Prop} {b : α} (h : t.IsChain R)
    (hlast : t.getLast? = some a) (hab : R a b) : (t ++ [b]).IsChain R := by
  rw [List.isChain_append]
  refine ⟨h, .singleton b, ?_⟩
  intro x hx y hy
  rw [hlast, Option.mem_some_iff] at hx
  rw [List.head?_cons, Option.mem_some_iff] at hy
  subst hx hy
  exact hab

/-- The only initial segment of the empty trace is itself. -/
theorem always_nil {I : List α → Prop} (h : I []) : Always I [] := by
  intro u hu
  rw [List.prefix_nil.mp hu]
  exact h

/-- Appending an entry adds one initial segment, the whole trace. -/
theorem always_concat {I : List α → Prop} :
    Always I (t ++ [a]) ↔ Always I t ∧ I (t ++ [a]) := by
  constructor
  · intro h
    exact ⟨fun u hu => h u (hu.trans (List.prefix_append t [a])), h _ (List.prefix_refl _)⟩
  · rintro ⟨ht, ha⟩ u hu
    rcases List.prefix_concat_iff.mp hu with rfl | hu'
    · exact ha
    · exact ht u hu'

end Trace

/-! ## Runs -/

namespace Runs

variable {σ ι : Type*}

/-- Feed the inputs to the machine one after another, until one of them does not complete. The flag
says whether all of them did. -/
def exec (step : σ → ι → σ × Bool) : σ → List ι → σ × Bool
  | s, [] => (s, true)
  | s, i :: is =>
      if (step s i).2 then exec step (step s i).1 is else ((step s i).1, false)

/-- **Run rule.** What one input preserves, whether or not it completes, every run preserves. -/
theorem exec_invariant {step : σ → ι → σ × Bool} {I : σ → Prop}
    (hstep : ∀ s i, I s → I (step s i).1) {s : σ} (hs : I s) (is : List ι) :
    I (exec step s is).1 := by
  induction is generalizing s with
  | nil => exact hs
  | cons i is ih =>
      simp only [exec]
      split
      · exact ih (hstep s i hs)
      · exact hstep s i hs

end Runs

/-! ## Labelled chains -/

/-- A chain of labelled steps, and its labels. -/
inductive Links {σ α : Type*} (r : σ → α → σ → Prop) : σ → List α → σ → Prop
  | nil {s : σ} : Links r s [] s
  | cons {s t u : σ} {a : α} {as : List α} (h : r s a t) (hs : Links r t as u) : Links r s (a :: as) u

/-! ## Chains of small steps -/

open Relation in
/-- What every small step preserves, a chain of small steps preserves. -/
theorem invariant_of_steps {σ : Type*} {r : σ → σ → Prop} {I : σ → Prop}
    (hstep : ∀ s t, r s t → I s → I t) {s t : σ} (h : ReflTransGen r s t) (hs : I s) : I t := by
  induction h with
  | refl => exact hs
  | tail _ hr ih => exact hstep _ _ hr ih

end TokioAwsLc.Lib
