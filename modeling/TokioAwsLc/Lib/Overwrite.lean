import Mathlib

/-!
# Fields that are overwritten

A state goes through a list of actions. Some of them overwrite one field of it; the others leave the field
alone and do not look at it. Nothing here knows what the state or the field is.

* `Field`: what is asked of the actions.
* `Field.run_eq`: of the actions that overwrite the field only the last one counts, and it might as well
  have come after all the others.
* `Field.run_eq_of_last`: if this one writes what the field had at the beginning, they all might as well
  have been left out.
-/

namespace TokioAwsLc.Lib.Overwrite

/-- One field of a state in `σ`, with values in `γ`, under actions in `α`. -/
structure Field (σ α γ : Type*) where
  step : σ → α → σ
  /-- What an action writes to the field, if it does. -/
  value : α → Option γ
  write : γ → σ → σ
  step_of_value : ∀ {a c} (s : σ), value a = some c → step s a = write c s
  write_write : ∀ (c c' : γ) (s : σ), write c (write c' s) = write c s
  step_write : ∀ {a} (c : γ) (s : σ), value a = none → step (write c s) a = write c (step s a)

variable {σ α γ : Type*} (F : Field σ α γ)

/-- The state after some actions. -/
def Field.run (s : σ) (as : List α) : σ :=
  as.foldl F.step s

/-- The actions that leave the field alone. -/
def Field.others (as : List α) : List α :=
  as.filter fun a => (F.value a).isNone

/-- What is written last. -/
def Field.last (as : List α) : Option γ :=
  (as.filterMap F.value).getLast?

section run

variable {F} {a : α} {as : List α}

/-- An action that does not write is one of the others. -/
theorem Field.others_cons_of_none (h : F.value a = none) : F.others (a :: as) = a :: F.others as := by
  simp [Field.others, h]

/-- An action that writes is not one of the others. -/
theorem Field.others_cons_of_some {c : γ} (h : F.value a = some c) :
    F.others (a :: as) = F.others as := by
  simp [Field.others, h]

/-- An action that does not write does not change what is written last. -/
theorem Field.last_cons_of_none (h : F.value a = none) : F.last (a :: as) = F.last as := by
  simp [Field.last, h]

/-- An action that writes is the last one if no other follows. -/
theorem Field.last_cons_of_some {c : γ} (h : F.value a = some c) :
    F.last (a :: as) = some ((F.last as).getD c) := by
  simp [Field.last, h, List.getLast?_cons]

/-- Actions are run one after the other. -/
theorem Field.run_cons (s : σ) : F.run s (a :: as) = F.run (F.step s a) as := rfl

end run

/-- After a write, the field has what is written last, by induction on the actions. -/
theorem Field.run_write (c : γ) (s : σ) (as : List α) :
    F.run (F.write c s) as = F.write ((F.last as).getD c) (F.run s (F.others as)) := by
  induction as generalizing c s with
  | nil => rfl
  | cons a as ih =>
      rcases h : F.value a with _ | c'
      · rw [F.run_cons, F.step_write c s h, ih, F.others_cons_of_none h, F.last_cons_of_none h,
          F.run_cons]
      · rw [F.run_cons, F.step_of_value _ h, F.write_write, ih, F.others_cons_of_some h,
          F.last_cons_of_some h, Option.getD_some]

/-- **Only the last write counts.** -/
theorem Field.run_eq {c : γ} {as : List α} (h : F.last as = some c) (s : σ) :
    F.run s as = F.write c (F.run s (F.others as)) := by
  induction as generalizing s with
  | nil => cases h
  | cons a as ih =>
      rcases hvalue : F.value a with _ | c'
      · rw [F.last_cons_of_none hvalue] at h
        rw [F.run_cons, ih h, F.others_cons_of_none hvalue, F.run_cons]
      · rw [F.last_cons_of_some hvalue] at h
        rw [F.run_cons, F.step_of_value s hvalue, F.run_write, F.others_cons_of_some hvalue,
          Option.some.inj h]

/-- Writes that end with what was there at the beginning can be left out. -/
theorem Field.run_eq_of_last {c : γ} {as : List α} (h : F.last as = some c) {s : σ}
    (hs : F.write c s = s) : F.run s as = F.run s (F.others as) := by
  have hothers : F.others (F.others as) = F.others as := by
    simp [Field.others]
  have hlast : F.last (F.others as) = none := by
    rw [Field.last, List.getLast?_eq_none_iff, List.filterMap_eq_nil_iff]
    intro a ha
    simpa [Field.others] using (List.mem_filter.mp ha).2
  have hwrite := F.run_write c s (F.others as)
  rw [hs, hlast, hothers, Option.getD_none] at hwrite
  rw [F.run_eq h, ← hwrite]

end TokioAwsLc.Lib.Overwrite
