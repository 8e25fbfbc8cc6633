import Mathlib

/-!
# Computations that change a state and can fail

Rules for `EStateM`, whose computations keep the state they have reached when they fail. Nothing here
knows what the state or the errors are.

* `Succeeds m s a s'`: started in `s`, the computation returns `a` and leaves `s'`. There is one rule for
  each way to build a computation, so that a run can be taken apart step by step.
* `OnlyFails P m`: whatever it is started in, the computation fails as `P` says or not at all, where `P`
  sees the error and the state that is left.
* `Leaves I m s`: started in `s`, the computation leaves a state in `I`, whether it fails or not.
-/

namespace TokioAwsLc.Lib.Attempt

variable {ε σ α β : Type}

/-! ## Success -/

/-- Started in `s`, the computation returns `a` and leaves `s'`. -/
def Succeeds (m : EStateM ε σ α) (s : σ) (a : α) (s' : σ) : Prop :=
  m.run s = .ok a s'

section succeeds

variable {s s' : σ} {a : α} {b : β} {m : EStateM ε σ α}

/-- A value is returned, and the state stays. -/
@[simp] theorem succeeds_pure {a' : α} :
    Succeeds (pure a : EStateM ε σ α) s a' s' ↔ a = a' ∧ s = s' := by
  simp [Succeeds]

/-- A change of the state always succeeds. -/
@[simp] theorem succeeds_modify {f : σ → σ} {u : PUnit} :
    Succeeds (modify f : EStateM ε σ PUnit) s u s' ↔ f s = s' := by
  simp [Succeeds]

/-- To read the state is to return it. -/
@[simp] theorem succeeds_get {t : σ} :
    Succeeds (get : EStateM ε σ σ) s t s' ↔ s = t ∧ s = s' := by
  simp [Succeeds]

/-- An error is no success. -/
@[simp] theorem not_succeeds_throw {e : ε} : ¬ Succeeds (throw e : EStateM ε σ α) s a s' := by
  intro h
  cases h

/-- A sequence succeeds iff its parts do, one after the other. -/
theorem succeeds_bind {f : α → EStateM ε σ β} :
    Succeeds (m >>= f) s b s' ↔ ∃ a t, Succeeds m s a t ∧ Succeeds (f a) t b s' := by
  unfold Succeeds
  rw [EStateM.run_bind]
  rcases m.run s with ⟨a, t⟩ | ⟨e, t⟩
  · constructor
    · intro h
      exact ⟨a, t, rfl, h⟩
    · rintro ⟨a', t', hm, hf⟩
      cases hm
      exact hf
  · constructor
    · intro h
      cases h
    · rintro ⟨a', t', hm, -⟩
      cases hm

/-- A branch succeeds iff the one that is taken does. -/
theorem succeeds_ite {c : Prop} [Decidable c] {m' : EStateM ε σ α} :
    Succeeds (if c then m else m') s a s' ↔ c ∧ Succeeds m s a s' ∨ ¬ c ∧ Succeeds m' s a s' := by
  by_cases h : c
  · simp [h]
  · simp [h]

end succeeds

/-! ## Failure -/

/-- The computation fails as `P` says, or not at all. -/
def OnlyFails (P : ε → σ → Prop) (m : EStateM ε σ α) : Prop :=
  ∀ s e s', m.run s = .error e s' → P e s'

section onlyFails

variable {P Q : ε → σ → Prop} {m : EStateM ε σ α}

/-- A value is no failure. -/
theorem onlyFails_pure (a : α) : OnlyFails P (pure a : EStateM ε σ α) := by
  intro s e s' h
  cases h

/-- A change of the state is no failure. -/
theorem onlyFails_modify (f : σ → σ) : OnlyFails P (modify f : EStateM ε σ PUnit) := by
  intro s e s' h
  cases h

/-- Reading the state is no failure. -/
theorem onlyFails_get : OnlyFails P (get : EStateM ε σ σ) := by
  intro s e s' h
  cases h

/-- An error is one, in any state. -/
theorem onlyFails_throw {e : ε} (h : ∀ s, P e s) : OnlyFails P (throw e : EStateM ε σ α) := by
  intro s e' s' hrun
  cases hrun
  exact h s

/-- A sequence fails where one of its parts does. -/
theorem OnlyFails.bind (hm : OnlyFails P m) {f : α → EStateM ε σ β} (hf : ∀ a, OnlyFails P (f a)) :
    OnlyFails P (m >>= f) := by
  intro s e s' h
  rw [EStateM.run_bind] at h
  rcases hrun : m.run s with ⟨a, t⟩ | ⟨e', t⟩
  · rw [hrun] at h
    exact hf a t e s' h
  · rw [hrun] at h
    cases h
    exact hm s e s' hrun

/-- A branch fails as the one that is taken. -/
theorem onlyFails_ite {c : Prop} [Decidable c] {m' : EStateM ε σ α} (h : OnlyFails P m)
    (h' : OnlyFails P m') : OnlyFails P (if c then m else m') := by
  split_ifs
  · exact h
  · exact h'

/-- A weaker description of the failures. -/
theorem OnlyFails.mono (h : OnlyFails P m) (hPQ : ∀ e s, P e s → Q e s) : OnlyFails Q m :=
  fun s e s' hrun => hPQ e s' (h s e s' hrun)

/-- A computation that does not succeed fails. -/
theorem OnlyFails.of_not_succeeds (h : OnlyFails P m) {s : σ} (hnot : ∀ a s', ¬ Succeeds m s a s') :
    ∃ e s', m.run s = .error e s' ∧ P e s' := by
  rcases hrun : m.run s with ⟨a, t⟩ | ⟨e, t⟩
  · exact absurd hrun (hnot a t)
  · exact ⟨e, t, rfl, h s e t hrun⟩

end onlyFails

/-! ## What is left behind -/

/-- Started in `s`, the computation leaves a state in `I`, whether it fails or not. -/
def Leaves (I : σ → Prop) (m : EStateM ε σ α) (s : σ) : Prop :=
  (∀ a s', Succeeds m s a s' → I s') ∧ ∀ e s', m.run s = .error e s' → I s'

end TokioAwsLc.Lib.Attempt
