import Mathlib

/-!
# Computations that clean up

A second set of rules for `EStateM`, for computations that own something: what has been taken must be given
back on every way out. Nothing here knows what the state or the errors are.

* `onError f m` and `atEnd f m` clean up by `f`, after a failure of `m` or in any case. They are the
  destructors of a value that `m` gives away when it succeeds, and of one that it never gives away.
* `Triple P m Q E`: started in `P`, the computation ends in `Q` if it succeeds and in `E` if it fails.
* `Simulates π m n r`: seen through `π`, the computation `m` is `n`, with the results mapped by `r`. What
  `m` does to the rest of its state cannot be seen.
-/

namespace TokioAwsLc.Lib.Guard

variable {ε σ τ α β γ δ : Type}

/-! ## Cleaning up -/

/-- Clean up if the computation fails. -/
def onError (f : σ → σ) (m : EStateM ε σ α) : EStateM ε σ α := fun s =>
  match m.run s with
  | .ok a t => .ok a t
  | .error e t => .error e (f t)

/-- Clean up when the computation ends. -/
def atEnd (f : σ → σ) (m : EStateM ε σ α) : EStateM ε σ α := fun s =>
  match m.run s with
  | .ok a t => .ok a (f t)
  | .error e t => .error e (f t)

/-! ## Triples -/

/-- The computation has ended in `Q`, or it has failed in `E`. -/
def Ends (Q : α → σ → Prop) (E : ε → σ → Prop) : EStateM.Result ε σ α → Prop
  | .ok a s => Q a s
  | .error e s => E e s

/-- Started in `P`, the computation ends in `Q` or fails in `E`. -/
def Triple (P : σ → Prop) (m : EStateM ε σ α) (Q : α → σ → Prop) (E : ε → σ → Prop) : Prop :=
  ∀ s, P s → Ends Q E (m.run s)

section triple

variable {P P' : σ → Prop} {Q Q' : α → σ → Prop} {S : β → σ → Prop} {E E' : ε → σ → Prop}
  {m : EStateM ε σ α}

/-- A value is returned in the state that there is. -/
theorem triple_pure {a : α} (h : ∀ s, P s → Q a s) : Triple P (pure a : EStateM ε σ α) Q E :=
  h

/-- An error is raised in the state that there is. -/
theorem triple_throw {e : ε} (h : ∀ s, P s → E e s) : Triple P (throw e : EStateM ε σ α) Q E :=
  h

/-- A change of the state. -/
theorem triple_modify {f : σ → σ} {Q : PUnit → σ → Prop} (h : ∀ s, P s → Q ⟨⟩ (f s)) :
    Triple P (modify f : EStateM ε σ PUnit) Q E :=
  h

/-- One computation after the other. -/
theorem Triple.bind (hm : Triple P m Q E) {f : α → EStateM ε σ β} (hf : ∀ a, Triple (Q a) (f a) S E) :
    Triple P (m >>= f) S E := by
  intro s hs
  have hend := hm s hs
  rw [EStateM.run_bind]
  rcases hrun : m.run s with ⟨a, t⟩ | ⟨e, t⟩
  · rw [hrun] at hend
    exact hf a t hend
  · rw [hrun] at hend
    exact hend

/-- Both branches, each with what is known in it. -/
theorem triple_ite {c : Prop} [Decidable c] {m' : EStateM ε σ α} (h : c → Triple P m Q E)
    (h' : ¬ c → Triple P m' Q E) : Triple P (if c then m else m') Q E := by
  split_ifs with hc
  · exact h hc
  · exact h' hc

/-- The rule of consequence. -/
theorem Triple.mono (h : Triple P m Q E) (hP : ∀ s, P' s → P s) (hQ : ∀ a s, Q a s → Q' a s)
    (hE : ∀ e s, E e s → E' e s) : Triple P' m Q' E' := by
  intro s hs
  have hend := h s (hP s hs)
  rcases hrun : m.run s with ⟨a, t⟩ | ⟨e, t⟩
  · rw [hrun] at hend
    exact hQ a t hend
  · rw [hrun] at hend
    exact hE e t hend

/-- A computation that gives away what it owns when it succeeds. -/
theorem Triple.onError (h : Triple P m Q E) {f : σ → σ} (hf : ∀ e s, E e s → E' e (f s)) :
    Triple P (onError f m) Q E' := by
  intro s hs
  have hend := h s hs
  change Ends Q E' (Guard.onError f m s)
  unfold Guard.onError
  rcases hrun : m.run s with ⟨a, t⟩ | ⟨e, t⟩
  · rw [hrun] at hend
    exact hend
  · rw [hrun] at hend
    exact hf e t hend

/-- A computation that keeps what it owns. -/
theorem Triple.atEnd (h : Triple P m Q E) {f : σ → σ} (hok : ∀ a s, Q a s → Q' a (f s))
    (hf : ∀ e s, E e s → E' e (f s)) : Triple P (atEnd f m) Q' E' := by
  intro s hs
  have hend := h s hs
  change Ends Q' E' (Guard.atEnd f m s)
  unfold Guard.atEnd
  rcases hrun : m.run s with ⟨a, t⟩ | ⟨e, t⟩
  · rw [hrun] at hend
    exact hok a t hend
  · rw [hrun] at hend
    exact hf e t hend

end triple

/-! ## Simulation -/

/-- A result, seen through `π`. -/
def see (π : σ → τ) (r : α → β) : EStateM.Result ε σ α → EStateM.Result ε τ β
  | .ok a s => .ok (r a) (π s)
  | .error e s => .error e (π s)

/-- Seen through `π`, the one computation is the other. -/
def Simulates (π : σ → τ) (m : EStateM ε σ α) (n : EStateM ε τ β) (r : α → β) : Prop :=
  ∀ s, n.run (π s) = see π r (m.run s)

/-- The computation returns and does nothing that can be seen. -/
def Silent (π : σ → τ) (m : EStateM ε σ α) : Prop :=
  ∀ s, ∃ a t, m.run s = .ok a t ∧ π t = π s

section simulates

variable {π : σ → τ} {m : EStateM ε σ α} {n : EStateM ε τ β} {r : α → β}

/-- Two computations after one another, seen as two. -/
theorem Simulates.bind {f : α → EStateM ε σ γ} {g : β → EStateM ε τ δ} {r' : γ → δ}
    (hm : Simulates π m n r) (hf : ∀ a, Simulates π (f a) (g (r a)) r') :
    Simulates π (m >>= f) (n >>= g) r' := by
  intro s
  have hrun := hm s
  rw [EStateM.run_bind, EStateM.run_bind, hrun]
  rcases m.run s with ⟨a, t⟩ | ⟨e, t⟩
  · exact hf a t
  · rfl

/-- A step that cannot be seen comes first. -/
theorem Silent.bind {f : α → EStateM ε σ γ} {n : EStateM ε τ δ} {r' : γ → δ} (hm : Silent π m)
    (hf : ∀ a, Simulates π (f a) n r') : Simulates π (m >>= f) n r' := by
  intro s
  obtain ⟨a, t, hrun, ht⟩ := hm s
  rw [EStateM.run_bind, hrun, ← ht]
  exact hf a t

/-- Cleaning up after a failure cannot be seen. -/
theorem Simulates.onError (h : Simulates π m n r) {f : σ → σ} (hf : ∀ s, π (f s) = π s) :
    Simulates π (onError f m) n r := by
  intro s
  rw [h s]
  change _ = see π r (Guard.onError f m s)
  unfold Guard.onError
  rcases m.run s with ⟨a, t⟩ | ⟨e, t⟩
  · rfl
  · exact congrArg (EStateM.Result.error e) (hf t).symm

/-- Neither can cleaning up in any case. -/
theorem Simulates.atEnd (h : Simulates π m n r) {f : σ → σ} (hf : ∀ s, π (f s) = π s) :
    Simulates π (atEnd f m) n r := by
  intro s
  rw [h s]
  change _ = see π r (Guard.atEnd f m s)
  unfold Guard.atEnd
  rcases m.run s with ⟨a, t⟩ | ⟨e, t⟩
  · exact congrArg (EStateM.Result.ok (r a)) (hf t).symm
  · exact congrArg (EStateM.Result.error e) (hf t).symm

end simulates

end TokioAwsLc.Lib.Guard
