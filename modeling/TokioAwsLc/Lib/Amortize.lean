import Mathlib

/-!
# Loops that are paid for

A loop that is driven by a list of turns: each turn stops it, or goes on with the rest of the list. Its cost
is counted with a balance, and its length with a credit. A turn that goes on does not raise the balance and
takes one from the credit; what a turn may add to the credit is its gain.

* `Tariff`: what is counted, and which outcomes say that the list of turns was too short.
* `Amortized t f`: one turn of `f` keeps to the tariff.
* `Amortized.balance_le`, `Amortized.credit_le` and `Amortized.not_stuck` are the inductions over the turns:
  a loop raises the balance by at most one, and it is over when its turns outnumber the credit and the gains.
-/

namespace TokioAwsLc.Lib

variable {ρ σ β : Type*}

/-- What is counted in a loop with turns `ρ`, states `σ` and outcomes `β`. -/
structure Tariff (ρ σ β : Type*) where
  balance : σ → ℤ
  credit : σ → ℕ
  gain : ρ → ℕ
  /-- The outcome of a loop that has run out of turns. -/
  stuck : β → Prop

/-- What a list of turns may add to the credit. -/
def Tariff.gains (t : Tariff ρ σ β) (rs : List ρ) : ℕ :=
  (rs.map t.gain).sum

/-- Nothing gains nothing. -/
@[simp] theorem Tariff.gains_nil (t : Tariff ρ σ β) : t.gains [] = 0 := rfl

/-- Gains add up. -/
@[simp] theorem Tariff.gains_cons (t : Tariff ρ σ β) (r : ρ) (rs : List ρ) :
    t.gains (r :: rs) = t.gain r + t.gains rs := by
  simp [Tariff.gains]

/-- One turn of a loop: it stops, or it goes on from another state. -/
inductive Turned (t : Tariff ρ σ β) (f : List ρ → σ → σ × β) (r : ρ) (rs : List ρ) (s : σ) : Prop
  | stops {s' : σ} {x : β} (heq : f (r :: rs) s = (s', x)) (hcost : t.balance s' ≤ t.balance s + 1)
      (hcredit : t.credit s' ≤ t.credit s + t.gain r) (hx : ¬ t.stuck x) : Turned t f r rs s
  | again {s' : σ} (heq : f (r :: rs) s = f rs s') (hcost : t.balance s' ≤ t.balance s)
      (hcredit : t.credit s' + 1 ≤ t.credit s + t.gain r) : Turned t f r rs s

/-- The loop keeps to the tariff. -/
structure Amortized (t : Tariff ρ σ β) (f : List ρ → σ → σ × β) : Prop where
  rest : ∀ s, (f [] s).1 = s
  turn : ∀ r rs s, Turned t f r rs s

namespace Amortized

variable {t : Tariff ρ σ β} {f : List ρ → σ → σ × β}

/-- A loop raises the balance by one at most, by induction on its turns. -/
theorem balance_le (h : Amortized t f) (rs : List ρ) (s : σ) :
    t.balance (f rs s).1 ≤ t.balance s + 1 := by
  induction rs generalizing s with
  | nil =>
      rw [h.rest]
      omega
  | cons r rs ih =>
      cases h.turn r rs s with
      | stops heq hcost => rw [heq]; exact hcost
      | @again s' heq hcost =>
          have hrest := ih s'
          rw [heq]
          omega

/-- What is left of the credit. -/
theorem credit_le (h : Amortized t f) (rs : List ρ) (s : σ) :
    t.credit (f rs s).1 ≤ t.credit s + t.gains rs := by
  induction rs generalizing s with
  | nil =>
      rw [h.rest]
      omega
  | cons r rs ih =>
      rw [Tariff.gains_cons]
      cases h.turn r rs s with
      | stops heq hcost hcredit =>
          rw [heq]
          exact hcredit.trans (by omega)
      | @again s' heq hcost hcredit =>
          have hrest := ih s'
          rw [heq]
          omega

/-- A loop with enough turns is over: each turn but the last takes one from the credit. -/
theorem not_stuck (h : Amortized t f) (rs : List ρ) (s : σ)
    (henough : t.credit s + t.gains rs < rs.length) : ¬ t.stuck (f rs s).2 := by
  induction rs generalizing s with
  | nil =>
      rw [List.length_nil] at henough
      omega
  | cons r rs ih =>
      rw [List.length_cons, Tariff.gains_cons] at henough
      cases h.turn r rs s with
      | stops heq hcost hcredit hx =>
          rw [heq]
          exact hx
      | again heq hcost hcredit =>
          rw [heq]
          apply ih
          omega

end Amortized

end TokioAwsLc.Lib
