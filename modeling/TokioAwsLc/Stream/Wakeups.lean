import TokioAwsLc.Stream.Turns

/-!
# No lost wake-up between the halves

Tokio keeps one waker per direction of the socket, and either half of a stream may wait on either
direction. On the userspace path both halves therefore wait behind one shared waker, which wakes
whoever is stored in the two slots. The theorem is about every moment of a run, inside polls too: the
moments are the initial segments of its history; `replay` gives the reactor state of each, and `asked`
the direction that libssl's answers have asked for.

* `Watched net₀ w`: the history of `w` drives `net₀` to the present reactor state, and at every moment
  both halves are covered. It is kept by every step of a poll that is under way (`Step.watched`).
* `no_lost_wakeup`: at every moment of every run, a half whose last poll returned `Pending` and has
  not been woken since is stored in its slot behind the shared waker, which is armed on the direction
  that the half's last blocked libssl call has asked for, and the next event of it wakes the half.
-/

set_option linter.unusedSectionVars false

namespace TokioAwsLc.Stream

open Ktls (Abi)
open Lib.Trace (Always always_concat always_nil)

variable {W : Type} [DecidableEq W] {h : Half} {cx : W} {w w' : World W} {net₀ : Net W}

/-! ## Moments -/

/-- What one entry of a history does to the reactor. -/
def Act.drive (net : Net W) : Act W → Net W
  | .signal s => net.apply s
  | _ => net

/-- The reactor state after a history. -/
def replay (net : Net W) (t : List (Act W)) : Net W :=
  t.foldl Act.drive net

/-- No entry, no change. -/
@[simp] theorem replay_nil (net : Net W) : replay net [] = net := rfl

/-- A history is replayed part by part. -/
@[simp] theorem replay_append (net : Net W) (t u : List (Act W)) :
    replay net (t ++ u) = replay (replay net t) u := by
  simp [replay]

/-- A history is replayed entry by entry. -/
@[simp] theorem replay_cons (net : Net W) (a : Act W) (t : List (Act W)) :
    replay net (a :: t) = replay (a.drive net) t := rfl

/-- Both halves are covered at the end of a history, in the directions that libssl has asked for. -/
def BothCovered (net : Net W) (t : List (Act W)) : Prop :=
  ∀ h, (replay net t).Covered h ((asked t).dir h)

/-- A userspace world whose history accounts for its reactor state and leaves both halves covered at
every moment. -/
structure Watched (net₀ : Net W) (w : World W) : Prop where
  userspace : w.stream.ktlsActive = false
  net : w.net = replay net₀ w.trace
  covered : Always (BothCovered net₀) w.trace

/-- Both halves are covered now. -/
theorem Watched.now (hw : Watched net₀ w) (h : Half) : w.net.Covered h ((asked w.trace).dir h) := by
  rw [hw.net]
  exact hw.covered w.trace (List.prefix_refl _) h

/-- Nobody waits for a new stream. -/
theorem watched_fromParts (disabled : Bool) (ready : Dir → Bool) (armed : Dir → Option W) :
    Watched (Net.fresh ready armed) (World.fromParts disabled (Net.fresh ready armed)) where
  userspace := rfl
  net := rfl
  covered := by
    refine always_nil fun h p hp => ?_
    simp [Net.fresh] at hp

/-! ## Entry by entry -/

/-- An entry that does not reach the reactor, and leaves what libssl wants as it is, except for a half
that does not wait. -/
theorem Watched.extend (hw : Watched net₀ w) {a : Act W} (ha : ∀ net : Net W, a.drive net = net)
    (hask : ∀ h, ((asked w.trace).next a).dir h = (asked w.trace).dir h ∨ ∃ cx, w.net.Active h cx)
    (hk : w'.stream.ktlsActive = w.stream.ktlsActive) (hnet : w'.net = w.net)
    (ht : w'.trace = w.trace ++ [a]) : Watched net₀ w' where
  userspace := hk.trans hw.userspace
  net := by rw [hnet, hw.net, ht]; simp [ha]
  covered := by
    rw [ht, always_concat]
    refine ⟨hw.covered, fun h => ?_⟩
    rw [replay_append, replay_cons, ha, replay_nil, ← hw.net, asked_concat]
    rcases hask h with heq | ⟨cx, hact⟩
    · rw [heq]
      exact hw.now h
    · exact hact.covered

/-- A call of a poll that is under way: only its own half is concerned, which does not wait. -/
theorem Watched.call (hw : Watched net₀ w) (hp : Polling h cx w) (c : Call) :
    Watched net₀ (w.call c) := by
  refine hw.extend (a := .call c) (fun _ => rfl) ?_ rfl rfl rfl
  intro h'
  by_cases hh : h' = h
  · exact Or.inr ⟨cx, hh ▸ hp.active⟩
  · exact Or.inl (next_call_of_ne _ hp.half hh)

/-- A signal, under the obligations of the half it concerns. -/
theorem Watched.signal (hw : Watched net₀ w) (s : Signal W)
    (hreg : ∀ h cx, s = .register h cx → ∃ cx', w.net.Active h cx')
    (hret : ∀ h, s = .returned h true → ∃ cx, Waits h cx w)
    (harm : ∀ d wk, s = .arm d wk → wk = .shared) : Watched net₀ (w.signal s) where
  userspace := hw.userspace
  net := by simp [hw.net, Act.drive]
  covered := by
    rw [World.signal_trace, always_concat]
    refine ⟨hw.covered, fun h => ?_⟩
    rw [replay_append, replay_cons, replay_nil, ← hw.net, asked_concat]
    change (w.net.apply s).Covered h _
    by_cases hcall : ∃ cx, s = .called h cx
    · obtain ⟨cx, rfl⟩ := hcall
      exact (Net.active_called w.net h cx).covered
    · have hdir : ((asked w.trace).next (.signal s)).dir h = (asked w.trace).dir h := by
        cases s with
        | called h' cx =>
            have hne : h ≠ h' := by
              rintro rfl
              exact hcall ⟨cx, rfl⟩
            exact Function.update_of_ne hne _ _
        | returned | register | arm | clear | notify | event | wakeByRef => rfl
      rw [hdir]
      refine Net.covered_apply (hw.now h) s (hreg h) ?_ harm
      intro hs
      obtain ⟨cx, d, hwant, hp⟩ := hret h hs
      exact ⟨cx, d, hwant, hp⟩

/-- **One step of a poll that is under way** keeps both halves covered. -/
theorem Step.watched (hs : Step h cx w w') (hp : Polling h cx w) (hw : Watched net₀ w) :
    Watched net₀ w' := by
  cases hs with
  | @signal s hs =>
      refine hw.signal s ?_ ?_ ?_
      · rintro h' cx' rfl
        obtain ⟨rfl, -, -⟩ := hs
        exact ⟨cx, hp.active⟩
      · rintro h' rfl
        exact hs.elim
      · rintro d wk rfl
        simpa [Emits, hw.userspace] using hs
  | @call c hc hf =>
      have hcall : Watched net₀ (w.call c) := hw.call hp c
      rcases effect_trace c (w.call c) with ht | ht
      · exact ⟨(effect_ktlsActive c _).trans hcall.userspace,
          by rw [effect_net, ht]; exact hcall.net, ht ▸ hcall.covered⟩
      · exact hcall.extend (fun _ => rfl) (fun _ => Or.inl rfl) (effect_ktlsActive c _)
          (effect_net c _) ht
  | @failed c e hc hf =>
      have hlatch : Watched net₀ ((w.call c).latch e) :=
        (hw.call hp c).extend (a := .latch e) (fun _ => rfl) (fun _ => Or.inl rfl) rfl rfl rfl
      exact hlatch.signal .notify (by simp) (by simp) (by simp)
  | sending he hpend hsh =>
      exact hw.extend (fun _ => rfl) (fun _ => Or.inl rfl) rfl rfl rfl
  | reader hk => exact ⟨hw.userspace, hw.net, hw.covered⟩

/-- The steps of a whole poll. -/
theorem Steps.watched (hs : Steps h cx w w') (hp : Polling h cx w) (hw : Watched net₀ w) :
    Watched net₀ w' := by
  refine (Lib.invariant_of_steps (I := fun x => Polling h cx x ∧ Watched net₀ x) ?_ hs
    ⟨hp, hw⟩).2
  rintro x y hst ⟨hpoll, hx⟩
  exact ⟨Step.polling hst hpoll, hst.watched hpoll hx⟩

/-- **One operation.** A poll is called, takes its steps, and returns `Pending` only when it is
parked. -/
theorem Turn.watched (ht : Turn w w') (hw : Watched net₀ w) : Watched net₀ w' := by
  have hpoll : ∀ {h : Half} {cx : W} {w₁ : World W}, Steps h cx (w.signal (.called h cx)) w₁ →
      Watched net₀ w₁ := by
    intro h cx w₁ hs
    exact hs.watched (polling_called w h cx) (hw.signal _ (by simp) (by simp) (by simp))
  cases ht with
  | event d => exact hw.signal _ (by simp) (by simp) (by simp)
  | unfinished hs => exact hpoll hs
  | @finished w₁ h cx pending hs hp =>
      refine (hpoll hs).signal _ (by simp) ?_ (by simp)
      intro h' heq
      obtain ⟨rfl, rfl⟩ : h = h' ∧ pending = true := by simpa using heq
      exact ⟨cx, hp rfl hw.userspace⟩

/-! ## Whole runs -/

/-- **No lost wake-up.** At every moment of every run of a userspace stream and for each half `h`:
if its last poll returned `Pending` and its waker has not been woken since that poll began, then the
waker is in the half's slot, libssl has stopped that poll's last blocked call with a code that asks for
a direction, the shared waker is armed on this direction, and its next event wakes the half. -/
theorem no_lost_wakeup (abi : Abi) (disabled : Bool) (ready : Dir → Bool)
    (armed : Dir → Option W) (ops : List (Op W)) :
    let net₀ := Net.fresh ready armed
    let w := (Session.run abi (.start (World.fromParts disabled net₀)) ops).world
    w.net = replay net₀ w.trace ∧ ∀ u, u <+: w.trace → ∀ h p,
      (replay net₀ u).polls h = some p → p.pending = true → p.woken = false →
        (replay net₀ u).slot h = some p.waker ∧
        ∃ d, (asked u).dir h = some d ∧ (replay net₀ u).armed d = some .shared ∧
          ∃ q, ((replay net₀ u).event d).polls h = some q ∧ q.waker = p.waker ∧
            q.woken = true := by
  intro net₀ w
  have hw : Watched net₀ w := by
    refine run_invariant abi (I := Watched net₀) (fun _ _ _ ht hw => ht.watched hw) ?_
      (watched_fromParts disabled ready armed) ops
    exact fun hk => absurd hk (by simp [Session.start, World.fromParts, TlsStream.fromParts])
  refine ⟨hw.net, fun u hu h p hp hpend hwoken => ?_⟩
  have hc : (replay net₀ u).Covered h ((asked u).dir h) := hw.covered u hu h
  obtain ⟨hslot, d, hask, harm⟩ := hc p hp hpend hwoken
  rw [hask] at hc
  exact ⟨hslot, d, hask, harm, Net.event_wakes hc hp hpend hwoken⟩

end TokioAwsLc.Stream
