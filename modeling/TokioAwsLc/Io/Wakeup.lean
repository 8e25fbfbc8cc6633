import TokioAwsLc.Io.Reactor

/-!
# Waiting halves and the signals that reach them

Facts about the reactor alone, one signal at a time.

* `Covered net h want`: if the last poll of `h` returned `Pending` and its waker has not been woken
  since that poll began, then the waker is in the half's slot and the shared waker is armed on the
  direction `want`, which is for libssl to say. This is what "no lost wake-up" means for one half at
  one moment.
* `Active h cx net`: the last poll of `h` was called with `cx` and has not returned `Pending`.
  `Registered` and `Parked` are the two stages such a poll goes through before it may: its waker is
  stored (or already woken), and then the direction is armed.
* `covered_apply`: every signal keeps `Covered`, except that a half must be `Active` when its slot is
  overwritten and `Parked` when it returns `Pending`, and that only the shared waker may be armed.
* `event_wakes`: a covered half that waits for `d` is woken by the next event of `d`.
-/

set_option linter.unusedSectionVars false

namespace TokioAwsLc.Net

variable {W : Type} [DecidableEq W]

/-! ## The stages of a wait -/

/-- A half that waits is reachable: slot filled, and the direction that it has to wait for armed. -/
def Covered (net : Net W) (h : Half) (want : Option Dir) : Prop :=
  ∀ p, net.polls h = some p → p.pending = true → p.woken = false →
    net.slot h = some p.waker ∧ ∃ d, want = some d ∧ net.armed d = some .shared

/-- A poll of `h` with the waker `cx` is under way. -/
def Active (h : Half) (cx : W) (net : Net W) : Prop :=
  ∃ p, net.polls h = some p ∧ p.waker = cx ∧ p.pending = false

/-- That poll has stored its waker, or was woken already. -/
def Registered (h : Half) (cx : W) (net : Net W) : Prop :=
  ∃ p, net.polls h = some p ∧ p.waker = cx ∧ p.pending = false ∧
    (p.woken = true ∨ net.slot h = some cx)

/-- That poll may return `Pending` if it has to wait for `d`: it was woken already, or its slot is
filled and `d` is armed. -/
def Parked (h : Half) (cx : W) (d : Dir) (net : Net W) : Prop :=
  ∃ p, net.polls h = some p ∧ p.waker = cx ∧ p.pending = false ∧
    (p.woken = true ∨ (net.slot h = some cx ∧ net.armed d = some .shared))

/-! ## Polls under `wake`, `notify` and `event` -/

/-- Waking tasks changes a poll at most by marking it woken. -/
theorem wake_polls (net : Net W) (ws : List W) {h : Half} {p : PollInfo W}
    (hp : net.polls h = some p) :
    (net.wake ws).polls h =
      some (if p.waker ∈ ws then { p with woken := true } else p) := by
  simp [wake, hp]

/-- What a poll is after tasks have been woken, read backwards. -/
theorem of_wake_polls {net : Net W} {ws : List W} {h : Half} {p : PollInfo W}
    (hp : (net.wake ws).polls h = some p) :
    ∃ q, net.polls h = some q ∧ p = if q.waker ∈ ws then { q with woken := true } else q := by
  rcases hq : net.polls h with _ | q
  · simp [wake, hq] at hp
  · rw [wake_polls net ws hq] at hp
    exact ⟨q, rfl, (Option.some.inj hp).symm⟩

/-- The wakers `notify` takes out of the slots. -/
def notified (net : Net W) : List W :=
  (net.slot .writer).toList ++ (net.slot .reader).toList

/-- `notify` wakes the wakers of both slots. -/
theorem notify_polls (net : Net W) : net.notify.polls = (net.wake net.notified).polls := by
  unfold notify notified slot
  rcases hw : net.waiters with _ | slots
  · funext h
    simp [wake]
  · simp [wake]

/-- `notify` leaves both slots empty. -/
theorem notify_slot (net : Net W) (h : Half) : net.notify.slot h = none := by
  unfold notify slot
  rcases hw : net.waiters with _ | slots
  · simp [hw]
  · simp

/-- A waker in a slot is among those `notify` takes. -/
theorem mem_notified {net : Net W} {h : Half} {cx : W} (hs : net.slot h = some cx) :
    cx ∈ net.notified := by
  unfold notified
  cases h <;> simp [hs]

/-! ## An event -/

/-- The reactor state after the bit is set and the direction disarmed, before anyone is woken. -/
def setReady (net : Net W) (d : Dir) : Net W :=
  { net with
    ready := Function.update net.ready d true
    armed := Function.update net.armed d none }

/-- An event wakes the armed task, or both halves, or nobody. -/
theorem event_eq (net : Net W) (d : Dir) :
    net.event d = match net.armed d with
      | none => net.setReady d
      | some (.task cx) => (net.setReady d).wake [cx]
      | some .shared => (net.setReady d).notify :=
  rfl

/-- An event starts no poll. -/
@[simp] theorem setReady_polls (net : Net W) (d : Dir) : (net.setReady d).polls = net.polls := rfl

/-- It registers nobody either. -/
@[simp] theorem setReady_slot (net : Net W) (d : Dir) (h : Half) :
    (net.setReady d).slot h = net.slot h := rfl

/-- An event keeps a poll's waker and reply. -/
theorem event_polls {net : Net W} (d : Dir) {h : Half} {p : PollInfo W}
    (hp : net.polls h = some p) :
    ∃ q, (net.event d).polls h = some q ∧ q.waker = p.waker ∧ q.pending = p.pending ∧
      (p.woken = true → q.woken = true) := by
  rw [event_eq]
  rcases net.armed d with _ | ⟨cx⟩ | _
  · exact ⟨p, hp, rfl, rfl, id⟩
  · refine ⟨_, wake_polls (net.setReady d) _ hp, ?_⟩
    split_ifs <;> simp
  · refine ⟨_, by rw [notify_polls]; exact wake_polls (net.setReady d) _ hp, ?_⟩
    split_ifs <;> simp

/-- An event keeps the stored waker of a registered poll or wakes it. -/
theorem Registered.event {h : Half} {cx : W} {net : Net W} (hr : Registered h cx net) (d' : Dir) :
    Registered h cx (net.event d') := by
  obtain ⟨p, hp, hw, hpend, hslot⟩ := hr
  obtain ⟨q, hq, hqw, hqp, hqwk⟩ := event_polls d' hp
  refine ⟨q, hq, hqw.trans hw, hqp.trans hpend, ?_⟩
  rcases hslot with hwoken | hslot
  · exact Or.inl (hqwk hwoken)
  · rw [event_eq] at hq ⊢
    rcases harm : net.armed d' with _ | ⟨cx'⟩ | _
    · exact Or.inr hslot
    · exact Or.inr hslot
    · left
      rw [harm] at hq
      simp only at hq
      rw [notify_polls, wake_polls (net.setReady d') _ hp] at hq
      rw [if_pos (mem_notified (by rw [setReady_slot, hslot, hw]))] at hq
      rw [← Option.some.inj hq]

/-- An event does not end a poll. -/
theorem Active.event {h : Half} {cx : W} {net : Net W} (ha : Active h cx net) (d : Dir) :
    Active h cx (net.event d) := by
  obtain ⟨p, hp, hw, hpend⟩ := ha
  obtain ⟨q, hq, hqw, hqp, -⟩ := event_polls d hp
  exact ⟨q, hq, hqw.trans hw, hqp.trans hpend⟩

/-- An event keeps a parked poll parked or wakes it: the shared waker leaves the direction only
together with waking both slots. -/
theorem Parked.event {h : Half} {cx : W} {d : Dir} {net : Net W} (hp : Parked h cx d net) (d' : Dir) :
    Parked h cx d (net.event d') := by
  obtain ⟨p, hpoll, hw, hpend, hok⟩ := hp
  have hr : Registered h cx net := ⟨p, hpoll, hw, hpend, hok.imp id And.left⟩
  obtain ⟨q, hq, hqw, hqp, hslot⟩ := hr.event d'
  refine ⟨q, hq, hqw, hqp, ?_⟩
  rcases hslot with hwoken | hslot
  · exact Or.inl hwoken
  · rcases hok with hwoken | ⟨-, harm⟩
    · obtain ⟨q', hq', -, -, hwk⟩ := event_polls d' hpoll
      obtain rfl : q = q' := Option.some.inj (hq.symm.trans hq')
      exact Or.inl (hwk hwoken)
    · refine Or.inr ⟨hslot, ?_⟩
      -- had the event been one of `d`, it would have emptied the slot
      have hne : d ≠ d' := by
        rintro rfl
        rw [event_eq, harm] at hslot
        simp only at hslot
        rw [notify_slot] at hslot
        cases hslot
      rw [event_armed, Function.update_of_ne hne, harm]

/-! ## Covered halves -/

section covered

variable {net : Net W} {h : Half} {want : Option Dir}

/-- Waking tasks keeps a half covered: a poll it leaves unwoken is unchanged. -/
theorem Covered.wake (hc : Covered net h want) (ws : List W) : Covered (net.wake ws) h want := by
  intro p hp hpend hwoken
  obtain ⟨q, hq, rfl⟩ := of_wake_polls hp
  split_ifs at hpend hwoken ⊢ with hmem
  exact hc q hq hpend hwoken

/-- `notify` keeps a half covered, because it wakes whoever it takes out of a slot. -/
theorem Covered.notify (hc : Covered net h want) : Covered net.notify h want := by
  intro p hp hpend hwoken
  rw [notify_polls] at hp
  obtain ⟨q, hq, rfl⟩ := of_wake_polls hp
  split_ifs at hpend hwoken with hmem
  exact absurd (mem_notified (hc q hq hpend hwoken).1) hmem

/-- An event keeps a half covered: it disarms a direction only together with waking both slots. -/
theorem Covered.event (hc : Covered net h want) (d : Dir) : Covered (net.event d) h want := by
  rw [event_eq]
  -- Unless the shared waker is armed on `d`, the direction the half waits for is the other one.
  have hset : net.armed d ≠ some .shared → Covered (net.setReady d) h want := by
    intro hne p hp hpend hwoken
    obtain ⟨hslot, d', hwant, harm⟩ := hc p hp hpend hwoken
    refine ⟨hslot, d', hwant, ?_⟩
    have hdd : d' ≠ d := by
      rintro rfl
      exact hne harm
    show Function.update net.armed d none d' = _
    rw [Function.update_of_ne hdd, harm]
  rcases harm : net.armed d with _ | ⟨cx⟩ | _
  · exact hset (by rw [harm]; simp)
  · exact (hset (by rw [harm]; simp)).wake [cx]
  · intro p hp hpend hwoken
    simp only at hp
    rw [notify_polls] at hp
    obtain ⟨q, hq, rfl⟩ := of_wake_polls hp
    split_ifs at hpend hwoken with hmem
    exact absurd (mem_notified (hc q hq hpend hwoken).1) hmem

/-- Two reactor states that agree on what `Covered` reads. -/
theorem Covered.congr {net' : Net W} (hc : Covered net h want) (hpolls : net'.polls h = net.polls h)
    (hslot : net'.slot h = net.slot h) (harmed : net'.armed = net.armed) : Covered net' h want := by
  intro p hp hpend hwoken
  rw [hslot, harmed]
  exact hc p (hpolls ▸ hp) hpend hwoken

/-- A half whose poll is under way does not wait. -/
theorem Active.covered {cx : W} (ha : Active h cx net) : Covered net h want := by
  intro p hp hpend
  obtain ⟨q, hq, -, hqp⟩ := ha
  obtain rfl : q = p := Option.some.inj (hq.symm.trans hp)
  rw [hqp] at hpend
  cases hpend

/-- A poll that is called is under way. -/
theorem active_called (net : Net W) (h : Half) (cx : W) : Active h cx (net.apply (.called h cx)) :=
  ⟨{ waker := cx, woken := false, pending := false }, by simp [apply], rfl, rfl⟩

/-- A new poll of the half does not wait yet. -/
theorem Covered.called (hc : Covered net h want) (h' : Half) (cx : W) :
    Covered (net.apply (.called h' cx)) h want := by
  by_cases hh : h' = h
  · subst hh
    exact (active_called net h' cx).covered
  · exact hc.congr (by simp [apply, Function.update_of_ne (Ne.symm hh)]) rfl rfl

/-- A poll that returns pending is parked where it has to wait. -/
theorem Covered.returned (hc : Covered net h want) (h' : Half) (pending : Bool)
    (hret : h' = h → pending = true → ∃ cx d, want = some d ∧ Parked h cx d net) :
    Covered (net.apply (.returned h' pending)) h want := by
  by_cases hh : h' = h
  · subst hh
    intro p hp hpend hwoken
    simp only [apply, updatePoll, Function.update_self, Option.map_eq_some_iff] at hp
    obtain ⟨q, hq, rfl⟩ := hp
    simp only at hpend hwoken
    obtain ⟨cx, d, hwant, q', hq', hw, -, hok⟩ := hret rfl hpend
    rw [hq] at hq'
    obtain rfl := Option.some.inj hq'
    rcases hok with hok | ⟨hslot, harmed⟩
    · rw [hok] at hwoken
      cases hwoken
    · exact ⟨hw ▸ hslot, d, hwant, harmed⟩
  · exact hc.congr (by simp [apply, updatePoll, Function.update_of_ne (Ne.symm hh)]) rfl rfl

/-- A half registers only during a poll, which does not wait yet. -/
theorem Covered.register (hc : Covered net h want) (h' : Half) (cx : W)
    (hreg : h' = h → ∃ cx', Active h cx' net) : Covered (net.apply (.register h' cx)) h want := by
  by_cases hh : h' = h
  · obtain ⟨cx', hact⟩ := hreg hh
    have hact' : Active h cx' (net.register h' cx) := hact
    exact hact'.covered
  · exact hc.congr rfl (slot_register_of_ne net h' cx (Ne.symm hh)) rfl

/-- Arming the shared waker takes nothing away from a half that waits for it. -/
theorem Covered.arm (hc : Covered net h want) (d : Dir) :
    Covered (net.apply (.arm d .shared)) h want := by
  intro p hp hpend hwoken
  obtain ⟨hslot, d', hwant, harmed⟩ := hc p hp hpend hwoken
  refine ⟨hslot, d', hwant, ?_⟩
  show Function.update net.armed d (some .shared) d' = _
  by_cases hdd : d' = d
  · rw [hdd, Function.update_self]
  · rw [Function.update_of_ne hdd, harmed]

/-- **One signal.** Every signal keeps a half covered, under the two obligations of the half itself
and as long as no task's own waker is armed. -/
theorem covered_apply (hc : Covered net h want) (s : Signal W)
    (hreg : ∀ cx, s = .register h cx → ∃ cx', Active h cx' net)
    (hret : s = .returned h true → ∃ cx d, want = some d ∧ Parked h cx d net)
    (harm : ∀ d wk, s = .arm d wk → wk = .shared) : Covered (net.apply s) h want := by
  cases s with
  | called h' cx => exact hc.called h' cx
  | returned h' pending =>
      refine hc.returned h' pending ?_
      rintro rfl rfl
      exact hret rfl
  | register h' cx =>
      refine hc.register h' cx ?_
      rintro rfl
      exact hreg cx rfl
  | arm d wk =>
      obtain rfl := harm d wk rfl
      exact hc.arm d
  | clear d => exact hc.congr rfl rfl rfl
  | notify => exact hc.notify
  | event d => exact hc.event d
  | wakeByRef cx => exact hc.wake [cx]

/-- **The wake-up.** A covered half that waits is woken by the next event of the direction it waits
for. -/
theorem event_wakes {d : Dir} (hc : Covered net h (some d)) {p : PollInfo W}
    (hp : net.polls h = some p) (hpend : p.pending = true) (hwoken : p.woken = false) :
    ∃ q, (net.event d).polls h = some q ∧ q.waker = p.waker ∧ q.woken = true := by
  obtain ⟨hslot, d', hwant, harmed⟩ := hc p hp hpend hwoken
  obtain rfl : d = d' := Option.some.inj hwant
  rw [event_eq, harmed]
  refine ⟨_, by rw [notify_polls]; exact wake_polls (net.setReady d) _ hp, ?_⟩
  rw [if_pos (mem_notified (by rw [setReady_slot, hslot]))]
  exact ⟨rfl, rfl⟩

end covered

/-! ## A poll on its way to `Pending` -/

/-- Registering stores the waker. -/
theorem Active.register {h : Half} {cx : W} {net : Net W} (ha : Active h cx net) :
    Registered h cx (net.apply (.register h cx)) := by
  obtain ⟨p, hp, hw, hpend⟩ := ha
  exact ⟨p, hp, hw, hpend, Or.inr (slot_register_self net h cx)⟩

/-- Arming a direction completes the wait for it. -/
theorem Registered.arm {h : Half} {cx : W} {net : Net W} (hr : Registered h cx net) (d : Dir) :
    Parked h cx d (net.apply (.arm d .shared)) := by
  obtain ⟨p, hp, hw, hpend, hslot⟩ := hr
  refine ⟨p, hp, hw, hpend, hslot.imp id fun hs => ⟨hs, ?_⟩⟩
  simp [apply]

/-- Signals other than the calls and returns of a half keep its poll under way. -/
theorem Active.apply {h : Half} {cx : W} {net : Net W} (ha : Active h cx net) (s : Signal W)
    (hcall : ∀ cx', s ≠ .called h cx') (hret : ∀ b, s ≠ .returned h b) :
    Active h cx (net.apply s) := by
  obtain ⟨p, hp, hw, hpend⟩ := ha
  cases s with
  | called h' cx' =>
      have hne : h ≠ h' := fun heq => hcall cx' (by rw [heq])
      exact ⟨p, by simp [Net.apply, Function.update_of_ne hne, hp], hw, hpend⟩
  | returned h' b =>
      have hne : h ≠ h' := fun heq => hret b (by rw [heq])
      exact ⟨p, by simp [Net.apply, updatePoll, Function.update_of_ne hne, hp], hw, hpend⟩
  | register h' cx' => exact ⟨p, hp, hw, hpend⟩
  | arm d wk => exact ⟨p, hp, hw, hpend⟩
  | clear d => exact ⟨p, hp, hw, hpend⟩
  | notify =>
      refine ⟨_, by rw [Net.apply, notify_polls]; exact wake_polls net _ hp, ?_, ?_⟩ <;>
        split_ifs <;> assumption
  | event d => exact Active.event ⟨p, hp, hw, hpend⟩ d
  | wakeByRef cx' =>
      refine ⟨_, wake_polls net _ hp, ?_, ?_⟩ <;> split_ifs <;> assumption

end TokioAwsLc.Net
