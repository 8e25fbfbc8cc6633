import TokioAwsLc.Ktls.Sticky
import TokioAwsLc.Stream.CloseOrder

/-!
# The kTLS path: writes and wake-ups

On the kTLS path a stream keeps no plaintext of its own, and each half waits with the waker of its own
task on its own direction of the socket: the reader on `read`, the writer on `write`. So a poll can do
less than on the userspace path, and what it does is simpler to account for.

* `KStep h cx`: the small steps of a poll in kTLS mode. They arm no other direction than the half's own,
  and no other waker than the poll's own.
* `KtlsSpec`: the contract of a poll in kTLS mode. `took` is the plaintext that the kernel has taken.
* `Net.Armed h`: a half that waits is armed on its own direction. It is kept by the steps of either half.
* `ktls_writes` and `ktls_wakeups` are the results, for every run of a stream.
-/

set_option linter.unusedSectionVars false

namespace TokioAwsLc

/-! ## The direction of a half -/

/-- The direction that a half waits for in kTLS mode. -/
def Half.dir : Half → Dir
  | .reader => .read
  | .writer => .write

/-- The halves wait for different directions. -/
theorem Half.dir_injective {h h' : Half} (heq : h.dir = h'.dir) : h = h' := by
  cases h <;> cases h' <;> first | rfl | cases heq

namespace Net

variable {W : Type} [DecidableEq W] {net : Net W} {h : Half} {cx : W}

/-- A half that waits has its own waker armed on its own direction. -/
def Armed (net : Net W) (h : Half) : Prop :=
  ∀ p, net.polls h = some p → p.pending = true → p.woken = false →
    net.armed h.dir = some (.task p.waker)

/-- The poll of `h` under way may return `Pending`: it was woken already, or its waker is armed. -/
def Waiting (h : Half) (cx : W) (net : Net W) : Prop :=
  ∃ p, net.polls h = some p ∧ p.waker = cx ∧ p.pending = false ∧
    (p.woken = true ∨ net.armed h.dir = some (.task cx))

/-- A poll under way has not returned `Pending`. -/
theorem Active.not_pending (ha : Active h cx net) {p : PollInfo W} (hp : net.polls h = some p) :
    p.pending = false := by
  obtain ⟨q, hq, -, hpend⟩ := ha
  obtain rfl := Option.some.inj (hp.symm.trans hq)
  exact hpend

/-- Waking tasks leaves the wakers of those that were not woken armed. -/
theorem Armed.wake (hc : net.Armed h) (ws : List W) : (net.wake ws).Armed h := by
  intro p hp hpend hwoken
  obtain ⟨q, hq, rfl⟩ := of_wake_polls hp
  split_ifs at hpend hwoken ⊢ with hmem
  exact hc q hq hpend hwoken

/-- Notifying the other half disarms nobody. -/
theorem Armed.notify (hc : net.Armed h) : net.notify.Armed h := by
  intro p hp hpend hwoken
  rw [notify_polls] at hp
  rw [notify_armed]
  exact hc.wake net.notified p hp hpend hwoken

/-- An event disarms a direction only together with waking the task that was armed on it. -/
theorem Armed.event (hc : net.Armed h) (d : Dir) : (net.event d).Armed h := by
  have hset : ∀ p, (net.setReady d).polls h = some p → p.pending = true → p.woken = false →
      net.armed d ≠ some (.task p.waker) → (net.setReady d).armed h.dir = some (.task p.waker) := by
    intro p hp hpend hwoken hne
    have harm := hc p hp hpend hwoken
    have hdir : h.dir ≠ d := by
      rintro rfl
      exact hne harm
    show Function.update net.armed d none h.dir = _
    rw [Function.update_of_ne hdir, harm]
  rw [event_eq]
  rcases harm : net.armed d with _ | ⟨cx⟩ | _
  · intro p hp hpend hwoken
    exact hset p hp hpend hwoken (by simp [harm])
  · intro p hp hpend hwoken
    obtain ⟨q, hq, rfl⟩ := of_wake_polls hp
    split_ifs at hpend hwoken ⊢ with hmem
    apply hset q hq hpend hwoken
    rw [harm]
    intro heq
    obtain rfl : cx = q.waker := by simpa using heq
    exact hmem (List.mem_singleton.mpr rfl)
  · apply Armed.notify
    intro p hp hpend hwoken
    exact hset p hp hpend hwoken (by simp [harm])

/-- A new poll of a half does not wait yet. -/
theorem Armed.called {h' : Half} (hc : net.Armed h') : (net.apply (.called h cx)).Armed h' := by
  intro p hp hpend hwoken
  by_cases hh : h' = h
  · subst hh
    simp only [apply, Function.update_self, Option.some.injEq] at hp
    subst hp
    cases hpend
  · simp only [apply, Function.update_of_ne hh] at hp
    exact hc p hp hpend hwoken

/-- A poll that returns `Pending` waits. -/
theorem Armed.returned {h' : Half} (hc : net.Armed h') (pending : Bool)
    (hret : pending = true → Waiting h cx net) : (net.apply (.returned h pending)).Armed h' := by
  intro p hp hpend hwoken
  by_cases hh : h' = h
  · subst hh
    simp only [apply, updatePoll, Function.update_self, Option.map_eq_some_iff] at hp
    obtain ⟨q, hq, rfl⟩ := hp
    obtain ⟨q', hq', hw, -, hcase⟩ := hret hpend
    obtain rfl := Option.some.inj (hq.symm.trans hq')
    rcases hcase with hq' | harm
    · simp only at hwoken
      rw [hq'] at hwoken
      cases hwoken
    · exact hw ▸ harm
  · simp only [apply, updatePoll, Function.update_of_ne hh] at hp
    exact hc p hp hpend hwoken

/-- A half that is armed and waits is woken by the next event of its direction. -/
theorem Armed.event_wakes (hc : net.Armed h) {p : PollInfo W} (hp : net.polls h = some p)
    (hpend : p.pending = true) (hwoken : p.woken = false) :
    ∃ q, (net.event h.dir).polls h = some q ∧ q.waker = p.waker ∧ q.woken = true := by
  rw [event_eq, hc p hp hpend hwoken]
  refine ⟨{ p with woken := true }, ?_, rfl, rfl⟩
  simp [wake_polls (net.setReady h.dir) [p.waker] hp]

/-- An event keeps a waiting poll waiting, or wakes it. -/
theorem Waiting.event (hw : Waiting h cx net) (d : Dir) : Waiting h cx (net.event d) := by
  obtain ⟨p, hp, rfl, hpend, hcase⟩ := hw
  obtain ⟨q, hq, hqw, hqp, hmono⟩ := event_polls d hp
  refine ⟨q, hq, hqw, hqp.trans hpend, ?_⟩
  rcases hcase with hwoken | harm
  · exact .inl (hmono hwoken)
  · by_cases hd : h.dir = d
    · left
      subst hd
      have hpolls : (net.event h.dir).polls h = some { p with woken := true } := by
        rw [event_eq, harm]
        simp [wake_polls (net.setReady h.dir) [p.waker] hp]
      rw [← Option.some.inj (hpolls.symm.trans hq)]
    · right
      rw [event_armed, Function.update_of_ne hd, harm]

end Net

namespace Stream

open Ktls (Abi RecordReader RecvMsg Polls ioBudget)
open Relation

variable {W : Type} [DecidableEq W] {h : Half} {cx : W} {w w' w'' : World W}

/-! ## Steps -/

/-- One small step of a poll of `h` with the waker `cx`, in kTLS mode. -/
inductive KStep (h : Half) (cx : W) : World W → World W → Prop
  | event (w : World W) (d : Dir) : KStep h cx w (w.signal (.event d))
  | arm (w : World W) : KStep h cx w (w.signal (.arm h.dir (.task cx)))
  | clear (w : World W) (d : Dir) : KStep h cx w (w.signal (.clear d))
  | wake (w : World W) : KStep h cx w (w.signal (.wakeByRef cx))
  | call (w : World W) (c : Call) : KStep h cx w (w.call c)
  | fail (w : World W) (e : IoError) : KStep h cx w (w.writeFailure e)
  | move (w : World W) (s : Shutdown) : KStep h cx w (w.moveTo s)
  /-- Only `poll_read` changes the record reader. -/
  | reader (w : World W) (r : RecordReader) (hh : h = .reader) : KStep h cx w (w.setReader r)

/-- A chain of small steps. -/
abbrev KSteps (h : Half) (cx : W) : World W → World W → Prop :=
  ReflTransGen (KStep h cx)

/-- Events are steps of any poll. -/
theorem ksteps_events (w : World W) (ds : List Dir) : KSteps h cx w (w.events ds) := by
  induction ds generalizing w with
  | nil => exact .refl
  | cons d ds ih => exact .head (.event w d) (ih (w.signal (.event d)))

/-- A step does not end the poll. -/
theorem KStep.active (hs : KStep h cx w w') (ha : w.net.Active h cx) : w'.net.Active h cx := by
  cases hs with
  | event d => exact ha.event d
  | arm => exact ha.apply (.arm h.dir (.task cx)) (by simp) (by simp)
  | clear d => exact ha.apply (.clear d) (by simp) (by simp)
  | wake => exact ha.apply (.wakeByRef cx) (by simp) (by simp)
  | call c => exact ha
  | fail e => exact ha.apply .notify (by simp) (by simp)
  | move s => exact ha
  | reader r _ => exact ha

/-- Neither do many. -/
theorem KSteps.active (hs : KSteps h cx w w') (ha : w.net.Active h cx) : w'.net.Active h cx :=
  Lib.invariant_of_steps (I := fun x => x.net.Active h cx) (fun _ _ hst => hst.active) hs ha

/-- **Step lemma.** A poll of one half leaves the waker of the other armed, and its own poll does not
wait yet. -/
theorem KStep.armed {h' : Half} (hs : KStep h cx w w') (ha : w.net.Active h cx)
    (hc : w.net.Armed h') : w'.net.Armed h' := by
  cases hs with
  | event d => exact hc.event d
  | arm =>
      intro p hp hpend hwoken
      have hp' : w.net.polls h' = some p := hp
      by_cases hh : h' = h
      · subst hh
        rw [ha.not_pending hp'] at hpend
        cases hpend
      · have hdir : h'.dir ≠ h.dir := fun heq => hh (Half.dir_injective heq)
        show Function.update w.net.armed h.dir _ h'.dir = _
        rw [Function.update_of_ne hdir]
        exact hc p hp' hpend hwoken
  | clear d => exact hc
  | wake => exact hc.wake [cx]
  | call c => exact hc
  | fail e => exact hc.notify
  | move s => exact hc
  | reader r _ => exact hc

/-- **A poll keeps it**, by induction on its steps. -/
theorem KSteps.armed {h' : Half} (hs : KSteps h cx w w') (ha : w.net.Active h cx)
    (hc : w.net.Armed h') : w'.net.Armed h' := by
  have hboth : w'.net.Active h cx ∧ w'.net.Armed h' := by
    refine Lib.invariant_of_steps (I := fun x => x.net.Active h cx ∧ x.net.Armed h') ?_ hs ⟨ha, hc⟩
    rintro x y hst ⟨ha, hc⟩
    exact ⟨hst.active ha, hst.armed ha hc⟩
  exact hboth.2

/-- The writer leaves the record reader alone. -/
theorem KSteps.reader (hs : KSteps .writer cx w w') :
    w'.stream.ktlsReader = w.stream.ktlsReader := by
  refine Lib.invariant_of_steps (I := fun x => x.stream.ktlsReader = w.stream.ktlsReader) ?_ hs rfl
  intro x y hst hx
  cases hst with
  | reader r hh => cases hh
  | event | arm | clear | wake | call | fail | move => exact hx

/-! ## What the kernel has taken -/

/-- The plaintext that the kernel takes with a single entry. -/
def Act.takes : Act W → Bytes
  | .call (.write buf (.ok n)) => buf.take n
  | _ => []

/-- The plaintext that the kernel has taken, in order. -/
def taken (t : List (Act W)) : Bytes :=
  t.flatMap Act.takes

/-- Nothing has happened, nothing was taken. -/
@[simp] theorem taken_nil : taken ([] : List (Act W)) = [] := rfl

/-- What was taken, entry by entry. -/
@[simp] theorem taken_cons (a : Act W) (t : List (Act W)) : taken (a :: t) = a.takes ++ taken t := rfl

/-- What was taken in two parts of a history. -/
@[simp] theorem taken_append (t u : List (Act W)) : taken (t ++ u) = taken t ++ taken u := by
  simp [taken]

/-- A signal takes nothing. -/
@[simp] theorem takes_signal (s : Signal W) : (Act.signal s : Act W).takes = [] := rfl

/-- A latch takes nothing. -/
@[simp] theorem takes_latch (e : IoError) : (Act.latch e : Act W).takes = [] := rfl

/-- A change of the shutdown state takes nothing. -/
@[simp] theorem takes_moved (s : Shutdown) : (Act.moved s : Act W).takes = [] := rfl

/-- Events take nothing. -/
@[simp] theorem taken_events (w : World W) (ds : List Dir) :
    taken (w.events ds).trace = taken w.trace := by
  induction ds generalizing w with
  | nil => rfl
  | cons d ds ih => rw [World.events_cons, ih]; simp

/-- A part of a poll in which the kernel takes nothing. -/
structure KAdvance (h : Half) (cx : W) (w w' : World W) : Prop where
  steps : KSteps h cx w w'
  taken : taken w'.trace = taken w.trace

namespace KAdvance

/-- Nothing has happened. -/
theorem refl (w : World W) : KAdvance h cx w w :=
  ⟨.refl, rfl⟩

/-- One part after the other. -/
theorem trans (ha : KAdvance h cx w w') (hb : KAdvance h cx w' w'') : KAdvance h cx w w'' :=
  ⟨ha.steps.trans hb.steps, hb.taken.trans ha.taken⟩

/-- Events take nothing from the caller. -/
theorem events (w : World W) (ds : List Dir) : KAdvance h cx w (w.events ds) :=
  ⟨ksteps_events w ds, taken_events w ds⟩

/-- Neither does clearing a bit. -/
theorem clear (w : World W) (d : Dir) : KAdvance h cx w (w.signal (.clear d)) :=
  ⟨.single (.clear w d), by simp⟩

/-- Neither does a call by which the kernel takes nothing. -/
theorem call (w : World W) {c : Call} (hc : (Act.call c : Act W).takes = []) :
    KAdvance h cx w (w.call c) :=
  ⟨.single (.call w c), by simp [hc]⟩

/-- Neither does latching a failure. -/
theorem fail (w : World W) (e : IoError) : KAdvance h cx w (w.writeFailure e) :=
  ⟨.single (.fail w e), by simp⟩

/-- Neither does a step of the shutdown. -/
theorem move (w : World W) (s : Shutdown) : KAdvance h cx w (w.moveTo s) :=
  ⟨.single (.move w s), by simp⟩

end KAdvance

/-- The contract of a poll in kTLS mode, called in `w`. -/
structure KtlsSpec {α : Type} (h : Half) (cx : W) (took : Bytes) (w : World W)
    (r : World W × Exit (Poll α)) : Prop where
  steps : KSteps h cx w r.1
  taken : taken r.1.trace = taken w.trace ++ took
  parked : r.2 = .returned .pending → w.net.Active h cx → r.1.net.Waiting h cx
  calm : r.2 ≠ .panicked

section specs

variable {α : Type} {took : Bytes} {r : World W × Exit (Poll α)}

/-- What takes nothing may come first. -/
theorem KtlsSpec.prepend (ha : KAdvance h cx w w') (hs : KtlsSpec h cx took w' r) :
    KtlsSpec h cx took w r where
  steps := ha.steps.trans hs.steps
  taken := by rw [hs.taken, ha.taken]
  parked hp hact := hs.parked hp (ha.steps.active hact)
  calm := hs.calm

/-- A poll that ends here, with anything but `Pending` or a panic. -/
theorem KAdvance.done (ha : KAdvance h cx w w') {x : Exit (Poll α)} (hp : x ≠ .returned .pending)
    (hc : x ≠ .panicked) : KtlsSpec h cx [] w (w', x) where
  steps := ha.steps
  taken := by rw [ha.taken, List.append_nil]
  parked h := absurd h hp
  calm := hc

/-- A poll that returns `Pending` right after it has armed its waker. -/
theorem KAdvance.arm (ha : KAdvance h cx w w') :
    KtlsSpec h cx [] w (w'.signal (.arm h.dir (.task cx)), (.returned .pending : Exit (Poll α))) where
  steps := ha.steps.tail (.arm w')
  taken := by simp [ha.taken]
  parked _ hact := by
    obtain ⟨p, hp, hw, hpend⟩ := ha.steps.active hact
    refine ⟨p, hp, hw, hpend, .inr ?_⟩
    simp [Net.apply]
  calm := by simp

/-- A poll that returns `Pending` right after it has woken its own task. -/
theorem KAdvance.wake (ha : KAdvance h cx w w') :
    KtlsSpec h cx [] w (w'.signal (.wakeByRef cx), (.returned .pending : Exit (Poll α))) where
  steps := ha.steps.tail (.wake w')
  taken := by simp [ha.taken]
  parked _ hact := by
    obtain ⟨p, hp, hw, hpend⟩ := ha.steps.active hact
    refine ⟨{ p with woken := true }, ?_, hw, hpend, .inl rfl⟩
    show (w'.net.wake [cx]).polls h = _
    rw [Net.wake_polls _ _ hp, if_pos (by simp [hw])]
  calm := by simp

/-- How a wait for the half's own direction ends. -/
inductive KWaited (h : Half) (cx : W) (site : WaitSite) (w : World W) :
    World W × Poll (IoResult Unit) → Prop
  | ready : KWaited h cx site w (w, .ready (.ok ()))
  | pending : KWaited h cx site w (w.signal (.arm h.dir (.task cx)), .pending)
  | failed (e : IoError) : KWaited h cx site w (w.call (.waitFailed site e), .ready (.error e))

/-- `poll_read_ready` and `poll_write_ready` are such waits. -/
theorem pollReady_kwaited (h : Half) (cx : W) (site : WaitSite) (gone : Option IoError) (w : World W) :
    KWaited h cx site w (pollReady site h.dir (.task cx) gone w) := by
  unfold pollReady
  rcases gone with _ | e
  · simp only
    split_ifs
    · exact .ready
    · exact .pending
  · exact .failed e

end specs

/-! ## The polls -/

/-- Spec of `ktls_poll_write`: the kernel takes what is acknowledged. -/
theorem ktlsPollWrite_ktls (cx : W) (buf : Bytes) (rounds : List SysRound) (w : World W) :
    KtlsSpec .writer cx (ackedBy buf (ktlsPollWrite cx buf rounds w).2) w
      (ktlsPollWrite cx buf rounds w) := by
  induction rounds generalizing w with
  | nil => exact (KAdvance.refl w).done (by simp) (by simp)
  | cons r rs ih =>
      have hev : KAdvance .writer cx w (w.events r.before) := .events w r.before
      have hagain : ∀ {w₁ : World W}, KAdvance .writer cx w w₁ →
          KtlsSpec .writer cx (ackedBy buf (ktlsPollWrite cx buf rs w₁).2) w
            (ktlsPollWrite cx buf rs w₁) := by
        intro w₁ ha
        exact (ih w₁).prepend ha
      unfold ktlsPollWrite
      -- the two ways in which the call may block end in the same wait
      have hwait : ∀ {w₁ : World W}, KAdvance .writer cx w w₁ →
          let o := afterWait (ktlsPollWrite cx buf rs)
            (pollReady .ktlsWrite .write (.task cx) r.gone (w₁.events r.beforePoll))
          KtlsSpec .writer cx (ackedBy buf o.2) w o := by
        intro w₁ ha o
        have ha' := ha.trans (.events w₁ r.beforePoll)
        have hk := pollReady_kwaited .writer cx .ktlsWrite r.gone (w₁.events r.beforePoll)
        rw [show Half.dir .writer = .write from rfl] at hk
        simp only [o]
        generalize pollReady .ktlsWrite .write (.task cx) r.gone _ = p at hk ⊢
        cases hk with
        | ready => exact hagain ha'
        | pending => exact ha'.arm
        | failed e => exact (ha'.trans (.call _ rfl)).done (by simp) (by simp)
      rcases tryIo_cases .write (.write buf r.result) (r.result.mapError .os) (w.events r.before) with
        ht | ht | ⟨e, hres, hkind, ht⟩
      · rw [ht]
        exact hwait hev
      · rw [ht]
        rcases hres : r.result with errno | n
        · have hcall : KAdvance .writer cx w ((w.events r.before).call (.write buf (.error errno))) :=
            hev.trans (.call _ rfl)
          simp only [Except.mapError]
          split_ifs
          · exact hwait hcall
          · exact hagain hcall
          · exact hcall.done (by simp) (by simp)
        · refine ⟨hev.steps.tail (.call _ _), ?_, by simp [Except.mapError], by simp [Except.mapError]⟩
          simp [Except.mapError, ackedBy, Act.takes]
      · rw [ht]
        have hcall : KAdvance .writer cx w ((w.events r.before).call (.write buf r.result)) := by
          refine hev.trans (.call _ ?_)
          rcases hr : r.result with errno | n
          · rfl
          · rw [hr] at hres
            cases hres
        simp only [hkind, if_true]
        exact hwait (hcall.trans (.clear _ .write))

/-- Spec of `poll_close_notify`. -/
theorem closeNotifyLoop_ktls (cx : W) (budget : ℕ) (rounds : List SysRound) (w : World W) :
    KtlsSpec .writer cx [] w (closeNotifyLoop cx budget rounds w) := by
  induction budget generalizing rounds w with
  | zero =>
      unfold closeNotifyLoop
      exact (KAdvance.refl w).wake
  | succ budget ih =>
      rcases rounds with _ | ⟨r, rs⟩
      · exact (KAdvance.refl w).done (by simp) (by simp)
      have hev : KAdvance .writer cx w (w.events r.before) := .events w r.before
      have hcall : KAdvance .writer cx w ((w.events r.before).call (.sendmsg r.result)) :=
        hev.trans (.call _ rfl)
      have hagain : ∀ {w₁ : World W}, KAdvance .writer cx w w₁ →
          KtlsSpec .writer cx [] w (closeNotifyLoop cx budget rs w₁) := by
        intro w₁ ha
        exact (ih rs w₁).prepend ha
      have hwait : ∀ {w₁ : World W}, KAdvance .writer cx w w₁ →
          KtlsSpec .writer cx [] w (afterWait (closeNotifyLoop cx budget rs)
            (pollReady .closeNotify .write (.task cx) r.gone (w₁.events r.beforePoll))) := by
        intro w₁ ha
        have ha' := ha.trans (.events w₁ r.beforePoll)
        have hk := pollReady_kwaited .writer cx .closeNotify r.gone (w₁.events r.beforePoll)
        rw [show Half.dir .writer = .write from rfl] at hk
        generalize pollReady .closeNotify .write (.task cx) r.gone _ = p at hk ⊢
        cases hk with
        | ready => exact hagain ha'
        | pending => exact ha'.arm
        | failed e => exact (ha'.trans (.call _ rfl)).done (by simp) (by simp)
      unfold closeNotifyLoop
      rcases tryIo_cases .write (.sendmsg r.result) (sendCloseNotify r.result)
        (w.events r.before) with ht | ht | ⟨e, hres, hkind, ht⟩
      · rw [ht]
        exact hwait hev
      · rw [ht]
        rcases sendCloseNotify r.result with e | ⟨⟨⟩⟩
        · simp only
          split_ifs
          · exact hagain hcall
          · exact hwait hcall
          · exact hcall.done (by simp) (by simp)
        · exact hcall.done (by simp) (by simp)
      · rw [ht]
        simp only [hkind, reduceCtorEq, if_false, if_true]
        exact hwait (hcall.trans (.clear _ .write))

/-- Spec of `poll_flush`: nothing is pending, so nothing is done. -/
theorem pollFlush_ktls (cx : W) (script : FlushScript) (hp : w.stream.pendingWrite = []) :
    KtlsSpec .writer cx [] w (pollFlush cx script w) := by
  unfold pollFlush pollPendingWrite
  rcases w.stream.writeError with _ | e
  · simp only
    rw [drainLoop_of_empty cx false script.drain hp]
    exact (KAdvance.refl w).done (by simp) (by simp)
  · exact (KAdvance.refl w).done (by simp) (by simp)

/-- Spec of `poll_write`. -/
theorem pollWrite_ktls (cx : W) (buf : Bytes) (script : WriteScript)
    (hk : w.stream.ktlsActive = true) :
    KtlsSpec .writer cx (ackedBy buf (pollWrite cx buf script w).2) w (pollWrite cx buf script w) := by
  unfold pollWrite
  by_cases hbuf : buf = []
  · rw [if_pos hbuf]
    exact (KAdvance.refl w).done (by simp) (by simp)
  rw [if_neg hbuf]
  rcases w.stream.writeError with _ | e
  swap
  · exact (KAdvance.refl w).done (by simp) (by simp)
  by_cases hs : w.stream.shutdown = .opened
  · simp only [hs, ne_eq, not_true_eq_false, if_false, hk, if_true]
    exact ktlsPollWrite_ktls cx buf script.ktls w
  · simp only [ne_eq, hs, not_false_eq_true, if_true]
    exact (KAdvance.refl w).done (by simp) (by simp)

/-- Spec of `poll_shutdown`. -/
theorem pollShutdown_ktls (cx : W) (script : ShutdownScript) (hk : w.stream.ktlsActive = true)
    (hp : w.stream.pendingWrite = []) :
    KtlsSpec .writer cx [] w (pollShutdown cx script w) := by
  unfold pollShutdown pollPendingWrite
  rcases w.stream.writeError with _ | e
  swap
  · exact (KAdvance.refl w).done (by simp) (by simp)
  simp only
  rw [drainLoop_of_empty cx false script.drain hp]
  simp only
  split_ifs with hclosed hk'
  · exact (KAdvance.refl w).done (by simp) (by simp)
  · have hmove : KAdvance .writer cx w (w.moveTo .sending) := .move w .sending
    have hn := closeNotifyLoop_ktls cx ioBudget script.notify (w.moveTo .sending)
    unfold ktlsShutdown pollCloseNotify
    generalize closeNotifyLoop cx ioBudget script.notify (w.moveTo .sending) = res at hn ⊢
    obtain ⟨w₁, (((e | ⟨⟨⟩⟩) | _) | _ | _)⟩ := res
    · have ha : KAdvance .writer cx w w₁ := hmove.trans ⟨hn.steps, by simpa using hn.taken⟩
      exact (ha.trans (.fail w₁ e)).done (by simp) (by simp)
    · have ha : KAdvance .writer cx w w₁ := hmove.trans ⟨hn.steps, by simpa using hn.taken⟩
      have hend : KAdvance .writer cx w ((w₁.moveTo .closed).call (.tcpShutdown script.tcp)) :=
        (ha.trans (.move w₁ .closed)).trans (.call _ rfl)
      simp only
      generalize script.tcp = tcp at hend ⊢
      rcases tcp with e | ⟨⟨⟩⟩
      · exact (hend.trans (.fail _ e)).done (by simp) (by simp)
      · exact hend.done (by simp) (by simp)
    · exact hn.prepend hmove
    · exact absurd rfl hn.calm
    · exact hn.prepend hmove
  · exact absurd hk hk'

/-- The rounds of `RecordReader::poll_read` on the stream's socket, by induction on the rounds: the kernel
takes nothing, and a poll that is out of budget has woken its own task. -/
theorem Polls.ktls {abi : Abi} {cap n : ℕ} {r r' : RecordReader} {k k' : RecvState W} {e : Ktls.Ending}
    (hpolls : Polls abi (recvEnv cx) cap n r k e r' k') :
    KtlsSpec .reader cx [] k.world (k'.world, (.returned e.result : Exit (Poll (IoResult Bytes)))) := by
  -- one `recvmsg`, and one wait
  have hrecv : ∀ {k k₁ : RecvState W} {got : Option RecvMsg},
      (recvEnv cx).tryRecvmsg k cap = (k₁, got) → KAdvance .reader cx k.world k₁.world := by
    intro k k₁ got heq
    have hev : KAdvance .reader cx k.world (k.world.events (k.rest.headD RecvRound.silent).before) :=
      .events _ _
    have hcall := hev.trans (.call _ (c := .recvmsg cap) rfl)
    unfold recvEnv at heq
    simp only at heq
    split_ifs at heq with hready
    · rcases hm : (k.rest.headD RecvRound.silent).msg with errno | _
      · rw [hm] at heq
        simp only at heq
        split_ifs at heq
        · obtain ⟨rfl, -⟩ := Prod.mk.inj heq
          exact hcall.trans (.clear _ .read)
        · obtain ⟨rfl, -⟩ := Prod.mk.inj heq
          exact hcall
      · rw [hm] at heq
        obtain ⟨rfl, -⟩ := Prod.mk.inj heq
        exact hcall
    · obtain ⟨rfl, -⟩ := Prod.mk.inj heq
      exact hev
  have hwait : ∀ {k k₂ : RecvState W} {p : Poll (IoResult Unit)},
      (recvEnv cx).pollReadReady k = (k₂, p) →
        KWaited .reader cx .ktlsRead (k.world.events k.round.beforePoll) (k₂.world, p) := by
    intro k k₂ p heq
    have hk := pollReady_kwaited .reader cx .ktlsRead k.round.gone
      (k.world.events k.round.beforePoll)
    unfold recvEnv at heq
    simp only at heq
    obtain ⟨rfl, rfl⟩ := Prod.mk.inj heq
    exact hk
  induction hpolls with
  | outOfBudget => exact (KAdvance.refl _).wake
  | interrupted hr _ ih => exact ih.prepend (hrecv hr)
  | @retried n r r' k k₁ k₂ k' got e hr hblocked hw _ ih =>
      have ha := (hrecv hr).trans (.events k₁.world k₁.round.beforePoll)
      have hk := hwait hw
      generalize k₁.world.events k₁.round.beforePoll = w₁ at ha hk
      generalize hw₂ : k₂.world = w₂ at hk ih
      cases hk
      exact ih.prepend ha
  | skipped hr _ _ _ ih => exact ih.prepend (hrecv hr)
  | firstAlertByte hr _ _ _ _ ih => exact ih.prepend (hrecv hr)
  | data hr => exact (hrecv hr).done (by simp [Ktls.Ending.result]) (by simp)
  | @notReady n r k k₁ k₂ got hr hblocked hw =>
      have ha := (hrecv hr).trans (.events k₁.world k₁.round.beforePoll)
      have hk := hwait hw
      generalize k₁.world.events k₁.round.beforePoll = w₁ at ha hk
      generalize k₂.world = w₂ at hk ⊢
      cases hk
      exact ha.arm
  | closed hr => exact (hrecv hr).done (by simp [Ktls.Ending.result]) (by simp)
  | rejected hr => exact (hrecv hr).done (by simp [Ktls.Ending.result]) (by simp)
  | ancillary hr => exact (hrecv hr).done (by simp [Ktls.Ending.result]) (by simp)
  | oversized hr => exact (hrecv hr).done (by simp [Ktls.Ending.result]) (by simp)
  | socket hr => exact (hrecv hr).done (by simp [Ktls.Ending.result]) (by simp)
  | @readiness n r k k₁ k₂ got e hr hblocked hw =>
      have ha := (hrecv hr).trans (.events k₁.world k₁.round.beforePoll)
      have hk := hwait hw
      generalize k₁.world.events k₁.round.beforePoll = w₁ at ha hk
      generalize k₂.world = w₂ at hk ⊢
      cases hk
      exact (ha.trans (.call _ rfl)).done (by simp [Ktls.Ending.result]) (by simp)

/-- Spec of `poll_read`: a sound reader stays sound. -/
theorem pollRead_ktls (abi : Abi) (cx : W) (cap : ℕ) (script : ReadScript)
    (hk : w.stream.ktlsActive = true) (hsound : Ktls.Sound w.stream.ktlsReader) :
    KtlsSpec .reader cx [] w (pollRead abi cx cap script w) ∧
      Ktls.Sound (pollRead abi cx cap script w).1.stream.ktlsReader := by
  unfold pollRead
  by_cases hcap : cap = 0
  · rw [if_pos hcap]
    exact ⟨(KAdvance.refl w).done (by simp) (by simp), hsound⟩
  rw [if_neg hcap, if_pos hk]
  have hnext : Ktls.Sound (w.stream.ktlsReader.poll abi
      ⟨recvEnv cx, ⟨w, RecvRound.silent, script.recv⟩, cap⟩).1 := Ktls.sound_poll hsound _
  rcases hterm : w.stream.ktlsReader.terminal with _ | t
  · obtain ⟨held, hheld⟩ := hsound hterm
    obtain ⟨e, r', k', hpolls⟩ := Ktls.exists_polls abi (recvEnv cx) cap ioBudget hheld
      ⟨w, RecvRound.silent, script.recv⟩
    have hpoll := Ktls.poll_of_polls (c := ⟨recvEnv cx, ⟨w, RecvRound.silent, script.recv⟩, cap⟩)
      hterm (Nat.pos_of_ne_zero hcap) hpolls
    have hspec := Polls.ktls hpolls
    rw [hpoll] at hnext
    unfold RecordReader.poll at hpoll
    rw [hpoll]
    exact ⟨⟨hspec.steps.tail (.reader k'.world r' rfl), hspec.taken, hspec.parked, hspec.calm⟩, hnext⟩
  · have hpoll : w.stream.ktlsReader.poll abi ⟨recvEnv cx, ⟨w, RecvRound.silent, script.recv⟩, cap⟩ =
        (w.stream.ktlsReader, ⟨w, RecvRound.silent, script.recv⟩, .returned t.verdict) :=
      Ktls.poll_of_terminal hterm _
    rw [hpoll] at hnext
    unfold RecordReader.poll at hpoll
    rw [hpoll]
    refine ⟨⟨.single (.reader w _ rfl), by simp, ?_, by simp⟩, hnext⟩
    intro hpend
    cases t <;> cases hpend

/-! ## Runs -/

/-- What holds between the operations of a stream in kTLS mode. -/
structure KtlsRun (s : Session W) : Prop where
  active : s.world.stream.ktlsActive = true
  coherent : Coherent s.world
  acked : s.acked = taken s.world.trace
  sound : Ktls.Sound s.world.stream.ktlsReader
  armed : ∀ h, s.world.net.Armed h

/-- The end of a poll. -/
theorem KtlsSpec.finish {α : Type} {took : Bytes} {r : World W × Exit (Poll α)}
    (hs : KtlsSpec h cx took (w.signal (.called h cx)) r) (leave : List Dir) :
    Stream.taken (Stream.finish h leave r.1 r.2).1.trace = Stream.taken w.trace ++ took ∧
      (Ktls.Sound r.1.stream.ktlsReader → Ktls.Sound (Stream.finish h leave r.1 r.2).1.stream.ktlsReader) ∧
      ∀ h', w.net.Armed h' → (Stream.finish h leave r.1 r.2).1.net.Armed h' := by
  have hact : (w.signal (.called h cx)).net.Active h cx := Net.active_called w.net h cx
  have htaken : Stream.taken r.1.trace = Stream.taken w.trace ++ took := by simpa using hs.taken
  have harmed : ∀ h', w.net.Armed h' → r.1.net.Armed h' := by
    intro h' hc
    exact hs.steps.armed hact hc.called
  have hleave : KSteps h cx r.1 (r.1.events leave) := ksteps_events r.1 leave
  have hwaiting : r.2 = .returned .pending → (r.1.events leave).net.Waiting h cx := by
    intro hp
    refine Lib.invariant_of_steps (I := fun x : World W => x.net.Waiting h cx)
      (r := fun x y => ∃ d, y = x.signal (.event d)) ?_ ?_ (hs.parked hp hact)
    · rintro x y ⟨d, rfl⟩ hx
      exact hx.event d
    · clear hleave
      generalize r.1 = w₁
      induction leave generalizing w₁ with
      | nil => exact .refl
      | cons d ds ih => exact .head ⟨d, rfl⟩ (ih (w₁.signal (.event d)))
  obtain ⟨w₁, x⟩ := r
  cases x with
  | returned p =>
      refine ⟨by simp [Stream.finish, htaken], fun hsound => by simpa [Stream.finish] using hsound, ?_⟩
      intro h' hc
      have hpending : p.isPending = true → (w₁.events leave).net.Waiting h cx := by
        intro hp
        apply hwaiting
        cases p with
        | ready a => cases hp
        | pending => rfl
      exact Net.Armed.returned (hleave.armed (hs.steps.active hact) (harmed h' hc)) _ hpending
  | panicked => exact ⟨htaken, id, harmed⟩
  | running => exact ⟨htaken, id, harmed⟩

/-- **One operation.** -/
theorem KtlsRun.step (abi : Abi) {s : Session W} (h : KtlsRun s) (op : Op W) :
    KtlsRun (s.step abi op).1 := by
  have hturn := step_turn abi s op h.coherent
  have hactive : (s.step abi op).1.world.stream.ktlsActive = true := by
    refine hturn.preserves (I := fun x => x.stream.ktlsActive = true) (fun _ _ hx => hx) ?_ h.active
    intro _ _ _ _ hst hx
    exact hst.ktlsActive.trans hx
  have hpending : s.world.stream.pendingWrite = [] := h.coherent h.active
  suffices hrest : (s.step abi op).1.acked = taken (s.step abi op).1.world.trace ∧
      Ktls.Sound (s.step abi op).1.world.stream.ktlsReader ∧ ∀ h', (s.step abi op).1.world.net.Armed h' by
    obtain ⟨hacked, hsound, harmed⟩ := hrest
    exact ⟨hactive, hturn.coherent h.coherent, hacked, hsound, harmed⟩
  cases op with
  | read cx cap script =>
      obtain ⟨hspec, hsound⟩ := pollRead_ktls (w := s.world.signal (.called .reader cx)) abi cx cap
        script h.active h.sound
      obtain ⟨htaken, hkeep, harmed⟩ := hspec.finish script.leave
      refine ⟨?_, ?_, fun h' => harmed h' (h.armed h')⟩
      · simpa [Session.step, h.acked] using htaken.symm
      · exact hkeep hsound
  | write cx buf script =>
      have hspec := pollWrite_ktls (w := s.world.signal (.called .writer cx)) cx buf script h.active
      obtain ⟨htaken, hkeep, harmed⟩ := hspec.finish script.leave
      refine ⟨?_, ?_, fun h' => harmed h' (h.armed h')⟩
      · simpa [Session.step, h.acked] using htaken.symm
      · apply hkeep
        rw [hspec.steps.reader]
        exact h.sound
  | flush cx script =>
      have hspec := pollFlush_ktls (w := s.world.signal (.called .writer cx)) cx script hpending
      obtain ⟨htaken, hkeep, harmed⟩ := hspec.finish script.leave
      refine ⟨?_, ?_, fun h' => harmed h' (h.armed h')⟩
      · simpa [Session.step, h.acked] using htaken.symm
      · apply hkeep
        rw [hspec.steps.reader]
        exact h.sound
  | shutdown cx script =>
      have hspec := pollShutdown_ktls (w := s.world.signal (.called .writer cx)) cx script h.active
        hpending
      obtain ⟨htaken, hkeep, harmed⟩ := hspec.finish script.leave
      refine ⟨?_, ?_, fun h' => harmed h' (h.armed h')⟩
      · simpa [Session.step, h.acked] using htaken.symm
      · apply hkeep
        rw [hspec.steps.reader]
        exact h.sound
  | event d =>
      refine ⟨?_, h.sound, fun h' => (h.armed h').event d⟩
      simpa [Session.step] using h.acked

/-- **Run lemma.** -/
theorem ktlsRun_run (abi : Abi) (disabled : Bool) (ready : Dir → Bool) (armed : Dir → Option W)
    (ops : List (Op W)) :
    KtlsRun (Session.run abi (.start (World.established true disabled (.fresh ready armed))) ops) := by
  refine Lib.Runs.exec_invariant (I := KtlsRun) (fun s op h => h.step abi op) ?_ ops
  refine ⟨rfl, coherent_established true disabled _, rfl, ?_, ?_⟩
  · intro _
    exact ⟨none, Ktls.holds_default⟩
  · intro h p hp
    cases hp

/-! ## The results -/

/-- What a stream in kTLS mode has written, after a run. -/
structure KtlsWrites (abi : Abi) (s : Session W) : Prop where
  /-- What was acknowledged is what the kernel has taken, in order, and nothing else. -/
  ledger : s.acked = taken s.world.trace
  /-- With a `poll_write` that returns `Pending` or an error the kernel has taken nothing. -/
  unacknowledged : ∀ cx buf script,
    let r := pollWrite cx buf script (s.world.signal (.called .writer cx))
    (r.2 = .returned .pending ∨ ∃ e, r.2 = .returned (.ready (.error e))) →
      taken r.1.trace = taken s.world.trace
  /-- No other poll makes the kernel take anything. -/
  others : ∀ op, (∀ cx buf script, op ≠ .write cx buf script) →
    taken (s.polled abi op).1.trace = taken s.world.trace
  /-- The stream keeps no plaintext back. -/
  pending : s.world.stream.pendingWrite = []
  /-- No poll panics. -/
  calm : ∀ op, (s.polled abi op).2 ≠ .panicked

/-- To drop the value of a result is not to panic. -/
theorem void_ne_panicked {α : Type} {x : Exit (Poll (IoResult α))} (h : x ≠ .panicked) :
    x.void ≠ .panicked := by
  rcases x with ((e | a) | _) | _ | _
  · simp [Exit.void]
  · simp [Exit.void]
  · simp [Exit.void]
  · exact absurd rfl h
  · simp [Exit.void]

/-- No operation of a run panics. -/
theorem KtlsRun.not_panicked (abi : Abi) {s : Session W} (h : KtlsRun s) (op : Op W) :
    (s.polled abi op).2 ≠ .panicked := by
  have hpending : s.world.stream.pendingWrite = [] := h.coherent h.active
  cases op with
  | read cx cap script =>
      exact void_ne_panicked (pollRead_ktls (w := s.world.signal (.called .reader cx)) abi cx cap
        script h.active h.sound).1.calm
  | write cx buf script =>
      exact void_ne_panicked (pollWrite_ktls (w := s.world.signal (.called .writer cx)) cx buf
        script h.active).calm
  | flush cx script =>
      exact (pollFlush_ktls (w := s.world.signal (.called .writer cx)) cx script hpending).calm
  | shutdown cx script =>
      exact (pollShutdown_ktls (w := s.world.signal (.called .writer cx)) cx script h.active
        hpending).calm
  | event d => simp [Session.polled]

/-- **Exactly-once, in-order plaintext on the kTLS path**, for every socket and every run. -/
theorem ktls_writes (abi : Abi) (disabled : Bool) (ready : Dir → Bool) (armed : Dir → Option W)
    (ops : List (Op W)) :
    KtlsWrites abi
      (Session.run abi (.start (World.established true disabled (.fresh ready armed))) ops) := by
  have h := ktlsRun_run abi disabled ready armed ops
  generalize Session.run abi (.start (World.established true disabled (.fresh ready armed))) ops = s at h
  have hpending : s.world.stream.pendingWrite = [] := h.coherent h.active
  refine ⟨h.acked, ?_, ?_, hpending, ?_⟩
  · intro cx buf script r hr
    have hspec := pollWrite_ktls (w := s.world.signal (.called .writer cx)) cx buf script h.active
    have hnone : ackedBy buf r.2 = [] := by
      rcases hr with hr | ⟨e, hr⟩ <;> rw [hr] <;> rfl
    have htaken := hspec.taken
    rw [show ackedBy buf (pollWrite cx buf script _).2 = [] from hnone] at htaken
    simpa using htaken
  · intro op hop
    cases op with
    | read cx cap script =>
        simpa [Session.polled] using
          (pollRead_ktls (w := s.world.signal (.called .reader cx)) abi cx cap script h.active
            h.sound).1.taken
    | write cx buf script => exact absurd rfl (hop cx buf script)
    | flush cx script =>
        simpa [Session.polled] using
          (pollFlush_ktls (w := s.world.signal (.called .writer cx)) cx script hpending).taken
    | shutdown cx script =>
        simpa [Session.polled] using
          (pollShutdown_ktls (w := s.world.signal (.called .writer cx)) cx script h.active hpending).taken
    | event d => simp [Session.polled]
  · exact h.not_panicked abi

/-- **No lost wake-up on the kTLS path.** After every run, a half whose last poll has returned `Pending`
and was not woken since is armed with its own waker on its own direction, whatever the other half has
done, and the next event of that direction wakes it. -/
theorem ktls_wakeups (abi : Abi) (disabled : Bool) (ready : Dir → Bool) (armed : Dir → Option W)
    (ops : List (Op W)) :
    let w := (Session.run abi (.start (World.established true disabled (.fresh ready armed))) ops).world
    ∀ h p, w.net.polls h = some p → p.pending = true → p.woken = false →
      w.net.armed h.dir = some (.task p.waker) ∧
      ∃ q, (w.net.event h.dir).polls h = some q ∧ q.waker = p.waker ∧ q.woken = true := by
  intro w h p hp hpend hwoken
  have harmed := (ktlsRun_run abi disabled ready armed ops).armed h
  exact ⟨harmed p hp hpend hwoken, harmed.event_wakes hp hpend hwoken⟩

end Stream

end TokioAwsLc
