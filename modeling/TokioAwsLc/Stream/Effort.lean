import TokioAwsLc.Stream.Account
import TokioAwsLc.Stream.ExactlyOnce
import TokioAwsLc.Stream.FailureLatch

/-!
# Polls return, and do not spin

A poll has at most two loops, and each of them makes at most one call that no ready bit, event or signal
pays for; on the kTLS path a loop makes as many as `IO_BUDGET` allows, and a shutdown one more. So in a run
the calls are bounded by the polls, the events and the interrupted writes, and a poll that is given enough
answers returns.

* `Op.Answered`: what is enough.
* `polled_frugal_userspace` and `KtlsRun.polled_frugal`: every poll of a session is `Frugal`.
* `within_step` is the step lemma of the account over a run, and `bounded_effort` the result.
-/

set_option linter.unusedSectionVars false

namespace TokioAwsLc.Stream

open Ktls (Abi RecordReader RecvMsg Polls ioBudget)

variable {W : Type} [DecidableEq W] {w w' : World W}

/-! ## The parts of a poll -/

/-- A poll that does nothing costs nothing. -/
theorem Frugal.idle {β : Type} {k : ℕ} {enough : Prop} {x : Exit β} (hx : x ≠ .running) :
    Frugal k enough w (w, x) := by
  refine ⟨?_, fun _ => hx⟩
  simp only
  omega

/-- A larger allowance, or more answers. -/
theorem Frugal.mono {β : Type} {k k' : ℕ} {enough enough' : Prop} {r : World W × Exit β}
    (h : Frugal k enough w r) (hk : k ≤ k') (he : enough' → enough) : Frugal k' enough' w r := by
  refine ⟨?_, fun h' => h.returns (he h')⟩
  have hcost := h.cost
  omega

/-- A poll begins in the world that its call leaves. -/
theorem Frugal.called {β : Type} {k : ℕ} {enough : Prop} {h : Half} {cx : W} {r : World W × Exit β}
    (hr : Frugal k enough (w.signal (.called h cx)) r) : Frugal k enough w r := by
  have hcost := hr.cost
  rw [balance_called] at hcost
  exact ⟨hcost, hr.returns⟩

/-- What is returned does not matter. -/
theorem Frugal.void {α : Type} {k : ℕ} {enough : Prop} {r : World W × Exit (Poll (IoResult α))}
    (h : Frugal k enough w r) : Frugal k enough w (r.1, r.2.void) := by
  refine ⟨h.cost, ?_⟩
  intro he
  have hx := h.returns he
  rcases r with ⟨w', (((e | a) | _) | _ | _)⟩
  · simp [Exit.void]
  · simp [Exit.void]
  · simp [Exit.void]
  · simp [Exit.void]
  · exact absurd rfl hx

/-- `poll_pending_write` makes at most one call that is not paid for. -/
theorem pollPendingWrite_frugal (cx : W) (reader : Bool) (rounds : List (Round Unit)) (w : World W) :
    Frugal 1 (readyBits w.net.ready + turnEvents rounds < rounds.length) w
      (pollPendingWrite cx reader rounds w) := by
  unfold pollPendingWrite
  rcases w.stream.writeError with _ | e
  · exact frugal_of_amortized (drainLoop_amortized cx reader) rounds w
  · exact .idle (by simp)

/-- Only the events during it set bits. -/
theorem pollPendingWrite_bits (cx : W) (reader : Bool) (rounds : List (Round Unit)) (w : World W) :
    readyBits (pollPendingWrite cx reader rounds w).1.net.ready ≤
      readyBits w.net.ready + turnEvents rounds := by
  unfold pollPendingWrite
  rcases w.stream.writeError with _ | e
  · exact (drainLoop_amortized cx reader).credit_le rounds w
  · simp only
    omega

/-- With nothing pending, `poll_pending_write` leaves everything as it is. -/
theorem pollPendingWrite_of_empty (cx : W) (reader : Bool) (rounds : List (Round Unit))
    (hp : w.stream.pendingWrite = []) :
    ∃ p, pollPendingWrite cx reader rounds w = (w, .returned (.ready p)) := by
  unfold pollPendingWrite
  rcases w.stream.writeError with _ | e
  · exact ⟨_, drainLoop_of_empty cx reader rounds hp⟩
  · exact ⟨_, rfl⟩

/-- The new write of `poll_write` makes one call. -/
theorem writeChunk_frugal (buf : Bytes) (answer : SslAnswer Unit) (w : World W) :
    Frugal 1 True w (writeChunk buf answer w) := by
  have hcall : (w.call (.sslWrite .fresh (buf.take (min buf.length maxPlaintext)) answer)).balance =
      w.balance + 1 := by
    rw [balance_call]
    rfl
  unfold writeChunk failWrite
  simp only
  split
  · exact .idle (by simp)
  split_ifs
  · exact ⟨hcall.le, by simp⟩
  · exact ⟨hcall.le, by simp⟩
  · refine ⟨?_, by simp⟩
    rw [balance_writeFailure]
    exact hcall.le

/-! ## The polls -/

/-- The calls of a poll that no ready bit, event or interruption pays for: the last call of each of its two
loops in userspace; in kTLS mode what `IO_BUDGET` allows, and the `shutdown(2)` that follows the alert. -/
def callsPerPoll (ktlsActive : Bool) : ℕ :=
  if ktlsActive then ioBudget + 1 else 2

/-- The environment has enough answers for the operation. A loop around libssl needs more turns than there
are ready bits and events, the loop around `write(2)` more than there are events and interruptions, and the
loop of `poll_close_notify` needs `IO_BUDGET` turns. -/
def Op.Answered (w : World W) : Op W → Prop
  | .read _ _ script =>
      w.stream.ktlsActive = false →
        readyBits w.net.ready + turnEvents script.drain < script.drain.length ∧
        readyBits w.net.ready + turnEvents script.drain + turnEvents script.read < script.read.length
  | .write _ _ script =>
      if w.stream.ktlsActive then (script.ktls.map SysRound.stalls).sum < script.ktls.length
      else readyBits w.net.ready + turnEvents script.drain < script.drain.length
  | .flush _ script =>
      w.stream.ktlsActive = false →
        readyBits w.net.ready + turnEvents script.drain < script.drain.length
  | .shutdown _ script =>
      if w.stream.ktlsActive then ioBudget ≤ script.notify.length
      else
        readyBits w.net.ready + turnEvents script.drain < script.drain.length ∧
        readyBits w.net.ready + turnEvents script.drain + turnEvents script.close <
          script.close.length
  | .event _ => True

section userspace

variable (cx : W) (hk : w.stream.ktlsActive = false)
include hk

/-- `poll_read` on libssl makes at most two: one for the pending write, and one for itself. -/
theorem pollRead_frugal_userspace (abi : Abi) (cap : ℕ) (script : ReadScript) :
    Frugal 2 (readyBits w.net.ready + turnEvents script.drain < script.drain.length ∧
      readyBits w.net.ready + turnEvents script.drain + turnEvents script.read < script.read.length) w
      (pollRead abi cx cap script w) := by
  unfold pollRead
  by_cases hcap : cap = 0
  · rw [if_pos hcap]
    exact .idle (by simp)
  rw [if_neg hcap, if_neg (by simp [hk])]
  have hdrain := pollPendingWrite_frugal cx true script.drain w
  have hbits := pollPendingWrite_bits cx true script.drain w
  generalize pollPendingWrite cx true script.drain w = p at hdrain hbits ⊢
  obtain ⟨hcost, hreturns⟩ := hdrain
  have hread := frugal_of_amortized (readLoop_amortized cx (Nat.pos_of_ne_zero hcap)) script.read p.1
  -- after an error the read loop is not entered
  have hloop : Frugal 2 (readyBits w.net.ready + turnEvents script.drain < script.drain.length ∧
      readyBits w.net.ready + turnEvents script.drain + turnEvents script.read < script.read.length) w
      (readLoop cx cap script.read p.1) := by
    refine ⟨?_, fun h => hread.returns (by omega)⟩
    have hcost' := hread.cost
    omega
  rcases p with ⟨w₁, (((e | ⟨⟨⟩⟩) | _) | _ | _)⟩
  · exact ⟨hcost.trans (by omega), by simp⟩
  · exact hloop
  · exact hloop
  · exact ⟨hcost.trans (by omega), by simp⟩
  · exact ⟨hcost.trans (by omega), fun h => absurd rfl (hreturns h.1)⟩

/-- So does `poll_write`. -/
theorem pollWrite_frugal_userspace (buf : Bytes) (script : WriteScript) :
    Frugal 2 (readyBits w.net.ready + turnEvents script.drain < script.drain.length) w
      (pollWrite cx buf script w) := by
  unfold pollWrite
  by_cases hbuf : buf = []
  · rw [if_pos hbuf]
    exact .idle (by simp)
  rw [if_neg hbuf]
  rcases w.stream.writeError with _ | e
  swap
  · exact .idle (by simp)
  simp only [hk, Bool.false_eq_true, if_false]
  split_ifs with hopen
  · exact .idle (by simp)
  have hdrain := pollPendingWrite_frugal cx false script.drain w
  generalize pollPendingWrite cx false script.drain w = p at hdrain ⊢
  obtain ⟨hcost, hreturns⟩ := hdrain
  rcases p with ⟨w₁, (((e | ⟨⟨⟩⟩) | _) | _ | _)⟩
  · exact ⟨hcost.trans (by omega), by simp⟩
  · have hev := balance_events w₁ script.before
    have hchunk := writeChunk_frugal buf script.write (w₁.events script.before)
    refine ⟨?_, fun _ => hchunk.returns trivial⟩
    have hcost' := hchunk.cost
    simp only at hcost hcost' ⊢
    omega
  · exact ⟨hcost.trans (by omega), by simp⟩
  · exact ⟨hcost.trans (by omega), by simp⟩
  · exact ⟨hcost.trans (by omega), fun h => absurd rfl (hreturns h)⟩

/-- Draining the pending write does not switch the path. -/
theorem pollPendingWrite_userspace (rounds : List (Round Unit)) :
    (pollPendingWrite cx false rounds w).1.stream.ktlsActive = false := by
  rcases he : w.stream.writeError with _ | e
  · have hc : Coherent w := by
      intro hk'
      rw [hk] at hk'
      cases hk'
    rw [(pollPendingWrite_spec cx false rounds hc he).steps.ktlsActive, hk]
  · rw [pollPendingWrite_of_latched cx false rounds he, hk]

/-- So does `poll_shutdown`. -/
theorem pollShutdown_frugal_userspace (script : ShutdownScript) :
    Frugal 2 (readyBits w.net.ready + turnEvents script.drain < script.drain.length ∧
      readyBits w.net.ready + turnEvents script.drain + turnEvents script.close < script.close.length) w
      (pollShutdown cx script w) := by
  have hdrain := pollPendingWrite_frugal cx false script.drain w
  have hbits := pollPendingWrite_bits cx false script.drain w
  have hmode := pollPendingWrite_userspace cx hk script.drain
  unfold pollShutdown
  generalize pollPendingWrite cx false script.drain w = p at hdrain hbits hmode ⊢
  obtain ⟨hcost, hreturns⟩ := hdrain
  rcases p with ⟨w₁, (((e | ⟨⟨⟩⟩) | _) | _ | _)⟩
  · exact ⟨hcost.trans (by omega), by simp⟩
  · have hclose := frugal_of_amortized (shutdownLoop_amortized cx) script.close (w₁.moveTo .sending)
    simp only at hmode hbits hcost
    simp only [World.moveTo_stream, hmode, Bool.false_eq_true, if_false]
    split_ifs
    · exact ⟨hcost.trans (by omega), by simp⟩
    · refine ⟨?_, fun h => hclose.returns (by rw [World.moveTo_net]; omega)⟩
      have hcost' := hclose.cost
      rw [balance_moveTo] at hcost'
      omega
  · exact ⟨hcost.trans (by omega), by simp⟩
  · exact ⟨hcost.trans (by omega), by simp⟩
  · exact ⟨hcost.trans (by omega), fun h => absurd rfl (hreturns h.1)⟩

end userspace

section ktls

variable (cx : W) (hk : w.stream.ktlsActive = true)
include hk

/-- `poll_read` on kTLS stops at its budget. -/
theorem pollRead_frugal_ktls (abi : Abi) (cap : ℕ) (script : ReadScript)
    (hsound : Ktls.Sound w.stream.ktlsReader) :
    Frugal ioBudget True w (pollRead abi cx cap script w) := by
  unfold pollRead
  by_cases hcap : cap = 0
  · rw [if_pos hcap]
    exact .idle (by simp)
  rw [if_neg hcap, if_pos hk]
  rcases hterm : w.stream.ktlsReader.terminal with _ | t
  · obtain ⟨held, hheld⟩ := hsound hterm
    obtain ⟨e, r', k', hpolls⟩ := Ktls.exists_polls abi (recvEnv cx) cap ioBudget hheld
      ⟨w, RecvRound.silent, script.recv⟩
    have hpoll := Ktls.poll_of_polls (c := ⟨recvEnv cx, ⟨w, RecvRound.silent, script.recv⟩, cap⟩)
      hterm (Nat.pos_of_ne_zero hcap) hpolls
    have hle := Polls.balance hpolls
    unfold RecordReader.poll at hpoll
    rw [hpoll]
    exact ⟨hle, by simp⟩
  · have hpoll : w.stream.ktlsReader.poll abi ⟨recvEnv cx, ⟨w, RecvRound.silent, script.recv⟩, cap⟩ =
        (w.stream.ktlsReader, ⟨w, RecvRound.silent, script.recv⟩, .returned t.verdict) :=
      Ktls.poll_of_terminal hterm _
    unfold RecordReader.poll at hpoll
    rw [hpoll]
    exact .idle (by simp)

/-- `poll_write` on kTLS makes one call that is not paid for. -/
theorem pollWrite_frugal_ktls (buf : Bytes) (script : WriteScript) :
    Frugal 1 ((script.ktls.map SysRound.stalls).sum < script.ktls.length) w
      (pollWrite cx buf script w) := by
  unfold pollWrite
  by_cases hbuf : buf = []
  · rw [if_pos hbuf]
    exact .idle (by simp)
  rw [if_neg hbuf]
  rcases w.stream.writeError with _ | e
  swap
  · exact .idle (by simp)
  simp only [hk, if_true]
  split_ifs
  · exact .idle (by simp)
  · exact ktlsPollWrite_frugal cx buf script.ktls w

/-- `poll_shutdown` on kTLS stops at its budget, and then shuts the socket down. -/
theorem pollShutdown_frugal_ktls (script : ShutdownScript) (hp : w.stream.pendingWrite = []) :
    Frugal (ioBudget + 1) (ioBudget ≤ script.notify.length) w (pollShutdown cx script w) := by
  obtain ⟨p, hdrain⟩ := pollPendingWrite_of_empty cx false script.drain hp
  unfold pollShutdown
  rw [hdrain]
  rcases p with e | ⟨⟨⟩⟩
  · exact .idle (by simp)
  simp only [World.moveTo_stream, hk, if_true]
  split_ifs
  · exact .idle (by simp)
  have hnotify := closeNotifyLoop_frugal cx ioBudget script.notify (w.moveTo .sending)
  unfold ktlsShutdown pollCloseNotify failWrite
  generalize closeNotifyLoop cx ioBudget script.notify (w.moveTo .sending) = q at hnotify ⊢
  obtain ⟨hcost, hreturns⟩ := hnotify
  rw [balance_moveTo] at hcost
  have hmore : q.1.balance ≤ w.balance + ((ioBudget + 1 : ℕ) : ℤ) := by
    push_cast
    omega
  rcases q with ⟨w₁, (((e | ⟨⟨⟩⟩) | _) | _ | _)⟩
  · exact ⟨by simpa using hmore, by simp⟩
  · -- the alert is out, and `shutdown(2)` is one call more
    have htcp : ∀ result, ((w₁.moveTo .closed).call (.tcpShutdown result)).balance ≤
        w.balance + ((ioBudget + 1 : ℕ) : ℤ) := by
      intro result
      have hcall : ((w₁.moveTo .closed).call (.tcpShutdown result)).balance = w₁.balance + 1 := by
        rw [balance_call, balance_moveTo]
        rfl
      simp only at hcost
      push_cast
      omega
    simp only
    rcases script.tcp with e | ⟨⟨⟩⟩
    · refine ⟨?_, by simp⟩
      rw [balance_writeFailure]
      exact htcp (.error e)
    · exact ⟨htcp (.ok ()), by simp⟩
  · exact ⟨hmore, by simp⟩
  · exact ⟨hmore, by simp⟩
  · exact ⟨hmore, hreturns⟩

end ktls

/-! ## Runs -/

/-- An event is no poll. -/
theorem frugal_event (w : World W) (d : Dir) {k : ℕ} {enough : Prop} {α : Type} (a : α) :
    Frugal k enough w (w.signal (.event d), (.returned a : Exit α)) := by
  refine ⟨?_, by simp⟩
  have hevent := balance_event w d
  simp only
  omega

/-- **One operation on libssl** keeps within the allowance of a poll. -/
theorem polled_frugal_userspace (abi : Abi) {s : Session W} (hk : s.world.stream.ktlsActive = false)
    (op : Op W) :
    Frugal (callsPerPoll false) (op.Answered s.world) s.world (s.polled abi op) := by
  cases op with
  | read cx cap script =>
      have h := pollRead_frugal_userspace (w := s.world.signal (.called .reader cx)) cx hk abi cap script
      exact h.called.void.mono le_rfl fun ha => ha hk
  | write cx buf script =>
      have h := pollWrite_frugal_userspace (w := s.world.signal (.called .writer cx)) cx hk buf script
      refine h.called.void.mono le_rfl fun ha => ?_
      rwa [Op.Answered, if_neg (by simp [hk])] at ha
  | flush cx script =>
      have h := pollPendingWrite_frugal cx false script.drain (s.world.signal (.called .writer cx))
      exact h.called.mono (by simp [callsPerPoll]) fun ha => ha hk
  | shutdown cx script =>
      have h := pollShutdown_frugal_userspace (w := s.world.signal (.called .writer cx)) cx hk script
      refine h.called.mono le_rfl fun ha => ?_
      rwa [Op.Answered, if_neg (by simp [hk])] at ha
  | event d => exact frugal_event s.world d _

/-- **One operation on kTLS** does too. -/
theorem KtlsRun.polled_frugal (abi : Abi) {s : Session W} (hr : KtlsRun s) (op : Op W) :
    Frugal (callsPerPoll true) (op.Answered s.world) s.world (s.polled abi op) := by
  have hpending : s.world.stream.pendingWrite = [] := hr.coherent hr.active
  cases op with
  | read cx cap script =>
      have h := pollRead_frugal_ktls (w := s.world.signal (.called .reader cx)) cx hr.active abi cap script
        hr.sound
      exact h.called.void.mono (by simp [callsPerPoll]) fun _ => trivial
  | write cx buf script =>
      have h := pollWrite_frugal_ktls (w := s.world.signal (.called .writer cx)) cx hr.active buf script
      refine h.called.void.mono (by simp [callsPerPoll, ioBudget]) fun ha => ?_
      rwa [Op.Answered, if_pos hr.active] at ha
  | flush cx script =>
      obtain ⟨p, hp⟩ := pollPendingWrite_of_empty (w := s.world.signal (.called .writer cx)) cx false
        script.drain hpending
      have h : Frugal (callsPerPoll true) ((Op.flush cx script).Answered s.world)
          (s.world.signal (.called .writer cx)) (s.polled abi (.flush cx script)) := by
        simp only [Session.polled, pollFlush, hp]
        exact .idle (by simp)
      exact h.called
  | shutdown cx script =>
      have h := pollShutdown_frugal_ktls (w := s.world.signal (.called .writer cx)) cx hr.active script
        hpending
      refine h.called.mono le_rfl fun ha => ?_
      rwa [Op.Answered, if_pos hr.active] at ha
  | event d => exact frugal_event s.world d _

/-- The calls of a history are paid for: by the bits that were set at first, by its events and
interruptions, or by its polls, with this many calls each. -/
def World.Within (bits perPoll : ℕ) (w : World W) : Prop :=
  w.balance ≤ bits + perPoll * w.trace.countP Act.isPoll

/-- The end of a poll costs nothing, and is not another poll. -/
theorem finish_balance {α : Type} (h : Half) (leave : List Dir) (w : World W) (x : Exit (Poll α)) :
    (finish h leave w x).1.balance ≤ w.balance ∧ w.trace <+: (finish h leave w x).1.trace := by
  cases x with
  | returned p =>
      simp only [finish]
      constructor
      · rw [balance_returned]
        exact balance_events w leave
      · -- the events before it append to the history
        have hevents : w.trace <+: (w.events leave).trace := by
          induction leave generalizing w with
          | nil => exact List.prefix_rfl
          | cons d ds ih => exact (List.prefix_append _ _).trans (ih (w.signal (.event d)))
        exact hevents.trans (List.prefix_append _ _)
  | panicked => exact ⟨le_rfl, List.prefix_rfl⟩
  | running => exact ⟨le_rfl, List.prefix_rfl⟩

/-- **Step lemma.** An operation whose poll makes no more than its share of calls keeps the account. -/
theorem within_step (abi : Abi) {s : Session W} {bits perPoll : ℕ} (hc : Coherent s.world) (op : Op W)
    (hcost : (s.polled abi op).1.balance ≤ s.world.balance + perPoll) (h : s.world.Within bits perPoll) :
    (s.step abi op).1.world.Within bits perPoll := by
  unfold World.Within at h ⊢
  rcases polled_spec abi s op hc with ⟨d, rfl⟩ | ⟨half, cx, took, leave, hs, hstep⟩
  · have hevent := balance_event s.world d
    have hsame : (s.step abi (.event d)).1.world.trace.countP Act.isPoll =
        s.world.trace.countP Act.isPoll := by
      simp [Session.step, Act.isPoll]
    rw [hsame]
    exact hevent.trans h
  · obtain ⟨hend, hprefix⟩ := finish_balance half leave (s.polled abi op).1 (s.polled abi op).2
    have hpolls : s.world.trace.countP Act.isPoll + 1 ≤
        (s.step abi op).1.world.trace.countP Act.isPoll := by
      have hcalled := ((Steps.trace_prefix hs.steps).trans hprefix).sublist.countP_le (p := Act.isPoll)
      rw [hstep]
      simpa [Act.isPoll] using hcalled
    rw [hstep] at hpolls ⊢
    generalize (finish half leave (s.polled abi op).1 (s.polled abi op).2).1 = w' at hend hpolls ⊢
    calc w'.balance ≤ s.world.balance + perPoll := hend.trans hcost
      _ ≤ bits + perPoll * s.world.trace.countP Act.isPoll + perPoll := by omega
      _ = bits + perPoll * ((s.world.trace.countP Act.isPoll + 1 : ℕ) : ℤ) := by push_cast; ring
      _ ≤ bits + perPoll * w'.trace.countP Act.isPoll := by gcongr

/-- What a stream asks of libssl and the kernel, after a run that began with `bits` ready bits. -/
structure BoundedEffort (abi : Abi) (ktlsActive : Bool) (bits : ℕ) (s : Session W) : Prop where
  /-- Each call was paid for by a ready bit, by an event, by the signal that interrupted it, or by the poll
  that made it. -/
  calls : s.world.trace.countP Act.isCall + readyBits s.world.net.ready ≤
    bits + s.world.trace.countP Act.isEvent + s.world.trace.countP Act.isInterruption +
      callsPerPoll ktlsActive * s.world.trace.countP Act.isPoll
  /-- A poll returns, if the environment has enough answers. -/
  returns : ∀ op, op.Answered s.world → ∃ p, (s.polled abi op).2 = .returned p

/-- The allowance in terms of what has happened: calls, bits, events, interruptions and polls. -/
theorem World.Within.calls {bits perPoll : ℕ} (h : w.Within bits perPoll) :
    w.trace.countP Act.isCall + readyBits w.net.ready ≤
      bits + w.trace.countP Act.isEvent + w.trace.countP Act.isInterruption +
        perPoll * w.trace.countP Act.isPoll := by
  unfold World.Within World.balance at h
  have hcast : ((perPoll * w.trace.countP Act.isPoll : ℕ) : ℤ) =
      perPoll * w.trace.countP Act.isPoll := by push_cast; ring
  omega

/-- A poll that neither panics nor is cut short has returned. -/
theorem returned_of_ne {α : Type} {x : Exit α} (hpanic : x ≠ .panicked) (hrun : x ≠ .running) :
    ∃ p, x = .returned p := by
  cases x with
  | returned p => exact ⟨p, rfl⟩
  | panicked => exact absurd rfl hpanic
  | running => exact absurd rfl hrun

/-- **Polls return, and do not spin**, on either data path, for every socket and every run. -/
theorem bounded_effort (abi : Abi) (ktlsActive disabled : Bool) (ready : Dir → Bool)
    (armed : Dir → Option W) (ops : List (Op W)) :
    BoundedEffort abi ktlsActive (readyBits ready)
      (Session.run abi (.start (World.established ktlsActive disabled (.fresh ready armed))) ops) := by
  have hstart : (World.established ktlsActive disabled (.fresh ready armed)).Within (readyBits ready)
      (callsPerPoll ktlsActive) := by
    simp [World.Within, World.balance, World.established, Net.fresh]
  rcases ktlsActive with _ | _
  · set s := Session.run abi (.start (World.established false disabled (.fresh ready armed))) ops
    have hinv : Books s.world ∧ s.world.Within (readyBits ready) (callsPerPoll false) := by
      refine Lib.Runs.exec_invariant (I := fun s : Session W => Books s.world ∧
        s.world.Within (readyBits ready) (callsPerPoll false)) ?_
        ⟨books_fromParts disabled (.fresh ready armed), hstart⟩ ops
      rintro s op ⟨hb, hw⟩
      exact ⟨(step_turn abi s op hb.coherent).books hb,
        within_step abi hb.coherent op (polled_frugal_userspace abi hb.userspace op).cost hw⟩
    obtain ⟨hb, hw⟩ := hinv
    refine ⟨hw.calls, ?_⟩
    intro op hop
    exact returned_of_ne (hb.not_panicked abi op) ((polled_frugal_userspace abi hb.userspace op).returns hop)
  · set s := Session.run abi (.start (World.established true disabled (.fresh ready armed))) ops
    have hinv : KtlsRun s ∧ s.world.Within (readyBits ready) (callsPerPoll true) := by
      refine Lib.Runs.exec_invariant (I := fun s : Session W => KtlsRun s ∧
        s.world.Within (readyBits ready) (callsPerPoll true)) ?_
        ⟨ktlsRun_run abi disabled ready armed [], hstart⟩ ops
      rintro s op ⟨hr, hw⟩
      exact ⟨hr.step abi op, within_step abi hr.coherent op (hr.polled_frugal abi op).cost hw⟩
    obtain ⟨hr, hw⟩ := hinv
    refine ⟨hw.calls, ?_⟩
    intro op hop
    exact returned_of_ne (hr.not_panicked abi op) ((hr.polled_frugal abi op).returns hop)

end TokioAwsLc.Stream
