import TokioAwsLc.Io.Wakeup
import TokioAwsLc.Lib.Trace
import TokioAwsLc.Stream.Poll

/-!
# The stream as a guarded machine

The poll functions of the stream never do more than a few kinds of small step. This module says which,
independently of the functions: it is the abstract model that every invariant of a run is proved
over, and `Refinement` shows that each poll function is a chain of its steps.

* `Permits w c`: the state in which the stream may make the call `c`.
* `Call.failure c`: the error by which `c` ends the write path, if it does.
* `Call.effect c`: what the answer of a call that does not fail changes in the stream.
* `Emits h cx w s`: the reactor signals a poll of the half `h` with the waker `cx` may emit.
* `Step h cx`: one small step. A call that fails and the latching of its error are one step, and so
  are an accepted close_notify and the move to `closed`; nothing can come between them.
* `Quiet h cx`: chains of signals, which touch nothing but the reactor.
-/

set_option linter.unusedSectionVars false

namespace TokioAwsLc.Stream

open Relation

variable {W : Type} [DecidableEq W]

/-! ## Failing calls -/

/-- The waits whose failure is a failure of the write path. -/
def WaitSite.isWrite : WaitSite → Bool
  | .drain => true
  | .shutdown => true
  | .closeNotify => true
  | .read => false
  | .ktlsWrite => false
  | .ktlsRead => false

/-- The error with which a call ends the write path for good: `SSL_write` or `SSL_shutdown` stopped
for another reason than a blocked socket, a close_notify `sendmsg` that neither took both bytes nor
may be retried, a TCP half-close that failed, or a failed wait for one of these. -/
def Call.failure : Call → Option IoError
  | .sslWrite _ _ (.stopped _ code diag) =>
      if IsWant code then none else some (sslIoError "SSL_write" code diag)
  | .sslShutdown (.stopped _ code diag) =>
      if IsWant code then none else some (sslIoError "SSL_shutdown" code diag)
  | .sendmsg r =>
      match sendCloseNotify r with
      | .ok () => none
      | .error e => if e.kind = .interrupted ∨ e.kind = .wouldBlock then none else some e
  | .tcpShutdown (.error e) => some e
  | .waitFailed site e => if site.isWrite then some e else none
  | _ => none

/-- The write-path failure a single entry is. -/
def Act.fails : Act W → Option IoError
  | .call c => c.failure
  | _ => none

/-- The write-path failures of a history, in order. -/
def failures (t : List (Act W)) : List IoError :=
  t.filterMap Act.fails

/-- A signal is no failure. -/
@[simp] theorem fails_signal (s : Signal W) : (Act.signal s : Act W).fails = none := rfl

/-- The latch itself is no failure. -/
@[simp] theorem fails_latch (e : IoError) : (Act.latch e : Act W).fails = none := rfl

/-- A change of the shutdown state is no failure. -/
@[simp] theorem fails_moved (s : Shutdown) : (Act.moved s : Act W).fails = none := rfl

/-- A call fails as libssl or the kernel says. -/
@[simp] theorem fails_call (c : Call) : (Act.call c : Act W).fails = c.failure := rfl

/-- Nothing has happened, nothing has failed. -/
@[simp] theorem failures_nil : failures ([] : List (Act W)) = [] := rfl

/-- The failures of two parts of a history. -/
@[simp] theorem failures_append (t u : List (Act W)) :
    failures (t ++ u) = failures t ++ failures u := by
  simp [failures]

/-- The failures, entry by entry. -/
@[simp] theorem failures_cons (a : Act W) (t : List (Act W)) :
    failures (a :: t) = a.fails.toList ++ failures t := by
  unfold failures
  rcases h : a.fails with _ | e <;> simp [h]

/-! ## Guards and effects -/

/-- When the stream may make a call. -/
def Permits (w : World W) : Call → Prop
  | .sslWrite .retry buf _ =>
      w.stream.ktlsActive = false ∧ w.stream.writeError = none ∧ w.stream.pendingWrite = buf ∧
        buf ≠ []
  | .sslWrite .fresh buf _ =>
      w.stream.ktlsActive = false ∧ w.stream.writeError = none ∧ w.stream.shutdown = .opened ∧
        w.stream.pendingWrite = [] ∧ buf ≠ [] ∧ buf.length ≤ maxPlaintext
  | .sslRead _ _ => w.stream.ktlsActive = false ∧ w.stream.writeError = none
  | .sslShutdown _ =>
      w.stream.ktlsActive = false ∧ w.stream.writeError = none ∧ w.stream.shutdown = .sending ∧
        w.stream.pendingWrite = []
  | .write _ _ =>
      w.stream.ktlsActive = true ∧ w.stream.writeError = none ∧ w.stream.shutdown = .opened
  | .sendmsg _ =>
      w.stream.ktlsActive = true ∧ w.stream.writeError = none ∧ w.stream.shutdown = .sending
  | .recvmsg _ => w.stream.ktlsActive = true
  | .tcpShutdown _ =>
      w.stream.ktlsActive = true ∧ w.stream.writeError = none ∧ w.stream.shutdown = .closed
  | .waitFailed site _ =>
      if site = .ktlsRead then w.stream.ktlsActive = true else w.stream.writeError = none

/-- What the answer of a call changes in the stream. -/
def Call.effect (c : Call) (w : World W) : World W :=
  match c with
  | .sslWrite .retry _ (.done _) => w.setPending []
  | .sslWrite .fresh buf (.stopped _ _ _) => w.setPending buf
  | .sslShutdown (.done _) => w.moveTo .closed
  | .sendmsg (.ok 2) => w.moveTo .closed
  | _ => w

/-- The signals a poll of `h` with the waker `cx` may emit or meet. -/
def Emits (h : Half) (cx : W) (w : World W) : Signal W → Prop
  | .called _ _ => False
  | .returned _ _ => False
  | .register h' cx' => h' = h ∧ cx' = cx ∧ w.stream.ktlsActive = false
  | .arm _ wk => if w.stream.ktlsActive then wk = .task cx else wk = .shared
  | .clear _ => True
  | .notify => True
  | .event _ => True
  | .wakeByRef cx' => cx' = cx ∧ w.stream.ktlsActive = true

/-! ## Steps -/

/-- One small step of a poll of `h` with the waker `cx`. -/
inductive Step (h : Half) (cx : W) : World W → World W → Prop
  | signal {w : World W} {s : Signal W} (hs : Emits h cx w s) : Step h cx w (w.signal s)
  | call {w : World W} {c : Call} (hc : Permits w c) (hf : c.failure = none) :
      Step h cx w (c.effect (w.call c))
  | failed {w : World W} {c : Call} {e : IoError} (hc : Permits w c) (hf : c.failure = some e) :
      Step h cx w ((w.call c).writeFailure e)
  | sending {w : World W} (he : w.stream.writeError = none) (hp : w.stream.pendingWrite = [])
      (hs : w.stream.shutdown ≠ .closed) : Step h cx w (w.moveTo .sending)
  | reader {w : World W} {r : Ktls.RecordReader} (hk : w.stream.ktlsActive = true) :
      Step h cx w (w.setReader r)

/-- A chain of small steps. -/
abbrev Steps (h : Half) (cx : W) : World W → World W → Prop :=
  ReflTransGen (Step h cx)

/-- One signal. -/
def Emit (h : Half) (cx : W) (w w' : World W) : Prop :=
  ∃ s, Emits h cx w s ∧ w' = w.signal s

/-- A chain of signals. -/
abbrev Quiet (h : Half) (cx : W) : World W → World W → Prop :=
  ReflTransGen (Emit h cx)

section effects

variable (c : Call) (w : World W)

/-- What a call leaves alone. -/
@[simp] theorem effect_net : (c.effect w).net = w.net := by
  unfold Call.effect
  split <;> rfl

/-- No call switches the path. -/
@[simp] theorem effect_ktlsActive : (c.effect w).stream.ktlsActive = w.stream.ktlsActive := by
  unfold Call.effect
  split <;> rfl

/-- No call latches an error by itself. -/
@[simp] theorem effect_writeError : (c.effect w).stream.writeError = w.stream.writeError := by
  unfold Call.effect
  split <;> rfl

/-- What an answer changes is recorded only when it moves the shutdown field. -/
theorem effect_trace :
    (c.effect w).trace = w.trace ∨ (c.effect w).trace = w.trace ++ [.moved .closed] := by
  unfold Call.effect
  split <;> simp

end effects

/-! ## What every step keeps -/

section keeps

variable {h : Half} {cx : W} {w w' : World W}

/-- The data path is chosen once. -/
theorem Step.ktlsActive (hs : Step h cx w w') : w'.stream.ktlsActive = w.stream.ktlsActive := by
  cases hs <;> simp

/-- So a poll stays on its path. -/
theorem Steps.ktlsActive (hs : Steps h cx w w') : w'.stream.ktlsActive = w.stream.ktlsActive :=
  Lib.invariant_of_steps (I := fun x => x.stream.ktlsActive = w.stream.ktlsActive)
    (fun _ _ hst hI => hst.ktlsActive.trans hI) hs rfl

/-- No step begins or ends a poll. -/
theorem Step.active (hs : Step h cx w w') (ha : w.net.Active h cx) : w'.net.Active h cx := by
  cases hs with
  | signal hs => exact ha.apply _ (by rintro cx' rfl; exact hs) (by rintro b rfl; exact hs)
  | call _ _ => simpa using ha
  | failed _ _ => exact ha.apply .notify (by simp) (by simp)
  | sending _ _ _ => exact ha
  | reader _ => exact ha

/-- A poll of `h` with the waker `cx` is under way, and the calls of libssl are its own. -/
structure Polling (h : Half) (cx : W) (w : World W) : Prop where
  active : w.net.Active h cx
  half : (asked w.trace).half = some h

/-- Such a poll may return `Pending`: it is parked in the direction that its last blocked call has asked
for. -/
def Waits (h : Half) (cx : W) (w : World W) : Prop :=
  ∃ d, (asked w.trace).dir h = some d ∧ w.net.Parked h cx d

/-- Nobody else's poll begins while it is under way. -/
theorem Emits.asked {s : Signal W} (hs : Emits h cx w s) :
    asked (w.signal s).trace = asked w.trace := by
  rw [World.signal_trace, asked_concat, next_signal]
  rintro h' cx' rfl
  exact hs

/-- A poll that is called is under way. -/
theorem polling_called (w : World W) (h : Half) (cx : W) : Polling h cx (w.signal (.called h cx)) where
  active := Net.active_called w.net h cx
  half := by simp [Asked.next]

/-- No step begins or ends a poll, as the history has it. -/
theorem Step.polling (hs : Step h cx w w') (hp : Polling h cx w) : Polling h cx w' := by
  refine ⟨hs.active hp.active, ?_⟩
  cases hs with
  | signal hs => rw [hs.asked, hp.half]
  | @call c _ _ =>
      rcases effect_trace c (w.call c) with ht | ht
      · rw [ht]
        simpa using hp.half
      · rw [ht]
        simpa using hp.half
  | failed _ _ =>
      rw [World.writeFailure_trace, asked_concat, next_signal _ (by simp)]
      simpa using hp.half
  | sending _ _ _ => simpa using hp.half
  | reader _ => exact hp.half

/-- A poll under way stays under way. -/
theorem Steps.polling (hs : Steps h cx w w') (hp : Polling h cx w) : Polling h cx w' :=
  Lib.invariant_of_steps (I := Polling h cx) (fun _ _ hst => Step.polling hst) hs hp

/-- The stream is closing, and nothing is pending. -/
def Closing (w : World W) : Prop :=
  w.stream.shutdown ≠ .opened ∧ w.stream.pendingWrite = []

/-- Once the stream is closing, it stays so: no step writes new plaintext or reopens it. -/
theorem Step.closing (hs : Step h cx w w') (hc : Closing w) : Closing w' := by
  obtain ⟨hsh, hp⟩ := hc
  cases hs with
  | signal _ => exact ⟨hsh, hp⟩
  | @call c hperm hf =>
      unfold Call.effect
      split
      · exact ⟨hsh, rfl⟩
      · exact absurd hperm.2.2.1 hsh
      · exact ⟨by simp, hp⟩
      · exact ⟨by simp, hp⟩
      · exact ⟨hsh, hp⟩
  | failed _ _ => exact ⟨hsh, hp⟩
  | sending _ _ _ => exact ⟨by simp, hp⟩
  | reader _ => exact ⟨hsh, hp⟩

/-- A stream that is closing stays so in a whole poll. -/
theorem Steps.closing (hs : Steps h cx w w') (hc : Closing w) : Closing w' :=
  Lib.invariant_of_steps (I := Closing) (fun _ _ hst => Step.closing hst) hs hc

/-- A kTLS stream has nothing pending. -/
def Coherent (w : World W) : Prop :=
  w.stream.ktlsActive = true → w.stream.pendingWrite = []

/-- A fresh stream has nothing pending. -/
theorem coherent_established (ktls disabled : Bool) (net : Net W) :
    Coherent (World.established ktls disabled net) :=
  fun _ => rfl

/-- Only a userspace stream is ever left with something pending. -/
theorem Step.coherent (hs : Step h cx w w') (hc : Coherent w) : Coherent w' := by
  intro hk
  have hp : w.stream.pendingWrite = [] := hc (hs.ktlsActive.symm.trans hk)
  cases hs with
  | signal _ => exact hp
  | @call c hperm hf =>
      unfold Call.effect at hk ⊢
      split at hk
      · rfl
      · exact absurd (hperm.1.symm.trans hk) (by simp)
      · exact hp
      · exact hp
      · exact hp
  | failed _ _ => exact hp
  | sending _ _ _ => exact hp
  | reader _ => exact hp

end keeps

/-! ## Quiet chains -/

section quiet

variable {h : Half} {cx : W} {w w' : World W}

/-- A signal that the poll may emit is a quiet step. -/
theorem Emits.quiet {s : Signal W} (hs : Emits h cx w s) : Quiet h cx w (w.signal s) :=
  .single ⟨s, hs, rfl⟩

/-- Events are always met. -/
theorem quiet_events (ds : List Dir) : Quiet h cx w (w.events ds) := by
  induction ds generalizing w with
  | nil => exact .refl
  | cons d ds ih => exact (Emits.quiet (s := .event d) trivial).trans ih

/-- So is notifying the halves. -/
theorem quiet_notify : Quiet h cx w (w.signal .notify) :=
  Emits.quiet (s := .notify) trivial

/-- So is clearing a bit. -/
theorem quiet_clear {d : Dir} : Quiet h cx w (w.signal (.clear d)) :=
  Emits.quiet (s := .clear d) trivial

/-- Quiet steps are steps. -/
theorem Quiet.steps (hq : Quiet h cx w w') : Steps h cx w w' := by
  refine ReflTransGen.mono ?_ _ _ hq
  rintro a b ⟨s, hs, rfl⟩
  exact .signal hs

/-- Quiet steps leave the stream as it is. -/
@[simp] theorem Quiet.stream (hq : Quiet h cx w w') : w'.stream = w.stream := by
  refine Lib.invariant_of_steps (I := fun x => x.stream = w.stream) ?_ hq rfl
  rintro a b ⟨s, -, rfl⟩ hI
  exact hI

/-- Signals of a poll say nothing about what libssl wants. -/
theorem Quiet.asked (hq : Quiet h cx w w') : asked w'.trace = asked w.trace := by
  refine Lib.invariant_of_steps (I := fun x => Stream.asked x.trace = Stream.asked w.trace) ?_ hq rfl
  rintro a b ⟨s, hs, rfl⟩ hI
  exact hs.asked.trans hI

/-- After a blocked call, the half is known to wait for what the call has asked for. -/
theorem Polling.asked_call {c : Call} {d : Dir} (hp : Polling h cx w)
    (hq : Quiet h cx (w.call c) w') (hc : c.wants = some d) : (Stream.asked w'.trace).dir h = some d := by
  rw [hq.asked, World.call_trace, asked_concat]
  exact next_call_wants _ hp.half hc

/-- Quiet steps take nothing from the caller. -/
theorem Quiet.accepted (hq : Quiet h cx w w') : accepted w'.trace = accepted w.trace := by
  refine Lib.invariant_of_steps (I := fun x => Stream.accepted x.trace = Stream.accepted w.trace)
    ?_ hq rfl
  rintro a b ⟨s, -, rfl⟩ hI
  simp [hI]

/-- Quiet steps meet no failure. -/
theorem Quiet.failures (hq : Quiet h cx w w') : failures w'.trace = failures w.trace := by
  refine Lib.invariant_of_steps (I := fun x => Stream.failures x.trace = Stream.failures w.trace)
    ?_ hq rfl
  rintro a b ⟨s, -, rfl⟩ hI
  simp [hI]

end quiet

end TokioAwsLc.Stream
