import TokioAwsLc.Stream.Refinement

/-!
# Polls and runs of the guarded machine

The kTLS helpers and the four poll functions meet `PollSpec`, and so every operation of a session is
one *turn* of the guarded machine.

* `Notified`: what `poll_close_notify` ends in. Its last call is not part of the chain of steps yet:
  the caller latches or moves the shutdown field together with it.
* `pollRead_spec`, `pollWrite_spec`, `pollFlush_spec`, `pollShutdown_spec`.
* `Turn`: a readiness event, or a poll that is called, takes steps, and may return. `step_turn` says
  that `Session.step` is a turn, and `run_invariant` is the induction over a run.
-/

set_option linter.unusedSectionVars false

namespace TokioAwsLc.Stream

open Ktls (Abi RecordReader RecvEnv RecvMsg ioBudget)

variable {W : Type} [DecidableEq W] {h : Half} {cx : W} {w w' : World W}

/-! ## The kTLS helpers -/

/-- `try_io` makes no call, or it makes the call, and clears the ready bit if that would block. -/
theorem tryIo_cases {α : Type} (d : Dir) (c : Call) (result : IoResult α) (w : World W) :
    tryIo d c result w = (w, .error (.simple .wouldBlock)) ∨
      tryIo d c result w = (w.call c, result) ∨
      ∃ e, result = .error e ∧ e.kind = .wouldBlock ∧
        tryIo d c result w = ((w.call c).signal (.clear d), .error e) := by
  unfold tryIo
  split_ifs with hready
  · right
    rcases result with e | a
    · simp only
      split_ifs with hkind
      · exact Or.inr ⟨e, rfl, hkind, rfl⟩
      · exact Or.inl rfl
    · exact Or.inl rfl
  · exact Or.inl rfl

/-- Spec of `ktls_poll_write`. -/
theorem ktlsPollWrite_spec (cx : W) (buf : Bytes) (rounds : List SysRound) (w : World W)
    (hk : w.stream.ktlsActive = true) (he : w.stream.writeError = none)
    (hs : w.stream.shutdown = .opened) :
    PollSpec .writer cx [] w (ktlsPollWrite cx buf rounds w) := by
  induction rounds generalizing w with
  | nil => exact (Advance.refl w).done (by simp) (by simp)
  | cons r rs ih =>
      -- whether or not the call is made, the loop is left in an undisturbed world with this stream
      have hturn : ∃ w₁ e, Advance .writer cx w w₁ ∧ w₁.stream = w.stream ∧
          tryIo .write (.write buf r.result) (r.result.mapError .os) (w.events r.before) =
            (w₁, e) := by
        have hev : Quiet .writer cx w (w.events r.before) := quiet_events _
        have hc : Advance .writer cx (w.events r.before)
            ((w.events r.before).call (.write buf r.result)) :=
          Advance.call (c := .write buf r.result) (by simp [Permits, hk, he, hs]) rfl rfl
        rcases tryIo_cases .write (.write buf r.result) (r.result.mapError .os)
          (w.events r.before) with ht | ht | ⟨e, -, -, ht⟩
        · exact ⟨_, _, hev.advance, hev.stream, ht⟩
        · exact ⟨_, _, hev.advance.trans hc, hev.stream, ht⟩
        · exact ⟨_, _, (hev.advance.trans hc).trans quiet_clear.advance, hev.stream, ht⟩
      obtain ⟨w₁, e, ha, hst, ht⟩ := hturn
      unfold ktlsPollWrite
      rw [ht]
      have hrec : ∀ {w₂ : World W}, Quiet .writer cx w₁ w₂ →
          PollSpec .writer cx [] w (ktlsPollWrite cx buf rs w₂) := by
        intro w₂ hq
        have hst₂ : w₂.stream = w.stream := hq.stream.trans hst
        exact (ih w₂ (by rw [hst₂, hk]) (by rw [hst₂, he]) (by rw [hst₂, hs])).prepend
          (ha.trans hq.advance)
      rcases e with e | n
      · simp only
        split_ifs
        · have hwait := pollReady_waited .writer cx .ktlsWrite .write r.gone
            (quiet_events (w := w₁) r.beforePoll) (by rw [hst, hk])
          generalize pollReady .ktlsWrite .write (.task cx) r.gone _ = res at hwait ⊢
          cases hwait with
          | ready hq => exact hrec hq
          | pending hq _ =>
              refine (ha.trans hq.advance).park fun hf => ?_
              rw [hk] at hf
              cases hf
          | @failed w₂ e hq =>
              have hst₂ : w₂.stream = w.stream := hq.stream.trans hst
              have hw : Advance .writer cx w₂ (w₂.call (.waitFailed .ktlsWrite e)) :=
                Advance.call (c := .waitFailed .ktlsWrite e) (by simp [Permits, hst₂, he]) rfl rfl
              exact ((ha.trans hq.advance).trans hw).done (by simp) (by simp)
        · exact hrec .refl
        · exact ha.done (by simp) (by simp)
      · exact ha.done (by simp) (by simp)

/-- What `poll_close_notify` ends in. -/
inductive Notified (h : Half) (cx : W) (w : World W) :
    World W × Exit (Poll (IoResult Unit)) → Prop
  | sent {w' : World W} (ha : Advance h cx w w') (hs : w'.stream = w.stream) :
      Notified h cx w (w'.call (.sendmsg (.ok 2)), .returned (.ready (.ok ())))
  | failed {w' : World W} {c : Call} {e : IoError} (ha : Advance h cx w w')
      (hc : Permits w' c) (hf : c.failure = some e) (hacc : (Act.call c : Act W).accepts = []) :
      Notified h cx w (w'.call c, .returned (.ready (.error e)))
  | pending {w' : World W} (ha : Advance h cx w w') : Notified h cx w (w', .returned .pending)
  | running {w' : World W} (ha : Advance h cx w w') : Notified h cx w (w', .running)

/-- A part that leaves the stream alone may come first. -/
theorem Notified.prepend (ha : Advance h cx w w') (hs : w'.stream = w.stream)
    {r : World W × Exit (Poll (IoResult Unit))} (hn : Notified h cx w' r) :
    Notified h cx w r := by
  cases hn with
  | sent ha' hs' => exact .sent (ha.trans ha') (hs'.trans hs)
  | failed ha' hc hf hacc => exact .failed (ha.trans ha') hc hf hacc
  | pending ha' => exact .pending (ha.trans ha')
  | running ha' => exact .running (ha.trans ha')

/-- The close_notify was accepted only if the kernel took both bytes. -/
theorem sendCloseNotify_eq_ok {r : Except ℤ ℕ} (hr : sendCloseNotify r = .ok ()) :
    r = .ok 2 := by
  rcases r with errno | sent
  · cases hr
  · change checkCloseNotifyWrite sent = .ok () at hr
    unfold checkCloseNotifyWrite at hr
    split_ifs at hr with h2
    rw [h2]

/-- A close_notify that was not accepted changes nothing in the stream. -/
theorem effect_sendmsg_of_error {r : Except ℤ ℕ} {e : IoError}
    (hr : sendCloseNotify r = .error e) : (Call.sendmsg r).effect w = w := by
  unfold Call.effect
  split <;> simp_all [sendCloseNotify, checkCloseNotifyWrite]

/-- A close_notify that was not accepted ends the write path, unless it may be retried. -/
theorem failure_sendmsg_of_error {r : Except ℤ ℕ} {e : IoError}
    (hr : sendCloseNotify r = .error e) :
    (Call.sendmsg r).failure =
      if e.kind = .interrupted ∨ e.kind = .wouldBlock then none else some e := by
  simp only [Call.failure, hr]

/-- How `ktls_poll_write` and `poll_close_notify` go on after a wait for writability. -/
def afterWait {α : Type} (next : World W → World W × Exit (Poll (IoResult α))) :
    World W × Poll (IoResult Unit) → World W × Exit (Poll (IoResult α))
  | (w, .ready (.ok ())) => next w
  | (w, .ready (.error e)) => (w, .returned (.ready (.error e)))
  | (w, .pending) => (w, .returned .pending)

/-- Spec of `poll_close_notify`, entered in the state `sending`. -/
theorem closeNotifyLoop_spec (cx : W) (budget : ℕ) (rounds : List SysRound) (w : World W)
    (hk : w.stream.ktlsActive = true) (he : w.stream.writeError = none)
    (hs : w.stream.shutdown = .sending) :
    Notified .writer cx w (closeNotifyLoop cx budget rounds w) := by
  induction budget generalizing rounds w with
  | zero =>
      unfold closeNotifyLoop
      exact .pending (Emits.quiet (s := .wakeByRef cx) ⟨rfl, hk⟩).advance
  | succ budget ih =>
      rcases rounds with _ | ⟨r, rs⟩
      · exact .running (.refl w)
      have hev : Quiet .writer cx w (w.events r.before) := quiet_events _
      have hperm : Permits (w.events r.before) (.sendmsg r.result) := by
        simp [Permits, hk, he, hs]
      have hrec : ∀ {w₂ : World W}, Advance .writer cx w w₂ → w₂.stream = w.stream →
          Notified .writer cx w (closeNotifyLoop cx budget rs w₂) := by
        intro w₂ ha hst
        exact (ih rs w₂ (by rw [hst, hk]) (by rw [hst, he]) (by rw [hst, hs])).prepend ha hst
      -- a wait for writability, from any undisturbed world with this stream
      have hblocked : ∀ {w₁ : World W}, Advance .writer cx w w₁ → w₁.stream = w.stream →
          Notified .writer cx w (afterWait (closeNotifyLoop cx budget rs)
            (pollReady .closeNotify .write (.task cx) r.gone (w₁.events r.beforePoll))) := by
        intro w₁ ha hst
        have hwait := pollReady_waited .writer cx .closeNotify .write r.gone
          (quiet_events (w := w₁) r.beforePoll) (by rw [hst, hk])
        generalize pollReady .closeNotify .write (.task cx) r.gone _ = res at hwait ⊢
        cases hwait with
        | ready hq => exact hrec (ha.trans hq.advance) (hq.stream.trans hst)
        | pending hq _ => exact .pending (ha.trans hq.advance)
        | @failed w₂ e hq =>
            exact .failed (ha.trans hq.advance) (by simp [Permits, hq.stream, hst, he]) rfl rfl
      -- a `sendmsg` that may be retried
      have hretry : ∀ {e : IoError}, sendCloseNotify r.result = .error e →
          (e.kind = .interrupted ∨ e.kind = .wouldBlock) →
          Advance .writer cx w ((w.events r.before).call (.sendmsg r.result)) := by
        intro e hres hkind
        have hf : (Call.sendmsg r.result).failure = none := by
          rw [failure_sendmsg_of_error hres, if_pos hkind]
        have ha : Advance .writer cx (w.events r.before) _ := Advance.call hperm hf rfl
        rw [effect_sendmsg_of_error hres] at ha
        exact hev.advance.trans ha
      unfold closeNotifyLoop
      rcases tryIo_cases .write (.sendmsg r.result) (sendCloseNotify r.result)
        (w.events r.before) with ht | ht | ⟨e, hres, hkind, ht⟩
      · rw [ht]
        exact hblocked hev.advance hev.stream
      · rw [ht]
        rcases hres : sendCloseNotify r.result with e | ⟨⟨⟩⟩
        · simp only
          split_ifs with hint hwb
          · exact hrec (hretry hres (Or.inl hint)) hev.stream
          · exact hblocked (hretry hres (Or.inr hwb)) hev.stream
          · refine .failed hev.advance hperm ?_ rfl
            rw [failure_sendmsg_of_error hres, if_neg (by simp [hint, hwb])]
        · rw [sendCloseNotify_eq_ok hres]
          exact .sent hev.advance hev.stream
      · rw [ht]
        simp only [hkind, reduceCtorEq, if_false, if_true]
        exact hblocked ((hretry hres (Or.inr hkind)).trans quiet_clear.advance) hev.stream

/-- Spec of `poll_close_notify`. -/
theorem pollCloseNotify_spec (cx : W) (rounds : List SysRound) (hk : w.stream.ktlsActive = true)
    (he : w.stream.writeError = none) (hs : w.stream.shutdown = .sending) :
    Notified .writer cx w (pollCloseNotify cx rounds w) :=
  closeNotifyLoop_spec cx ioBudget rounds w hk he hs

/-! ## The four polls -/

/-- The record reader's socket takes undisturbed steps only. -/
theorem recvEnv_advance (cx : W) (cap : ℕ) (r : RecordReader) (abi : Abi) (recv : List RecvRound)
    (hk : w.stream.ktlsActive = true) :
    Advance .reader cx w
      (RecordReader.pollRead abi (recvEnv cx) cap r ⟨w, RecvRound.silent, recv⟩).2.1.world := by
  have hquiet : ∀ {w₁ w₂ : World W}, Advance .reader cx w w₁ → Quiet .reader cx w₁ w₂ →
      Advance .reader cx w w₂ := fun ha hq => ha.trans hq.advance
  have hktls : ∀ {w₁ : World W}, Advance .reader cx w w₁ → w₁.stream.ktlsActive = true :=
    fun ha => ha.steps.ktlsActive.trans hk
  refine RecordReader.pollRead_preserves (I := fun k : RecvState W => Advance .reader cx w k.world)
    ?_ ?_ ?_ r (.refl w)
  · intro k ha
    unfold recvEnv
    simp only
    have hev := hquiet ha (quiet_events (k.rest.headD RecvRound.silent).before)
    split_ifs
    · have hcall := hev.trans (Advance.call (c := .recvmsg cap) (hktls hev) rfl rfl)
      generalize (k.rest.headD RecvRound.silent).msg = m
      rcases m with errno | _
      · simp only
        split_ifs
        · exact hquiet hcall quiet_clear
        · exact hcall
      · exact hcall
    · exact hev
  · intro k ha
    unfold recvEnv
    simp only
    have hwait := pollReady_waited .reader cx .ktlsRead .read k.round.gone
      (quiet_events (w := k.world) k.round.beforePoll) (hktls ha)
    generalize pollReady .ktlsRead .read (.task cx) k.round.gone _ = res at hwait ⊢
    cases hwait with
    | ready hq => exact hquiet ha hq
    | pending hq _ => exact hquiet ha hq
    | failed e hq =>
        have hw := hquiet ha hq
        exact hw.trans (Advance.call (c := .waitFailed .ktlsRead e) (hktls hw) rfl rfl)
  · intro k ha
    exact hquiet ha (Emits.quiet (s := .wakeByRef cx) ⟨rfl, hktls ha⟩)

/-- Spec of `poll_read`. -/
theorem pollRead_spec (abi : Abi) (cx : W) (cap : ℕ) (script : ReadScript) (hc : Coherent w) :
    PollSpec .reader cx [] w (pollRead abi cx cap script w) := by
  unfold pollRead
  split_ifs with hcap hk
  · exact (Advance.refl w).done (by simp) (by simp)
  · have ha := recvEnv_advance cx cap w.stream.ktlsReader abi script.recv hk
    generalize RecordReader.pollRead abi (recvEnv cx) cap w.stream.ktlsReader _ = res at ha ⊢
    obtain ⟨r, k, exit⟩ := res
    have hr : Steps .reader cx w (k.world.setReader r) :=
      ha.steps.tail (.reader (ha.steps.ktlsActive.trans hk))
    have habsurd : ∀ {P : Prop}, w.stream.ktlsActive = false → P := by
      intro P hf
      rw [hk] at hf
      cases hf
    exact ⟨hr, Or.inl ⟨ha.failures, ha.writeError⟩, by simp [ha.accepted],
      fun _ => habsurd, fun _ => habsurd⟩
  · have hk' : w.stream.ktlsActive = false := by simpa using hk
    rcases he : w.stream.writeError with _ | e
    · have hd := pollPendingWrite_spec cx true script.drain hc he
      generalize pollPendingWrite cx true script.drain w = res at hd ⊢
      -- after a drain that did not fail, finished or not, the read goes ahead
      have hread : (∀ e, res.2 ≠ .returned (.ready (.error e))) →
          PollSpec .reader cx [] w (readLoop cx cap script.read res.1) := by
        intro hne
        have ha := hd.toPollSpec.advance hne
        exact (readLoop_spec cx (Nat.pos_of_ne_zero hcap) script.read res.1
          (ha.steps.ktlsActive.trans hk') (ha.writeError.trans he)).prepend ha
      obtain ⟨w₁, (((e | ⟨⟨⟩⟩) | _) | _ | _)⟩ := res
      · exact hd.toPollSpec.relay (by simp) (by simp) (by simp)
      · exact hread (by simp)
      · exact hread (by simp)
      · exact hd.toPollSpec.relay (by simp) (by simp) (by simp)
      · exact hd.toPollSpec.relay (by simp) (by simp) (by simp)
    · rw [pollPendingWrite_of_latched cx true script.drain he]
      exact (Advance.refl w).done (by simp) (by simp)

/-- The chunk a `poll_write` offers: the first record's worth of the buffer. -/
theorem chunk_facts {buf : Bytes} (hbuf : buf ≠ []) :
    buf.take (min buf.length maxPlaintext) ≠ [] ∧
      (buf.take (min buf.length maxPlaintext)).length ≤ maxPlaintext := by
  have hpos : 0 < buf.length := List.length_pos_iff.mpr hbuf
  constructor
  · rw [← List.length_pos_iff, List.length_take]
    unfold maxPlaintext
    omega
  · rw [List.length_take]
    omega

/-- Spec of the new write of `poll_write`: libssl takes over exactly what is acknowledged. -/
theorem writeChunk_spec (cx : W) {buf : Bytes} (hbuf : buf ≠ []) (answer : SslAnswer Unit)
    (hk : w.stream.ktlsActive = false) (he : w.stream.writeError = none)
    (hs : w.stream.shutdown = .opened) (hp : w.stream.pendingWrite = []) :
    PollSpec .writer cx (ackedBy buf (writeChunk buf answer w).2) w (writeChunk buf answer w) := by
  obtain ⟨hne, hmax⟩ := chunk_facts hbuf
  have hlen : (buf.take (min buf.length maxPlaintext)).length < 2 ^ 31 :=
    lt_of_le_of_lt hmax (by decide)
  have hack : buf.take (buf.take (min buf.length maxPlaintext)).length =
      buf.take (min buf.length maxPlaintext) := by
    rw [List.length_take, min_eq_left (min_le_left _ _)]
  unfold writeChunk
  simp only
  generalize buf.take (min buf.length maxPlaintext) = chunk at hne hmax hlen hack ⊢
  have hperm : ∀ a, Permits w (.sslWrite .fresh chunk a) := fun a => ⟨hk, he, hs, hp, hne, hmax⟩
  have hpos : (0 : ℤ) < chunk.length := by exact_mod_cast List.length_pos_iff.mpr hne
  rw [cInt_of_lt hlen]
  cases answer with
  | done u =>
      have hret : 0 < (SslAnswer.done u).writeRet chunk.length := hpos
      simp only [if_pos hret]
      refine ⟨.single (.call (hperm (.done u)) rfl), Or.inl ⟨by simp [Call.failure], rfl⟩, ?_,
        by simp, by simp⟩
      simp [ackedBy, Act.accepts, SslAnswer.writeRet, hack]
  | stopped n code diag =>
      have hret : ¬ 0 < (SslAnswer.stopped n code diag).writeRet chunk.length := by
        rw [SslAnswer.writeRet_pos_iff hpos]
        simp
      simp only [if_neg hret]
      split_ifs with hwant
      · -- libssl is committed to the chunk: it is kept for the retry and acknowledged now
        have hwant' : IsWant code := hwant
        have hf : (Call.sslWrite .fresh chunk (.stopped n code diag)).failure = none := by
          simp [Call.failure, hwant']
        refine ⟨?_, Or.inl ⟨by simp [hf], rfl⟩, ?_, by simp, by simp⟩
        · have hstep : Step .writer cx w _ := .call (hperm (.stopped n code diag)) hf
          simpa [Call.effect, hp] using Relation.ReflTransGen.single hstep
        · simp [ackedBy, Act.accepts, hwant', hack]
      · have hwant' : ¬ IsWant code := hwant
        exact .fail (hperm _) (by simp [Call.failure, hwant', SslAnswer.code, SslAnswer.diag])
          (by simp [Act.accepts, hwant'])

/-- Spec of `poll_write` on the userspace path: libssl takes over exactly the acknowledged bytes. -/
theorem pollWrite_spec_userspace (cx : W) (buf : Bytes) (script : WriteScript)
    (hk : w.stream.ktlsActive = false) :
    PollSpec .writer cx (ackedBy buf (pollWrite cx buf script w).2) w
      (pollWrite cx buf script w) := by
  unfold pollWrite
  by_cases hbuf : buf = []
  · rw [if_pos hbuf]
    exact (Advance.refl w).done (by simp) (by simp)
  rw [if_neg hbuf]
  rcases he : w.stream.writeError with _ | e
  swap
  · exact (Advance.refl w).done (by simp) (by simp)
  by_cases hs : w.stream.shutdown = .opened
  swap
  · simp only [if_pos hs]
    exact (Advance.refl w).done (by simp) (by simp)
  simp only [hs, ne_eq, not_true_eq_false, if_false, hk, Bool.false_eq_true]
  have hd := pollPendingWrite_spec cx false script.drain (fun hf => by simp [hk] at hf) he
  generalize pollPendingWrite cx false script.drain w = res at hd ⊢
  obtain ⟨w₁, (((e | ⟨⟨⟩⟩) | _) | _ | _)⟩ := res
  · exact hd.toPollSpec.relay (by simp) (by simp) (by simp)
  · have ha := hd.toPollSpec.advance (by simp)
    have hw : PollSpec .writer cx _ (w₁.events script.before) _ :=
      writeChunk_spec cx hbuf script.write (by simpa using ha.steps.ktlsActive.trans hk)
        (by simpa using ha.writeError.trans he) (by simpa using hd.shutdown.trans hs)
        (by simpa using hd.drained rfl)
    exact hw.prepend (ha.trans (quiet_events script.before).advance)
  · exact hd.toPollSpec.relay (by simp) (by simp) (by simp)
  · exact hd.toPollSpec.relay (by simp) (by simp) (by simp)
  · exact hd.toPollSpec.relay (by simp) (by simp) (by simp)

/-- Spec of `poll_write` in kTLS mode: libssl takes over nothing. -/
theorem pollWrite_spec_ktls (cx : W) (buf : Bytes) (script : WriteScript)
    (hk : w.stream.ktlsActive = true) :
    PollSpec .writer cx [] w (pollWrite cx buf script w) := by
  unfold pollWrite
  by_cases hbuf : buf = []
  · rw [if_pos hbuf]
    exact (Advance.refl w).done (by simp) (by simp)
  rw [if_neg hbuf]
  rcases he : w.stream.writeError with _ | e
  swap
  · exact (Advance.refl w).done (by simp) (by simp)
  by_cases hs : w.stream.shutdown = .opened
  swap
  · simp only [if_pos hs]
    exact (Advance.refl w).done (by simp) (by simp)
  simp only [hs, ne_eq, not_true_eq_false, if_false, hk, if_true]
  exact ktlsPollWrite_spec cx buf script.ktls w hk he hs

/-- Spec of `poll_flush`. -/
theorem pollFlush_spec (cx : W) (script : FlushScript) (hc : Coherent w) :
    PollSpec .writer cx [] w (pollFlush cx script w) := by
  rcases he : w.stream.writeError with _ | e
  · exact (pollPendingWrite_spec cx false script.drain hc he).toPollSpec
  · unfold pollFlush
    rw [pollPendingWrite_of_latched cx false script.drain he]
    exact (Advance.refl w).done (by simp) (by simp)

/-- Spec of the kTLS branch of `poll_shutdown`, entered in the state `sending`. -/
theorem ktlsShutdown_spec (cx : W) (notify : List SysRound) (tcp : IoResult Unit)
    (hk : w.stream.ktlsActive = true) (he : w.stream.writeError = none)
    (hs : w.stream.shutdown = .sending) :
    PollSpec .writer cx [] w (ktlsShutdown cx notify tcp w) := by
  have hn := pollCloseNotify_spec cx notify hk he hs
  unfold ktlsShutdown
  generalize pollCloseNotify cx notify w = res at hn ⊢
  cases hn with
  | @sent w₁ ha hst =>
      -- the accepted close_notify and the move to `closed` are one step
      have hclosed : Advance .writer cx w ((w₁.call (.sendmsg (.ok 2))).moveTo .closed) :=
        ha.trans (Advance.call (c := .sendmsg (.ok 2)) (by simp [Permits, hst, hk, he, hs]) rfl rfl)
      have hperm : Permits ((w₁.call (.sendmsg (.ok 2))).moveTo .closed) (.tcpShutdown tcp) := by
        simp [Permits, hst, hk, he]
      rcases tcp with e | ⟨⟨⟩⟩
      · exact (PollSpec.fail hperm rfl rfl).prepend hclosed
      · exact (hclosed.trans (Advance.call hperm rfl rfl)).done (by simp) (by simp)
  | failed ha hc hf hacc => exact (PollSpec.fail hc hf hacc).prepend ha
  | pending ha =>
      refine ha.park fun hf => ?_
      rw [hk] at hf
      cases hf
  | running ha => exact ha.done (by simp) (by simp)

/-- The contract of `poll_shutdown`: a successful one leaves a closing stream. -/
structure ShutdownSpec (cx : W) (w : World W) (r : World W × Exit (Poll (IoResult Unit))) :
    Prop extends PollSpec .writer cx [] w r where
  closing : r.2 = .returned (.ready (.ok ())) → Closing r.1

/-- Spec of `poll_shutdown`. -/
theorem pollShutdown_spec (cx : W) (script : ShutdownScript) (hc : Coherent w) :
    ShutdownSpec cx w (pollShutdown cx script w) := by
  unfold pollShutdown
  rcases he : w.stream.writeError with _ | e
  swap
  · rw [pollPendingWrite_of_latched cx false script.drain he]
    exact ⟨(Advance.refl w).done (by simp) (by simp), by simp⟩
  have hd := pollPendingWrite_spec cx false script.drain hc he
  generalize pollPendingWrite cx false script.drain w = res at hd ⊢
  obtain ⟨w₁, (((e | ⟨⟨⟩⟩) | _) | _ | _)⟩ := res
  · exact ⟨hd.toPollSpec.relay (by simp) (by simp) (by simp), by simp⟩
  · have ha := hd.toPollSpec.advance (by simp)
    have hp : w₁.stream.pendingWrite = [] := hd.drained rfl
    have he₁ : w₁.stream.writeError = none := ha.writeError.trans he
    simp only
    split_ifs with hsh hk
    · exact ⟨ha.done (by simp) (by simp), fun _ => ⟨by simp [hsh], hp⟩⟩
    · have hsend : Advance .writer cx w (w₁.moveTo .sending) :=
        ha.trans ⟨.single (.sending he₁ hp hsh), by simp, rfl, by simp⟩
      have hspec := ktlsShutdown_spec cx script.notify script.tcp hk he₁
        (w := w₁.moveTo .sending) rfl
      exact ⟨hspec.prepend hsend, fun _ => hspec.steps.closing ⟨by simp, hp⟩⟩
    · have hsend : Advance .writer cx w (w₁.moveTo .sending) :=
        ha.trans ⟨.single (.sending he₁ hp hsh), by simp, rfl, by simp⟩
      have hspec := shutdownLoop_spec cx script.close (w₁.moveTo .sending) (by simpa using hk)
        he₁ rfl hp
      exact ⟨hspec.prepend hsend, fun _ => hspec.steps.closing ⟨by simp, hp⟩⟩
  · exact ⟨hd.toPollSpec.relay (by simp) (by simp) (by simp), by simp⟩
  · exact ⟨hd.toPollSpec.relay (by simp) (by simp) (by simp), by simp⟩
  · exact ⟨hd.toPollSpec.relay (by simp) (by simp) (by simp), by simp⟩

/-! ## Turns -/

/-- One operation of a session, as the guarded machine sees it. -/
inductive Turn : World W → World W → Prop
  | event (w : World W) (d : Dir) : Turn w (w.signal (.event d))
  /-- A poll that panicked or has not returned yet. -/
  | unfinished {w w' : World W} {h : Half} {cx : W}
      (hs : Steps h cx (w.signal (.called h cx)) w') : Turn w w'
  | finished {w w' : World W} {h : Half} {cx : W} {pending : Bool}
      (hs : Steps h cx (w.signal (.called h cx)) w')
      (hp : pending = true → w.stream.ktlsActive = false → Waits h cx w') :
      Turn w (w'.signal (.returned h pending))

/-- Events keep a parked poll parked. -/
theorem waits_events (ds : List Dir) (hw : Waits h cx w) : Waits h cx (w.events ds) := by
  induction ds generalizing w with
  | nil => exact hw
  | cons d ds ih =>
      obtain ⟨want, hwant, hp⟩ := hw
      refine ih ⟨want, ?_, hp.event d⟩
      rw [World.signal_trace, asked_concat, next_signal _ (by simp)]
      exact hwant

/-- A poll that meets its spec is a turn. -/
theorem PollSpec.turn {α : Type} {took : Bytes} {r : World W × Exit (Poll (IoResult α))}
    (hs : PollSpec h cx took (w.signal (.called h cx)) r) (leave : List Dir) :
    Turn w (finish h leave r.1 r.2).1 := by
  obtain ⟨w', x⟩ := r
  cases x with
  | returned p =>
      refine .finished (hs.steps.trans (quiet_events leave).steps) fun hp hk =>
        waits_events leave (hs.parked ?_ hk (polling_called w h cx))
      cases p with
      | ready a => cases hp
      | pending => rfl
  | panicked => exact .unfinished hs.steps
  | running => exact .unfinished hs.steps

/-- A spec does not depend on the value of a successful result. -/
theorem PollSpec.void {α : Type} {took : Bytes} {r : World W × Exit (Poll (IoResult α))}
    (hs : PollSpec h cx took w r) : PollSpec h cx took w (r.1, r.2.void) := by
  refine hs.relay ?_ ?_ ?_
  · intro e he
    rw [he]
    rfl
  · intro hp
    rcases r with ⟨w', (((e | a) | _) | _ | _)⟩ <;> cases hp
    rfl
  · intro hp
    rcases r with ⟨w', (((e | a) | _) | _ | _)⟩ <;> cases hp
    rfl

/-- How a poll is recorded does not depend on the value of a successful result. -/
theorem finish_void {α : Type} (h : Half) (leave : List Dir) (w : World W)
    (x : Exit (Poll (IoResult α))) : finish h leave w x.void = finish h leave w x := by
  rcases x with ((e | a) | _) | _ | _ <;> rfl

/-- Every poll of a session meets its spec. -/
theorem polled_spec (abi : Abi) (s : Session W) (op : Op W) (hc : Coherent s.world) :
    (∃ d, op = .event d) ∨ ∃ h cx took leave,
      PollSpec h cx took (s.world.signal (.called h cx)) (s.polled abi op) ∧
      (s.step abi op).1.world = (finish h leave (s.polled abi op).1 (s.polled abi op).2).1 := by
  cases op with
  | read cx cap script =>
      have hs := pollRead_spec (w := s.world.signal (.called .reader cx)) abi cx cap script hc
      exact Or.inr ⟨.reader, cx, _, script.leave, hs.void, by simp only [Session.polled, finish_void]; rfl⟩
  | write cx buf script =>
      right
      rcases hk : s.world.stream.ktlsActive with _ | _
      · have hs := pollWrite_spec_userspace (w := s.world.signal (.called .writer cx)) cx buf
          script hk
        exact ⟨.writer, cx, _, script.leave, hs.void, by simp only [Session.polled, finish_void]; rfl⟩
      · have hs := pollWrite_spec_ktls (w := s.world.signal (.called .writer cx)) cx buf script hk
        exact ⟨.writer, cx, _, script.leave, hs.void, by simp only [Session.polled, finish_void]; rfl⟩
  | flush cx script =>
      have hs := pollFlush_spec (w := s.world.signal (.called .writer cx)) cx script hc
      exact Or.inr ⟨.writer, cx, _, script.leave, hs, rfl⟩
  | shutdown cx script =>
      have hs := pollShutdown_spec (w := s.world.signal (.called .writer cx)) cx script hc
      exact Or.inr ⟨.writer, cx, _, script.leave, hs.toPollSpec, rfl⟩
  | event d => exact Or.inl ⟨d, rfl⟩

/-- **Every operation is a turn.** -/
theorem step_turn (abi : Abi) (s : Session W) (op : Op W) (hc : Coherent s.world) :
    Turn s.world (s.step abi op).1.world := by
  rcases polled_spec abi s op hc with ⟨d, rfl⟩ | ⟨h, cx, took, leave, hs, hstep⟩
  · exact .event s.world d
  · rw [hstep]
    exact hs.turn leave

/-- What signals and steps preserve, a turn preserves. -/
theorem Turn.preserves {I : World W → Prop} (hsignal : ∀ w s, I w → I (w.signal s))
    (hstep : ∀ h cx w w', Step h cx w w' → I w → I w') (ht : Turn w w') (hI : I w) : I w' := by
  cases ht with
  | event d => exact hsignal w _ hI
  | unfinished hs => exact Lib.invariant_of_steps (hstep _ _) hs (hsignal w _ hI)
  | finished hs _ =>
      exact hsignal _ _ (Lib.invariant_of_steps (hstep _ _) hs (hsignal w _ hI))

/-- Coherence is kept by a turn. -/
theorem Turn.coherent (ht : Turn w w') (hc : Coherent w) : Coherent w' :=
  ht.preserves (I := Coherent) (fun _ _ hc => hc) (fun _ _ _ _ hst => hst.coherent) hc

/-- **Run rule.** What every turn from a coherent world preserves, every run from one preserves. -/
theorem run_invariant (abi : Abi) {I : World W → Prop}
    (hturn : ∀ w w', Coherent w → Turn w w' → I w → I w') {s : Session W}
    (hc : Coherent s.world) (hI : I s.world) (ops : List (Op W)) :
    I (Session.run abi s ops).world := by
  refine (Lib.Runs.exec_invariant (I := fun s : Session W => Coherent s.world ∧ I s.world)
    ?_ ⟨hc, hI⟩ ops).2
  rintro s op ⟨hc, hI⟩
  have ht := step_turn abi s op hc
  exact ⟨ht.coherent hc, hturn _ _ hc ht hI⟩

end TokioAwsLc.Stream
