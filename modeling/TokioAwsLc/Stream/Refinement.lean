import TokioAwsLc.Stream.Protocol

/-!
# The poll functions refine the guarded machine

One spec lemma per function of `Poll`: the world it leaves is reached by permitted small steps, and
its result says what happened on the way. Everything later is proved from these specs and from the
step relation; no later module unfolds a loop.

* `Waited`: what a wait for readiness ends in.
* `Settled`: either the poll met no write-path failure, or it met exactly one, returns it, and has
  latched it.
* `PollSpec h cx took w r`: the contract of every poll. `took` is the plaintext that was taken over
  from the caller; a poll that returns `Pending` is parked in the direction that its last blocked
  libssl call has asked for; a panic needs an oversized `pending_write`.
-/

set_option linter.unusedSectionVars false

namespace TokioAwsLc.Stream

open Ktls (Abi RecordReader RecvEnv RecvMsg ioBudget)

variable {W : Type} [DecidableEq W] {h : Half} {cx : W} {w w' w'' : World W}

/-! ## Waits -/

/-- What a wait for readiness of `d` ends in: the world has changed by signals only, and the error of a
failed wait has been recorded. -/
inductive Waited (h : Half) (cx : W) (site : WaitSite) (d : Dir) (w : World W) :
    World W × Poll (IoResult Unit) → Prop
  | ready {w' : World W} (hq : Quiet h cx w w') : Waited h cx site d w (w', .ready (.ok ()))
  | pending {w' : World W} (hq : Quiet h cx w w')
      (hp : w.stream.ktlsActive = false → Polling h cx w → w'.net.Parked h cx d) :
      Waited h cx site d w (w', .pending)
  | failed {w' : World W} (e : IoError) (hq : Quiet h cx w w') :
      Waited h cx site d w (w'.call (.waitFailed site e), .ready (.error e))

/-- Events keep a registered poll registered. -/
theorem registered_events (ds : List Dir) (hr : w.net.Registered h cx) :
    (w.events ds).net.Registered h cx := by
  induction ds generalizing w with
  | nil => exact hr
  | cons d' ds ih => exact ih (hr.event d')

/-- The wait for the ready bit with the shared waker, after the poll has registered. -/
theorem pollClearReady_waited {d : Dir} (site : WaitSite) (wait : Wait) (hq : Quiet h cx w w')
    (hk : w.stream.ktlsActive = false)
    (hr : Polling h cx w → w'.net.Registered h cx) :
    Waited h cx site d w (pollClearReady site d .shared wait w') := by
  unfold pollClearReady pollReady
  rcases wait.gone with _ | e
  · simp only
    split_ifs with hready
    · refine .ready (hq.trans ((quiet_events _).trans (Emits.quiet ?_)))
      trivial
    · refine .pending (hq.trans (Emits.quiet ?_)) fun _ ha => (hr ha).arm d
      simp [Emits, hq.stream, hk]
  · exact .failed e hq

/-- What a blocked call asks for is what `poll_ssl_ready` is told to wait for. -/
theorem wants_stopped {α : Type} (n : ℕ) {code : ℤ} (diag : SslDiag) (hwant : IsWant code) :
    (SslAnswer.stopped n code diag : SslAnswer α).wants = some (wantDir code) := by
  rcases hwant with rfl | rfl
  · rfl
  · rfl

/-- Spec of `poll_ssl_ready`. -/
theorem pollSslReady_waited (site : WaitSite) (code : ℤ) (cx : W) (reader : Bool) (wait : Wait)
    (hk : w.stream.ktlsActive = false) :
    Waited (.ofReader reader) cx site (wantDir code) w (pollSslReady site code cx reader wait w) := by
  unfold pollSslReady
  set w₁ := w.events wait.beforeRegister with hw₁
  set w₂ := w₁.signal (.register (.ofReader reader) cx) with hw₂
  have hq₁ : Quiet (.ofReader reader) cx w w₁ := quiet_events _
  have hq₂ : Quiet (.ofReader reader) cx w w₂ := by
    refine hq₁.trans (Emits.quiet ⟨rfl, rfl, ?_⟩)
    rw [hq₁.stream, hk]
  have hq₃ : Quiet (.ofReader reader) cx w (w₂.events wait.beforePoll) :=
    hq₂.trans (quiet_events _)
  have hr : Polling (.ofReader reader) cx w →
      (w₂.events wait.beforePoll).net.Registered (.ofReader reader) cx :=
    fun hp => registered_events _ (hq₁.steps.polling hp).active.register
  by_cases hc : code = sslErrorWantRead
  · rw [if_pos hc, show wantDir code = .read from if_pos hc]
    exact pollClearReady_waited site wait hq₃ hk hr
  · rw [if_neg hc, show wantDir code = .write from if_neg hc]
    exact pollClearReady_waited site wait hq₃ hk hr

/-- The wait with the task's own waker, in kTLS mode. -/
theorem pollReady_waited (h : Half) (cx : W) (site : WaitSite) (d : Dir) (gone : Option IoError)
    (hq : Quiet h cx w w') (hk : w.stream.ktlsActive = true) :
    Waited h cx site d w (pollReady site d (.task cx) gone w') := by
  unfold pollReady
  rcases gone with _ | e
  · simp only
    split_ifs with hready
    · exact .ready hq
    · refine .pending (hq.trans (Emits.quiet ?_)) fun hf => ?_
      · simp [Emits, hq.stream, hk]
      · rw [hk] at hf
        cases hf
  · exact .failed e hq

/-! ## Specs -/

/-- The poll met no write-path failure, or it met one, latched it, and returns it. -/
def Settled {α : Type} (w : World W) (r : World W × Exit (Poll (IoResult α))) : Prop :=
  (failures r.1.trace = failures w.trace ∧ r.1.stream.writeError = w.stream.writeError) ∨
    ∃ e, r.2 = .returned (.ready (.error e)) ∧ failures r.1.trace = failures w.trace ++ [e] ∧
      r.1.stream.writeError = some e.reproduce

/-- The contract of a poll of `h` with the waker `cx`, called in `w`. -/
structure PollSpec {α : Type} (h : Half) (cx : W) (took : Bytes) (w : World W)
    (r : World W × Exit (Poll (IoResult α))) : Prop where
  steps : Steps h cx w r.1
  settled : Settled w r
  accepted : accepted r.1.trace = accepted w.trace ++ took
  parked : r.2 = .returned .pending → w.stream.ktlsActive = false → Polling h cx w → Waits h cx r.1
  panicked : r.2 = .panicked → w.stream.ktlsActive = false →
    2 ^ 31 ≤ r.1.stream.pendingWrite.length

/-- A part of a poll that meets no failure and takes nothing from the caller. -/
structure Advance (h : Half) (cx : W) (w w' : World W) : Prop where
  steps : Steps h cx w w'
  failures : failures w'.trace = failures w.trace
  writeError : w'.stream.writeError = w.stream.writeError
  accepted : accepted w'.trace = accepted w.trace

/-- Nothing has happened. -/
theorem Advance.refl (w : World W) : Advance h cx w w :=
  ⟨.refl, rfl, rfl, rfl⟩

/-- One part after the other. -/
theorem Advance.trans (ha : Advance h cx w w') (hb : Advance h cx w' w'') :
    Advance h cx w w'' :=
  ⟨ha.steps.trans hb.steps, hb.failures.trans ha.failures, hb.writeError.trans ha.writeError,
    hb.accepted.trans ha.accepted⟩

/-- Quiet steps are such a part. -/
theorem Quiet.advance (hq : Quiet h cx w w') : Advance h cx w w' :=
  ⟨hq.steps, hq.failures, by rw [hq.stream], hq.accepted⟩

/-- A call that does not fail and carries no new plaintext. -/
theorem Advance.call {c : Call} (hc : Permits w c) (hf : c.failure = none)
    (ha : (Act.call c : Act W).accepts = []) : Advance h cx w (c.effect (w.call c)) := by
  refine ⟨.single (.call hc hf), ?_, by simp, ?_⟩
  · rcases effect_trace c (w.call c) with ht | ht <;> simp [ht, hf]
  · rcases effect_trace c (w.call c) with ht | ht <;> simp [ht, ha]

section poll

variable {α : Type} {took : Bytes} {r : World W × Exit (Poll (IoResult α))}

/-- A poll that returns something else than an error has latched nothing. -/
theorem Settled.writeError_eq (hs : Settled w r)
    (hne : ∀ e, r.2 ≠ .returned (.ready (.error e))) :
    r.1.stream.writeError = w.stream.writeError := by
  rcases hs with ⟨-, he⟩ | ⟨e, he, -⟩
  · exact he
  · exact absurd he (hne e)

/-- A poll after an undisturbed beginning. -/
theorem PollSpec.prepend (ha : Advance h cx w w') (hs : PollSpec h cx took w' r) :
    PollSpec h cx took w r where
  steps := ha.steps.trans hs.steps
  settled := by
    rcases hs.settled with ⟨hf, he⟩ | ⟨e, hr, hf, he⟩
    · exact Or.inl ⟨hf.trans ha.failures, he.trans ha.writeError⟩
    · exact Or.inr ⟨e, hr, by rw [hf, ha.failures], he⟩
  accepted := by rw [hs.accepted, ha.accepted]
  parked := fun hp hk hact =>
    hs.parked hp (ha.steps.ktlsActive.trans hk) (ha.steps.polling hact)
  panicked := fun hp hk => hs.panicked hp (ha.steps.ktlsActive.trans hk)

/-- A poll that returns something else than an error, as the beginning of another. -/
theorem PollSpec.advance (hs : PollSpec h cx [] w r)
    (hne : ∀ e, r.2 ≠ .returned (.ready (.error e))) : Advance h cx w r.1 := by
  refine ⟨hs.steps, ?_, hs.settled.writeError_eq hne, by rw [hs.accepted, List.append_nil]⟩
  rcases hs.settled with ⟨hf, -⟩ | ⟨e, he, -⟩
  · exact hf
  · exact absurd he (hne e)

/-- The same poll with its result passed on in another type. -/
theorem PollSpec.relay {β : Type} (hs : PollSpec h cx took w r) {x : Exit (Poll (IoResult β))}
    (herr : ∀ e, r.2 = .returned (.ready (.error e)) → x = .returned (.ready (.error e)))
    (hpend : x = .returned .pending → r.2 = .returned .pending)
    (hpanic : x = .panicked → r.2 = .panicked) : PollSpec h cx took w (r.1, x) where
  steps := hs.steps
  settled := by
    rcases hs.settled with hq | ⟨e, he, hf, hw⟩
    · exact Or.inl hq
    · exact Or.inr ⟨e, herr e he, hf, hw⟩
  accepted := hs.accepted
  parked := fun hp => hs.parked (hpend hp)
  panicked := fun hp => hs.panicked (hpanic hp)

/-- A poll that ends here, with anything but `Pending` or a panic. -/
theorem Advance.done (ha : Advance h cx w w') {x : Exit (Poll (IoResult α))}
    (hp : x ≠ .returned .pending) (hc : x ≠ .panicked) : PollSpec h cx [] w (w', x) where
  steps := ha.steps
  settled := Or.inl ⟨ha.failures, ha.writeError⟩
  accepted := by rw [ha.accepted, List.append_nil]
  parked := fun h => absurd h hp
  panicked := fun h => absurd h hc

/-- A poll that returns `Pending`, parked. -/
theorem Advance.park (ha : Advance h cx w w')
    (hp : w.stream.ktlsActive = false → Polling h cx w → Waits h cx w') :
    PollSpec h cx [] w (w', (.returned .pending : Exit (Poll (IoResult α)))) where
  steps := ha.steps
  settled := Or.inl ⟨ha.failures, ha.writeError⟩
  accepted := by rw [ha.accepted, List.append_nil]
  parked := fun _ => hp
  panicked := by rintro ⟨⟩

/-- A poll that ends in a write-path failure. -/
theorem PollSpec.fail {c : Call} {e : IoError} (hc : Permits w c) (hf : c.failure = some e)
    (hacc : (Act.call c : Act W).accepts = []) :
    PollSpec h cx [] w (failWrite (w.call c) e : World W × Exit (Poll (IoResult α))) where
  steps := .single (.failed hc hf)
  settled := Or.inr ⟨e, rfl, by simp [failWrite, hf], rfl⟩
  accepted := by simp [failWrite, hacc]
  parked := by rintro ⟨⟩
  panicked := by rintro ⟨⟩

/-- A poll that ends because a wait of the write path failed. -/
theorem PollSpec.waitFail {site : WaitSite} (hsite : site.isWrite = true)
    (he : w.stream.writeError = none) (e : IoError) :
    PollSpec h cx [] w
      (failWrite (w.call (.waitFailed site e)) e : World W × Exit (Poll (IoResult α))) :=
  .fail (by cases site <;> simp_all [Permits, WaitSite.isWrite]) (if_pos hsite) rfl

end poll

/-! ## Draining `pending_write` -/

/-- The contract of `poll_pending_write`. -/
structure DrainSpec (h : Half) (cx : W) (w : World W)
    (r : World W × Exit (Poll (IoResult Unit))) : Prop extends PollSpec h cx [] w r where
  shutdown : r.1.stream.shutdown = w.stream.shutdown
  drained : r.2 = .returned (.ready (.ok ())) → r.1.stream.pendingWrite = []
  latched : ∀ e, r.2 = .returned (.ready (.error e)) → r.1.stream.writeError = some e.reproduce

/-- Nothing is pending, so nothing is done. -/
theorem drainLoop_of_empty (cx : W) (reader : Bool) (rounds : List (Round Unit))
    (hp : w.stream.pendingWrite = []) :
    drainLoop cx reader rounds w = (w, .returned (.ready (.ok ()))) := by
  cases rounds <;> simp [drainLoop, hp]

/-- One turn of the drain loop, by the answer of its `SSL_write`. -/
theorem drainLoop_cons (cx : W) (reader : Bool) (r : Round Unit) (rs : List (Round Unit))
    (hp : w.stream.pendingWrite ≠ []) (hlen : w.stream.pendingWrite.length < 2 ^ 31) :
    drainLoop cx reader (r :: rs) w =
      match r.answer with
      | .done () =>
          ((((w.events r.before).call
              (.sslWrite .retry w.stream.pendingWrite (.done ()))).setPending []).signal .notify,
            .returned (.ready (.ok ())))
      | .stopped n code diag =>
          let w := (w.events r.before).call
            (.sslWrite .retry w.stream.pendingWrite (.stopped n code diag))
          if IsWant code then
            match pollSslReady .drain code cx reader r.wait w with
            | (w, .pending) => (w, .returned .pending)
            | (w, .ready (.error e)) => failWrite w e
            | (w, .ready (.ok ())) => drainLoop cx reader rs w
          else failWrite w (sslIoError "SSL_write" code diag) := by
  have hpos : (0 : ℤ) < w.stream.pendingWrite.length := by
    exact_mod_cast List.length_pos_iff.mpr hp
  obtain ⟨before, answer, wait⟩ := r
  rw [drainLoop, if_neg hp, cInt_of_lt hlen]
  cases answer with
  | done u => simp [SslAnswer.writeRet]
  | stopped n code diag =>
      have hne : (SslAnswer.stopped n code diag).writeRet w.stream.pendingWrite.length ≠
          w.stream.pendingWrite.length := by
        rw [Ne, SslAnswer.writeRet_eq_iff hpos]
        simp
      simp only [if_neg hne]
      rfl

/-- Spec of the drain loop. -/
theorem drainLoop_spec (cx : W) (reader : Bool) (rounds : List (Round Unit)) (w : World W)
    (hk : w.stream.ktlsActive = false) (he : w.stream.writeError = none) :
    DrainSpec (.ofReader reader) cx w (drainLoop cx reader rounds w) := by
  induction rounds generalizing w with
  | nil =>
      unfold drainLoop
      split_ifs with hp
      · exact ⟨(Advance.refl w).done (by simp) (by simp), rfl, fun _ => hp, by simp⟩
      · exact ⟨(Advance.refl w).done (by simp) (by simp), rfl, by simp, by simp⟩
  | cons r rs ih =>
      by_cases hp : w.stream.pendingWrite = []
      · rw [drainLoop_of_empty cx reader _ hp]
        exact ⟨(Advance.refl w).done (by simp) (by simp), rfl, fun _ => hp, by simp⟩
      by_cases hlen : w.stream.pendingWrite.length < 2 ^ 31
      swap
      · have hc : cInt w.stream.pendingWrite.length = none := if_neg hlen
        rw [drainLoop, if_neg hp, hc]
        refine ⟨⟨.refl, Or.inl ⟨rfl, rfl⟩, by simp, by simp, fun _ _ => ?_⟩, rfl, by simp, by simp⟩
        exact not_lt.mp hlen
      rw [drainLoop_cons cx reader r rs hp hlen]
      rcases r with ⟨before, _ | ⟨n, code, diag⟩, wait⟩
      · -- the blocked write completed: the buffer is cleared and the waiters are told
        have ha : Advance (.ofReader reader) cx w
            ((((w.events before).call
              (.sslWrite .retry w.stream.pendingWrite (.done ()))).setPending []).signal .notify) :=
          (quiet_events before).advance.trans ((Advance.call
            (c := .sslWrite .retry w.stream.pendingWrite (.done ()))
            (by simp [Permits, hk, he, hp]) rfl rfl).trans quiet_notify.advance)
        exact ⟨ha.done (by simp) (by simp), by simp, fun _ => rfl, by simp⟩
      · set c : Call := .sslWrite .retry w.stream.pendingWrite (.stopped n code diag) with hc
        have hev : Quiet (.ofReader reader) cx w (w.events before) := quiet_events before
        have hperm : Permits (w.events before) c := by simp [hc, Permits, hk, he, hp]
        by_cases hwant : IsWant code
        · have ha : Advance (.ofReader reader) cx w ((w.events before).call c) :=
            hev.advance.trans
              (Advance.call (c := c) hperm (by simp [hc, Call.failure, hwant]) rfl)
          have hst : ((w.events before).call c).stream = w.stream := hev.stream
          have hask : c.wants = some (wantDir code) := wants_stopped (α := Unit) n diag hwant
          simp only [if_pos hwant]
          have hwait := pollSslReady_waited (w := (w.events before).call c) .drain code cx reader
            wait (by rw [hst, hk])
          generalize pollSslReady .drain code cx reader wait ((w.events before).call c) = res
            at hwait ⊢
          cases hwait with
          | @ready w' hq =>
              have hs : w'.stream = w.stream := hq.stream.trans hst
              obtain ⟨hspec, hsh, hdr, hl⟩ := ih w' (by rw [hs, hk]) (by rw [hs, he])
              exact ⟨hspec.prepend (ha.trans hq.advance), by rw [hsh, hs], hdr, hl⟩
          | @pending w' hq hpk =>
              refine ⟨(ha.trans hq.advance).park fun hk' hpoll => ?_, ?_, by simp, by simp⟩
              · exact ⟨wantDir code, (hev.steps.polling hpoll).asked_call hq hask,
                  hpk (by rw [hst, hk]) (ha.steps.polling hpoll)⟩
              · rw [hq.stream, hst]
          | @failed w' e hq =>
              have hs : w'.stream = w.stream := hq.stream.trans hst
              have he' : w'.stream.writeError = none := by rw [hs, he]
              exact ⟨(PollSpec.waitFail rfl he' e).prepend (ha.trans hq.advance), by
                simp [failWrite, hs], by simp [failWrite], by simp [failWrite]⟩
        · simp only [if_neg hwant]
          have hfail : PollSpec (.ofReader reader) cx [] (w.events before)
              (failWrite ((w.events before).call c) (sslIoError "SSL_write" code diag) :
                World W × Exit (Poll (IoResult Unit))) :=
            .fail hperm (by simp [hc, Call.failure, hwant]) rfl
          exact ⟨hfail.prepend hev.advance, by simp [failWrite], by simp [failWrite],
            by simp [failWrite]⟩

/-- Spec of `poll_pending_write`, on a stream with no latched failure. -/
theorem pollPendingWrite_spec (cx : W) (reader : Bool) (rounds : List (Round Unit))
    (hc : Coherent w) (he : w.stream.writeError = none) :
    DrainSpec (.ofReader reader) cx w (pollPendingWrite cx reader rounds w) := by
  unfold pollPendingWrite
  rw [he]
  rcases hk : w.stream.ktlsActive with _ | _
  · exact drainLoop_spec cx reader rounds w hk he
  · simp only
    rw [drainLoop_of_empty cx reader rounds (hc hk)]
    exact ⟨(Advance.refl w).done (by simp) (by simp), rfl, fun _ => hc hk, by simp⟩

/-- With a latched failure, `poll_pending_write` returns a copy of it and does nothing. -/
theorem pollPendingWrite_of_latched (cx : W) (reader : Bool) (rounds : List (Round Unit))
    {e : IoError} (he : w.stream.writeError = some e) :
    pollPendingWrite cx reader rounds w = (w, .returned (.ready (.error e.reproduce))) := by
  unfold pollPendingWrite
  rw [he]
  rfl

/-! ## Reading through libssl -/

/-- One turn of the read loop, by the answer of its `SSL_read`. -/
theorem readLoop_cons (cx : W) {cap : ℕ} (hcap : 0 < cap) (r : Round Chunk)
    (rs : List (Round Chunk)) :
    readLoop cx cap (r :: rs) w =
      match r.answer with
      | .done bs =>
          ((w.events r.before).call (.sslRead (min cap (2 ^ 31 - 1)) (.done bs)),
            .returned (.ready (.ok (bs.1.take (min cap (2 ^ 31 - 1))))))
      | .stopped n code diag =>
          let w := (w.events r.before).call
            (.sslRead (min cap (2 ^ 31 - 1)) (.stopped n code diag))
          if code = sslErrorZeroReturn then (w, .returned (.ready (.ok [])))
          else if IsWant code then
            match pollSslReady .read code cx true r.wait w with
            | (w, .pending) => (w, .returned .pending)
            | (w, .ready (.error e)) => (w, .returned (.ready (.error e)))
            | (w, .ready (.ok ())) => readLoop cx cap rs w
          else (w, .returned (.ready (.error (sslIoError "SSL_read" code diag)))) := by
  have hpos : 0 < min cap (2 ^ 31 - 1) := by omega
  obtain ⟨before, answer, wait⟩ := r
  rw [readLoop]
  cases answer with
  | done bs =>
      simp only [if_pos (SslAnswer.readRet_pos hpos bs)]
      rfl
  | stopped n code diag =>
      simp only [if_neg (SslAnswer.readRet_stopped_nonpos _ n code diag)]
      rfl

/-- Spec of the read loop. -/
theorem readLoop_spec (cx : W) {cap : ℕ} (hcap : 0 < cap) (rounds : List (Round Chunk))
    (w : World W) (hk : w.stream.ktlsActive = false) (he : w.stream.writeError = none) :
    PollSpec .reader cx [] w (readLoop cx cap rounds w) := by
  induction rounds generalizing w with
  | nil => exact (Advance.refl w).done (by simp) (by simp)
  | cons r rs ih =>
      have hev : Quiet .reader cx w (w.events r.before) := quiet_events r.before
      have ha : ∀ a, Advance .reader cx w
          ((w.events r.before).call (.sslRead (min cap (2 ^ 31 - 1)) a)) := fun a =>
        hev.advance.trans (Advance.call (c := .sslRead (min cap (2 ^ 31 - 1)) a)
          (by simp [Permits, hk, he]) rfl rfl)
      rw [readLoop_cons cx hcap]
      rcases r with ⟨before, bs | ⟨n, code, diag⟩, wait⟩
      · exact (ha _).done (by simp) (by simp)
      · simp only
        split_ifs with hz hwant
        · exact (ha _).done (by simp) (by simp)
        · set w₁ := (w.events before).call
            (.sslRead (min cap (2 ^ 31 - 1)) (.stopped n code diag)) with hw₁
          have hst : w₁.stream = w.stream := hev.stream
          have hask : (Call.sslRead (min cap (2 ^ 31 - 1)) (.stopped n code diag)).wants
              = some (wantDir code) := wants_stopped (α := Chunk) n diag hwant
          have hwait := pollSslReady_waited .read code cx true wait (w := w₁) (by rw [hst, hk])
          generalize pollSslReady .read code cx true wait w₁ = res at hwait ⊢
          cases hwait with
          | @ready w' hq =>
              have hs : w'.stream = w.stream := hq.stream.trans hst
              exact (ih w' (by rw [hs, hk]) (by rw [hs, he])).prepend ((ha _).trans hq.advance)
          | pending hq hpk =>
              refine ((ha _).trans hq.advance).park fun hk' hpoll => ?_
              exact ⟨wantDir code, (hev.steps.polling hpoll).asked_call hq hask,
                hpk (by rw [hst, hk']) ((ha _).steps.polling hpoll)⟩
          | @failed w' e hq =>
              have he' : w'.stream.writeError = none := by rw [hq.stream, hst, he]
              have hw : Advance .reader cx w' (w'.call (.waitFailed .read e)) :=
                Advance.call (c := .waitFailed .read e) he' rfl rfl
              exact (((ha _).trans hq.advance).trans hw).done (by simp) (by simp)
        · exact (ha _).done (by simp) (by simp)

/-! ## Shutting down through libssl -/

/-- One turn of the shutdown loop, by the answer of its `SSL_shutdown`. -/
theorem shutdownLoop_cons (cx : W) (r : Round Bool) (rs : List (Round Bool)) :
    shutdownLoop cx (r :: rs) w =
      match r.answer with
      | .done peer =>
          (((w.events r.before).call (.sslShutdown (.done peer))).moveTo .closed,
            .returned (.ready (.ok ())))
      | .stopped n code diag =>
          let w := (w.events r.before).call (.sslShutdown (.stopped n code diag))
          if IsWant code then
            match pollSslReady .shutdown code cx false r.wait w with
            | (w, .pending) => (w, .returned .pending)
            | (w, .ready (.error e)) => failWrite w e
            | (w, .ready (.ok ())) => shutdownLoop cx rs w
          else failWrite w (sslIoError "SSL_shutdown" code diag) := by
  obtain ⟨before, answer, wait⟩ := r
  rw [shutdownLoop]
  cases answer with
  | done peer =>
      simp only [if_pos ((SslAnswer.shutdownRet_nonneg_iff _).mpr ⟨peer, rfl⟩)]
  | stopped n code diag =>
      have hneg : ¬ 0 ≤ (SslAnswer.stopped n code diag).shutdownRet := by
        rw [SslAnswer.shutdownRet_nonneg_iff]
        simp
      simp only [if_neg hneg]
      rfl

/-- Spec of the shutdown loop, entered in the state `sending` with nothing pending. -/
theorem shutdownLoop_spec (cx : W) (rounds : List (Round Bool)) (w : World W)
    (hk : w.stream.ktlsActive = false) (he : w.stream.writeError = none)
    (hs : w.stream.shutdown = .sending) (hp : w.stream.pendingWrite = []) :
    PollSpec .writer cx [] w (shutdownLoop cx rounds w) := by
  induction rounds generalizing w with
  | nil => exact (Advance.refl w).done (by simp) (by simp)
  | cons r rs ih =>
      have hev : Quiet .writer cx w (w.events r.before) := quiet_events r.before
      have hperm : ∀ a, Permits (w.events r.before) (.sslShutdown a) := fun a => by
        simp [Permits, hk, he, hs, hp]
      rw [shutdownLoop_cons cx]
      rcases r with ⟨before, peer | ⟨n, code, diag⟩, wait⟩
      · exact (hev.advance.trans (Advance.call (hperm (.done peer)) rfl rfl)).done (by simp)
          (by simp)
      · simp only
        split_ifs with hwant
        · set w₁ := (w.events before).call (.sslShutdown (.stopped n code diag)) with hw₁
          have ha : Advance .writer cx w w₁ := hev.advance.trans
            (Advance.call (hperm (.stopped n code diag)) (by simp [Call.failure, hwant]) rfl)
          have hst : w₁.stream = w.stream := hev.stream
          have hask : (Call.sslShutdown (.stopped n code diag)).wants = some (wantDir code) :=
            wants_stopped (α := Bool) n diag hwant
          have hwait := pollSslReady_waited .shutdown code cx false wait (w := w₁)
            (by rw [hst, hk])
          generalize pollSslReady .shutdown code cx false wait w₁ = res at hwait ⊢
          cases hwait with
          | @ready w' hq =>
              have hst' : w'.stream = w.stream := hq.stream.trans hst
              exact (ih w' (by rw [hst', hk]) (by rw [hst', he]) (by rw [hst', hs])
                (by rw [hst', hp])).prepend (ha.trans hq.advance)
          | pending hq hpk =>
              refine (ha.trans hq.advance).park fun hk' hpoll => ?_
              exact ⟨wantDir code, (hev.steps.polling hpoll).asked_call hq hask,
                hpk (by rw [hst, hk']) (ha.steps.polling hpoll)⟩
          | @failed w' e hq =>
              have he' : w'.stream.writeError = none := by rw [hq.stream, hst, he]
              exact (PollSpec.waitFail rfl he' e).prepend (ha.trans hq.advance)
        · have hfail : PollSpec .writer cx [] (w.events before)
              (failWrite ((w.events before).call (.sslShutdown (.stopped n code diag)))
                (sslIoError "SSL_shutdown" code diag) : World W × Exit (Poll (IoResult Unit))) :=
            .fail (hperm _) (by simp [Call.failure, hwant]) rfl
          exact hfail.prepend hev.advance

end TokioAwsLc.Stream
