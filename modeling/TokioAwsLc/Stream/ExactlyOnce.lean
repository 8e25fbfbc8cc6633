import TokioAwsLc.Stream.Turns

/-!
# Exactly-once, in-order plaintext on the userspace path

What the callers of `poll_write` were told, what libssl has finished, and what the stream still holds
always add up.

* `Books w`: the accounts of a userspace world. The plaintext taken over from callers is the completed
  plaintext followed by `pending_write`; libssl is blocked on exactly the pending bytes; at most one
  record's worth is pending; and every `SSL_write` in the history was a retry of the blocked call or
  a new write with none blocked.
* `Step.books`, `Turn.books`: each small step, and so each operation, keeps the books.
* `acked_eq_accepted`: what was acknowledged is what was taken over.
* `userspace_exactly_once`: the result, for every run of a new userspace stream.
-/

set_option linter.unusedSectionVars false

namespace TokioAwsLc.Stream

open Ktls (Abi)
open Lib.Trace (Respects respects_concat)

variable {W : Type} [DecidableEq W] {h : Half} {cx : W} {w w' : World W}

/-! ## The books of a world -/

/-- An `SSL_write` is right after the history `t`: a retry repeats the blocked call, and a new write
finds none blocked. -/
def WriteOk (t : List (Act W)) : Act W → Prop
  | .call (.sslWrite .retry buf _) => blocked t = some buf
  | .call (.sslWrite .fresh _ _) => blocked t = none
  | _ => True

/-- The write libssl is blocked on while these bytes are pending. -/
def heldBy : Bytes → Option Bytes
  | [] => none
  | b :: bs => some (b :: bs)

/-- Nothing is pending, nothing is held. -/
@[simp] theorem heldBy_nil : heldBy [] = none := rfl

/-- Pending bytes are held as they are. -/
theorem heldBy_of_ne_nil {bs : Bytes} (hne : bs ≠ []) : heldBy bs = some bs := by
  cases bs with
  | nil => exact absurd rfl hne
  | cons b bs => rfl

/-- The accounts of a userspace world. -/
structure Books (w : World W) : Prop where
  userspace : w.stream.ktlsActive = false
  balance : accepted w.trace = completed w.trace ++ w.stream.pendingWrite
  held : w.stream.writeError = none → blocked w.trace = heldBy w.stream.pendingWrite
  bounded : w.stream.pendingWrite.length ≤ maxPlaintext
  writes : Respects WriteOk w.trace

/-- The accounts of a fresh stream are empty, and balanced. -/
theorem books_fromParts (disabled : Bool) (net : Net W) :
    Books (World.fromParts disabled net) where
  userspace := rfl
  balance := rfl
  held := fun _ => rfl
  bounded := Nat.zero_le _
  writes := Lib.Trace.respects_nil

/-- A permitted call is right for the history. -/
theorem Books.writeOk (hb : Books w) {c : Call} (hc : Permits w c) :
    WriteOk w.trace (.call c) := by
  rcases c with ⟨site, buf, a⟩ | _ | _ | _ | _ | _ | _ | _
  · cases site with
    | retry =>
        obtain ⟨-, he, rfl, hne⟩ := hc
        show blocked w.trace = some w.stream.pendingWrite
        rw [hb.held he, heldBy_of_ne_nil hne]
    | fresh =>
        obtain ⟨-, he, -, hp, -⟩ := hc
        show blocked w.trace = none
        rw [hb.held he, hp, heldBy_nil]
  all_goals exact trivial

/-- A signal is no business of libssl. -/
theorem Books.signal (hb : Books w) (s : Signal W) : Books (w.signal s) where
  userspace := hb.userspace
  balance := by simpa using hb.balance
  held := by simpa using hb.held
  bounded := hb.bounded
  writes := respects_concat.mpr ⟨hb.writes, trivial⟩

/-- Neither is a move of the shutdown field. -/
theorem Books.moveTo (hb : Books w) (s : Shutdown) : Books (w.moveTo s) where
  userspace := hb.userspace
  balance := by simpa using hb.balance
  held := by simpa using hb.held
  bounded := hb.bounded
  writes := respects_concat.mpr ⟨hb.writes, trivial⟩

/-- Latching a failure ends the account of what libssl is blocked on; the bytes stay where they
are. -/
theorem Books.failed (hb : Books w) {c : Call} {e : IoError} (hc : Permits w c)
    (hf : c.failure = some e) : Books ((w.call c).writeFailure e) where
  userspace := hb.userspace
  balance := by
    have hcomp : (Act.call c : Act W).completes = [] ∧ (Act.call c : Act W).accepts = [] := by
      rcases c with ⟨site, buf, _ | ⟨n, code, diag⟩⟩ | _ | _ | _ | _ | _ | _ | _
      · cases hf
      · have hw : ¬ IsWant code := fun hw => by simp [Call.failure, hw] at hf
        cases site <;> simp [Act.completes, Act.accepts, hw]
      all_goals exact ⟨rfl, rfl⟩
    simpa [hcomp] using hb.balance
  held := by simp
  bounded := hb.bounded
  writes := by
    have hw := respects_concat.mpr ⟨hb.writes, hb.writeOk hc⟩
    have hl : Respects WriteOk (w.trace ++ [.call c] ++ [.latch e]) :=
      respects_concat.mpr ⟨hw, trivial⟩
    exact respects_concat.mpr ⟨hl, trivial⟩

/-- A call that does not fail moves bytes between the accounts, and what a new write brings in is
added to both sides. -/
theorem Books.call (hb : Books w) {c : Call} (hc : Permits w c) (hf : c.failure = none) :
    Books (c.effect (w.call c)) := by
  have hwrites : Respects WriteOk (w.trace ++ [.call c]) :=
    respects_concat.mpr ⟨hb.writes, hb.writeOk hc⟩
  have hbal := hb.balance
  -- a call that is not an `SSL_write` keeps every account
  have hother : (∀ site buf a, c ≠ .sslWrite site buf a) → Books (w.call c) := by
    intro hne
    refine ⟨hb.userspace, ?_, ?_, hb.bounded, hwrites⟩
    · rcases c with ⟨site, buf, a⟩ | _ | _ | _ | _ | _ | _ | _
      · exact absurd rfl (hne site buf a)
      all_goals simpa [Act.completes, Act.accepts] using hbal
    · rcases c with ⟨site, buf, a⟩ | _ | _ | _ | _ | _ | _ | _
      · exact absurd rfl (hne site buf a)
      all_goals simpa [Act.blocks] using hb.held
  rcases c with ⟨site, buf, a⟩ | _ | a | _ | r | _ | _ | _
  case sslWrite =>
    cases site with
    | retry =>
        obtain ⟨-, he, hp, hne⟩ := hc
        rcases a with _ | ⟨n, code, diag⟩
        · -- the pending bytes become completed bytes
          refine ⟨hb.userspace, ?_, ?_, Nat.zero_le _, hwrites⟩
          · simp [Call.effect, Act.completes, Act.accepts, hbal, hp]
          · simp [Call.effect, Act.blocks]
        · have hw : IsWant code := by
            by_contra hw
            simp [Call.failure, hw] at hf
          refine ⟨hb.userspace, ?_, ?_, hb.bounded, hwrites⟩
          · simpa [Call.effect, Act.completes, Act.accepts] using hbal
          · simp [Call.effect, Act.blocks, hw, hp, heldBy_of_ne_nil hne]
    | fresh =>
        obtain ⟨-, he, -, hp, hne, hmax⟩ := hc
        rcases a with _ | ⟨n, code, diag⟩
        · refine ⟨hb.userspace, ?_, ?_, hb.bounded, hwrites⟩
          · simp [Call.effect, Act.completes, Act.accepts, hbal, hp]
          · simp [Call.effect, Act.blocks, hp]
        · -- the bytes of the blocked write become pending bytes
          have hw : IsWant code := by
            by_contra hw
            simp [Call.failure, hw] at hf
          refine ⟨hb.userspace, ?_, ?_, hmax, hwrites⟩
          · simp [Call.effect, Act.completes, Act.accepts, hbal, hp, hw]
          · simp [Call.effect, Act.blocks, hw, heldBy_of_ne_nil hne]
  case sslShutdown =>
    cases a with
    | done peer => exact (hother (by simp)).moveTo .closed
    | stopped n code diag => exact hother (by simp)
  case sendmsg => exact absurd (hb.userspace.symm.trans hc.1) (by simp)
  all_goals exact hother (by simp)

/-- **One step keeps the books.** -/
theorem Step.books (hs : Step h cx w w') (hb : Books w) : Books w' := by
  cases hs with
  | signal _ => exact hb.signal _
  | call hc hf => exact hb.call hc hf
  | failed hc hf => exact hb.failed hc hf
  | sending _ _ _ => exact hb.moveTo .sending
  | reader hk => exact absurd (hb.userspace.symm.trans hk) (by simp)

/-- A part of a poll keeps the accounts. -/
theorem Steps.books (hs : Steps h cx w w') (hb : Books w) : Books w' :=
  Lib.invariant_of_steps (I := Books) (fun _ _ hst => Step.books hst) hs hb

/-- So does a whole operation. -/
theorem Turn.books (ht : Turn w w') (hb : Books w) : Books w' :=
  ht.preserves (fun _ s hb => hb.signal s) (fun _ _ _ _ hst hb => hst.books hb) hb

/-- Accounts are kept in userspace only. -/
theorem Books.coherent (hb : Books w) : Coherent w := by
  intro hk
  exact absurd (hb.userspace.symm.trans hk) (by simp)

/-! ## What the callers were told -/

/-- Recording the end of a poll takes nothing over. -/
@[simp] theorem accepted_finish {α : Type} (h : Half) (leave : List Dir) (w : World W)
    (x : Exit (Poll α)) : accepted (finish h leave w x).1.trace = accepted w.trace := by
  cases x <;> simp [finish]

/-- What one operation acknowledges is what it takes over. -/
theorem step_acked (abi : Abi) {s : Session W} (hk : s.world.stream.ktlsActive = false)
    (ha : s.acked = accepted s.world.trace) (op : Op W) :
    (s.step abi op).1.acked = accepted (s.step abi op).1.world.trace := by
  have hc : ∀ sig, Coherent (s.world.signal sig) := fun sig hk' =>
    absurd (hk.symm.trans hk') (by simp)
  cases op with
  | read cx cap script =>
      have hspec := pollRead_spec abi cx cap script (hc (.called .reader cx))
      simp [Session.step, hspec.accepted, ha]
  | write cx buf script =>
      have hspec := pollWrite_spec_userspace (w := s.world.signal (.called .writer cx)) cx buf
        script hk
      simp [Session.step, hspec.accepted, ha]
  | flush cx script =>
      have hspec := pollFlush_spec cx script (hc (.called .writer cx))
      simp [Session.step, hspec.accepted, ha]
  | shutdown cx script =>
      have hspec := pollShutdown_spec cx script (hc (.called .writer cx))
      simp [Session.step, hspec.accepted, ha]
  | event d => simp [Session.step, ha]

/-- **A run keeps the books**, and what was acknowledged is what was taken over. -/
theorem run_books (abi : Abi) (disabled : Bool) (net : Net W) (ops : List (Op W)) :
    Books (Session.run abi (.start (World.fromParts disabled net)) ops).world ∧
      (Session.run abi (.start (World.fromParts disabled net)) ops).acked =
        accepted (Session.run abi (.start (World.fromParts disabled net)) ops).world.trace := by
  refine Lib.Runs.exec_invariant
    (I := fun s : Session W => Books s.world ∧ s.acked = accepted s.world.trace) ?_
    ⟨books_fromParts disabled net, rfl⟩ ops
  rintro s op ⟨hb, ha⟩
  exact ⟨(step_turn abi s op hb.coherent).books hb, step_acked abi hb.userspace ha op⟩

/-- The guarantees of a userspace stream about the plaintext written to it, in the state `s`. -/
structure ExactlyOnce (abi : Abi) (s : Session W) : Prop where
  /-- Without a latched failure, what was acknowledged has been completed or is pending. -/
  ledger : s.world.stream.writeError = none →
    s.acked = completed s.world.trace ++ s.world.stream.pendingWrite
  /-- After a failure, what has been completed is still a prefix of what was acknowledged. -/
  failed_ledger : s.world.stream.writeError ≠ none → completed s.world.trace <+: s.acked
  /-- A `poll_write` that returns `Pending` or an error adds nothing to either side. -/
  unacknowledged : ∀ cx buf script,
    let r := pollWrite cx buf script (s.world.signal (.called .writer cx))
    (r.2 = .returned .pending ∨ ∃ e, r.2 = .returned (.ready (.error e))) →
      (s.step abi (.write cx buf script)).1.acked = s.acked ∧
        completed r.1.trace ++ r.1.stream.pendingWrite =
          completed s.world.trace ++ s.world.stream.pendingWrite
  /-- A retry repeats the blocked `SSL_write` byte for byte. -/
  retries : ∀ u buf a v, s.world.trace = u ++ .call (.sslWrite .retry buf a) :: v →
    blocked u = some buf
  /-- A new `SSL_write` is made only while none is blocked. -/
  fresh : ∀ u buf a v, s.world.trace = u ++ .call (.sslWrite .fresh buf a) :: v →
    blocked u = none
  /-- At most one record's worth is pending. -/
  bounded : s.world.stream.pendingWrite.length ≤ 16384
  /-- No poll panics. -/
  no_panic : ∀ op, (s.polled abi op).2 ≠ .panicked
  /-- A successful flush has completed everything that was acknowledged. -/
  flushed : ∀ cx script,
    let r := pollFlush cx script (s.world.signal (.called .writer cx))
    r.2 = .returned (.ready (.ok ())) →
      r.1.stream.pendingWrite = [] ∧ completed r.1.trace = s.acked
  /-- So has a successful shutdown. -/
  shut_down : ∀ cx script,
    let r := pollShutdown cx script (s.world.signal (.called .writer cx))
    r.2 = .returned (.ready (.ok ())) →
      r.1.stream.pendingWrite = [] ∧ completed r.1.trace = s.acked

/-- Once nothing is pending, everything taken over is completed. -/
theorem Books.completed_of_empty (hb : Books w) (hp : w.stream.pendingWrite = []) :
    completed w.trace = accepted w.trace := by
  rw [hb.balance, hp, List.append_nil]

/-- A poll that panics would need an oversized `pending_write`. -/
theorem Books.not_panicked (abi : Abi) {s : Session W} (hb : Books s.world) (op : Op W) :
    (s.polled abi op).2 ≠ .panicked := by
  intro hpanic
  rcases polled_spec abi s op hb.coherent with ⟨d, rfl⟩ | ⟨h, cx, took, leave, hs, -⟩
  · cases hpanic
  · have hbig := hs.panicked hpanic hb.userspace
    have hsmall := (hs.steps.books (hb.signal _)).bounded
    unfold maxPlaintext at hsmall
    omega

/-- **Exactly-once, in-order plaintext.** For a new userspace stream on a socket in any state, and
for every sequence of polls, readiness events and answers of libssl and the socket. -/
theorem userspace_exactly_once (abi : Abi) (disabled : Bool) (net : Net W) (ops : List (Op W)) :
    ExactlyOnce abi (Session.run abi (.start (World.fromParts disabled net)) ops) := by
  obtain ⟨hb, ha⟩ := run_books abi disabled net ops
  generalize Session.run abi (.start (World.fromParts disabled net)) ops = s at hb ha ⊢
  refine ⟨fun _ => ha.trans hb.balance, fun _ => ?_, ?_, ?_, ?_, hb.bounded, hb.not_panicked abi,
    ?_, ?_⟩
  · rw [ha, hb.balance]
    exact List.prefix_append _ _
  · intro cx buf script r hr
    have hspec := pollWrite_spec_userspace (w := s.world.signal (.called .writer cx)) cx buf
      script hb.userspace
    have hnone : ackedBy buf r.2 = [] := by
      rcases hr with hr | ⟨e, hr⟩ <;> rw [hr] <;> rfl
    have hsame : accepted r.1.trace = accepted s.world.trace := by
      have hacc := hspec.accepted
      rw [show ackedBy buf (pollWrite cx buf script _).2 = [] from hnone, List.append_nil] at hacc
      simpa using hacc
    refine ⟨by simpa [Session.step] using hnone, ?_⟩
    rw [← (hspec.steps.books (hb.signal _)).balance, ← hb.balance]
    exact hsame
  · intro u buf a v ht
    exact hb.writes u (.call (.sslWrite .retry buf a)) v ht
  · intro u buf a v ht
    exact hb.writes u (.call (.sslWrite .fresh buf a)) v ht
  · intro cx script r hr
    have hspec := pollFlush_spec cx script (hb.signal (.called .writer cx)).coherent
    have hp : r.1.stream.pendingWrite = [] := by
      rcases he : s.world.stream.writeError with _ | e
      · exact (pollPendingWrite_spec cx false script.drain
          (hb.signal (.called .writer cx)).coherent he).drained hr
      · have hl := pollPendingWrite_of_latched (w := s.world.signal (.called .writer cx)) cx false
          script.drain he
        change (pollPendingWrite cx false script.drain _).2 = _ at hr
        rw [hl] at hr
        cases hr
    refine ⟨hp, ?_⟩
    rw [(hspec.steps.books (hb.signal _)).completed_of_empty hp, hspec.accepted, ha]
    simp
  · intro cx script r hr
    have hspec := pollShutdown_spec cx script (hb.signal (.called .writer cx)).coherent
    have hp : r.1.stream.pendingWrite = [] := (hspec.closing hr).2
    refine ⟨hp, ?_⟩
    rw [(hspec.steps.books (hb.signal _)).completed_of_empty hp, hspec.accepted, ha]
    simp

end TokioAwsLc.Stream
