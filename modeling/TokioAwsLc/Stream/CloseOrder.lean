import TokioAwsLc.Stream.Turns

/-!
# The order of a close

Both data paths close in the same order: everything pending is written, one close_notify is sent, and
in kTLS mode the TCP half-close follows it. The theorem is about the history of a run, so about every
poll of the run at once.

* `Act.writes`, `Act.closes`, `Act.closed`, `Act.latches`, `Act.notifies`, `Act.halfCloses` name the
  entries of a history that matter here.
* `History w`: what the fields of the stream remember of its history, and that the history is in
  order. It is an invariant of the guarded machine (`Step.history`).
* `close_order`: the result for every run, in both data paths.
-/

set_option linter.unusedSectionVars false

namespace TokioAwsLc.Stream

open Ktls (Abi)
open Lib.Trace (Respects respects_concat NeverAfter OnlyAfter)

variable {W : Type} [DecidableEq W] {h : Half} {cx : W} {w w' : World W}

/-! ## Entries of a history -/

/-- An application write: `SSL_write`, or the kTLS `write(2)`. -/
def Act.writes : Act W → Bool
  | .call (.sslWrite _ _ _) => true
  | .call (.write _ _) => true
  | _ => false

/-- An attempt to send close_notify: `SSL_shutdown`, or the kTLS `sendmsg`. -/
def Act.closes : Act W → Bool
  | .call (.sslShutdown _) => true
  | .call (.sendmsg _) => true
  | _ => false

/-- The kTLS close_notify `sendmsg` took both bytes. -/
def Act.notifies : Act W → Bool
  | .call (.sendmsg (.ok 2)) => true
  | _ => false

/-- An attempt to send close_notify that succeeded. -/
def Act.closed : Act W → Bool
  | .call (.sslShutdown (.done _)) => true
  | a => a.notifies

/-- A write failure is latched. -/
def Act.latches : Act W → Bool
  | .latch _ => true
  | _ => false

/-- The TCP `shutdown(SHUT_WR)`. -/
def Act.halfCloses : Act W → Bool
  | .call (.tcpShutdown _) => true
  | _ => false

/-- The value a move of the shutdown field assigns. -/
def Act.move : Act W → Option Shutdown
  | .moved s => some s
  | _ => none

/-- The values of the shutdown field, from the first on. -/
def shutdowns (t : List (Act W)) : List Shutdown :=
  .opened :: t.filterMap Act.move

/-- Only a move changes the field. -/
theorem shutdowns_concat_of_idle (t : List (Act W)) (a : Act W) (ha : a.move = none) :
    shutdowns (t ++ [a]) = shutdowns t := by
  simp [shutdowns, ha]

/-- A change of the state is the last of the changes. -/
@[simp] theorem shutdowns_concat_moved (t : List (Act W)) (s : Shutdown) :
    shutdowns (t ++ [.moved s]) = shutdowns t ++ [s] := by
  simp [shutdowns, Act.move]

/-- The allowed moves. A `poll_shutdown` that has to be repeated assigns `sending` again. -/
inductive Shutdown.Next : Shutdown → Shutdown → Prop
  | send : Next .opened .sending
  | resend : Next .sending .sending
  | close : Next .sending .closed

/-- An entry is in order after the history `u`. -/
structure CloseOk (u : List (Act W)) (a : Act W) : Prop where
  write : a.writes → ∀ b ∈ u, ¬ b.closes
  once : a.closes → ∀ b ∈ u, ¬ b.closed
  unfailed : a.closes → ∀ b ∈ u, ¬ b.latches
  halfClose : a.halfCloses → ∃ b ∈ u, b.notifies

/-- What the fields of the stream remember of its history. -/
structure History (w : World W) : Prop where
  moves : (shutdowns w.trace).IsChain Shutdown.Next
  last : (shutdowns w.trace).getLast? = some w.stream.shutdown
  drained : w.stream.shutdown ≠ .opened → w.stream.pendingWrite = []
  attempted : ∀ a ∈ w.trace, a.closes → w.stream.shutdown ≠ .opened
  closed : ∀ a ∈ w.trace, a.closed → w.stream.shutdown = .closed
  latched : ∀ a ∈ w.trace, a.latches → w.stream.writeError ≠ none
  notified : w.stream.ktlsActive = true → w.stream.shutdown = .closed →
    ∃ a ∈ w.trace, a.notifies
  order : Respects CloseOk w.trace

/-- A fresh stream has done nothing. -/
theorem history_established (ktls disabled : Bool) (net : Net W) :
    History (World.established ktls disabled net) where
  moves := .singleton _
  last := rfl
  drained := fun _ => rfl
  attempted := by simp [World.established]
  closed := by simp [World.established]
  latched := by simp [World.established]
  notified := by simp [World.established, TlsStream.fromParts]
  order := Lib.Trace.respects_nil

/-! ## The invariant, entry by entry -/

/-- Entries that are no calls are in order anywhere. -/
theorem CloseOk.of_idle {u : List (Act W)} {a : Act W} (hw : a.writes = false)
    (hc : a.closes = false) (hh : a.halfCloses = false) : CloseOk u a :=
  ⟨by simp [hw], by simp [hc], by simp [hc], by simp [hh]⟩

/-- A permitted call is in order. -/
theorem History.closeOk (hh : History w) {c : Call} (hc : Permits w c) :
    CloseOk w.trace (.call c) := by
  -- while the field is `opened`, nothing has been attempted
  have hopen : w.stream.shutdown = .opened → ∀ b ∈ w.trace, ¬ b.closes :=
    fun ho b hb hcl => hh.attempted b hb hcl ho
  -- while it is `sending` without a latched failure, nothing has succeeded or failed
  have hsend : w.stream.shutdown = .sending → ∀ b ∈ w.trace, ¬ b.closed := by
    intro hs b hb hcl
    have hclosed := hh.closed b hb hcl
    rw [hs] at hclosed
    cases hclosed
  have hfree : w.stream.writeError = none → ∀ b ∈ w.trace, ¬ b.latches :=
    fun he b hb hl => hh.latched b hb hl he
  cases c with
  | sslWrite site buf a =>
      have ho : w.stream.shutdown = .opened := by
        cases site with
        | retry =>
            obtain ⟨-, -, rfl, hne⟩ := hc
            by_contra ho
            exact hne (hh.drained ho)
        | fresh => exact hc.2.2.1
      exact ⟨fun _ => hopen ho, by simp [Act.closes], by simp [Act.closes], by simp [Act.halfCloses]⟩
  | write buf r =>
      exact ⟨fun _ => hopen hc.2.2, by simp [Act.closes], by simp [Act.closes],
        by simp [Act.halfCloses]⟩
  | sslShutdown a =>
      exact ⟨by simp [Act.writes], fun _ => hsend hc.2.2.1, fun _ => hfree hc.2.1,
        by simp [Act.halfCloses]⟩
  | sendmsg r =>
      exact ⟨by simp [Act.writes], fun _ => hsend hc.2.2, fun _ => hfree hc.2.1,
        by simp [Act.halfCloses]⟩
  | tcpShutdown r =>
      exact ⟨by simp [Act.writes], by simp [Act.closes], by simp [Act.closes],
        fun _ => hh.notified hc.1 hc.2.2⟩
  | sslRead cap a => exact .of_idle rfl rfl rfl
  | recvmsg cap => exact .of_idle rfl rfl rfl
  | waitFailed site e => exact .of_idle rfl rfl rfl

/-- A signal changes nothing the history is about. -/
theorem History.signal (hh : History w) (s : Signal W) : History (w.signal s) where
  moves := by
    rw [World.signal_trace, shutdowns_concat_of_idle _ _ rfl]
    exact hh.moves
  last := by
    rw [World.signal_trace, shutdowns_concat_of_idle _ _ rfl]
    exact hh.last
  drained := hh.drained
  attempted := by simpa [or_imp, forall_and, Act.closes] using hh.attempted
  closed := by simpa [or_imp, forall_and, Act.closed, Act.notifies] using hh.closed
  latched := by simpa [or_imp, forall_and, Act.latches] using hh.latched
  notified := by simpa [or_and_right, exists_or, Act.notifies] using hh.notified
  order := respects_concat.mpr ⟨hh.order, .of_idle rfl rfl rfl⟩

/-- A call that does not get a close_notify accepted. -/
theorem History.call (hh : History w) {c : Call} (hc : Permits w c)
    (hn : (Act.call c : Act W).closed = false) : History (w.call c) where
  moves := by
    rw [World.call_trace, shutdowns_concat_of_idle _ _ rfl]
    exact hh.moves
  last := by
    rw [World.call_trace, shutdowns_concat_of_idle _ _ rfl]
    exact hh.last
  drained := hh.drained
  attempted := by
    simp only [World.call_trace, List.mem_append, List.mem_singleton]
    rintro a (ha | rfl) hcl
    · exact hh.attempted a ha hcl
    · cases c <;> simp [Act.closes] at hcl
      · simp [hc.2.2.1]
      · simp [hc.2.2]
  closed := by
    simp only [World.call_trace, List.mem_append, List.mem_singleton]
    rintro a (ha | rfl) hcl
    · exact hh.closed a ha hcl
    · rw [hn] at hcl
      cases hcl
  latched := by simpa [or_imp, forall_and, Act.latches] using hh.latched
  notified := by
    intro hk hs
    obtain ⟨a, ha, hnot⟩ := hh.notified hk hs
    exact ⟨a, by simp [ha], hnot⟩
  order := respects_concat.mpr ⟨hh.order, hh.closeOk hc⟩

/-- A close_notify is accepted and the stream moves to `closed`. -/
theorem History.accept (hh : History w) {c : Call} (hc : Permits w c)
    (hn : (Act.call c : Act W).closed = true) : History ((w.call c).moveTo .closed) := by
  have hs : w.stream.shutdown = .sending := by
    rcases c with _ | _ | a | _ | r | _ | _ | _ <;>
      first | exact hc.2.2.1 | exact hc.2.2 | cases hn
  have hnot : w.stream.ktlsActive = true → (Act.call c : Act W).notifies = true := by
    intro hk
    rcases c with _ | _ | a | _ | r | _ | _ | _
    case sslShutdown => exact absurd (hc.1.symm.trans hk) (by simp)
    case sendmsg => exact hn
    all_goals cases hn
  have hcall : shutdowns (w.trace ++ [.call c]) = shutdowns w.trace :=
    shutdowns_concat_of_idle w.trace _ rfl
  refine ⟨?_, ?_, ?_, ?_, ?_, ?_, ?_, ?_⟩
  · simp only [World.moveTo_trace, World.call_trace, shutdowns_concat_moved, hcall]
    refine Lib.Trace.isChain_concat_of_getLast hh.moves hh.last ?_
    rw [hs]
    exact .close
  · simp only [World.moveTo_trace, World.call_trace, shutdowns_concat_moved]
    simp
  · intro _
    exact hh.drained (by simp [hs])
  · simp
  · simp
  · simpa [or_imp, forall_and, Act.latches] using hh.latched
  · intro hk _
    exact ⟨.call c, by simp, hnot hk⟩
  · have ho := respects_concat.mpr ⟨hh.order, hh.closeOk hc⟩
    exact respects_concat.mpr ⟨ho, .of_idle rfl rfl rfl⟩

/-- `poll_shutdown` announces the close. -/
theorem History.sending (hh : History w) (hp : w.stream.pendingWrite = [])
    (hs : w.stream.shutdown ≠ .closed) : History (w.moveTo .sending) where
  moves := by
    simp only [World.moveTo_trace, shutdowns_concat_moved]
    refine Lib.Trace.isChain_concat_of_getLast hh.moves hh.last ?_
    rcases hsh : w.stream.shutdown with _ | _ | _
    · exact .send
    · exact .resend
    · exact absurd hsh hs
  last := by simp
  drained := fun _ => hp
  attempted := by simp
  closed := by
    simp only [World.moveTo_trace, List.mem_append, List.mem_singleton]
    rintro a (ha | rfl) hcl
    · exact absurd (hh.closed a ha hcl) hs
    · cases hcl
  latched := by simpa [or_imp, forall_and, Act.latches] using hh.latched
  notified := by simp
  order := respects_concat.mpr ⟨hh.order, .of_idle rfl rfl rfl⟩

/-- A failure is latched. -/
theorem History.writeFailure (hh : History w) (e : IoError) : History (w.writeFailure e) := by
  have hsame : shutdowns (w.latch e).trace = shutdowns w.trace :=
    shutdowns_concat_of_idle w.trace _ rfl
  refine History.signal (w := w.latch e) ⟨?_, ?_, hh.drained, ?_, ?_, ?_, ?_, ?_⟩ .notify
  · rw [hsame]
    exact hh.moves
  · rw [hsame]
    exact hh.last
  · simpa [World.latch, or_imp, forall_and, Act.closes] using hh.attempted
  · simpa [World.latch, or_imp, forall_and, Act.closed, Act.notifies] using hh.closed
  · simp [World.latch]
  · simpa [World.latch, or_and_right, exists_or, Act.notifies] using hh.notified
  · exact respects_concat.mpr ⟨hh.order, .of_idle rfl rfl rfl⟩

/-- New plaintext becomes pending only while the stream is open. -/
theorem History.setPending (hh : History w) {bs : Bytes}
    (hbs : w.stream.shutdown ≠ .opened → bs = []) : History (w.setPending bs) :=
  ⟨hh.moves, hh.last, hbs, hh.attempted, hh.closed, hh.latched, hh.notified, hh.order⟩

/-- A call that ends the write path has not had a close_notify accepted. -/
theorem closed_eq_false_of_failure {c : Call} {e : IoError} (hf : c.failure = some e) :
    (Act.call c : Act W).closed = false := by
  rcases c with _ | _ | ⟨_ | _⟩ | _ | ⟨errno | sent⟩ | _ | _ | _
  case sendmsg.ok =>
    have h2 : sent ≠ 2 := by
      rintro rfl
      cases hf
    unfold Act.closed Act.notifies
    split <;> simp_all
  case sslShutdown.done => cases hf
  all_goals rfl

/-- **One step keeps the history in order.** -/
theorem Step.history (hs : Step h cx w w') (hh : History w) : History w' := by
  cases hs with
  | signal _ => exact hh.signal _
  | @call c hc hf =>
      rcases c with ⟨_ | _, buf, _ | _⟩ | _ | ⟨_ | _⟩ | _ | ⟨errno | sent⟩ | _ | _ | _
      · exact (hh.call hc rfl).setPending fun _ => rfl
      · exact hh.call hc rfl
      · exact hh.call hc rfl
      · exact (hh.call hc rfl).setPending fun ho => absurd hc.2.2.1 ho
      · exact hh.call hc rfl
      · exact hh.accept hc rfl
      · exact hh.call hc rfl
      · exact hh.call hc rfl
      · exact hh.call hc rfl
      · by_cases h2 : sent = 2
        · subst h2
          exact hh.accept hc rfl
        · -- a short `sendmsg` is a failure
          exfalso
          simp only [Call.failure, sendCloseNotify, checkCloseNotifyWrite, if_neg h2] at hf
          split_ifs at hf <;> simp_all [IoError.kind, IoError.invalidData]
      · exact hh.call hc rfl
      · exact hh.call hc rfl
      · exact hh.call hc rfl
  | failed hc hf => exact (hh.call hc (closed_eq_false_of_failure hf)).writeFailure _
  | sending he hp hs => exact hh.sending hp hs
  | reader _ =>
      exact ⟨hh.moves, hh.last, hh.drained, hh.attempted, hh.closed, hh.latched, hh.notified,
        hh.order⟩

/-! ## Whole runs -/

/-- The order of a close, in the world `w`. -/
structure CloseOrder (w : World W) : Prop where
  /-- The shutdown field only moves from `opened` to `sending` to `closed`, and is where the last
  move left it. -/
  moves : (shutdowns w.trace).IsChain Shutdown.Next ∧
    (shutdowns w.trace).getLast? = some w.stream.shutdown
  /-- Nothing is pending once the stream is closing. -/
  drained : w.stream.shutdown ≠ .opened → w.stream.pendingWrite = []
  /-- No application write follows an attempt to send close_notify. -/
  no_write : NeverAfter (fun a => a.closes) (fun a => a.writes) w.trace
  /-- At most one attempt succeeds. -/
  at_most_once : (w.trace.filter Act.closed).length ≤ 1
  /-- No attempt follows a success. -/
  none_after_success : NeverAfter (fun a => a.closed) (fun a => a.closes) w.trace
  /-- No attempt follows a latched failure. -/
  none_after_failure : NeverAfter (fun a => a.latches) (fun a => a.closes) w.trace
  /-- The TCP half-close follows a close_notify the kernel took in full. -/
  half_close : OnlyAfter (fun a => a.notifies) (fun a => a.halfCloses) w.trace

/-- A success is an attempt. -/
theorem Act.closes_of_closed {a : Act W} (ha : a.closed = true) : a.closes = true := by
  rcases a with (_ | _ | _ | _ | _ | _ | _ | _) | _ | _ | _ <;> first | rfl | cases ha

/-- The invariant gives the order. -/
theorem History.closeOrder (hh : History w) : CloseOrder w := by
  have hsuccess : NeverAfter (fun a => a.closed) (fun a => a.closes) w.trace :=
    hh.order.mono fun _ _ hok => hok.once
  have honce : NeverAfter (fun a => a.closed = true) (fun a => a.closed = true) w.trace :=
    hsuccess.mono fun _ _ hok hcl => hok (Act.closes_of_closed hcl)
  refine ⟨⟨hh.moves, hh.last⟩, hh.drained, ?_, ?_, hsuccess, ?_, ?_⟩
  · exact hh.order.mono fun _ _ hok => hok.write
  · simpa using Lib.Trace.length_filter_le_one honce
  · exact hh.order.mono fun _ _ hok => hok.unfailed
  · exact hh.order.mono fun _ _ hok => hok.halfClose

/-- **The order of a close.** For every run of a new stream, in userspace and in kTLS mode. -/
theorem close_order (abi : Abi) (ktls disabled : Bool) (net : Net W) (ops : List (Op W)) :
    CloseOrder (Session.run abi (.start (World.established ktls disabled net)) ops).world := by
  refine (run_invariant abi (I := History) ?_ (coherent_established ktls disabled net)
    (history_established ktls disabled net) ops).closeOrder
  intro w w' _ ht hh
  exact ht.preserves (fun _ s hh => hh.signal s) (fun _ _ _ _ hst hh => hst.history hh) hh

end TokioAwsLc.Stream
