import TokioAwsLc.Stream.Turns

/-!
# Write failures are latched once and for all

A failure of the write path is stored in `write_error` by the poll that returns it, and from then on
the write half is dead: every entry point consults the stored error first.

* `Refused`: the operations that a stream with a latched failure answers with it.
* `Frozen w w'`: what a stream with a latched failure still does. Its write-side fields stay and it
  makes no output call; in kTLS mode it may still receive.
* `failure_latch`: both halves of the result, for every reachable state.
-/

set_option linter.unusedSectionVars false

namespace TokioAwsLc.Stream

open Ktls (Abi)

variable {W : Type} [DecidableEq W] {h : Half} {cx : W} {w w' w'' : World W}

/-! ## The poll that meets a failure -/

/-- A history is only ever extended. -/
theorem Step.trace_prefix (hs : Step h cx w w') : w.trace <+: w'.trace := by
  cases hs with
  | signal _ => exact List.prefix_append _ _
  | @call c _ _ =>
      have hcall : w.trace <+: (w.call c).trace := List.prefix_append _ _
      rcases effect_trace c (w.call c) with ht | ht
      · rw [ht]
        exact hcall
      · rw [ht]
        exact hcall.trans (List.prefix_append _ _)
  | failed _ _ => simp
  | sending _ _ _ => exact List.prefix_append _ _
  | reader _ => exact List.prefix_refl _

/-- Nothing that has happened is forgotten. -/
theorem Steps.trace_prefix (hs : Steps h cx w w') : w.trace <+: w'.trace :=
  Lib.invariant_of_steps (I := fun x => w.trace <+: x.trace)
    (fun _ _ hst hp => hp.trans (Step.trace_prefix hst)) hs (List.prefix_refl _)

/-- A failing call in a history is among its failures. -/
theorem mem_failures {t : List (Act W)} {c : Call} {e : IoError} (hc : .call c ∈ t)
    (hf : c.failure = some e) : e ∈ failures t :=
  List.mem_filterMap.mpr ⟨.call c, hc, hf⟩

/-- A poll that makes a failing call returns its error and has latched a copy. -/
theorem Settled.latched {α : Type} {r : World W × Exit (Poll (IoResult α))} (hs : Settled w r)
    {new : List (Act W)} (ht : r.1.trace = w.trace ++ new) {c : Call} {e : IoError}
    (hc : .call c ∈ new) (hf : c.failure = some e) :
    r.2 = .returned (.ready (.error e)) ∧ r.1.stream.writeError = some e.reproduce := by
  have hmem : e ∈ failures new := mem_failures hc hf
  rcases hs with ⟨hfail, -⟩ | ⟨e', hr, hfail, he⟩
  · rw [ht, failures_append, List.append_right_eq_self] at hfail
    rw [hfail] at hmem
    cases hmem
  · rw [ht, failures_append, List.append_cancel_left_eq] at hfail
    rw [hfail, List.mem_singleton] at hmem
    exact ⟨hmem ▸ hr, hmem ▸ he⟩

/-! ## A stream with a latched failure -/

/-- The calls a dead write half must not make: all of libssl's I/O, the kTLS `write(2)` and
`sendmsg`, and the TCP half-close. -/
def Call.isOutput : Call → Bool
  | .sslWrite _ _ _ => true
  | .sslRead _ _ => true
  | .sslShutdown _ => true
  | .write _ _ => true
  | .sendmsg _ => true
  | .tcpShutdown _ => true
  | .recvmsg _ => false
  | .waitFailed _ _ => false

/-- The write-side fields are as they were, and none of those calls has been made. -/
structure Frozen (w w' : World W) : Prop where
  writeError : w'.stream.writeError = w.stream.writeError
  pendingWrite : w'.stream.pendingWrite = w.stream.pendingWrite
  shutdown : w'.stream.shutdown = w.stream.shutdown
  silent : ∃ new, w'.trace = w.trace ++ new ∧ ∀ c, .call c ∈ new → c.isOutput = false

/-- Nothing has happened. -/
theorem Frozen.refl (w : World W) : Frozen w w :=
  ⟨rfl, rfl, rfl, [], by simp, by simp⟩

/-- One thing after the other. -/
theorem Frozen.trans (ha : Frozen w w') (hb : Frozen w' w'') : Frozen w w'' := by
  obtain ⟨new, ht, hnew⟩ := ha.silent
  obtain ⟨new', ht', hnew'⟩ := hb.silent
  refine ⟨hb.writeError.trans ha.writeError, hb.pendingWrite.trans ha.pendingWrite,
    hb.shutdown.trans ha.shutdown, new ++ new', by rw [ht', ht, List.append_assoc], ?_⟩
  intro c hc
  rcases List.mem_append.mp hc with hc | hc
  · exact hnew c hc
  · exact hnew' c hc

/-- A signal of the reactor is not a call. -/
theorem frozen_signal (w : World W) (s : Signal W) : Frozen w (w.signal s) :=
  ⟨rfl, rfl, rfl, [.signal s], rfl, by simp⟩

/-- With a latched failure, the only permitted calls belong to the kTLS read side: they are no
output, do not fail the write path, and change nothing in the stream. -/
theorem Permits.of_latched {c : Call} (hc : Permits w c) (he : w.stream.writeError ≠ none) :
    c.isOutput = false ∧ c.failure = none ∧ ∀ w₁ : World W, c.effect w₁ = w₁ := by
  rcases c with ⟨_ | _, _, _⟩ | _ | _ | _ | _ | _ | _ | ⟨site, e⟩
  · exact absurd hc.2.1 he
  · exact absurd hc.2.1 he
  · exact absurd hc.2 he
  · exact absurd hc.2.1 he
  · exact absurd hc.2.1 he
  · exact absurd hc.2.1 he
  · exact ⟨rfl, rfl, fun _ => rfl⟩
  · exact absurd hc.2.1 he
  · by_cases hsite : site = .ktlsRead
    · subst hsite
      exact ⟨rfl, rfl, fun _ => rfl⟩
    · exact absurd (by simpa [Permits, hsite] using hc) he

/-- **One step with a latched failure** changes nothing on the write side. -/
theorem Step.frozen (hs : Step h cx w w') (he : w.stream.writeError ≠ none) : Frozen w w' := by
  cases hs with
  | signal _ => exact frozen_signal w _
  | @call c hc hf =>
      obtain ⟨hout, -, heff⟩ := hc.of_latched he
      rw [heff]
      refine ⟨rfl, rfl, rfl, [.call c], rfl, ?_⟩
      intro c' hc'
      obtain rfl : c' = c := by simpa using hc'
      exact hout
  | failed hc hf =>
      obtain ⟨-, hnone, -⟩ := hc.of_latched he
      rw [hnone] at hf
      cases hf
  | sending he' _ _ => exact absurd he' he
  | reader _ => exact ⟨rfl, rfl, rfl, [], by simp, by simp⟩

/-- One operation. -/
theorem Turn.frozen (ht : Turn w w') (he : w.stream.writeError ≠ none) : Frozen w w' := by
  refine ht.preserves (I := fun x => Frozen w x) ?_ ?_ (.refl w)
  · exact fun x s hx => hx.trans (frozen_signal x s)
  · exact fun h cx x y hst hx => hx.trans (hst.frozen (hx.writeError ▸ he))

/-! ## What is refused -/

/-- The operations a stream with a latched failure answers with it. -/
def Refused (w : World W) : Op W → Prop
  | .read _ cap _ => w.stream.ktlsActive = false ∧ cap ≠ 0
  | .write _ buf _ => buf ≠ []
  | .flush _ _ => True
  | .shutdown _ _ => True
  | .event _ => False

/-- They return a copy of the latched error. -/
theorem polled_of_latched (abi : Abi) {s : Session W} {e : IoError}
    (he : s.world.stream.writeError = some e) {op : Op W} (hr : Refused s.world op) :
    (s.polled abi op).2 = .returned (.ready (.error e.reproduce)) := by
  have hdrain : ∀ cx reader rounds sig, pollPendingWrite cx reader rounds (s.world.signal sig) =
      (s.world.signal sig, .returned (.ready (.error e.reproduce))) :=
    fun cx reader rounds sig => pollPendingWrite_of_latched cx reader rounds he
  cases op with
  | read cx cap script =>
      obtain ⟨hk, hcap⟩ := hr
      simp [Session.polled, pollRead, hcap, hk, hdrain, Exit.void]
  | write cx buf script =>
      have hbuf : buf ≠ [] := hr
      simp [Session.polled, pollWrite, hbuf, he, duplicateIoError, Exit.void]
  | flush cx script => simp [Session.polled, pollFlush, hdrain]
  | shutdown cx script => simp [Session.polled, pollShutdown, hdrain]
  | event d => exact hr.elim

/-! ## Every reachable state -/

/-- Failures are latched, and stay latched, in the state `s`. -/
structure FailureLatch (abi : Abi) (s : Session W) : Prop where
  /-- A poll that makes a call which ends the write path returns that error and has stored a copy
  of it. -/
  latches : ∀ op, ∃ new, (s.polled abi op).1.trace = s.world.trace ++ new ∧
    ∀ c e, .call c ∈ new → c.failure = some e →
      (s.polled abi op).2 = .returned (.ready (.error e)) ∧
        (s.polled abi op).1.stream.writeError = some e.reproduce
  /-- With a latched failure, every further run makes no output call, keeps the write-side fields,
  and every refused operation reports the same failure. -/
  stays : ∀ e, s.world.stream.writeError = some e → ∀ ops,
    let s' := Session.run abi s ops
    Frozen s.world s'.world ∧
      ∀ op, Refused s'.world op → ∃ e', (s'.polled abi op).2 = .returned (.ready (.error e')) ∧
        e'.SameReport e

/-- **Write failures are latched once and for all**, in every reachable state of a stream, in
userspace and in kTLS mode. -/
theorem failure_latch (abi : Abi) (ktls disabled : Bool) (net : Net W) (ops : List (Op W)) :
    FailureLatch abi (Session.run abi (.start (World.established ktls disabled net)) ops) := by
  have hcoh : Coherent (Session.run abi (.start (World.established ktls disabled net)) ops).world :=
    run_invariant abi (I := Coherent) (fun _ _ _ ht hc => ht.coherent hc) (fun _ => rfl)
      (fun _ => rfl) ops
  generalize Session.run abi (.start (World.established ktls disabled net)) ops = s at hcoh ⊢
  constructor
  · intro op
    rcases polled_spec abi s op hcoh with ⟨d, rfl⟩ | ⟨h, cx, took, leave, hs, -⟩
    · exact ⟨[.signal (.event d)], rfl, by simp⟩
    · obtain ⟨new, ht⟩ := hs.steps.trace_prefix
      refine ⟨.signal (.called h cx) :: new, by simp [← ht], ?_⟩
      intro c e hc hf
      exact hs.settled.latched ht.symm (by simpa using hc) hf
  · intro e he ops s'
    have hfrozen : Frozen s.world s'.world := by
      refine run_invariant abi (I := fun w => Frozen s.world w) ?_ hcoh (.refl _) ops
      intro w w' _ ht hw
      exact hw.trans (ht.frozen (by rw [hw.writeError, he]; simp))
    refine ⟨hfrozen, fun op hr => ⟨e.reproduce, ?_, IoError.reproduce_sameReport e⟩⟩
    exact polled_of_latched abi (hfrozen.writeError.trans he) hr

end TokioAwsLc.Stream
