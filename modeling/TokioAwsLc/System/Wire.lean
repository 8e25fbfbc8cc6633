import TokioAwsLc.Ktls.Schedules
import TokioAwsLc.Stream.DataPath
import TokioAwsLc.Stream.ExactlyOnce
import TokioAwsLc.Stream.FailureLatch
import TokioAwsLc.Stream.KtlsPath

/-!
# What a stream puts on the wire

A stream and its peer have in common only the records between them. This module says which records the history
of a sender may have put on the wire, in both data paths: libssl makes some of every completed `SSL_write`,
the kernel of what it takes with a `write(2)`, cut as it likes, and either of them makes one of a
close_notify.

* `Flow bytes left ks`: of the queue `ks`, `bytes` have been read, and `left` is still to be read. Flows
  compose, and both queues can be extended by the same records.
* `Emitted t ks`: the history `t` may have put the records `ks` on the wire. `Emitted.sent` says what they
  mean to a reader: the plaintext that was written, and a clean end only after an accepted close_notify.
* `Polled ktls s`: what holds of a session on the data path `ktls`, whatever was done to it.
  `Polled.acked` is its account: what was acknowledged is on the wire or pending.
-/

set_option linter.unusedSectionVars false

namespace TokioAwsLc.System

open Ktls (Abi Record Verdict plaintext verdict applicationData alertType)
open Lib.Trace (Respects respects_concat)
open TokioAwsLc.Stream

variable {W : Type} [DecidableEq W]

/-! ## Queues of records -/

section queues

variable {bytes more : Bytes} {ks ls left rest : List Record}

/-- There is nothing but application data. -/
def AllData (ks : List Record) : Prop :=
  ∀ r ∈ ks, r.recordType = applicationData

/-- Data behind data. -/
theorem AllData.append (h : AllData ks) (h' : AllData ls) : AllData (ks ++ ls) := by
  intro r hr
  rcases List.mem_append.mp hr with hr | hr
  · exact h r hr
  · exact h' r hr

/-- The data of two parts of a queue, if the first has nothing else. -/
theorem plaintext_append (h : AllData ks) (ls : List Record) :
    plaintext (ks ++ ls) = plaintext ks ++ plaintext ls := by
  induction ks with
  | nil => rfl
  | cons r ks ih =>
      have hr : r.recordType = applicationData := h r (by simp)
      have hks : AllData ks := fun r' hr' => h r' (by simp [hr'])
      rw [List.cons_append, Ktls.plaintext_cons hr, Ktls.plaintext_cons hr, ih hks, List.append_assoc]

/-- Then the second part decides. -/
theorem verdict_append (h : AllData ks) (ls : List Record) : verdict (ks ++ ls) = verdict ls := by
  induction ks with
  | nil => rfl
  | cons r ks ih =>
      have hr : r.recordType = applicationData := h r (by simp)
      rw [List.cons_append, Ktls.verdict_cons hr]
      exact ih fun r' hr' => h r' (by simp [hr'])

/-- What comes after another record than application data does not matter to a reader. -/
theorem append_of_not_allData (h : ¬ AllData ks) (ls : List Record) :
    plaintext (ks ++ ls) = plaintext ks ∧ verdict (ks ++ ls) = verdict ks := by
  induction ks with
  | nil => exact absurd (fun r hr => absurd hr List.not_mem_nil) h
  | cons r ks ih =>
      by_cases hr : r.recordType = applicationData
      · have hks : ¬ AllData ks := by
          intro hks
          apply h
          intro r' hr'
          rcases List.mem_cons.mp hr' with rfl | hr'
          · exact hr
          · exact hks r' hr'
        obtain ⟨hp, hv⟩ := ih hks
        rw [List.cons_append, Ktls.plaintext_cons hr, Ktls.plaintext_cons hr, Ktls.verdict_cons hr,
          Ktls.verdict_cons hr, hp, hv]
        exact ⟨rfl, rfl⟩
      · rw [List.cons_append, Ktls.plaintext_control hr, Ktls.plaintext_control hr,
          Ktls.verdict_control hr, Ktls.verdict_control hr]
        exact ⟨rfl, rfl⟩

/-- Only a queue of application data ends in the FIN. -/
theorem allData_iff : AllData ks ↔ verdict ks = .failed .unexpectedEof := by
  induction ks with
  | nil => exact ⟨fun _ => rfl, fun _ r hr => absurd hr List.not_mem_nil⟩
  | cons r ks ih =>
      by_cases hr : r.recordType = applicationData
      · rw [Ktls.verdict_cons hr, ← ih]
        exact List.forall_mem_cons.trans (and_iff_right hr)
      · rw [Ktls.verdict_control hr]
        constructor
        · intro h
          exact absurd (h r (by simp)) hr
        · intro h
          unfold Record.verdict at h
          split_ifs at h
          all_goals cases h

/-- Of the queue `ks`, `bytes` have been read, and `left` is still to be read. -/
structure Flow (bytes : Bytes) (left ks : List Record) : Prop where
  bytes : plaintext ks = bytes ++ plaintext left
  ending : verdict ks = verdict left

namespace Flow

/-- Nothing was read. -/
theorem refl (ks : List Record) : Flow [] ks ks :=
  ⟨rfl, rfl⟩

/-- One part was read after the other. -/
theorem trans (h : Flow bytes left ks) (h' : Flow more rest left) : Flow (bytes ++ more) rest ks := by
  refine ⟨?_, h.ending.trans h'.ending⟩
  rw [h.bytes, h'.bytes, List.append_assoc]

/-- Records that are added to the queue are added to what is still to be read. -/
theorem append (h : Flow bytes left ks) (ls : List Record) : Flow bytes (left ++ ls) (ks ++ ls) := by
  have hsame : AllData ks ↔ AllData left := by rw [allData_iff, allData_iff, h.ending]
  by_cases hks : AllData ks
  · have hleft := hsame.mp hks
    refine ⟨?_, ?_⟩
    · rw [plaintext_append hks, plaintext_append hleft, h.bytes, List.append_assoc]
    · rw [verdict_append hks, verdict_append hleft]
  · obtain ⟨hp, hv⟩ := append_of_not_allData hks ls
    obtain ⟨hp', hv'⟩ := append_of_not_allData (mt hsame.mpr hks) ls
    exact ⟨by rw [hp, hp', h.bytes], by rw [hv, hv', h.ending]⟩

/-- A reader that meets the end has read everything. -/
theorem eof (h : Flow bytes left ks) (hp : plaintext left = []) (hv : verdict left = .eof) :
    plaintext ks = bytes ∧ verdict ks = .eof := by
  refine ⟨?_, h.ending.trans hv⟩
  rw [h.bytes, hp, List.append_nil]

end Flow

/-- After a clean end nothing that is added matters. -/
theorem append_of_eof (h : verdict ks = .eof) (ls : List Record) :
    plaintext (ks ++ ls) = plaintext ks ∧ verdict (ks ++ ls) = .eof := by
  have hnot : ¬ AllData ks := by
    intro hall
    rw [allData_iff, h] at hall
    cases hall
  obtain ⟨hp, hv⟩ := append_of_not_allData hnot ls
  exact ⟨hp, hv.trans h⟩

/-- What is added to a queue comes after what was there. -/
theorem plaintext_le_append (ks ls : List Record) : plaintext ks <+: plaintext (ks ++ ls) := by
  by_cases h : AllData ks
  · rw [plaintext_append h]
    exact List.prefix_append _ _
  · rw [(append_of_not_allData h ls).1]

end queues

/-! ## Records of a history -/

/-- The records `ks` hold the plaintext `bs`, cut in any way into pieces that are not empty. -/
structure Cuts (bs : Bytes) (ks : List Record) : Prop where
  data : AllData ks
  plaintext : plaintext ks = bs
  nonempty : ∀ r ∈ ks, r.payload ≠ []

/-- No bytes make no records. -/
theorem cuts_nil : Cuts [] [] :=
  ⟨fun _ hr => absurd hr List.not_mem_nil, rfl, fun _ hr => absurd hr List.not_mem_nil⟩

/-- Nothing is cut into nothing. -/
theorem Cuts.eq_nil {ks : List Record} (h : Cuts [] ks) : ks = [] := by
  cases ks with
  | nil => rfl
  | cons r ks =>
      have hplain := h.plaintext
      rw [Ktls.plaintext_cons (h.data r List.mem_cons_self)] at hplain
      exact absurd (List.append_eq_nil_iff.mp hplain).1 (h.nonempty r List.mem_cons_self)

/-- The bytes of the close_notify alert.
Source: `src/ktls/io.rs` `CLOSE_NOTIFY` -/
def closeNotify : Bytes :=
  [1, 0]

/-- The records that a single entry may put on the wire. libssl and the kernel cut plaintext as they like.
The kernel never takes more than it is given, so that a close_notify `sendmsg` sends nothing, a part of the
alert, or all of it. -/
def Emits : Act W → List Record → Prop
  | .call (.sslWrite _ buf (.done _)), ks => Cuts buf ks
  | .call (.write buf (.ok n)), ks => Cuts (buf.take n) ks
  | .call (.sslShutdown (.done _)), ks => ks = [⟨alertType, closeNotify⟩]
  | .call (.sendmsg (.ok 1)), ks => ks = [⟨alertType, closeNotify.take 1⟩]
  | .call (.sendmsg (.ok 2)), ks => ks = [⟨alertType, closeNotify⟩]
  | _, ks => ks = []

/-- The records that a history may have put on the wire, in order. -/
inductive Emitted : List (Act W) → List Record → Prop
  | nil : Emitted [] []
  | concat {t : List (Act W)} {a : Act W} {ks new : List Record} (h : Emitted t ks) (ha : Emits a new) :
      Emitted (t ++ [a]) (ks ++ new)

/-- The plaintext of a history, in order: libssl has finished writing it, or the kernel has taken it. -/
def written (t : List (Act W)) : Bytes :=
  t.flatMap fun a => a.completes ++ a.takes

section history

variable {t : List (Act W)} {a : Act W}

/-- What follows in the history follows on the wire. -/
theorem Emitted.append {u : List (Act W)} {ks new : List Record} (h : Emitted t ks) (hu : Emitted u new) :
    Emitted (t ++ u) (ks ++ new) := by
  induction hu with
  | nil =>
      rw [List.append_nil, List.append_nil]
      exact h
  | concat _ ha ih =>
      rw [← List.append_assoc, ← List.append_assoc]
      exact ih.concat ha

/-- One more entry of the history. -/
@[simp] theorem written_concat (t : List (Act W)) (a : Act W) :
    written (t ++ [a]) = written t ++ (a.completes ++ a.takes) := by
  simp [written]

/-- What an entry puts on the wire: plaintext, or an alert that ends the stream cleanly only if it was
accepted in full. -/
theorem Emits.cases {ks : List Record} (h : Emits a ks) :
    (Cuts (a.completes ++ a.takes) ks ∧ (a.completes ++ a.takes ≠ [] → a.writes = true)) ∨
    ∃ p, ks = [⟨alertType, p⟩] ∧ a.completes ++ a.takes = [] ∧ a.closes = true ∧
      (Ktls.IsCloseNotify p → a.closed = true) := by
  have hnone : a.completes ++ a.takes = [] → ks = [] →
      Cuts (a.completes ++ a.takes) ks ∧ (a.completes ++ a.takes ≠ [] → a.writes = true) := by
    rintro hno rfl
    rw [hno]
    exact ⟨cuts_nil, fun hne => absurd rfl hne⟩
  rcases a with c | s | e | s
  · rcases c with ⟨site, buf, _ | _⟩ | _ | ⟨_ | _⟩ | ⟨buf, errno | n⟩ | ⟨errno | n⟩ | _ | _ | _
    case sslWrite.done =>
      refine .inl ⟨?_, fun _ => rfl⟩
      simpa [Emits, Act.completes, Act.takes] using h
    case write.ok =>
      refine .inl ⟨?_, fun _ => rfl⟩
      simpa [Emits, Act.completes, Act.takes] using h
    case sslShutdown.done =>
      exact .inr ⟨closeNotify, h, by simp [Act.completes, Act.takes], rfl, fun _ => rfl⟩
    case sendmsg.ok =>
      rcases n with _ | _ | _ | n
      · exact .inl (hnone (by simp [Act.completes, Act.takes]) h)
      · exact .inr ⟨closeNotify.take 1, h, by simp [Act.completes, Act.takes], rfl,
          fun hp => absurd hp (by decide)⟩
      · exact .inr ⟨closeNotify, h, by simp [Act.completes, Act.takes], rfl, fun _ => rfl⟩
      · exact .inl (hnone (by simp [Act.completes, Act.takes]) h)
    all_goals exact .inl (hnone (by simp [Act.completes, Act.takes]) h)
  all_goals exact .inl (hnone (by simp) h)

/-- What the records of a history mean to a reader. -/
structure Sent (t : List (Act W)) (ks : List Record) : Prop where
  /-- The plaintext that was written. -/
  plaintext : plaintext ks = written t
  /-- A clean end only after a close_notify that was accepted. -/
  eof : verdict ks = .eof → ∃ a ∈ t, a.closed = true
  /-- Only application data before the first attempt to close. -/
  data : (∀ a ∈ t, a.closes = false) → AllData ks

/-- An ordered close makes the records readable, by induction on the history: what is written is written
before the first attempt to close. -/
theorem Emitted.sent {ks : List Record} (he : Emitted t ks) (h : Respects CloseOk t) : Sent t ks := by
  induction he with
  | nil =>
      refine ⟨rfl, ?_, fun _ r hr => absurd hr List.not_mem_nil⟩
      intro hv
      cases hv
  | @concat t a ks new _ hemits ih =>
      obtain ⟨ht, ha⟩ := respects_concat.mp h
      obtain ⟨hplain, heof, hdata⟩ := ih ht
      have hmem : (∃ b ∈ t, b.closed = true) → ∃ b ∈ t ++ [a], b.closed = true := by
        rintro ⟨b, hb, hc⟩
        exact ⟨b, by simp [hb], hc⟩
      rcases hemits.cases with ⟨hcuts, hwrites⟩ | ⟨p, rfl, hnone, hcloses, hclosed⟩
      · by_cases hne : a.completes ++ a.takes = []
        · rw [hne] at hcuts
          obtain rfl := hcuts.eq_nil
          rw [List.append_nil]
          refine ⟨?_, fun hv => hmem (heof hv), ?_⟩
          · rw [written_concat, hne, List.append_nil, hplain]
          · intro hnot
            exact hdata fun b hb => hnot b (by simp [hb])
        · -- plaintext: nothing before it has tried to close
          have hopen : ∀ b ∈ t, b.closes = false := by
            intro b hb
            simpa using ha.write (hwrites hne) b hb
          have hall := hdata hopen
          refine ⟨?_, ?_, ?_⟩
          · rw [written_concat, plaintext_append hall, hcuts.plaintext, hplain]
          · rw [allData_iff.mp (hall.append hcuts.data)]
            intro hv
            cases hv
          · intro _
            exact hall.append hcuts.data
      · have halert : alertType ≠ applicationData := by decide
        have hend : Ktls.plaintext [⟨alertType, p⟩] = [] := Ktls.plaintext_control halert
        refine ⟨?_, ?_, ?_⟩
        · rw [written_concat, hnone, List.append_nil, ← hplain]
          by_cases hall : AllData ks
          · rw [plaintext_append hall, hend, List.append_nil]
          · exact (append_of_not_allData hall _).1
        · intro hv
          by_cases hall : AllData ks
          · rw [verdict_append hall, Ktls.verdict_alert] at hv
            split_ifs at hv with hp
            exact ⟨a, by simp, hclosed hp⟩
          · rw [(append_of_not_allData hall _).2] at hv
            exact hmem (heof hv)
        · intro hnot
          have hno := hnot a (by simp)
          rw [hcloses] at hno
          cases hno

end history

/-! ## Sessions -/

/-- What holds of a session on the data path `ktls`, whatever was done to it. -/
structure Polled (ktls : Bool) (s : Session W) : Prop where
  path : OnPath ktls s.world
  history : History s.world
  userspace : ktls = false → Books s.world ∧ s.acked = accepted s.world.trace
  offloaded : ktls = true → KtlsRun s

/-- The invariant holds of a fresh stream. -/
theorem polled_start (ktls disabled : Bool) (ready : Dir → Bool) (armed : Dir → Option W) :
    Polled ktls (.start (World.established ktls disabled (.fresh ready armed))) where
  path := ⟨rfl, by simp [World.established, Session.start], coherent_established ktls disabled _⟩
  history := history_established ktls disabled _
  userspace := by
    rintro rfl
    exact ⟨books_fromParts disabled _, rfl⟩
  offloaded := by
    rintro rfl
    exact ktlsRun_run ⟨16, 16, by decide, by decide⟩ disabled ready armed []

namespace Polled

variable {ktls : Bool} {s : Session W}

/-- **Step lemma.** -/
theorem step (h : Polled ktls s) (abi : Abi) (op : Op W) : Polled ktls (s.step abi op).1 := by
  have hturn := step_turn abi s op h.path.pending
  refine ⟨?_, ?_, ?_, ?_⟩
  · refine hturn.preserves (I := OnPath ktls) ?_ (fun _ _ _ _ hst hp => hst.onPath hp) h.path
    intro w s hp
    exact ⟨hp.active, fun c hc => hp.calls c (by simpa using hc), hp.pending⟩
  · exact hturn.preserves (fun _ s hh => hh.signal s) (fun _ _ _ _ hst hh => hst.history hh) h.history
  · intro hk
    obtain ⟨hb, ha⟩ := h.userspace hk
    exact ⟨hturn.books hb, step_acked abi hb.userspace ha op⟩
  · intro hk
    exact (h.offloaded hk).step abi op

/-- **The account of a sender.** What was acknowledged is on the wire, in order, or still pending. -/
theorem acked (h : Polled ktls s) {ks : List Record} (he : Emitted s.world.trace ks) :
    s.acked = plaintext ks ++ s.world.stream.pendingWrite := by
  rw [(he.sent h.history.order).plaintext]
  cases ktls with
  | false =>
      obtain ⟨hb, ha⟩ := h.userspace rfl
      have hwritten : written s.world.trace = completed s.world.trace := by
        unfold written completed
        refine List.flatMap_congr fun a ha => ?_
        -- no `write(2)` on this path
        rcases a with c | _ | _ | _
        · have hsuits := h.path.calls c ha
          cases c with
          | write buf r => exact absurd (hsuits.2 rfl) (by simp)
          | sslWrite | sslRead | sslShutdown | sendmsg | recvmsg | tcpShutdown | waitFailed =>
              simp [Act.takes]
        all_goals simp
      rw [hwritten, ha, hb.balance]
  | true =>
      have hr := h.offloaded rfl
      have hwritten : written s.world.trace = taken s.world.trace := by
        unfold written taken
        refine List.flatMap_congr fun a ha => ?_
        -- no `SSL_write` on this path
        rcases a with c | _ | _ | _
        · have hsuits := h.path.calls c ha
          cases c with
          | sslWrite site buf a => exact absurd (hsuits.1 rfl) (by simp)
          | write | sslRead | sslShutdown | sendmsg | recvmsg | tcpShutdown | waitFailed =>
              simp [Act.completes]
        all_goals simp
      rw [hwritten, hr.acked, hr.coherent hr.active, List.append_nil]

/-- A clean end is only ever sent by a stream that has closed, and after everything it has acknowledged. -/
theorem acked_of_eof (h : Polled ktls s) {ks : List Record} (he : Emitted s.world.trace ks)
    (hv : verdict ks = .eof) : s.world.stream.shutdown = .closed ∧ s.acked = plaintext ks := by
  obtain ⟨a, ha, hclosed⟩ := (he.sent h.history.order).eof hv
  have hshut := h.history.closed a ha hclosed
  refine ⟨hshut, ?_⟩
  rw [h.acked he, h.history.drained (by simp [hshut]), List.append_nil]

end Polled

end TokioAwsLc.System
