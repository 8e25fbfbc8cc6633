import TokioAwsLc.Ktls.Sticky
import TokioAwsLc.System.Wire

/-!
# What a stream takes off the wire

The records that have come in for a stream are in a queue, in libssl or in the kernel, and `poll_read` takes
from it. The answers that a poll gets are its environment's; this module says which of them are *honest* for
a queue, so that a statement about every honest poll is one about every libssl and every kernel that do their
job.

* `Answers rx`: what `SSL_read` may answer. It may block or fail at any time.
* `Receives abi cap`: what one `recvmsg` may hand out, and what it leaves of the queue. The messages that
  a poll has received are not in its history, so they are logged by an environment around it (`logged`).
* `Honest`: the same for an operation of a session.
* `Behind`: what a session has delivered, and what is still to come. `Behind.poll` is the step lemma.
-/

set_option linter.unusedSectionVars false

namespace TokioAwsLc.System

open Ktls (Abi Record RecordReader RecvEnv RecvMsg Serving Holds Midway Terminal restore deliver encode gather
  plaintext verdict applicationData alertType IsCloseNotify Delivery)
open Lib (Links)
open TokioAwsLc.Stream

variable {W : Type} [DecidableEq W]

/-! ## The userspace path -/

/-- What `SSL_read` may answer when these records have come in. -/
def Answers (rx : List Record) : SslAnswer Chunk → Prop
  | .done bs => ∃ p ks, rx = ⟨applicationData, p⟩ :: ks ∧ bs.1 <+: p
  | .stopped _ code _ => code = sslErrorZeroReturn → ∃ p ks, rx = ⟨alertType, p⟩ :: ks ∧ IsCloseNotify p

/-- The records that are left after `SSL_read` has returned these bytes. A close_notify stays, and is met
again by the next call. -/
def afterRead : List Record → Bytes → List Record
  | r :: ks, b :: bs => (gather 0 (b :: bs).length r ks).2.2
  | rx, _ => rx

/-- What a read on the userspace path returns is right for the queue. -/
def Reads (rx : List Record) : Exit (Poll (IoResult Bytes)) → Prop
  | .returned (.ready (.ok [])) => plaintext rx = [] ∧ verdict rx = .eof
  | .returned (.ready (.ok (b :: bs))) => Flow (b :: bs) (afterRead rx (b :: bs)) rx
  | _ => True

/-- Data that `SSL_read` returns is at the front of the queue. -/
theorem reads_data {p bs : Bytes} (ks : List Record) (hne : bs ≠ []) (hp : bs <+: p) :
    Reads (⟨applicationData, p⟩ :: ks) (.returned (.ready (.ok bs))) := by
  obtain ⟨b, bs, rfl⟩ := List.exists_cons_of_ne_nil hne
  have htype : (⟨applicationData, p⟩ : Record).recordType = applicationData := rfl
  obtain ⟨hplain, hverdict⟩ : plaintext (⟨applicationData, p⟩ :: ks) =
      (gather 0 (b :: bs).length ⟨applicationData, p⟩ ks).1 ++
        plaintext (gather 0 (b :: bs).length ⟨applicationData, p⟩ ks).2.2 ∧
      verdict (⟨applicationData, p⟩ :: ks) =
        verdict (gather 0 (b :: bs).length ⟨applicationData, p⟩ ks).2.2 := Ktls.gather_data htype
  have hbytes : (gather 0 (b :: bs).length ⟨applicationData, p⟩ ks).1 = b :: bs := by
    unfold gather
    split_ifs with hlt
    · exact (List.prefix_iff_eq_take.mp hp).symm
    · exact (hp.eq_of_length (le_antisymm hp.length_le (not_lt.mp hlt))).symm
  rw [hbytes] at hplain
  exact ⟨hplain, hverdict⟩

/-- A close_notify is read as the end, whatever comes behind it. -/
theorem reads_closed {p : Bytes} (ks : List Record) (hp : IsCloseNotify p) :
    Reads (⟨alertType, p⟩ :: ks) (.returned (.ready (.ok []))) := by
  have halert : alertType ≠ applicationData := by decide
  refine ⟨Ktls.plaintext_control halert, ?_⟩
  rw [Ktls.verdict_alert, if_pos hp]

/-- The loop around `SSL_read`, by induction on its turns. -/
theorem readLoop_reads (cx : W) {cap : ℕ} (hcap : 0 < cap) {rx : List Record}
    {rounds : List (Round Chunk)} (ha : ∀ r ∈ rounds, Answers rx r.answer) (w : World W) :
    Reads rx (readLoop cx cap rounds w).2 := by
  induction rounds generalizing w with
  | nil => trivial
  | cons r rs ih =>
      have hr := ha r (by simp)
      have hrs : ∀ w', Reads rx (readLoop cx cap rs w').2 := ih fun r' hr' => ha r' (by simp [hr'])
      rw [readLoop_cons cx hcap]
      rcases hanswer : r.answer with bs | ⟨n, code, diag⟩
      · rw [hanswer] at hr
        obtain ⟨p, ks, rfl, hp⟩ := hr
        apply reads_data ks ?_ ((List.take_prefix _ _).trans hp)
        have hlen : 0 < bs.1.length := List.length_pos_iff.mpr bs.2
        rw [← List.length_pos_iff, List.length_take]
        omega
      · rw [hanswer] at hr
        simp only
        split_ifs with hzero hwant
        · obtain ⟨p, ks, rfl, hp⟩ := hr hzero
          exact reads_closed ks hp
        · generalize pollSslReady .read code cx true r.wait _ = res
          rcases res with ⟨w', ((e | ⟨⟨⟩⟩) | _)⟩
          · trivial
          · exact hrs w'
          · trivial
        · trivial

/-- **A `poll_read` on libssl** delivers what is at the front of the queue, or nothing. -/
theorem pollRead_reads (abi : Abi) (cx : W) {cap : ℕ} (hcap : 0 < cap) {rx : List Record}
    {script : ReadScript} (ha : ∀ r ∈ script.read, Answers rx r.answer) {w : World W}
    (hk : w.stream.ktlsActive = false) : Reads rx (pollRead abi cx cap script w).2 := by
  unfold pollRead
  rw [if_neg hcap.ne', if_neg (by simp [hk])]
  generalize pollPendingWrite cx true script.drain w = res
  rcases res with ⟨w', (((e | ⟨⟨⟩⟩) | _) | _ | _)⟩
  · trivial
  · exact readLoop_reads cx hcap ha w'
  · exact readLoop_reads cx hcap ha w'
  · trivial
  · trivial

/-! ## The kTLS path -/

/-- A socket with a log of the messages that it has handed out. -/
def logged {κ : Type} (env : RecvEnv κ) : RecvEnv (κ × List RecvMsg) where
  tryRecvmsg k cap :=
    let r := env.tryRecvmsg k.1 cap
    ((r.1, k.2 ++ r.2.toList), r.2)
  pollReadReady k :=
    let r := env.pollReadReady k.1
    ((r.1, k.2), r.2)
  wakeByRef k := (env.wakeByRef k.1, k.2)

/-- What one `recvmsg` may hand out when these records have come in, and what it leaves of them. When the
queue is empty, a FIN may be met at any time: TCP is not protected, and anyone on the way can cut it off. -/
inductive Receives (abi : Abi) (cap : ℕ) : List Record → RecvMsg → List Record → Prop
  | fragment {rx : List Record} (d : Delivery) :
      Receives abi cap rx (encode abi d.cmsg (deliver d cap rx).1) (deliver d cap rx).2
  | failed {rx : List Record} (errno : ℤ) : Receives abi cap rx (.failed errno) rx

/-- What a read on the kTLS path returns is right for the queue `ks`, if `rest` is left in the kernel, and
what ends the stream is latched. -/
def Yields (ks rest : List Record) (r : RecordReader) : Exit (Poll (IoResult Bytes)) → Prop
  | .returned .pending => Serving r rest ks []
  | .returned (.ready (.ok [])) => r.terminal = some .closed ∧ plaintext ks = [] ∧ verdict ks = .eof
  | .returned (.ready (.ok (b :: bs))) => Serving r rest ks (b :: bs)
  | .returned (.ready (.error _)) => ∃ e, r.terminal = some (.failed e)
  | .panicked => False
  | .running => False

/-- Bytes that the kernel has taken off the queue are a result of the receive loop. -/
theorem yields_data {ks rest : List Record} {r : RecordReader} {bytes : Bytes} (hne : bytes ≠ [])
    (h : Serving r rest ks bytes) : Yields ks rest r (.returned (.ready (.ok bytes))) := by
  obtain ⟨b, bs, rfl⟩ := List.exists_cons_of_ne_nil hne
  exact h

section loop

variable {κ : Type} {abi : Abi} {env : RecvEnv κ} {cap : ℕ}

/-- A receive is logged if there was one. -/
theorem logged_tryRecvmsg {k k₁ : κ} {got : Option RecvMsg} (h : env.tryRecvmsg k cap = (k₁, got))
    (log : List RecvMsg) :
    (logged env).tryRecvmsg (k, log) cap = ((k₁, log ++ got.toList), got) := by
  simp [logged, h]

/-- A wait is not logged. -/
theorem logged_pollReadReady {k k₁ : κ} {p : Poll (IoResult Unit)} (h : env.pollReadReady k = (k₁, p))
    (log : List RecvMsg) : (logged env).pollReadReady (k, log) = ((k₁, log), p) := by
  simp [logged, h]

/-- The log does not change what the loop does. -/
theorem readLoop_logged (budget : ℕ) (r : RecordReader) (k : κ) (log : List RecvMsg) :
    RecordReader.readLoop abi env cap budget r k =
      ((RecordReader.readLoop abi (logged env) cap budget r (k, log)).1,
        (RecordReader.readLoop abi (logged env) cap budget r (k, log)).2.1.1,
        (RecordReader.readLoop abi (logged env) cap budget r (k, log)).2.2) := by
  induction budget generalizing r k log with
  | zero => rfl
  | succ budget ih =>
      unfold RecordReader.readLoop
      rcases hrecv : env.tryRecvmsg k cap with ⟨k₁, got⟩
      rw [logged_tryRecvmsg hrecv]
      simp only
      rcases RecordReader.tryRecvRecord abi cap got with e | record
      · simp only
        split_ifs
        · exact ih r k₁ _
        · rcases hwait : env.pollReadReady k₁ with ⟨k₂, ((e | ⟨⟨⟩⟩) | _)⟩
          · rw [logged_pollReadReady hwait]
          · rw [logged_pollReadReady hwait]
            exact ih r k₂ _
          · rw [logged_pollReadReady hwait]
        · rfl
      · simp only
        rcases r.consume record.recordType record.flags record.payload with
          ⟨r', ((e | (n | _ | _)) | _ | _)⟩
        · rfl
        · rfl
        · exact ih r' k₁ _
        · rfl
        · rfl
        · rfl

/-- The log only grows. -/
theorem log_grows (abi : Abi) (env : RecvEnv κ) (cap budget : ℕ) (r : RecordReader) (k : κ)
    (log : List RecvMsg) :
    ∃ new, (RecordReader.readLoop abi (logged env) cap budget r (k, log)).2.1.2 = log ++ new := by
  refine RecordReader.readLoop_preserves (I := fun k' : κ × List RecvMsg => ∃ new, k'.2 = log ++ new)
    ?_ (fun _ h => h) (fun _ h => h) budget r ⟨[], (List.append_nil log).symm⟩
  rintro k' ⟨new, hnew⟩
  refine ⟨new ++ (env.tryRecvmsg k'.1 cap).2.toList, ?_⟩
  simp only [logged]
  rw [hnew, List.append_assoc]

/-- A message that is received is logged, and the log goes on from there. -/
theorem log_received (abi : Abi) (budget : ℕ) (r : RecordReader) {k k₁ : κ} {m : RecvMsg}
    (hrecv : env.tryRecvmsg k cap = (k₁, some m)) (log : List RecvMsg) :
    ∃ new, (RecordReader.readLoop abi (logged env) cap (budget + 1) r (k, log)).2.1.2 = log ++ m :: new := by
  have hagain : ∀ (r' : RecordReader) (k' : κ), ∃ new,
      (RecordReader.readLoop abi (logged env) cap budget r' (k', log ++ [m])).2.1.2 = log ++ m :: new := by
    intro r' k'
    obtain ⟨new, hnew⟩ := log_grows abi env cap budget r' k' (log ++ [m])
    exact ⟨new, by rw [hnew, List.append_assoc, List.singleton_append]⟩
  unfold RecordReader.readLoop
  rw [logged_tryRecvmsg hrecv]
  simp only [Option.toList_some]
  rcases RecordReader.tryRecvRecord abi cap (some m) with e | record
  · simp only
    split_ifs
    · exact hagain r k₁
    · rcases hwait : env.pollReadReady k₁ with ⟨k₂, ((e | ⟨⟨⟩⟩) | _)⟩
      · rw [logged_pollReadReady hwait]
        exact ⟨[], rfl⟩
      · rw [logged_pollReadReady hwait]
        exact hagain r k₂
      · rw [logged_pollReadReady hwait]
        exact ⟨[], rfl⟩
    · exact ⟨[], rfl⟩
  · simp only
    rcases r.consume record.recordType record.flags record.payload with
      ⟨r', ((e | (n | _ | _)) | _ | _)⟩
    · exact ⟨[], rfl⟩
    · exact ⟨[], rfl⟩
    · exact hagain r' k₁
    · exact ⟨[], rfl⟩
    · exact ⟨[], rfl⟩
    · exact ⟨[], rfl⟩

/-- How the loop goes on after a wait for readability. -/
def afterReadable {κ : Type} (next : κ → RecordReader × κ × Exit (Poll (IoResult Bytes)))
    (r : RecordReader) : κ × Poll (IoResult Unit) → RecordReader × κ × Exit (Poll (IoResult Bytes))
  | (k, .ready (.ok ())) => next k
  | (k, .ready (.error e)) => ((r.fail e).1, k, .returned (.ready (.error (r.fail e).2)))
  | (k, .pending) => (r, k, .returned .pending)

/-- The loop after a receive that failed. -/
theorem readLoop_of_error (budget : ℕ) (r : RecordReader) {k k₁ : κ} {got : Option RecvMsg} {e : IoError}
    (hrecv : env.tryRecvmsg k cap = (k₁, got))
    (htry : RecordReader.tryRecvRecord abi cap got = .error e) :
    RecordReader.readLoop abi env cap (budget + 1) r k =
      if e.kind = .interrupted then RecordReader.readLoop abi env cap budget r k₁
      else if e.kind = .wouldBlock then
        afterReadable (RecordReader.readLoop abi env cap budget r) r (env.pollReadReady k₁)
      else ((r.fail e).1, k₁, .returned (.ready (.error (r.fail e).2))) := by
  rw [RecordReader.readLoop]
  simp only [hrecv, htry]
  rcases env.pollReadReady k₁ with ⟨k₂, ((e | ⟨⟨⟩⟩) | _)⟩ <;> rfl

/-- A receive that hands out nothing, in a loop that is right from then on. -/
theorem readLoop_yields_of_error {budget : ℕ} {r : RecordReader} {k k₁ : κ} {log new : List RecvMsg}
    {got : Option RecvMsg} {e : IoError} {rx rest ks : List Record} (h : Serving r rx ks [])
    (hnext : ∀ (k : κ) (log : List RecvMsg),
      (RecordReader.readLoop abi (logged env) cap budget r (k, log)).2.1.2 = log ++ new →
      Yields ks rest (RecordReader.readLoop abi (logged env) cap budget r (k, log)).1
        (RecordReader.readLoop abi (logged env) cap budget r (k, log)).2.2)
    (hrecv : env.tryRecvmsg k cap = (k₁, got)) (htry : RecordReader.tryRecvRecord abi cap got = .error e)
    (hlog : (RecordReader.readLoop abi (logged env) cap (budget + 1) r (k, log)).2.1.2 =
      log ++ (got.toList ++ new))
    (hlinks : Links (Receives abi cap) rx new rest) :
    Yields ks rest (RecordReader.readLoop abi (logged env) cap (budget + 1) r (k, log)).1
      (RecordReader.readLoop abi (logged env) cap (budget + 1) r (k, log)).2.2 := by
  rw [← List.append_assoc, readLoop_of_error budget r (logged_tryRecvmsg hrecv log) htry] at hlog
  rw [readLoop_of_error budget r (logged_tryRecvmsg hrecv log) htry]
  split_ifs at hlog ⊢
  · exact hnext k₁ _ hlog
  · rcases hwait : env.pollReadReady k₁ with ⟨k₂, ((e | ⟨⟨⟩⟩) | _)⟩
    · rw [logged_pollReadReady hwait]
      exact ⟨_, rfl⟩
    · rw [logged_pollReadReady hwait] at hlog ⊢
      exact hnext k₂ _ hlog
    · rw [logged_pollReadReady hwait] at hlog ⊢
      obtain rfl : new = [] := by simpa [afterReadable] using hlog
      cases hlinks
      exact h
  · exact ⟨_, rfl⟩

/-- **Run lemma for the loop**, by induction on the budget: no iteration loses or adds a byte, if the
messages that were received come from the queue. -/
theorem readLoop_yields (hcap : 0 < cap) (budget : ℕ) {r : RecordReader} (k : κ)
    (log : List RecvMsg) {rx rest ks : List Record} {new : List RecvMsg} (h : Serving r rx ks [])
    (hlog : (RecordReader.readLoop abi (logged env) cap budget r (k, log)).2.1.2 = log ++ new)
    (hlinks : Links (Receives abi cap) rx new rest) :
    Yields ks rest (RecordReader.readLoop abi (logged env) cap budget r (k, log)).1
      (RecordReader.readLoop abi (logged env) cap budget r (k, log)).2.2 := by
  induction budget generalizing r k log rx new with
  | zero =>
      obtain rfl : new = [] := by simpa [RecordReader.readLoop, logged] using hlog
      cases hlinks
      exact h
  | succ budget ih =>
      rcases hrecv : env.tryRecvmsg k cap with ⟨k₁, _ | m⟩
      · exact readLoop_yields_of_error h (fun k log hlog => ih k log h hlog hlinks) hrecv rfl hlog hlinks
      obtain ⟨new₁, hnew₁⟩ := log_received abi budget r hrecv log
      obtain rfl : new = m :: new₁ := List.append_cancel_left (hlog.symm.trans hnew₁)
      cases hlinks with
      | @cons _ rx₁ _ _ _ hm hrest =>
      cases hm with
      | failed errno =>
          exact readLoop_yields_of_error h (fun k log hlog => ih k log h hlog hrest) hrecv rfl hlog hrest
      | fragment d =>
          -- the fragment is read back from the message, and it is right for the queue
          have htry := Ktls.tryRecvRecord_deliver abi d hcap rx
          generalize hf : deliver d cap rx = fr at hrecv hlog hrest htry
          obtain ⟨f, rest'⟩ := fr
          have hstep := h.feed_deliver d cap hf
          unfold RecordReader.readLoop at hlog ⊢
          rw [logged_tryRecvmsg hrecv] at hlog ⊢
          simp only [htry, Option.toList_some] at hlog ⊢
          rw [show r.consume f.recordType f.flags f.payload = r.feed f from rfl] at hlog ⊢
          obtain ⟨held, hheld, -⟩ := id h
          have hlatched := (Ktls.consume_expect hheld f).latched hheld.1
          generalize r.feed f = res at hstep hlog hlatched ⊢
          obtain ⟨r', exit⟩ := res
          obtain ⟨hdata, hne, h'⟩ | ⟨hout, -, h'⟩ | ⟨hout, h'⟩ | ⟨e, hout, h'⟩ := hstep
          · obtain ⟨rfl, rfl⟩ := Prod.mk.inj hdata
            obtain rfl : new₁ = [] := by simpa using hlog
            cases hrest
            simp only [List.take_length]
            exact yields_data hne h'
          · obtain rfl : exit = _ := hout
            exact ih k₁ _ h' (by simpa using hlog) hrest
          · obtain rfl : exit = _ := hout
            obtain ⟨res, hres, hterm⟩ := hlatched
            obtain rfl := Exit.returned.inj hres
            exact ⟨hterm, h'⟩
          · obtain rfl : exit = _ := hout
            obtain ⟨res, hres, hterm⟩ := hlatched
            obtain rfl := Exit.returned.inj hres
            exact ⟨_, hterm⟩

end loop

/-- The messages that a `poll_read` on the kTLS path receives. -/
def received (abi : Abi) (cx : W) (cap : ℕ) (script : ReadScript) (w : World W) : List RecvMsg :=
  (RecordReader.pollRead abi (logged (recvEnv cx)) cap w.stream.ktlsReader
    (⟨w, RecvRound.silent, script.recv⟩, [])).2.1.2

section poll

variable {abi : Abi} {cx : W} {cap : ℕ} {script : ReadScript} {w : World W}

/-- Without room nothing is read. -/
theorem pollRead_of_no_room (hcap : cap = 0) :
    pollRead abi cx cap script w = (w, .returned (.ready (.ok []))) := by
  unfold pollRead
  rw [if_pos hcap]

/-- Without room a reader that is not terminal receives nothing. -/
theorem received_of_no_room (hcap : cap = 0) (h : w.stream.ktlsReader.terminal = none) :
    received abi cx cap script w = [] := by
  unfold received RecordReader.pollRead
  rw [Ktls.finished_eq_none_iff.mpr h]
  simp only [if_pos hcap]

/-- A terminal reader receives nothing. -/
theorem received_of_terminal {t : Terminal} (h : w.stream.ktlsReader.terminal = some t) :
    received abi cx cap script w = [] := by
  unfold received RecordReader.pollRead RecordReader.finished
  rw [h]
  cases t <;> rfl

/-- It repeats how it ended, and stays as it is. -/
theorem pollRead_of_terminal (hcap : 0 < cap) (hk : w.stream.ktlsActive = true) {t : Terminal}
    (h : w.stream.ktlsReader.terminal = some t) :
    pollRead abi cx cap script w = (w.setReader w.stream.ktlsReader, .returned t.verdict) := by
  have hpoll : w.stream.ktlsReader.poll abi ⟨recvEnv cx, ⟨w, RecvRound.silent, script.recv⟩, cap⟩ =
      (w.stream.ktlsReader, ⟨w, RecvRound.silent, script.recv⟩, .returned t.verdict) :=
    Ktls.poll_of_terminal h _
  unfold RecordReader.poll at hpoll
  unfold pollRead
  rw [if_neg hcap.ne', if_pos hk, hpoll]

/-- A poll of a live reader is right for the queue. -/
theorem pollRead_yields (hcap : 0 < cap) (hk : w.stream.ktlsActive = true)
    {held : Option UInt8} (hheld : Holds w.stream.ktlsReader held) {rx rest : List Record}
    (hmid : Midway held rx)
    (hlinks : Links (Receives abi cap) rx (received abi cx cap script w) rest) :
    Yields (restore held rx) rest (pollRead abi cx cap script w).1.stream.ktlsReader
      (pollRead abi cx cap script w).2 := by
  have hfinished := Ktls.finished_eq_none_iff.mpr hheld.1
  have hserving : Serving w.stream.ktlsReader rx (restore held rx) [] := ⟨held, hheld, hmid, rfl, rfl⟩
  unfold received RecordReader.pollRead at hlinks
  unfold pollRead RecordReader.pollRead
  rw [if_neg hcap.ne', if_pos hk]
  rw [hfinished] at hlinks ⊢
  simp only [if_neg hcap.ne'] at hlinks ⊢
  rw [readLoop_logged _ _ _ []]
  exact readLoop_yields hcap _ _ [] hserving rfl hlinks

end poll

/-! ## Sessions -/

/-- The answers that an operation of a session gets are honest for the records that have come in for it, and
this is what it leaves of them. -/
def Honest (abi : Abi) (s : Session W) (rx : List Record) (op : Op W) (rest : List Record) :
    Prop :=
  match op with
  | .read cx cap script =>
      if s.world.stream.ktlsActive then
        Links (Receives abi cap) rx
          (received abi cx cap script (s.world.signal (.called .reader cx))) rest
      else
        (∀ r ∈ script.read, Answers rx r.answer) ∧
          rest = afterRead rx (deliveredBy (pollRead abi cx cap script
            (s.world.signal (.called .reader cx))).2)
  | .write _ _ _ => rest = rx
  | .flush _ _ => rest = rx
  | .shutdown _ _ => rest = rx
  | .event _ => rest = rx

/-- What a session has delivered of the records `ks` that its peer has sent: all of them but those that have
come in (`rx`) and those that have not (`tail`), or all of them, or some of them before it failed. -/
inductive Behind (ktls : Bool) (s : Session W) (rx tail ks : List Record) : Prop
  | userspace (hk : ktls = false) (hflow : Flow s.delivered (rx ++ tail) ks)
  | live (hk : ktls = true) {held : Option UInt8} (hheld : Holds s.world.stream.ktlsReader held)
      (hmid : Midway held rx) (hflow : Flow s.delivered (restore held rx ++ tail) ks)
  | closed (hk : ktls = true) (hterm : s.world.stream.ktlsReader.terminal = some .closed)
      (hall : plaintext ks = s.delivered) (heof : verdict ks = .eof)
  | failed (hk : ktls = true) {e : IoError}
      (hterm : s.world.stream.ktlsReader.terminal = some (.failed e))
      (hsome : s.delivered <+: plaintext ks)

/-- A reader in the middle of an alert has come to it in what has come in. -/
theorem restore_append {held : Option UInt8} {rx : List Record} (hmid : Midway held rx)
    (ls : List Record) : restore held (rx ++ ls) = restore held rx ++ ls := by
  rcases held with _ | l
  · rfl
  · obtain ⟨p, rest, -, rfl⟩ := hmid (by simp)
    rfl

namespace Behind

variable {ktls : Bool} {s : Session W} {rx tail ks : List Record}

/-- What was delivered is an initial part of what was sent. -/
theorem delivered_le (h : Behind ktls s rx tail ks) : s.delivered <+: plaintext ks := by
  cases h with
  | userspace _ hflow => exact ⟨_, hflow.bytes.symm⟩
  | live _ _ _ hflow => exact ⟨_, hflow.bytes.symm⟩
  | closed _ _ hall _ => rw [hall]
  | failed _ _ hsome => exact hsome

/-- The peer sends some more. -/
theorem append (h : Behind ktls s rx tail ks) (ls : List Record) :
    Behind ktls s rx (tail ++ ls) (ks ++ ls) := by
  cases h with
  | userspace hk hflow =>
      refine .userspace hk ?_
      rw [← List.append_assoc]
      exact hflow.append ls
  | live hk hheld hmid hflow =>
      refine .live hk hheld hmid ?_
      rw [← List.append_assoc]
      exact hflow.append ls
  | closed hk hterm hall heof =>
      obtain ⟨hp, hv⟩ := append_of_eof heof ls
      exact .closed hk hterm (hp.trans hall) hv
  | failed hk hterm hsome => exact .failed hk hterm (hsome.trans (plaintext_le_append ks ls))

/-- A record comes in. -/
theorem arrive {r : Record} (h : Behind ktls s rx (r :: tail) ks) :
    Behind ktls s (rx ++ [r]) tail ks := by
  cases h with
  | userspace hk hflow =>
      refine .userspace hk ?_
      rw [List.append_assoc]
      exact hflow
  | @live hk held hheld hmid hflow =>
      have hmid' : Midway held (rx ++ [r]) := by
        intro hne
        obtain ⟨p, rest, hp, rfl⟩ := hmid hne
        exact ⟨p, rest ++ [r], hp, rfl⟩
      refine .live hk hheld hmid' ?_
      rw [restore_append hmid, List.append_assoc]
      exact hflow
  | closed hk hterm hall heof => exact .closed hk hterm hall heof
  | failed hk hterm hsome => exact .failed hk hterm hsome

/-- Nothing was delivered, and the reader is as it was. -/
theorem congr {s' : Session W} (h : Behind ktls s rx tail ks) (hd : s'.delivered = s.delivered)
    (hr : s'.world.stream.ktlsReader = s.world.stream.ktlsReader) : Behind ktls s' rx tail ks := by
  cases h with
  | userspace hk hflow => exact .userspace hk (hd ▸ hflow)
  | live hk hheld hmid hflow => exact .live hk (hr ▸ hheld) hmid (hd ▸ hflow)
  | closed hk hterm hall heof => exact .closed hk (hr ▸ hterm) (hd ▸ hall) heof
  | failed hk hterm hsome => exact .failed hk (hr ▸ hterm) (hd ▸ hsome)

/-- The end of a poll leaves the reader alone. -/
theorem finish_reader {α : Type} (h : Half) (leave : List Dir) (w : World W) (x : Exit (Poll α)) :
    (finish h leave w x).1.stream.ktlsReader = w.stream.ktlsReader := by
  cases x with
  | returned p => simp [finish]
  | panicked => rfl
  | running => rfl

/-- Only a read changes the reader. -/
theorem step_reader (abi : Abi) (hr : KtlsRun s) {op : Op W}
    (hop : ∀ cx cap script, op ≠ .read cx cap script) :
    (s.step abi op).1.world.stream.ktlsReader = s.world.stream.ktlsReader := by
  have hpending : s.world.stream.pendingWrite = [] := hr.coherent hr.active
  cases op with
  | read cx cap script => exact absurd rfl (hop cx cap script)
  | write cx buf script =>
      have hspec := pollWrite_ktls (w := s.world.signal (.called .writer cx)) cx buf script hr.active
      exact (finish_reader _ _ _ _).trans hspec.steps.reader
  | flush cx script =>
      have hspec := pollFlush_ktls (w := s.world.signal (.called .writer cx)) cx script hpending
      exact (finish_reader _ _ _ _).trans hspec.steps.reader
  | shutdown cx script =>
      have hspec := pollShutdown_ktls (w := s.world.signal (.called .writer cx)) cx script hr.active
        hpending
      exact (finish_reader _ _ _ _).trans hspec.steps.reader
  | event d => rfl

/-- A read on the userspace path. -/
theorem read_userspace (abi : Abi) {rest : List Record} {cx : W} {cap : ℕ} {script : ReadScript}
    (hactive : s.world.stream.ktlsActive = false) (hflow : Flow s.delivered (rx ++ tail) ks)
    (hhonest : Honest abi s rx (.read cx cap script) rest) :
    Flow (s.step abi (.read cx cap script)).1.delivered (rest ++ tail) ks := by
  rw [Honest, if_neg (by simp [hactive])] at hhonest
  obtain ⟨hanswers, rfl⟩ := hhonest
  show Flow (s.delivered ++ deliveredBy (pollRead abi cx cap script _).2) _ ks
  by_cases hcap : cap = 0
  · rw [pollRead_of_no_room hcap]
    show Flow (s.delivered ++ []) _ ks
    rw [List.append_nil]
    cases rx <;> exact hflow
  have hreads := pollRead_reads abi cx (Nat.pos_of_ne_zero hcap) hanswers
    (w := s.world.signal (.called .reader cx)) hactive
  generalize (pollRead abi cx cap script (s.world.signal (.called .reader cx))).2 = x at hreads ⊢
  have hidle : Flow (s.delivered ++ []) (afterRead rx [] ++ tail) ks := by
    rw [List.append_nil]
    cases rx <;> exact hflow
  rcases x with ((e | (_ | ⟨b, bs⟩)) | _) | _ | _
  · exact hidle
  · exact hidle
  · have hnext : Flow (b :: bs) (afterRead rx (b :: bs)) rx := hreads
    exact hflow.trans (hnext.append tail)
  · exact hidle
  · exact hidle
  · exact hidle

/-- A read of a live reader on the kTLS path. -/
theorem read_live (abi : Abi) {rest : List Record} {cx : W} {cap : ℕ} {script : ReadScript}
    (hactive : s.world.stream.ktlsActive = true) {held : Option UInt8}
    (hheld : Holds s.world.stream.ktlsReader held) (hmid : Midway held rx)
    (hflow : Flow s.delivered (restore held rx ++ tail) ks)
    (hhonest : Honest abi s rx (.read cx cap script) rest) :
    Behind true (s.step abi (.read cx cap script)).1 rest tail ks := by
  rw [Honest, if_pos hactive] at hhonest
  have hreader := finish_reader .reader script.leave
    (pollRead abi cx cap script (s.world.signal (.called .reader cx))).1
    (pollRead abi cx cap script (s.world.signal (.called .reader cx))).2
  by_cases hcap : cap = 0
  · -- there is no room, and nothing is received
    rw [received_of_no_room (w := s.world.signal (.called .reader cx)) hcap hheld.1] at hhonest
    cases hhonest
    refine Behind.congr (.live rfl hheld hmid hflow) ?_ (hreader.trans ?_)
    · show s.delivered ++ deliveredBy (pollRead abi cx cap script _).2 = s.delivered
      rw [pollRead_of_no_room hcap]
      exact List.append_nil _
    · rw [pollRead_of_no_room hcap]
      rfl
  have hyields := pollRead_yields (w := s.world.signal (.called .reader cx)) (Nat.pos_of_ne_zero hcap)
    hactive hheld hmid hhonest
  have hdelivered : (s.step abi (.read cx cap script)).1.delivered = s.delivered ++
      deliveredBy (pollRead abi cx cap script (s.world.signal (.called .reader cx))).2 := rfl
  have hworld : (s.step abi (.read cx cap script)).1.world.stream.ktlsReader =
      (pollRead abi cx cap script (s.world.signal (.called .reader cx))).1.stream.ktlsReader := hreader
  generalize pollRead abi cx cap script (s.world.signal (.called .reader cx)) = p
    at hyields hdelivered hworld
  -- what a serving reader has delivered of its queue flows on into the rest
  have hserved : ∀ {bytes : Bytes}, Serving p.1.stream.ktlsReader rest (restore held rx) bytes →
      deliveredBy p.2 = bytes → Behind true (s.step abi (.read cx cap script)).1 rest tail ks := by
    rintro bytes ⟨held', hheld', hmid', hplain, hverdict⟩ hbytes
    refine .live rfl (hworld ▸ hheld') hmid' ?_
    rw [hdelivered, hbytes]
    exact hflow.trans (Flow.append ⟨hplain, hverdict⟩ tail)
  rcases p with ⟨w', (((e | (_ | ⟨b, bs⟩)) | _) | _ | _)⟩
  · obtain ⟨e', hterm⟩ := hyields
    refine .failed rfl (hworld.symm ▸ hterm) ?_
    rw [hdelivered]
    exact ⟨plaintext (restore held rx ++ tail), by simp [deliveredBy, hflow.bytes]⟩
  · obtain ⟨hterm, hplain, hverdict⟩ := hyields
    obtain ⟨hp, hv⟩ := append_of_eof hverdict tail
    obtain ⟨hall, heof⟩ := hflow.eof (hp.trans hplain) hv
    refine .closed rfl (hworld.symm ▸ hterm) ?_ heof
    rw [hdelivered, hall]
    exact (List.append_nil _).symm
  · exact hserved hyields rfl
  · exact hserved hyields rfl
  · exact hyields.elim
  · exact hyields.elim

/-- A read of a reader that has ended. -/
theorem read_terminal (abi : Abi) {rest : List Record} {cx : W} {cap : ℕ} {script : ReadScript}
    (hactive : s.world.stream.ktlsActive = true) {t : Terminal}
    (hterm : s.world.stream.ktlsReader.terminal = some t)
    (hhonest : Honest abi s rx (.read cx cap script) rest) :
    rest = rx ∧ (s.step abi (.read cx cap script)).1.delivered = s.delivered ∧
      (s.step abi (.read cx cap script)).1.world.stream.ktlsReader = s.world.stream.ktlsReader := by
  rw [Honest, if_pos hactive,
    received_of_terminal (w := s.world.signal (.called .reader cx)) hterm] at hhonest
  cases hhonest
  have hreader := finish_reader .reader script.leave
    (pollRead abi cx cap script (s.world.signal (.called .reader cx))).1
    (pollRead abi cx cap script (s.world.signal (.called .reader cx))).2
  have hpoll : (pollRead abi cx cap script (s.world.signal (.called .reader cx))).1.stream.ktlsReader =
      s.world.stream.ktlsReader ∧
      deliveredBy (pollRead abi cx cap script (s.world.signal (.called .reader cx))).2 = [] := by
    by_cases hcap : cap = 0
    · rw [pollRead_of_no_room hcap]
      exact ⟨rfl, rfl⟩
    · rw [pollRead_of_terminal (w := s.world.signal (.called .reader cx)) (Nat.pos_of_ne_zero hcap)
        hactive hterm]
      cases t <;> exact ⟨rfl, rfl⟩
  refine ⟨rfl, ?_, hreader.trans hpoll.1⟩
  show s.delivered ++ deliveredBy (pollRead abi cx cap script _).2 = s.delivered
  rw [hpoll.2, List.append_nil]

/-- **Step lemma.** An operation that gets honest answers keeps the account of its session. -/
theorem poll (h : Behind ktls s rx tail ks) (hp : Polled ktls s) (abi : Abi) {op : Op W}
    {rest : List Record} (hhonest : Honest abi s rx op rest) :
    Behind ktls (s.step abi op).1 rest tail ks := by
  have hactive := hp.path.active
  -- an operation that is no read delivers nothing
  have hother : (∀ cx cap script, op ≠ .read cx cap script) → rest = rx →
      (s.step abi op).1.delivered = s.delivered → Behind ktls (s.step abi op).1 rest tail ks := by
    rintro hop rfl hd
    cases ktls with
    | false =>
        cases h with
        | userspace hk hflow => exact .userspace rfl (hd ▸ hflow)
        | live hk => cases hk
        | closed hk => cases hk
        | failed hk => cases hk
    | true => exact h.congr hd (step_reader abi (hp.offloaded rfl) hop)
  cases op with
  | read cx cap script =>
      cases h with
      | userspace hk hflow =>
          exact .userspace hk (read_userspace abi (hactive.trans hk) hflow hhonest)
      | live hk hheld hmid hflow =>
          subst hk
          exact read_live abi hactive hheld hmid hflow hhonest
      | closed hk hterm hall heof =>
          obtain ⟨rfl, hd, hr⟩ := read_terminal abi (hactive.trans hk) hterm hhonest
          exact Behind.congr (.closed hk hterm hall heof) hd hr
      | failed hk hterm hsome =>
          obtain ⟨rfl, hd, hr⟩ := read_terminal abi (hactive.trans hk) hterm hhonest
          exact Behind.congr (.failed hk hterm hsome) hd hr
  | write cx buf script => exact hother (by simp) hhonest rfl
  | flush cx script => exact hother (by simp) hhonest rfl
  | shutdown cx script => exact hother (by simp) hhonest rfl
  | event d => exact hother (by simp) hhonest rfl

/-- **A clean end is the peer's.** A read into a buffer with room that returns no bytes has come to the
peer's close_notify, and everything before it has been delivered. -/
theorem eof (h : Behind ktls s rx tail ks) (hp : Polled ktls s) (abi : Abi) {cx : W} {cap : ℕ}
    {script : ReadScript} {rest : List Record} (hcap : 0 < cap)
    (hhonest : Honest abi s rx (.read cx cap script) rest)
    (heof : (pollRead abi cx cap script (s.world.signal (.called .reader cx))).2 =
      .returned (.ready (.ok []))) :
    plaintext ks = s.delivered ∧ verdict ks = .eof := by
  have hactive := hp.path.active
  cases h with
  | userspace hk hflow =>
      rw [Honest, if_neg (by simp [hactive, hk])] at hhonest
      have hreads := pollRead_reads abi cx hcap hhonest.1 (w := s.world.signal (.called .reader cx))
        (hactive.trans hk)
      rw [heof] at hreads
      obtain ⟨hplain, hverdict⟩ := hreads
      obtain ⟨hp', hv⟩ := append_of_eof hverdict tail
      exact hflow.eof (hp'.trans hplain) hv
  | live hk hheld hmid hflow =>
      rw [Honest, if_pos (hactive.trans hk)] at hhonest
      have hyields := pollRead_yields (w := s.world.signal (.called .reader cx)) hcap (hactive.trans hk)
        hheld hmid hhonest
      rw [heof] at hyields
      obtain ⟨-, hplain, hverdict⟩ := hyields
      obtain ⟨hp', hv⟩ := append_of_eof hverdict tail
      exact hflow.eof (hp'.trans hplain) hv
  | closed hk hterm hall hend => exact ⟨hall, hend⟩
  | failed hk hterm hsome =>
      rw [pollRead_of_terminal (w := s.world.signal (.called .reader cx)) hcap (hactive.trans hk)
        hterm] at heof
      cases heof

end Behind

end TokioAwsLc.System
