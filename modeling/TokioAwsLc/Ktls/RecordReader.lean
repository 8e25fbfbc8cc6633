import TokioAwsLc.Ktls.Ancillary

/-!
# The kTLS record reader

`RecordReader` is the receive state of a stream whose socket has kTLS installed: at most two saved
alert bytes and, once the stream is over, how it ended. `consume` classifies one received fragment;
`pollRead` is the loop around `recvmsg` that `TlsStream::poll_read` runs in kTLS mode.

The socket is an arbitrary machine: `RecvEnv κ` gives the three things the loop does with it, over any
state `κ`. The stream instantiates it with its reactor; the kernel models of the schedule results
instantiate it with record queues.
-/

namespace TokioAwsLc.Ktls

/-- Source: `src/ktls/io.rs` `IO_BUDGET` -/
def ioBudget : ℕ := 32

/-- Source: `src/ktls/io.rs` `copy_error` -/
def copyError (e : IoError) : IoError :=
  e.reproduce

/-- How a connection ended.
Source: `src/ktls/io.rs` `Terminal` -/
inductive Terminal
  | closed
  | failed (e : IoError)
  deriving DecidableEq, Repr

/-- Source: `src/ktls/io.rs` `ReadOutcome` -/
inductive ReadOutcome
  | data (n : ℕ)
  | more
  | eof
  deriving DecidableEq, Repr

/-- Source: `src/ktls/io.rs` `RecordReader` -/
structure RecordReader where
  alert : Vector UInt8 2
  alertLen : ℕ
  terminal : Option Terminal
  deriving DecidableEq, Repr

namespace RecordReader

/-- Source: `src/ktls/io.rs` `RecordReader::default` -/
def default : RecordReader :=
  ⟨#v[0, 0], 0, none⟩

/-! ## Classifying one fragment -/

/-- Source: `src/ktls/io.rs` `RecordReader::finished` -/
def finished (r : RecordReader) : Option (IoResult ReadOutcome) :=
  match r.terminal with
  | none => none
  | some .closed => some (.ok .eof)
  | some (.failed e) => some (.error (copyError e))

/-- Source: `src/ktls/io.rs` `RecordReader::fail` -/
def fail (r : RecordReader) (e : IoError) : RecordReader × IoError :=
  ({ r with terminal := some (.failed (copyError e)) }, e)

/-- Return an error that has been latched. -/
def failWith (r : RecordReader) (e : IoError) : RecordReader × Exit (IoResult ReadOutcome) :=
  ((r.fail e).1, .returned (.error (r.fail e).2))

/-- Source: `src/ktls/io.rs` `RecordReader::reject` -/
def reject (r : RecordReader) (message : String) :
    RecordReader × Exit (IoResult ReadOutcome) :=
  r.failWith (.invalidData message)

/-- The alert bytes after `alert[start..start + payload.len()].copy_from_slice(payload)`. -/
def copyAlert (alert : Vector UInt8 2) (start : ℕ) (payload : Bytes) : Vector UInt8 2 :=
  Vector.ofFn fun i =>
    if start ≤ i.val ∧ i.val < start + payload.length then payload.getD (i.val - start) 0
    else alert.get i

/-- Source: `src/ktls/io.rs` `RecordReader::consume_alert` -/
def consumeAlert (r : RecordReader) (flags : BitVec 32) (payload : Bytes) :
    RecordReader × Exit (IoResult ReadOutcome) :=
  -- the subtraction `alert.len() - alert_len` and the slice `alert[alert_len..end]`
  if 2 < r.alertLen then (r, .panicked)
  else if 2 - r.alertLen < payload.length then r.reject "oversized kTLS alert"
  else
    let stop := r.alertLen + payload.length
    if ¬ (r.alertLen ≤ stop ∧ stop ≤ 2) then (r, .panicked)
    else
      let r := { r with alert := copyAlert r.alert r.alertLen payload, alertLen := stop }
      if ¬ EndOfRecord flags then
        if r.alertLen = 2 then
          r.reject "kTLS alert exceeds two bytes without end-of-record"
        else (r, .returned (.ok .more))
      else if r.alertLen ≠ 2 then r.reject "truncated kTLS alert at end-of-record"
      else if (r.alert[0] = 1 ∨ r.alert[0] = 2) ∧ r.alert[1] = 0 then
        ({ r with terminal := some .closed }, .returned (.ok .eof))
      else r.reject "invalid or non-close kTLS alert"

/-- Source: `src/ktls/io.rs` `RecordReader::consume` -/
def consume (r : RecordReader) (recordType : Option UInt8) (flags : BitVec 32)
    (payload : Bytes) : RecordReader × Exit (IoResult ReadOutcome) :=
  match r.finished with
  | some result => (r, .returned result)
  | none =>
      if Truncated flags then r.reject "truncated kTLS recvmsg payload or ancillary data"
      else if payload = [] then
        if recordType = some applicationData ∧ r.alertLen = 0 then (r, .returned (.ok .more))
        else if recordType.isSome ∨ EndOfRecord flags then
          r.reject "empty kTLS record is unsupported"
        else r.failWith (.custom .unexpectedEof "kTLS peer closed without close_notify")
      else
        let recordType := recordType.getD applicationData
        if r.alertLen ≠ 0 ∧ recordType ≠ alertType then
          r.reject "kTLS alert interrupted by another record type"
        else if recordType = applicationData then (r, .returned (.ok (.data payload.length)))
        else if recordType = alertType then r.consumeAlert flags payload
        else if recordType = handshakeType then
          r.failWith (.custom .unsupported
            ("kTLS handshake controls (including NewSessionTicket and KeyUpdate) " ++
              "are unsupported"))
        else r.reject "unsupported kTLS record type"

end RecordReader

/-! ## The read loop -/

/-- What the read loop does with its socket: the `try_io` around `recvmsg` into `cap` bytes (`none`
when the cached readiness is clear and no call is made), the wait for readability, and the wake-up
of its own task. -/
structure RecvEnv (κ : Type) where
  tryRecvmsg : κ → ℕ → κ × Option RecvMsg
  pollReadReady : κ → κ × Poll (IoResult Unit)
  wakeByRef : κ → κ

namespace RecordReader

variable {κ : Type}

/-- What `try_io(READABLE, || recv_record(tcp, dst))` returns: `WouldBlock` without a call when the
cached readiness is clear. -/
def tryRecvRecord (abi : Abi) (capacity : ℕ) : Option RecvMsg → IoResult Received
  | none => .error (.simple .wouldBlock)
  | some m => recvRecord abi capacity m

/-- The `for _ in 0..IO_BUDGET` loop, by the number of iterations that are left. A successful result
carries the bytes by which the caller's buffer was advanced.
Source: `src/ktls/io.rs` `RecordReader::poll_read` -/
def readLoop (abi : Abi) (env : RecvEnv κ) (capacity : ℕ) :
    ℕ → RecordReader → κ → RecordReader × κ × Exit (Poll (IoResult Bytes))
  | 0, r, k => (r, env.wakeByRef k, .returned .pending)
  | budget + 1, r, k =>
      match env.tryRecvmsg k capacity with
      | (k, got) =>
          match tryRecvRecord abi capacity got with
          | .ok record =>
              match r.consume record.recordType record.flags record.payload with
              | (r, .returned (.ok (.data n))) =>
                  (r, k, .returned (.ready (.ok (record.payload.take n))))
              | (r, .returned (.ok .eof)) => (r, k, .returned (.ready (.ok [])))
              | (r, .returned (.ok .more)) => readLoop abi env capacity budget r k
              | (r, .returned (.error e)) => (r, k, .returned (.ready (.error e)))
              | (r, .panicked) => (r, k, .panicked)
              | (r, .running) => (r, k, .running)
          | .error e =>
              if e.kind = .interrupted then readLoop abi env capacity budget r k
              else if e.kind = .wouldBlock then
                match env.pollReadReady k with
                | (k, .ready (.ok ())) => readLoop abi env capacity budget r k
                | (k, .ready (.error e)) =>
                    ((r.fail e).1, k, .returned (.ready (.error (r.fail e).2)))
                | (k, .pending) => (r, k, .returned .pending)
              else ((r.fail e).1, k, .returned (.ready (.error (r.fail e).2)))

/-- Source: `src/ktls/io.rs` `RecordReader::poll_read` -/
def pollRead (abi : Abi) (env : RecvEnv κ) (capacity : ℕ) (r : RecordReader) (k : κ) :
    RecordReader × κ × Exit (Poll (IoResult Bytes)) :=
  match r.finished with
  | some (.ok _) => (r, k, .returned (.ready (.ok [])))
  | some (.error e) => (r, k, .returned (.ready (.error e)))
  | none =>
      if capacity = 0 then (r, k, .returned (.ready (.ok [])))
      else readLoop abi env capacity ioBudget r k

/-- What each of the three things the loop does with its socket preserves, the loop preserves. -/
theorem readLoop_preserves {abi : Abi} {env : RecvEnv κ} {capacity : ℕ} {I : κ → Prop}
    (hrecv : ∀ k, I k → I (env.tryRecvmsg k capacity).1)
    (hpoll : ∀ k, I k → I (env.pollReadReady k).1) (hwake : ∀ k, I k → I (env.wakeByRef k))
    (budget : ℕ) (r : RecordReader) {k : κ} (hk : I k) :
    I (readLoop abi env capacity budget r k).2.1 := by
  induction budget generalizing r k with
  | zero => exact hwake k hk
  | succ budget ih =>
      unfold readLoop
      have hk₁ := hrecv k hk
      generalize env.tryRecvmsg k capacity = res at hk₁ ⊢
      obtain ⟨k₁, got⟩ := res
      simp only at hk₁ ⊢
      generalize tryRecvRecord abi capacity got = result
      rcases result with e | record
      · simp only
        split_ifs
        · exact ih r hk₁
        · have hk₂ := hpoll k₁ hk₁
          generalize env.pollReadReady k₁ = res at hk₂ ⊢
          rcases res with ⟨k₂, ((e | ⟨⟨⟩⟩) | _)⟩
          · exact hk₂
          · exact ih r hk₂
          · exact hk₂
        · exact hk₁
      · simp only
        generalize r.consume record.recordType record.flags record.payload = res
        rcases res with ⟨r', ((e | (n | _ | _)) | _ | _)⟩
        · exact hk₁
        · exact hk₁
        · exact ih r' hk₁
        · exact hk₁
        · exact hk₁
        · exact hk₁

/-- The same for a whole poll. -/
theorem pollRead_preserves {abi : Abi} {env : RecvEnv κ} {capacity : ℕ} {I : κ → Prop}
    (hrecv : ∀ k, I k → I (env.tryRecvmsg k capacity).1)
    (hpoll : ∀ k, I k → I (env.pollReadReady k).1) (hwake : ∀ k, I k → I (env.wakeByRef k))
    (r : RecordReader) {k : κ} (hk : I k) : I (pollRead abi env capacity r k).2.1 := by
  unfold pollRead
  generalize r.finished = fin
  rcases fin with _ | (e | o)
  · simp only
    split_ifs
    · exact hk
    · exact readLoop_preserves hrecv hpoll hwake ioBudget r hk
  · exact hk
  · exact hk

end RecordReader

end TokioAwsLc.Ktls
