import TokioAwsLc.Io.Error

/-!
# libssl, as the stream sees it

libssl is not part of the crate. What the poll functions observe of one call of `SSL_read`,
`SSL_write` or `SSL_shutdown` is an *answer*: it completed, or it stopped with a return value, an
`SSL_get_error` code and the thread-local diagnostics that `ssl_io_error` reads. An answer is part of
the environment's script, so a statement for every script is a statement for every libssl.

Two documented facts about libssl are built into the answers rather than assumed later. A completed
`SSL_write` has taken the whole buffer, because the stream never enables partial-write mode; and a
completed `SSL_read` has produced at least one byte.
-/

namespace TokioAwsLc

/-! ## Codes -/

/-- Source: aws-lc-sys `SSL_ERROR_NONE` -/
def sslErrorNone : ℤ := 0
/-- Source: aws-lc-sys `SSL_ERROR_SSL` -/
def sslErrorSsl : ℤ := 1
/-- Source: aws-lc-sys `SSL_ERROR_WANT_READ` -/
def sslErrorWantRead : ℤ := 2
/-- Source: aws-lc-sys `SSL_ERROR_WANT_WRITE` -/
def sslErrorWantWrite : ℤ := 3
/-- Source: aws-lc-sys `SSL_ERROR_SYSCALL` -/
def sslErrorSyscall : ℤ := 5
/-- Source: aws-lc-sys `SSL_ERROR_ZERO_RETURN` -/
def sslErrorZeroReturn : ℤ := 6
/-- Source: aws-lc-sys `ERR_LIB_SSL` -/
def errLibSsl : UInt32 := 16
/-- Source: `src/stream.rs` `SSL_R_UNEXPECTED_EOF_WHILE_READING` -/
def sslRUnexpectedEofWhileReading : UInt32 := 509

/-- The `matches!(code, SSL_ERROR_WANT_READ | SSL_ERROR_WANT_WRITE)` test of the write and shutdown
paths: libssl is blocked on the socket and wants the same call again. -/
def IsWant (code : ℤ) : Prop :=
  code = sslErrorWantRead ∨ code = sslErrorWantWrite

instance : DecidablePred IsWant := fun code =>
  inferInstanceAs (Decidable (code = sslErrorWantRead ∨ code = sslErrorWantWrite))

/-! ## Answers -/

/-- What `ssl_io_error` reads besides the code: the OS error, the oldest packed entry of the error
queue, and the text `last_error` drains from that queue.
Source: `src/stream.rs` `ssl_io_error` -/
structure SslDiag where
  /-- `io::Error::last_os_error()`, as its code. -/
  osErrno : ℤ
  /-- `ERR_peek_error()`. -/
  packed : UInt32
  /-- `last_error()`. -/
  detail : String
  deriving DecidableEq, Repr

/-- The outcome of one libssl call: it completed with a value, or it stopped. -/
inductive SslAnswer (α : Type)
  | done (a : α)
  | stopped (n : ℕ) (code : ℤ) (diag : SslDiag)
  deriving DecidableEq, Repr

/-- The plaintext of a completed `SSL_read`: never empty. -/
abbrev Chunk := { bs : Bytes // bs ≠ [] }

namespace SslAnswer

variable {α : Type}

/-- `SSL_get_error` right after the call. -/
def code : SslAnswer α → ℤ
  | done _ => sslErrorNone
  | stopped _ c _ => c

/-- The diagnostics right after the call. -/
def diag : SslAnswer α → SslDiag
  | done _ => ⟨0, 0, "(no error queued)"⟩
  | stopped _ _ d => d

/-- The return value of `SSL_write` on `len` bytes: all of them, or a value that is not positive. -/
def writeRet (len : ℤ) : SslAnswer Unit → ℤ
  | done _ => len
  | stopped n _ _ => -n

/-- What `SSL_read` with room for `cap` bytes wrote into the buffer. -/
def readBytes (cap : ℕ) : SslAnswer Chunk → Bytes
  | done bs => bs.1.take cap
  | stopped _ _ _ => []

/-- The return value of `SSL_read` with room for `cap` bytes. -/
def readRet (cap : ℕ) : SslAnswer Chunk → ℤ
  | done bs => ((bs.1.take cap).length : ℤ)
  | stopped n _ _ => -n

/-- The return value of `SSL_shutdown`: `0` or `1` (the peer's close_notify is in too), or a
negative value. -/
def shutdownRet : SslAnswer Bool → ℤ
  | done peer => if peer then 1 else 0
  | stopped n _ _ => -(n + 1)

/-- A completed write of a non-empty buffer is told from a stopped one by its return value. -/
theorem writeRet_eq_iff {len : ℤ} (h : 0 < len) (a : SslAnswer Unit) :
    a.writeRet len = len ↔ a = done () := by
  cases a with
  | done a => simp [writeRet]
  | stopped n c d => simp only [writeRet, reduceCtorEq, iff_false]; omega

/-- `SSL_write` returns a positive number iff it is done. -/
theorem writeRet_pos_iff {len : ℤ} (h : 0 < len) (a : SslAnswer Unit) :
    0 < a.writeRet len ↔ a = done () := by
  cases a with
  | done a => simp [writeRet, h]
  | stopped n c d => simp only [writeRet, reduceCtorEq, iff_false]; omega

/-- `SSL_shutdown` does not return a negative number iff it is done. -/
theorem shutdownRet_nonneg_iff (a : SslAnswer Bool) :
    0 ≤ a.shutdownRet ↔ ∃ peer, a = done peer := by
  cases a with
  | done peer => cases peer <;> simp [shutdownRet]
  | stopped n c d => simp only [shutdownRet, reduceCtorEq, exists_false, iff_false]; omega

/-- A completed read into a non-empty buffer returns a positive count. -/
theorem readRet_pos {cap : ℕ} (h : 0 < cap) (bs : Chunk) :
    0 < (done bs : SslAnswer Chunk).readRet cap := by
  obtain ⟨bs, hbs⟩ := bs
  have hlen : 0 < bs.length := List.length_pos_iff.mpr hbs
  simp only [readRet, List.length_take]
  omega

/-- An `SSL_read` that stops returns no positive number. -/
theorem readRet_stopped_nonpos (cap n : ℕ) (c : ℤ) (d : SslDiag) :
    ¬ 0 < (stopped n c d : SslAnswer Chunk).readRet cap := by
  simp [readRet]

end SslAnswer

/-! ## The error of a failed call -/

/-- The error the crate reports when the peer's TCP stream ended without a close_notify. -/
def closedWithoutNotify : IoError :=
  .custom .unexpectedEof "TLS peer closed without close_notify"

/-- Source: `src/stream.rs` `ssl_io_error` -/
def sslIoError (op : String) (code : ℤ) (diag : SslDiag) : IoError :=
  let osError := IoError.os diag.osErrno
  let library := (diag.packed >>> 24) &&& 0xff
  let unexpectedEof := code = sslErrorSsl ∧ library = errLibSsl ∧
    diag.packed &&& 0xfff = sslRUnexpectedEofWhileReading
  let detail := diag.detail
  if code = sslErrorSyscall then
    if osError.rawOsError.any (fun errno => errno ≠ 0) then osError else closedWithoutNotify
  else if ¬ unexpectedEof then .custom .other s!"{op}: ssl_error={code} {detail}"
  else closedWithoutNotify

/-- The queue entry decides, not the text: an unexpected EOF is recognised by library and reason
under `SSL_ERROR_SSL` only. -/
example : sslIoError "SSL_read" sslErrorSsl ⟨0, 0x100001fd, ""⟩ = closedWithoutNotify := by decide

end TokioAwsLc
