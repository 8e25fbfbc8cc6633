import TokioAwsLc.Lib.Trace
import TokioAwsLc.Stream.World

/-!
# The poll functions of the stream

`poll_read`, `poll_write`, `poll_flush` and `poll_shutdown`, in both data paths, with the helpers they
share. Each function takes the world it is called in and the answers its environment will give it,
and returns the world it leaves and how the call ended.

* A *round* is one turn of a loop: the answer of the call at its head, and what the reactor does
  around the wait that may follow. Readiness events are scripted wherever they can fall between two
  steps that touch the reactor; a call of libssl does not, so events before and after it are the
  same. The loops recurse on their list of rounds; a loop that asks for a round the list does not
  hold is still `running`.
* `Op` is one poll with everything its environment answers, or a readiness event between polls.
  `Session` adds to the world what the callers have seen: the plaintext `poll_write` acknowledged and
  the plaintext `poll_read` delivered. `Session.run` plays a list of operations.
-/

set_option linter.unusedSectionVars false

namespace TokioAwsLc.Stream

open Ktls (Abi RecordReader RecvEnv RecvMsg ioBudget)

variable {W : Type} [DecidableEq W]

/-! ## Scripts -/

/-- What the reactor does around one `poll_ssl_ready`: the events before the waker is registered,
between that and the readiness check, and between the check and the clearing of the bit; and the
error the check returns when the runtime is gone. -/
structure Wait where
  beforeRegister : List Dir
  beforePoll : List Dir
  gone : Option IoError
  beforeClear : List Dir
  deriving DecidableEq, Repr

/-- A wait in which nothing happens. -/
def Wait.quiet (gone : Option IoError) : Wait :=
  ⟨[], [], gone, []⟩

/-- One turn of a loop around a libssl call: the events before the call, its answer, and the wait
that may follow. -/
structure Round (α : Type) where
  before : List Dir
  answer : SslAnswer α
  wait : Wait
  deriving DecidableEq, Repr

/-- One turn of a loop around a system call that returns a count or an error code. -/
structure SysRound where
  before : List Dir
  result : Except ℤ ℕ
  beforePoll : List Dir
  gone : Option IoError

/-- One turn of the kTLS read loop. -/
structure RecvRound where
  before : List Dir
  msg : RecvMsg
  beforePoll : List Dir
  gone : Option IoError

/-- A turn in which the kernel has nothing and the reactor is quiet. -/
def RecvRound.silent : RecvRound :=
  ⟨[], .failed eagain, [], none⟩

/-! ## Waiting for readiness -/

/-- `poll_read_ready` or `poll_write_ready`: an error if the runtime is gone, else ready if the bit is
set; otherwise the waker is armed.
Source: `tokio::net::TcpStream::poll_read_ready`, `poll_write_ready` -/
def pollReady (site : WaitSite) (d : Dir) (wk : SocketWaker W) (gone : Option IoError)
    (w : World W) : World W × Poll (IoResult Unit) :=
  match gone with
  | some e => (w.call (.waitFailed site e), .ready (.error e))
  | none =>
      if w.net.ready d then (w, .ready (.ok ()))
      else (w.signal (.arm d wk), .pending)

/-- The two `poll_clear_*_ready` functions: wait, then clear the bit that was found set. -/
def pollClearReady (site : WaitSite) (d : Dir) (wk : SocketWaker W) (wait : Wait)
    (w : World W) : World W × Poll (IoResult Unit) :=
  match pollReady site d wk wait.gone w with
  | (w, .ready (.ok ())) =>
      ((w.events wait.beforeClear).signal (.clear d), .ready (.ok ()))
  | other => other

/-- Source: `src/stream.rs` `poll_clear_read_ready` -/
def pollClearReadReady (site : WaitSite) (wk : SocketWaker W) (wait : Wait) (w : World W) :
    World W × Poll (IoResult Unit) :=
  pollClearReady site .read wk wait w

/-- Source: `src/stream.rs` `poll_clear_write_ready` -/
def pollClearWriteReady (site : WaitSite) (wk : SocketWaker W) (wait : Wait) (w : World W) :
    World W × Poll (IoResult Unit) :=
  pollClearReady site .write wk wait w

/-- The direction that `poll_ssl_ready` waits for. -/
def wantDir (code : ℤ) : Dir :=
  if code = sslErrorWantRead then .read else .write

/-- Source: `src/stream.rs` `TlsStream::poll_ssl_ready` -/
def pollSslReady (site : WaitSite) (code : ℤ) (cx : W) (reader : Bool) (wait : Wait)
    (w : World W) : World W × Poll (IoResult Unit) :=
  let w := w.events wait.beforeRegister
  let w := w.signal (.register (.ofReader reader) cx)
  let w := w.events wait.beforePoll
  if code = sslErrorWantRead then pollClearReadReady site .shared wait w
  else pollClearWriteReady site .shared wait w

/-! ## The userspace loops -/

/-- The error of a failed write path, latched and returned. -/
def failWrite {α : Type} (w : World W) (e : IoError) : World W × Exit (Poll (IoResult α)) :=
  (w.writeFailure e, .returned (.ready (.error e)))

/-- The `while !self.pending_write.is_empty()` loop.
Source: `src/stream.rs` `TlsStream::poll_pending_write` -/
def drainLoop (cx : W) (reader : Bool) :
    List (Round Unit) → World W → World W × Exit (Poll (IoResult Unit))
  | [], w =>
      if w.stream.pendingWrite = [] then (w, .returned (.ready (.ok ()))) else (w, .running)
  | r :: rs, w =>
      if w.stream.pendingWrite = [] then (w, .returned (.ready (.ok ())))
      else
        match cInt w.stream.pendingWrite.length with
        | none => (w, .panicked)
        | some len =>
            let w := (w.events r.before).call (.sslWrite .retry w.stream.pendingWrite r.answer)
            let n := r.answer.writeRet len
            if n = len then
              ((w.setPending []).signal .notify, .returned (.ready (.ok ())))
            else
              let code := r.answer.code
              if IsWant code then
                match pollSslReady .drain code cx reader r.wait w with
                | (w, .pending) => (w, .returned .pending)
                | (w, .ready (.error e)) => failWrite w e
                | (w, .ready (.ok ())) => drainLoop cx reader rs w
              else failWrite w (sslIoError "SSL_write" code r.answer.diag)

/-- Source: `src/stream.rs` `TlsStream::poll_pending_write` -/
def pollPendingWrite (cx : W) (reader : Bool) (rounds : List (Round Unit)) (w : World W) :
    World W × Exit (Poll (IoResult Unit)) :=
  match w.stream.writeError with
  | some e => (w, .returned (.ready (.error (duplicateIoError e))))
  | none => drainLoop cx reader rounds w

/-- The `loop` around `SSL_read`, into `cap` bytes.
Source: `src/stream.rs` `TlsStream::poll_read` -/
def readLoop (cx : W) (cap : ℕ) :
    List (Round Chunk) → World W → World W × Exit (Poll (IoResult Bytes))
  | [], w => (w, .running)
  | r :: rs, w =>
      let w := (w.events r.before).call (.sslRead (min cap (2 ^ 31 - 1)) r.answer)
      let n := r.answer.readRet (min cap (2 ^ 31 - 1))
      if 0 < n then
        (w, .returned (.ready (.ok (r.answer.readBytes (min cap (2 ^ 31 - 1))))))
      else
        let err := r.answer.code
        if err = sslErrorZeroReturn then (w, .returned (.ready (.ok [])))
        else if IsWant err then
          match pollSslReady .read err cx true r.wait w with
          | (w, .pending) => (w, .returned .pending)
          | (w, .ready (.error e)) => (w, .returned (.ready (.error e)))
          | (w, .ready (.ok ())) => readLoop cx cap rs w
        else (w, .returned (.ready (.error (sslIoError "SSL_read" err r.answer.diag))))

/-- The `loop` around `SSL_shutdown`.
Source: `src/stream.rs` `TlsStream::poll_shutdown` -/
def shutdownLoop (cx : W) :
    List (Round Bool) → World W → World W × Exit (Poll (IoResult Unit))
  | [], w => (w, .running)
  | r :: rs, w =>
      let w := (w.events r.before).call (.sslShutdown r.answer)
      if 0 ≤ r.answer.shutdownRet then (w.moveTo .closed, .returned (.ready (.ok ())))
      else
        let err := r.answer.code
        if IsWant err then
          match pollSslReady .shutdown err cx false r.wait w with
          | (w, .pending) => (w, .returned .pending)
          | (w, .ready (.error e)) => failWrite w e
          | (w, .ready (.ok ())) => shutdownLoop cx rs w
        else failWrite w (sslIoError "SSL_shutdown" err r.answer.diag)

/-! ## The kTLS helpers -/

/-- `try_io` around a call: without the ready bit no call is made; a call that would block clears
it.
Source: `tokio::net::TcpStream::try_io` -/
def tryIo {α : Type} (d : Dir) (c : Call) (result : IoResult α) (w : World W) :
    World W × IoResult α :=
  if w.net.ready d then
    match result with
    | .ok a => (w.call c, .ok a)
    | .error e =>
        if e.kind = .wouldBlock then ((w.call c).signal (.clear d), .error e)
        else (w.call c, .error e)
  else (w, .error (.simple .wouldBlock))

/-- Source: `src/stream.rs` `ktls_poll_write` -/
def ktlsPollWrite (cx : W) (buf : Bytes) :
    List SysRound → World W → World W × Exit (Poll (IoResult ℕ))
  | [], w => (w, .running)
  | r :: rs, w =>
      match tryIo .write (.write buf r.result) (r.result.mapError .os) (w.events r.before) with
      | (w, .ok n) => (w, .returned (.ready (.ok n)))
      | (w, .error e) =>
          if e.kind = .wouldBlock then
            match pollReady .ktlsWrite .write (.task cx) r.gone (w.events r.beforePoll) with
            | (w, .ready (.ok ())) => ktlsPollWrite cx buf rs w
            | (w, .ready (.error e)) => (w, .returned (.ready (.error e)))
            | (w, .pending) => (w, .returned .pending)
          else if e.kind = .interrupted then ktlsPollWrite cx buf rs w
          else (w, .returned (.ready (.error e)))

/-- Source: `src/ktls/io.rs` `check_close_notify_write` -/
def checkCloseNotifyWrite (sent : ℕ) : IoResult Unit :=
  if sent = 2 then .ok ()
  else if sent = 0 then
    .error (.custom .writeZero "kTLS close_notify send made no progress")
  else
    .error (.invalidData
      "partial or invalid kTLS close_notify send; connection cannot be reused")

/-- Source: `src/ktls/io.rs` `send_close_notify`, on the outcome of its `sendmsg` -/
def sendCloseNotify : Except ℤ ℕ → IoResult Unit
  | .error errno => .error (.os errno)
  | .ok sent => checkCloseNotifyWrite sent

/-- Source: `src/ktls/io.rs` `poll_close_notify`, by the number of iterations that are left -/
def closeNotifyLoop (cx : W) :
    ℕ → List SysRound → World W → World W × Exit (Poll (IoResult Unit))
  | 0, _, w => (w.signal (.wakeByRef cx), .returned .pending)
  | _ + 1, [], w => (w, .running)
  | budget + 1, r :: rs, w =>
      match tryIo .write (.sendmsg r.result) (sendCloseNotify r.result) (w.events r.before) with
      | (w, .ok ()) => (w, .returned (.ready (.ok ())))
      | (w, .error e) =>
          if e.kind = .interrupted then closeNotifyLoop cx budget rs w
          else if e.kind = .wouldBlock then
            match pollReady .closeNotify .write (.task cx) r.gone (w.events r.beforePoll) with
            | (w, .ready (.ok ())) => closeNotifyLoop cx budget rs w
            | (w, .ready (.error e)) => (w, .returned (.ready (.error e)))
            | (w, .pending) => (w, .returned .pending)
          else (w, .returned (.ready (.error e)))

/-- Source: `src/ktls/io.rs` `poll_close_notify` -/
def pollCloseNotify (cx : W) (rounds : List SysRound) (w : World W) :
    World W × Exit (Poll (IoResult Unit)) :=
  closeNotifyLoop cx ioBudget rounds w

/-- The world as the socket of the record reader: the round it is in and the rounds to come. Once
they run out the kernel has nothing more. -/
structure RecvState (W : Type) where
  world : World W
  round : RecvRound
  rest : List RecvRound

/-- The reader's socket, for a poll with the waker `cx`. -/
def recvEnv (cx : W) : RecvEnv (RecvState W) where
  tryRecvmsg k cap :=
    let round := k.rest.headD RecvRound.silent
    let w := k.world.events round.before
    if w.net.ready .read then
      let w := w.call (.recvmsg cap)
      match round.msg with
      | .failed errno =>
          if decodeErrorKind errno = .wouldBlock then
            (⟨w.signal (.clear .read), round, k.rest.tail⟩, some round.msg)
          else (⟨w, round, k.rest.tail⟩, some round.msg)
      | .received _ _ _ _ => (⟨w, round, k.rest.tail⟩, some round.msg)
    else (⟨w, round, k.rest.tail⟩, none)
  pollReadReady k :=
    let (w, p) := pollReady .ktlsRead .read (.task cx) k.round.gone
      (k.world.events k.round.beforePoll)
    (⟨w, k.round, k.rest⟩, p)
  wakeByRef k := { k with world := k.world.signal (.wakeByRef cx) }

/-! ## The poll functions -/

/-- What the environment does during one `poll_read`; `leave` are the events after its last step. -/
structure ReadScript where
  drain : List (Round Unit)
  read : List (Round Chunk)
  recv : List RecvRound
  leave : List Dir

/-- What the environment does during one `poll_write`. -/
structure WriteScript where
  drain : List (Round Unit)
  /-- The events before the new write. -/
  before : List Dir
  write : SslAnswer Unit
  ktls : List SysRound
  leave : List Dir

/-- What the environment does during one `poll_flush`. -/
structure FlushScript where
  drain : List (Round Unit)
  leave : List Dir

/-- What the environment does during one `poll_shutdown`. -/
structure ShutdownScript where
  drain : List (Round Unit)
  close : List (Round Bool)
  notify : List SysRound
  tcp : IoResult Unit
  leave : List Dir

/-- A successful read carries the bytes by which the caller's buffer of room `cap` was advanced.
Source: `src/stream.rs` `TlsStream::poll_read` -/
def pollRead (abi : Abi) (cx : W) (cap : ℕ) (script : ReadScript) (w : World W) :
    World W × Exit (Poll (IoResult Bytes)) :=
  if cap = 0 then (w, .returned (.ready (.ok [])))
  else if w.stream.ktlsActive then
    match RecordReader.pollRead abi (recvEnv cx) cap w.stream.ktlsReader
        ⟨w, RecvRound.silent, script.recv⟩ with
    | (r, k, exit) => (k.world.setReader r, exit)
  else
    match pollPendingWrite cx true script.drain w with
    | (w, .returned (.ready (.error e))) => (w, .returned (.ready (.error e)))
    | (w, .returned (.ready (.ok ()))) => readLoop cx cap script.read w
    | (w, .returned .pending) => readLoop cx cap script.read w
    | (w, .panicked) => (w, .panicked)
    | (w, .running) => (w, .running)

/-- The error of a write on a stream whose write half is shut down. -/
def shutDownError : IoError :=
  .custom .brokenPipe "TLS write half is shut down"

/-- The new write of `poll_write`, once nothing is pending.
Source: `src/stream.rs` `TlsStream::poll_write` -/
def writeChunk (buf : Bytes) (answer : SslAnswer Unit) (w : World W) :
    World W × Exit (Poll (IoResult ℕ)) :=
  let chunk := buf.take (min buf.length maxPlaintext)
  match cInt chunk.length with
  | none => (w, .panicked)
  | some len =>
      let w := w.call (.sslWrite .fresh chunk answer)
      let n := answer.writeRet len
      if 0 < n then (w, .returned (.ready (.ok n.toNat)))
      else
        let code := answer.code
        if IsWant code then
          (w.setPending (w.stream.pendingWrite ++ chunk),
            .returned (.ready (.ok chunk.length)))
        else failWrite w (sslIoError "SSL_write" code answer.diag)

/-- Source: `src/stream.rs` `TlsStream::poll_write` -/
def pollWrite (cx : W) (buf : Bytes) (script : WriteScript) (w : World W) :
    World W × Exit (Poll (IoResult ℕ)) :=
  if buf = [] then (w, .returned (.ready (.ok 0)))
  else
    match w.stream.writeError with
    | some e => (w, .returned (.ready (.error (duplicateIoError e))))
    | none =>
        if w.stream.shutdown ≠ .opened then (w, .returned (.ready (.error shutDownError)))
        else if w.stream.ktlsActive then ktlsPollWrite cx buf script.ktls w
        else
          match pollPendingWrite cx false script.drain w with
          | (w, .returned (.ready (.ok ()))) =>
              writeChunk buf script.write (w.events script.before)
          | (w, .returned (.ready (.error e))) => (w, .returned (.ready (.error e)))
          | (w, .returned .pending) => (w, .returned .pending)
          | (w, .panicked) => (w, .panicked)
          | (w, .running) => (w, .running)

/-- Source: `src/stream.rs` `TlsStream::poll_flush` -/
def pollFlush (cx : W) (script : FlushScript) (w : World W) :
    World W × Exit (Poll (IoResult Unit)) :=
  pollPendingWrite cx false script.drain w

/-- The kTLS branch of `poll_shutdown`: the close_notify, then the TCP half-close, which Tokio
completes synchronously.
Source: `src/stream.rs` `TlsStream::poll_shutdown` -/
def ktlsShutdown (cx : W) (notify : List SysRound) (tcp : IoResult Unit) (w : World W) :
    World W × Exit (Poll (IoResult Unit)) :=
  match pollCloseNotify cx notify w with
  | (w, .returned (.ready (.error e))) => failWrite w e
  | (w, .returned (.ready (.ok ()))) =>
      let w := (w.moveTo .closed).call (.tcpShutdown tcp)
      match tcp with
      | .ok () => (w, .returned (.ready (.ok ())))
      | .error e => failWrite w e
  | (w, .returned .pending) => (w, .returned .pending)
  | (w, .panicked) => (w, .panicked)
  | (w, .running) => (w, .running)

/-- Source: `src/stream.rs` `TlsStream::poll_shutdown` -/
def pollShutdown (cx : W) (script : ShutdownScript) (w : World W) :
    World W × Exit (Poll (IoResult Unit)) :=
  match pollPendingWrite cx false script.drain w with
  | (w, .returned (.ready (.ok ()))) =>
      if w.stream.shutdown = .closed then (w, .returned (.ready (.ok ())))
      else
        let w := w.moveTo .sending
        if w.stream.ktlsActive then ktlsShutdown cx script.notify script.tcp w
        else shutdownLoop cx script.close w
  | (w, .returned (.ready (.error e))) => (w, .returned (.ready (.error e)))
  | (w, .returned .pending) => (w, .returned .pending)
  | (w, .panicked) => (w, .panicked)
  | (w, .running) => (w, .running)

/-! ## Sessions -/

/-- One step of a session: a poll, with the waker of its context and the answers it will get, or a
readiness event between polls. -/
inductive Op (W : Type)
  | read (cx : W) (cap : ℕ) (script : ReadScript)
  | write (cx : W) (buf : Bytes) (script : WriteScript)
  | flush (cx : W) (script : FlushScript)
  | shutdown (cx : W) (script : ShutdownScript)
  | event (d : Dir)

/-- The world, and what the callers of a stream have been told so far. -/
structure Session (W : Type) where
  world : World W
  /-- The prefixes `poll_write` acknowledged, concatenated. -/
  acked : Bytes
  /-- The bytes `poll_read` delivered, concatenated. -/
  delivered : Bytes

/-- The end of a poll: after the last events, it is recorded if the call has returned, and the
session goes on only then. -/
def finish {α : Type} (h : Half) (leave : List Dir) (w : World W) :
    Exit (Poll α) → World W × Bool
  | .returned p => ((w.events leave).signal (.returned h p.isPending), true)
  | .panicked => (w, false)
  | .running => (w, false)

/-- The bytes a `poll_write` on `buf` acknowledged. -/
def ackedBy (buf : Bytes) : Exit (Poll (IoResult ℕ)) → Bytes
  | .returned (.ready (.ok n)) => buf.take n
  | _ => []

/-- The bytes a `poll_read` delivered. -/
def deliveredBy : Exit (Poll (IoResult Bytes)) → Bytes
  | .returned (.ready (.ok bs)) => bs
  | _ => []

namespace Session

/-- A stream nobody has polled yet. -/
def start (w : World W) : Session W :=
  ⟨w, [], []⟩

/-- One operation; the flag says whether it completed. -/
def step (abi : Abi) (s : Session W) : Op W → Session W × Bool
  | .read cx cap script =>
      let (w, exit) := pollRead abi cx cap script (s.world.signal (.called .reader cx))
      let (w, ok) := finish .reader script.leave w exit
      (⟨w, s.acked, s.delivered ++ deliveredBy exit⟩, ok)
  | .write cx buf script =>
      let (w, exit) := pollWrite cx buf script (s.world.signal (.called .writer cx))
      let (w, ok) := finish .writer script.leave w exit
      (⟨w, s.acked ++ ackedBy buf exit, s.delivered⟩, ok)
  | .flush cx script =>
      let (w, exit) := pollFlush cx script (s.world.signal (.called .writer cx))
      let (w, ok) := finish .writer script.leave w exit
      (⟨w, s.acked, s.delivered⟩, ok)
  | .shutdown cx script =>
      let (w, exit) := pollShutdown cx script (s.world.signal (.called .writer cx))
      let (w, ok) := finish .writer script.leave w exit
      (⟨w, s.acked, s.delivered⟩, ok)
  | .event d => (⟨s.world.signal (.event d), s.acked, s.delivered⟩, true)

/-- Play a list of operations, up to the first that does not complete. -/
def run (abi : Abi) (s : Session W) (ops : List (Op W)) : Session W :=
  (Lib.Runs.exec (step abi) s ops).1

/-- The world an operation leaves when its poll function ends, and how that ended, apart from the
value. -/
def polled (abi : Abi) (s : Session W) : Op W → World W × Exit (Poll (IoResult Unit))
  | .read cx cap script =>
      let r := pollRead abi cx cap script (s.world.signal (.called .reader cx))
      (r.1, r.2.void)
  | .write cx buf script =>
      let r := pollWrite cx buf script (s.world.signal (.called .writer cx))
      (r.1, r.2.void)
  | .flush cx script => pollFlush cx script (s.world.signal (.called .writer cx))
  | .shutdown cx script => pollShutdown cx script (s.world.signal (.called .writer cx))
  | .event d => (s.world.signal (.event d), .returned (.ready (.ok ())))

end Session

end TokioAwsLc.Stream
