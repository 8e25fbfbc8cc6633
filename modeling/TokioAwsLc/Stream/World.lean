import TokioAwsLc.Io.Reactor
import TokioAwsLc.Ktls.RecordReader

/-!
# The stream and the world it polls in

`TlsStream` holds the fields of the stream that its poll functions read and write. libssl and the
socket are outside; what the stream asks of them is recorded.

* `Call` is one request to libssl or the kernel together with its answer; `Act` is one entry of the
  history of a run: a call, a reactor signal, a write failure being latched, or a move of the
  shutdown field.
* `World` is the stream, the reactor, and the history so far. Each of its operations changes one
  thing and appends one entry.
* `completed`, `blocked` and `accepted` read off the history what libssl has been given: the
  plaintext it has finished writing, the write it is blocked on, and the plaintext of the write calls
  it has taken over.
* `asked` reads off the history what libssl has asked of each half: the direction of the socket that
  the last blocked call of its last poll needs.
-/

set_option linter.unusedSectionVars false

namespace TokioAwsLc.Stream

open Ktls (RecordReader)

/-! ## The stream -/

/-- Source: `src/stream.rs` `Shutdown` -/
inductive Shutdown
  | opened
  | sending
  | closed
  deriving DecidableEq, Repr

/-- The stream's own fields; `ssl` and `tcp` are the environment, `waiters` is in the reactor.
Source: `src/stream.rs` `TlsStream` -/
structure TlsStream where
  ktlsActive : Bool
  ktlsDisabled : Bool
  pendingWrite : Bytes
  writeError : Option IoError
  shutdown : Shutdown
  ktlsReader : RecordReader
  deriving DecidableEq, Repr

/-- Source: `src/stream.rs` `TlsStream::from_parts` -/
def TlsStream.fromParts (ktlsDisabled : Bool) : TlsStream where
  ktlsActive := false
  ktlsDisabled := ktlsDisabled
  pendingWrite := []
  writeError := none
  shutdown := .opened
  ktlsReader := RecordReader.default

/-- Source: `src/stream.rs` `MAX_PLAINTEXT` -/
def maxPlaintext : ℕ := 16 * 1024

/-- Source: `src/stream.rs` `duplicate_io_error` -/
def duplicateIoError (e : IoError) : IoError :=
  e.reproduce

/-! ## Calls and acts -/

/-- The two places that call `SSL_write`: the retry of `poll_pending_write` and the new write of
`poll_write`. -/
inductive WriteSite
  | retry
  | fresh
  deriving DecidableEq, Repr

/-- The places that wait for readiness. -/
inductive WaitSite
  | drain
  | read
  | shutdown
  | closeNotify
  | ktlsWrite
  | ktlsRead
  deriving DecidableEq, Repr

/-- One request to libssl, the kernel or the reactor, with its answer. System calls answer with an
error code or a count. -/
inductive Call
  | sslWrite (site : WriteSite) (buf : Bytes) (a : SslAnswer Unit)
  | sslRead (cap : ℕ) (a : SslAnswer Chunk)
  | sslShutdown (a : SslAnswer Bool)
  /-- The `write(2)` of `TcpStream::try_write`. -/
  | write (buf : Bytes) (r : Except ℤ ℕ)
  /-- The close_notify `sendmsg`. -/
  | sendmsg (r : Except ℤ ℕ)
  | recvmsg (cap : ℕ)
  /-- `shutdown(SHUT_WR)`. -/
  | tcpShutdown (r : IoResult Unit)
  /-- A wait for readiness that ended in an error. -/
  | waitFailed (site : WaitSite) (e : IoError)

/-- One entry of the history of a run. -/
inductive Act (W : Type)
  | call (c : Call)
  | signal (s : Signal W)
  /-- `write_failure` latches this error. -/
  | latch (e : IoError)
  /-- The shutdown field is assigned. -/
  | moved (s : Shutdown)

/-! ## The world -/

/-- The stream, the reactor, and the history so far. -/
structure World (W : Type) where
  stream : TlsStream
  net : Net W
  trace : List (Act W)

namespace World

variable {W : Type} [DecidableEq W]

/-- A fresh stream on a socket in any state. -/
def fromParts (ktlsDisabled : Bool) (net : Net W) : World W where
  stream := TlsStream.fromParts ktlsDisabled
  net := net
  trace := []

/-- A stream as a handshake hands it out: fresh, with kTLS installed or not. -/
def established (ktlsActive ktlsDisabled : Bool) (net : Net W) : World W where
  stream := { TlsStream.fromParts ktlsDisabled with ktlsActive := ktlsActive }
  net := net
  trace := []

/-- A signal reaches the reactor. -/
def signal (w : World W) (s : Signal W) : World W :=
  { w with net := w.net.apply s, trace := w.trace ++ [.signal s] }

/-- Readiness events, in order. -/
def events (w : World W) (ds : List Dir) : World W :=
  ds.foldl (fun w d => w.signal (.event d)) w

/-- A call is made and answered. -/
def call (w : World W) (c : Call) : World W :=
  { w with trace := w.trace ++ [.call c] }

/-- Replace `pending_write`. -/
def setPending (w : World W) (bs : Bytes) : World W :=
  { w with stream := { w.stream with pendingWrite := bs } }

/-- Replace `ktls_reader`. -/
def setReader (w : World W) (r : RecordReader) : World W :=
  { w with stream := { w.stream with ktlsReader := r } }

/-- Assign `shutdown`. -/
def moveTo (w : World W) (s : Shutdown) : World W :=
  { w with stream := { w.stream with shutdown := s }, trace := w.trace ++ [.moved s] }

/-- Store a copy of the error in `write_error`. -/
def latch (w : World W) (e : IoError) : World W :=
  { w with
    stream := { w.stream with writeError := some (duplicateIoError e) }
    trace := w.trace ++ [.latch e] }

/-- Store a copy of the error, then wake the waiters.
Source: `src/stream.rs` `TlsStream::write_failure` -/
def writeFailure (w : World W) (e : IoError) : World W :=
  (w.latch e).signal .notify

section projections

variable (w : World W) (s : Signal W) (c : Call) (ds : List Dir) (bs : Bytes) (e : IoError)
  (r : RecordReader) (st : Shutdown)

@[simp] theorem signal_stream : (w.signal s).stream = w.stream := rfl
@[simp] theorem signal_net : (w.signal s).net = w.net.apply s := rfl

/-- A signal is recorded. -/
@[simp] theorem signal_trace : (w.signal s).trace = w.trace ++ [.signal s] := rfl

@[simp] theorem call_stream : (w.call c).stream = w.stream := rfl
@[simp] theorem call_net : (w.call c).net = w.net := rfl

/-- A call is recorded. -/
@[simp] theorem call_trace : (w.call c).trace = w.trace ++ [.call c] := rfl

@[simp] theorem setPending_net : (w.setPending bs).net = w.net := rfl
@[simp] theorem setPending_trace : (w.setPending bs).trace = w.trace := rfl
@[simp] theorem setPending_stream :
    (w.setPending bs).stream = { w.stream with pendingWrite := bs } := rfl
@[simp] theorem setReader_net : (w.setReader r).net = w.net := rfl
@[simp] theorem setReader_trace : (w.setReader r).trace = w.trace := rfl
@[simp] theorem setReader_stream :
    (w.setReader r).stream = { w.stream with ktlsReader := r } := rfl
@[simp] theorem moveTo_net : (w.moveTo st).net = w.net := rfl

/-- A change of the shutdown state is recorded. -/
@[simp] theorem moveTo_trace : (w.moveTo st).trace = w.trace ++ [.moved st] := rfl

@[simp] theorem moveTo_stream :
    (w.moveTo st).stream = { w.stream with shutdown := st } := rfl
@[simp] theorem writeFailure_net : (w.writeFailure e).net = w.net.notify := rfl

/-- A failure is recorded, and then both halves are notified. -/
@[simp] theorem writeFailure_trace :
    (w.writeFailure e).trace = w.trace ++ [.latch e] ++ [.signal .notify] := rfl

/-- The stream keeps what it can reproduce of an error. -/
@[simp] theorem writeFailure_stream :
    (w.writeFailure e).stream = { w.stream with writeError := some e.reproduce } := rfl

/-- No events change nothing. -/
@[simp] theorem events_nil : w.events [] = w := rfl

/-- Events come one after the other. -/
@[simp] theorem events_cons (d : Dir) : w.events (d :: ds) = (w.signal (.event d)).events ds := rfl

/-- Events leave the stream alone. -/
@[simp] theorem events_stream : (w.events ds).stream = w.stream := by
  induction ds generalizing w with
  | nil => rfl
  | cons d ds ih => rw [events_cons, ih, signal_stream]

end projections

end World

/-! ## What libssl has been given -/

section history

variable {W : Type}

/-- The plaintext a single entry completes. -/
def Act.completes : Act W → Bytes
  | .call (.sslWrite _ buf (.done _)) => buf
  | _ => []

/-- The plaintext libssl has finished writing, in order. -/
def completed (t : List (Act W)) : Bytes :=
  t.flatMap Act.completes

/-- The write that libssl is blocked on after one more entry. -/
def Act.blocks (b : Option Bytes) : Act W → Option Bytes
  | .call (.sslWrite _ _ (.done _)) => none
  | .call (.sslWrite _ buf (.stopped _ code _)) => if IsWant code then some buf else none
  | _ => b

/-- The buffer of the `SSL_write` that libssl is blocked on, if any. -/
def blocked (t : List (Act W)) : Option Bytes :=
  t.foldl Act.blocks none

/-- The plaintext a single entry takes over from a caller: a new write that completed, or that
blocked and will be retried from the stream's own copy. -/
def Act.accepts : Act W → Bytes
  | .call (.sslWrite .fresh buf (.done _)) => buf
  | .call (.sslWrite .fresh buf (.stopped _ code _)) => if IsWant code then buf else []
  | _ => []

/-- The plaintext taken over from callers, in order. -/
def accepted (t : List (Act W)) : Bytes :=
  t.flatMap Act.accepts

variable (t u : List (Act W)) (a : Act W) (b : Option Bytes) (s : Signal W) (e : IoError)
  (st : Shutdown)

/-- Nothing has happened, nothing was completed. -/
@[simp] theorem completed_nil : completed ([] : List (Act W)) = [] := rfl

/-- What was completed, entry by entry. -/
@[simp] theorem completed_cons : completed (a :: t) = a.completes ++ completed t := rfl

/-- What was completed in two parts of a history. -/
@[simp] theorem completed_append : completed (t ++ u) = completed t ++ completed u := by
  simp [completed]

/-- Nothing has happened, nothing was accepted. -/
@[simp] theorem accepted_nil : accepted ([] : List (Act W)) = [] := rfl

/-- What was accepted, entry by entry. -/
@[simp] theorem accepted_cons : accepted (a :: t) = a.accepts ++ accepted t := rfl

/-- What was accepted in two parts of a history. -/
@[simp] theorem accepted_append : accepted (t ++ u) = accepted t ++ accepted u := by
  simp [accepted]

/-- At first libssl is not blocked. -/
@[simp] theorem blocked_nil : blocked ([] : List (Act W)) = none := rfl

/-- What libssl is blocked on after two parts of a history. -/
@[simp] theorem blocked_append : blocked (t ++ u) = u.foldl Act.blocks (blocked t) := by
  simp [blocked]

/-! Only calls matter to these. -/

@[simp] theorem completes_signal : (Act.signal s : Act W).completes = [] := rfl
@[simp] theorem completes_latch : (Act.latch e : Act W).completes = [] := rfl
@[simp] theorem completes_moved : (Act.moved st : Act W).completes = [] := rfl
@[simp] theorem accepts_signal : (Act.signal s : Act W).accepts = [] := rfl
@[simp] theorem accepts_latch : (Act.latch e : Act W).accepts = [] := rfl
@[simp] theorem accepts_moved : (Act.moved st : Act W).accepts = [] := rfl
@[simp] theorem blocks_signal : (Act.signal s : Act W).blocks b = b := rfl
@[simp] theorem blocks_latch : (Act.latch e : Act W).blocks b = b := rfl
@[simp] theorem blocks_moved : (Act.moved st : Act W).blocks b = b := rfl

/-- Events take nothing over. -/
@[simp] theorem accepted_events [DecidableEq W] (w : World W) (ds : List Dir) :
    accepted (w.events ds).trace = accepted w.trace := by
  induction ds generalizing w with
  | nil => rfl
  | cons d ds ih => rw [World.events_cons, ih]; simp

end history

/-! ## What libssl has asked for -/

section asked

variable {W : Type}

/-- The direction that a call has been blocked on. -/
def Call.wants : Call → Option Dir
  | .sslWrite _ _ a => a.wants
  | .sslRead _ a => a.wants
  | .sslShutdown a => a.wants
  | _ => none

/-- What a history says about the halves: whose poll was called last, and for each half the direction
that the last blocked libssl call of its last poll has asked for. -/
structure Asked where
  half : Option Half
  dir : Half → Option Dir

/-- One more entry. The calls of libssl are made by the half whose poll was called last. -/
def Asked.next (k : Asked) : Act W → Asked
  | .signal (.called h _) => ⟨some h, Function.update k.dir h none⟩
  | .call c =>
      match k.half, c.wants with
      | some h, some d => { k with dir := Function.update k.dir h (some d) }
      | _, _ => k
  | _ => k

/-- What a history says about the halves. -/
def asked (t : List (Act W)) : Asked :=
  t.foldl Asked.next ⟨none, fun _ => none⟩

variable (t : List (Act W)) (k : Asked)

/-- What was asked for in two parts of a history. -/
@[simp] theorem asked_append (u : List (Act W)) :
    asked (t ++ u) = u.foldl Asked.next (asked t) := by
  simp [asked]

/-- One more entry. -/
theorem asked_concat (a : Act W) : asked (t ++ [a]) = (asked t).next a := by
  simp

/-- A latch asks for nothing. -/
@[simp] theorem next_latch (e : IoError) : k.next (.latch e : Act W) = k := rfl

/-- Neither does a change of the shutdown state. -/
@[simp] theorem next_moved (st : Shutdown) : k.next (.moved st : Act W) = k := rfl

/-- Only the call of a poll changes whose turn it is. -/
theorem next_signal {s : Signal W} (hs : ∀ h cx, s ≠ .called h cx) : k.next (.signal s) = k := by
  cases s with
  | called h cx => exact absurd rfl (hs h cx)
  | returned | register | arm | clear | notify | event | wakeByRef => rfl

/-- A call is made by the half that is being polled. -/
@[simp] theorem next_call_half (c : Call) : (k.next (.call c : Act W)).half = k.half := by
  rcases hh : k.half with _ | h
  · simp [Asked.next, hh]
  · rcases hc : c.wants with _ | d <;> simp [Asked.next, hh, hc]

/-- A blocked call asks on behalf of the half whose turn it is. -/
theorem next_call_wants {c : Call} {h : Half} {d : Dir} (hh : k.half = some h)
    (hc : c.wants = some d) : (k.next (.call c : Act W)).dir h = some d := by
  simp [Asked.next, hh, hc]

/-- The other half is not concerned. -/
theorem next_call_of_ne {c : Call} {h h' : Half} (hh : k.half = some h) (hne : h' ≠ h) :
    (k.next (.call c : Act W)).dir h' = k.dir h' := by
  rcases hc : c.wants with _ | d
  · simp [Asked.next, hh, hc]
  · simp [Asked.next, hh, hc, Function.update_of_ne hne]

end asked

end TokioAwsLc.Stream
