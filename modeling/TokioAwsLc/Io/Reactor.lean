import TokioAwsLc.Io.Libssl

/-!
# The reactor: socket readiness and wakers

What Tokio keeps for the stream's socket, and the `IoWaiters` the two halves of a split stream share.

* Per direction the socket holds a cached ready bit and at most one armed waker. A waker is a task's
  own or the shared one made from the stream's `IoWaiters`.
* `IoWaiters` has one slot per half. It is allocated on the first wait and lives behind an `Arc`
  that both the stream and the armed wakers hold, so it is kept here and not in the stream.
* `Net.polls` is a history variable: for each half, what its last poll was called with and left
  behind. No modelled function reads it. What the half waits for is not kept here: that is up to
  libssl's answers.

Everything that changes this state is a `Signal`, and `Net.apply` says what each one does. A poll
emits its signals one by one, with the socket's readiness events between them, so the list of signals
of a run is the interleaving of the halves and the reactor, step by step.

Task wakers are an arbitrary type `W`; two wakers wake the same task (`Waker::will_wake`) iff they are
equal.
-/

namespace TokioAwsLc

/-- A direction of the socket.
Source: `tokio::io::Interest` `READABLE`, `WRITABLE` -/
inductive Dir
  | read
  | write
  deriving DecidableEq, Repr

/-- The direction that libssl asks for when it is blocked on the socket: the code says which. -/
def SslAnswer.wants {α : Type} : SslAnswer α → Option Dir
  | .done _ => none
  | .stopped _ code _ =>
      if code = sslErrorWantRead then some .read
      else if code = sslErrorWantWrite then some .write
      else none

/-- The half of the stream that a poll belongs to: `poll_read` is the reader's, `poll_write`,
`poll_flush` and `poll_shutdown` are the writer's. -/
inductive Half
  | reader
  | writer
  deriving DecidableEq, Repr

/-- The `reader: bool` flag the stream passes around. -/
def Half.ofReader (reader : Bool) : Half :=
  if reader then .reader else .writer

/-- A waker armed on the socket. -/
inductive SocketWaker (W : Type)
  /-- The task's own waker. -/
  | task (cx : W)
  /-- `Waker::from(Arc<IoWaiters>)`. -/
  | shared
  deriving DecidableEq, Repr

/-- What the last poll of a half left behind. -/
structure PollInfo (W : Type) where
  /-- The waker it was called with. -/
  waker : W
  /-- That waker has been woken since the poll began. -/
  woken : Bool
  /-- It has returned `Pending`. -/
  pending : Bool
  deriving DecidableEq, Repr

/-- The socket's readiness, its armed wakers, and the stream's waiters. -/
structure Net (W : Type) where
  /-- The cached ready bits. -/
  ready : Dir → Bool
  /-- The armed wakers. -/
  armed : Dir → Option (SocketWaker W)
  /-- The two slots of `IoWaiters`, once it is allocated. -/
  waiters : Option (Half → Option W)
  /-- History variable. -/
  polls : Half → Option (PollInfo W)

/-- Everything that happens to a `Net`. -/
inductive Signal (W : Type)
  /-- A poll of `h` begins, with the waker of its context. -/
  | called (h : Half) (cx : W)
  /-- The poll of `h` returns, `Pending` or not. -/
  | returned (h : Half) (pending : Bool)
  /-- `poll_ssl_ready` stores the context's waker. -/
  | register (h : Half) (cx : W)
  /-- `poll_read_ready` or `poll_write_ready` found the bit clear and stored the waker. -/
  | arm (d : Dir) (wk : SocketWaker W)
  /-- A `try_io` closure reported `WouldBlock`. -/
  | clear (d : Dir)
  /-- `IoWaiters::notify`, called by the stream itself. -/
  | notify
  /-- The socket became ready for `d`. -/
  | event (d : Dir)
  /-- `cx.waker().wake_by_ref()`. -/
  | wakeByRef (cx : W)
  deriving DecidableEq, Repr

namespace Net

variable {W : Type} [DecidableEq W]

/-- The slot of a half; a stream without waiters has empty slots. -/
def slot (net : Net W) (h : Half) : Option W :=
  net.waiters.bind fun slots => slots h

/-- Tasks are woken: the last poll of every half whose waker is among them has been woken. -/
def wake (net : Net W) (ws : List W) : Net W :=
  { net with polls := fun h => (net.polls h).map fun p =>
      if p.waker ∈ ws then { p with woken := true } else p }

/-- Source: `src/stream.rs` `IoWaiters::register`, with the allocation of
`TlsStream::poll_ssl_ready` -/
def register (net : Net W) (h : Half) (cx : W) : Net W :=
  let slots := net.waiters.getD fun _ => none
  { net with waiters := some (if slots h = some cx then slots
      else Function.update slots h (some cx)) }

/-- Take both slots and wake what they hold; nothing happens before the waiters are allocated.
Source: `src/stream.rs` `IoWaiters::notify` -/
def notify (net : Net W) : Net W :=
  match net.waiters with
  | none => net
  | some slots =>
      { net with waiters := some fun _ => none }.wake
        ((slots .writer).toList ++ (slots .reader).toList)

/-- A readiness event: the bit is set, and the waker armed on that direction is disarmed and
woken. -/
def event (net : Net W) (d : Dir) : Net W :=
  let net' := { net with
    ready := Function.update net.ready d true
    armed := Function.update net.armed d none }
  match net.armed d with
  | none => net'
  | some (.task cx) => net'.wake [cx]
  | some .shared => net'.notify

/-- Change what the last poll of `h` left behind. -/
def updatePoll (net : Net W) (h : Half) (f : PollInfo W → PollInfo W) : Net W :=
  { net with polls := Function.update net.polls h ((net.polls h).map f) }

/-- What a signal does. -/
def apply (net : Net W) : Signal W → Net W
  | .called h cx =>
      { net with polls := Function.update net.polls h (some ⟨cx, false, false⟩) }
  | .returned h pending => net.updatePoll h fun p => { p with pending := pending }
  | .register h cx => net.register h cx
  | .arm d wk => { net with armed := Function.update net.armed d (some wk) }
  | .clear d => { net with ready := Function.update net.ready d false }
  | .notify => net.notify
  | .event d => net.event d
  | .wakeByRef cx => net.wake [cx]

/-- A fresh stream's reactor state: whatever the handshake left cached and armed on the socket, no
waiters, no poll yet. -/
def fresh (ready : Dir → Bool) (armed : Dir → Option W) : Net W where
  ready := ready
  armed := fun d => (armed d).map .task
  waiters := none
  polls := fun _ => none

/-! ## What each operation leaves alone -/

section frame

variable (net : Net W) (ws : List W) (h : Half) (cx : W) (d : Dir)

/-- Waking tasks does not make the socket ready. -/
@[simp] theorem wake_ready : (net.wake ws).ready = net.ready := rfl

/-- It does not disarm the other wakers. -/
@[simp] theorem wake_armed : (net.wake ws).armed = net.armed := rfl

/-- It does not touch what the stream has registered. -/
@[simp] theorem wake_waiters : (net.wake ws).waiters = net.waiters := rfl

/-- Neither half loses its waker. -/
@[simp] theorem wake_slot : (net.wake ws).slot h = net.slot h := rfl

/-- Registering a task does not make the socket ready. -/
@[simp] theorem register_ready : (net.register h cx).ready = net.ready := rfl

/-- It arms nothing either. -/
@[simp] theorem register_armed : (net.register h cx).armed = net.armed := rfl

/-- Notifying the registered tasks does not make the socket ready. -/
@[simp] theorem notify_ready : net.notify.ready = net.ready := by
  unfold notify
  split <;> rfl

/-- The wakers of the reactor stay armed. -/
@[simp] theorem notify_armed : net.notify.armed = net.armed := by
  unfold notify
  split <;> rfl

/-- An event sets its own bit and keeps the other. -/
@[simp] theorem event_ready : (net.event d).ready = Function.update net.ready d true := by
  unfold event
  simp only
  split <;> simp

/-- An event disarms its own direction and keeps the other. -/
@[simp] theorem event_armed : (net.event d).armed = Function.update net.armed d none := by
  unfold event
  simp only
  split <;> simp

/-- `register` fills the half's slot with the given waker, whether or not it was already there. -/
theorem slot_register_self : (net.register h cx).slot h = some cx := by
  unfold register slot
  simp only [Option.bind_some]
  split
  · assumption
  · simp

/-- `register` does not touch the other half's slot. -/
theorem slot_register_of_ne {h' : Half} (hne : h' ≠ h) :
    (net.register h cx).slot h' = net.slot h' := by
  unfold register slot
  rcases hw : net.waiters with _ | slots
  · simp [Function.update_of_ne hne]
  · simp only [Option.getD_some, Option.bind_some]
    split
    · rfl
    · rw [Function.update_of_ne hne]

end frame

end Net

/-! ## Counting ready bits -/

/-- How many of the two bits are set. -/
def readyBits (ready : Dir → Bool) : ℕ :=
  (ready .read).toNat + (ready .write).toNat

/-- An event sets one bit at most. -/
theorem readyBits_set (ready : Dir → Bool) (d : Dir) :
    readyBits (Function.update ready d true) ≤ readyBits ready + 1 := by
  cases d
  · simp [readyBits]
    omega
  · simp [readyBits]

/-- Clearing a bit that is set uses one up. -/
theorem readyBits_clear {ready : Dir → Bool} {d : Dir} (h : ready d = true) :
    readyBits (Function.update ready d false) + 1 = readyBits ready := by
  cases d
  · simp [readyBits, h]
    omega
  · simp [readyBits, h]

end TokioAwsLc
