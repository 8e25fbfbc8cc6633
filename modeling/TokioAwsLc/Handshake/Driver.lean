import TokioAwsLc.Io.Reactor
import TokioAwsLc.Ktls.Derive
import TokioAwsLc.Lib.Trace

/-!
# The handshake driver

`drive_handshake` calls `SSL_do_handshake` until it succeeds or fails, and between two calls waits for the
direction of the socket that libssl asked for. It is an `async fn`: what is kept between two polls of its
future is where it is suspended.

* `Socket` is the readiness that Tokio keeps for the socket, with the wakers armed on it, and the history
  of a run. No stream exists yet, and only the one task that polls the future waits for the socket.
* `drive` is one poll of the future, from where it was suspended (`Drive`) on. A finished handshake leaves
  something in the session, of any type `N`; the handle that libssl is called with is of any type `H`.
* `Step` says what the driver may do to the socket and where it is afterwards, one call or one touch of
  the reactor at a time. `drive_spec` says that a poll consists of such steps, and how it ends.
* `handshake_driver` is the result, for every run of the task: only a call that was answered by a WANT is
  followed by another, a finished handshake is one that libssl finished, a suspended task is armed on the
  direction that was asked for or was woken, and every turn of the loop uses up one readiness event.
-/

set_option linter.unusedSectionVars false

namespace TokioAwsLc.Handshake

open Ktls (KtlsError)

/-! ## Errors -/

/-- Source: `src/error.rs` `Error`, without `Io`, which no handshake returns -/
inductive Error
  | init (message : String)
  | handshake (message : String)
  | ktls (e : KtlsError)
  deriving DecidableEq, Repr

/-! ## The socket -/

/-- The `SSL_get_error` code of a call that waits for a direction. -/
def wantCode : Dir → ℤ
  | .read => sslErrorWantRead
  | .write => sslErrorWantWrite

/-- A call of libssl on the handle, or a wait that ended in an error. -/
inductive Call (H N : Type)
  | doHandshake (ssl : H) (a : SslAnswer N)
  | waitFailed (d : Dir) (e : IoError)

/-- One entry of the history of a run. -/
inductive Act (H N W : Type)
  | call (c : Call H N)
  /-- The future is polled, with the waker of its context. -/
  | polled (cx : W)
  /-- `readable()` or `writable()` found the bit clear and stored the waker. -/
  | arm (d : Dir) (cx : W)
  /-- The `try_io` closure reported `WouldBlock`. -/
  | clear (d : Dir)
  /-- The socket became ready for `d`. -/
  | event (d : Dir)

/-- The socket of a handshake. `poll` is a history variable: the waker of the last poll, and whether it
has been woken since that poll began. -/
structure Socket (H N W : Type) where
  ready : Dir → Bool
  armed : Dir → Option W
  poll : Option (W × Bool)
  trace : List (Act H N W)

namespace Socket

variable {H N W : Type} [DecidableEq W]

/-- A poll of the future begins. -/
def begin (s : Socket H N W) (cx : W) : Socket H N W :=
  { s with poll := some (cx, false), trace := s.trace ++ [.polled cx] }

/-- A call is made and answered. -/
def call (s : Socket H N W) (c : Call H N) : Socket H N W :=
  { s with trace := s.trace ++ [.call c] }

/-- The waker is armed. -/
def arm (s : Socket H N W) (d : Dir) (cx : W) : Socket H N W :=
  { s with armed := Function.update s.armed d (some cx), trace := s.trace ++ [.arm d cx] }

/-- The bit is cleared. -/
def clear (s : Socket H N W) (d : Dir) : Socket H N W :=
  { s with ready := Function.update s.ready d false, trace := s.trace ++ [.clear d] }

/-- A readiness event: the bit is set, and the waker armed on that direction is disarmed and woken. -/
def event (s : Socket H N W) (d : Dir) : Socket H N W :=
  { ready := Function.update s.ready d true
    armed := Function.update s.armed d none
    poll := s.poll.map fun p => (p.1, p.2 || decide (s.armed d = some p.1))
    trace := s.trace ++ [.event d] }

/-- Readiness events, in order. -/
def events (s : Socket H N W) (ds : List Dir) : Socket H N W :=
  ds.foldl event s

/-- A socket nobody has polled yet. -/
def fresh (ready : Dir → Bool) : Socket H N W where
  ready := ready
  armed := fun _ => none
  poll := none
  trace := []

/-- No event changes nothing. -/
@[simp] theorem events_nil (s : Socket H N W) : s.events [] = s := rfl

/-- Events come one after the other. -/
@[simp] theorem events_cons (s : Socket H N W) (d : Dir) (ds : List Dir) :
    s.events (d :: ds) = (s.event d).events ds := rfl

end Socket

/-! ## The driver -/

/-- What the environment does around one `readable().await` or `writable().await`: the events before the
bit is looked at, the error if the runtime is gone, and the events before the bit is cleared. -/
structure Await where
  before : List Dir
  gone : Option IoError
  beforeClear : List Dir
  deriving DecidableEq, Repr

/-- One turn of the loop: the events before the call, its answer, and the wait that may follow. -/
structure Round (N : Type) where
  before : List Dir
  answer : SslAnswer N
  wait : Await

/-- What the environment does during one poll of the future: the rest of the wait it is suspended in, the
turns of the loop, and the events after its last step. -/
structure Script (N : Type) where
  resume : Await
  rounds : List (Round N)
  leave : List Dir

/-- Where the future is: before a call of `SSL_do_handshake`, suspended in a wait, or done. -/
inductive Drive
  | calling
  | waiting (d : Dir)
  | finished
  deriving DecidableEq, Repr

section driver

variable {H N W : Type} [DecidableEq W]

/-- One poll of the future of `readable()` or `writable()`. Its waiter is notified when the bit is set, and
only the driver clears the bit.
Source: `tokio::net::TcpStream::readable`, `writable` -/
def pollReadiness (cx : W) (d : Dir) (wait : Await) (s : Socket H N W) :
    Socket H N W × Poll (IoResult Unit) :=
  let s := s.events wait.before
  match wait.gone with
  | some e => (s.call (.waitFailed d e), .ready (.error e))
  | none => if s.ready d then (s, .ready (.ok ())) else (s.arm d cx, .pending)

/-- `{dir}` in the error of a wait. -/
def waitName : Dir → String
  | .read => "readable"
  | .write => "writable"

/-- The error of a wait that failed. -/
def waitError (d : Dir) (e : IoError) : Error :=
  let name := waitName d
  let text := e.display
  .handshake s!"waiting {name}: {text}"

/-- The error of a call that failed.
Source: `src/stream.rs` `drive_handshake` -/
def callError (err : ℤ) (diag : SslDiag) : Error :=
  let detail := diag.detail
  if err = sslErrorZeroReturn then .handshake "peer closed connection during handshake"
  else .handshake s!"SSL_do_handshake: ssl_error={err} {detail}"

/-- How a poll of the future leaves things. -/
abbrev Outcome (H N W : Type) :=
  Socket H N W × Drive × Exit (Poll (Except Error N))

/-- The rest of a turn that has to wait for `d`: the wait, the clearing of the bit, and the next turn. -/
def awaitReady (cx : W) (d : Dir) (wait : Await) (next : Socket H N W → Outcome H N W)
    (s : Socket H N W) : Outcome H N W :=
  match pollReadiness cx d wait s with
  | (s, .pending) => (s, .waiting d, .returned .pending)
  | (s, .ready (.error e)) => (s, .finished, .returned (.ready (.error (waitError d e))))
  | (s, .ready (.ok ())) => next ((s.events wait.beforeClear).clear d)

/-- The `loop` around `SSL_do_handshake`. The source returns `Ok(())`; the value is what the finished
handshake has left in the session.
Source: `src/stream.rs` `drive_handshake` -/
def driveLoop (ssl : H) (cx : W) : List (Round N) → Socket H N W → Outcome H N W
  | [], s => (s, .calling, .running)
  | r :: rs, s =>
      let s := (s.events r.before).call (.doHandshake ssl r.answer)
      match r.answer with
      | .done n =>
          -- `r == 1`: a call that stops returns 0 or less
          (s, .finished, .returned (.ready (.ok n)))
      | .stopped _ err diag =>
          if err = sslErrorWantRead then awaitReady cx .read r.wait (driveLoop ssl cx rs) s
          else if err = sslErrorWantWrite then awaitReady cx .write r.wait (driveLoop ssl cx rs) s
          else (s, .finished, .returned (.ready (.error (callError err diag))))

/-- One poll of the future, from where it is suspended. A future that is done panics.
Source: `src/stream.rs` `drive_handshake` -/
def drive (ssl : H) (cx : W) (script : Script N) (q : Drive) (s : Socket H N W) : Outcome H N W :=
  match q with
  | .calling => driveLoop ssl cx script.rounds s
  | .waiting d => awaitReady cx d script.resume (driveLoop ssl cx script.rounds) s
  | .finished => (s, .finished, .panicked)

end driver

/-! ## What the driver may do -/

section steps

variable {H N W : Type} [DecidableEq W]

/-- The driver at some point, with its socket. -/
abbrev Point (H N W : Type) :=
  Drive × Socket H N W

/-- One step: an event, a call with what follows from its answer, or one touch of the reactor. -/
inductive Step (ssl : H) (cx : W) : Point H N W → Point H N W → Prop
  | event (q : Drive) (s : Socket H N W) (d : Dir) : Step ssl cx (q, s) (q, s.event d)
  | wants (s : Socket H N W) (d : Dir) (n : ℕ) (diag : SslDiag) :
      Step ssl cx (.calling, s) (.waiting d, s.call (.doHandshake ssl (.stopped n (wantCode d) diag)))
  | done (s : Socket H N W) (a : N) :
      Step ssl cx (.calling, s) (.finished, s.call (.doHandshake ssl (.done a)))
  | failed (s : Socket H N W) (n : ℕ) {code : ℤ} (diag : SslDiag) (h : ¬ IsWant code) :
      Step ssl cx (.calling, s) (.finished, s.call (.doHandshake ssl (.stopped n code diag)))
  | gone (s : Socket H N W) (d : Dir) (e : IoError) :
      Step ssl cx (.waiting d, s) (.finished, s.call (.waitFailed d e))
  | park {s : Socket H N W} {d : Dir} (h : s.ready d = false) :
      Step ssl cx (.waiting d, s) (.waiting d, s.arm d cx)
  | proceed {s : Socket H N W} {d : Dir} (h : s.ready d = true) :
      Step ssl cx (.waiting d, s) (.calling, s.clear d)

/-- Steps, one after the other. -/
abbrev Steps (ssl : H) (cx : W) : Point H N W → Point H N W → Prop :=
  Relation.ReflTransGen (Step ssl cx)

/-- How a poll ends, with the last call that was made when it is done. -/
inductive Ends (ssl : H) (cx : W) : Outcome H N W → Prop
  | ok {s : Socket H N W} {a : N} (h : ∃ t, s.trace = t ++ [.call (.doHandshake ssl (.done a))]) :
      Ends ssl cx (s, .finished, .returned (.ready (.ok a)))
  | failed {s : Socket H N W} {n : ℕ} {code : ℤ} {diag : SslDiag} (hcode : ¬ IsWant code)
      (h : ∃ t, s.trace = t ++ [.call (.doHandshake ssl (.stopped n code diag))]) :
      Ends ssl cx (s, .finished, .returned (.ready (.error (callError code diag))))
  | gone {s : Socket H N W} {d : Dir} {e : IoError}
      (h : ∃ t, s.trace = t ++ [.call (.waitFailed d e)]) :
      Ends ssl cx (s, .finished, .returned (.ready (.error (waitError d e))))
  | pending {s : Socket H N W} {d : Dir} (h : s.armed d = some cx) :
      Ends ssl cx (s, .waiting d, .returned .pending)
  | running {s : Socket H N W} : Ends ssl cx (s, .calling, .running)

/-- A poll from here consists of steps, and ends. -/
def Runs (ssl : H) (cx : W) (p : Point H N W) (o : Outcome H N W) : Prop :=
  Steps ssl cx p (o.2.1, o.1) ∧ Ends ssl cx o

variable {ssl : H} {cx : W} {s : Socket H N W} {q : Drive}

/-- Events are steps of the machine, whatever the driver is doing. -/
theorem steps_events (ssl : H) (cx : W) (q : Drive) (s : Socket H N W) (ds : List Dir) :
    Steps ssl cx (q, s) (q, s.events ds) := by
  induction ds generalizing s with
  | nil => exact .refl
  | cons d ds ih => exact .head (.event q s d) (ih (s.event d))

/-- What is set stays set under events. -/
theorem ready_events {d : Dir} (h : s.ready d = true) (ds : List Dir) : (s.events ds).ready d = true := by
  induction ds generalizing s with
  | nil => exact h
  | cons d' ds ih =>
      refine ih ?_
      by_cases hd : d = d'
      · simp [Socket.event, hd]
      · simp [Socket.event, Function.update_of_ne hd, h]

/-- A wait is a poll from `waiting d` on, if the next turn is one from `calling` on. -/
theorem awaitReady_runs (d : Dir) (wait : Await) {next : Socket H N W → Outcome H N W}
    (hnext : ∀ s, Runs ssl cx (.calling, s) (next s)) (s : Socket H N W) :
    Runs ssl cx (.waiting d, s) (awaitReady cx d wait next s) := by
  have hbefore := steps_events ssl cx (.waiting d) s wait.before
  unfold awaitReady pollReadiness
  rcases wait.gone with _ | e
  · by_cases hready : (s.events wait.before).ready d = true
    · simp only [hready, if_true]
      obtain ⟨hsteps, hends⟩ := hnext (((s.events wait.before).events wait.beforeClear).clear d)
      refine ⟨(hbefore.trans (steps_events ssl cx _ _ wait.beforeClear)).trans (.head ?_ hsteps), hends⟩
      exact .proceed (ready_events hready wait.beforeClear)
    · simp only [hready, if_false, Bool.false_eq_true]
      refine ⟨hbefore.tail (.park ?_), .pending ?_⟩
      · exact Bool.eq_false_iff.mpr hready
      · simp [Socket.arm]
  · exact ⟨hbefore.tail (.gone _ d e), .gone ⟨_, rfl⟩⟩

/-- The loop is a poll from `calling` on, by induction on its turns. -/
theorem driveLoop_runs (rounds : List (Round N)) (s : Socket H N W) :
    Runs ssl cx (.calling, s) (driveLoop ssl cx rounds s) := by
  induction rounds generalizing s with
  | nil => exact ⟨.refl, .running⟩
  | cons r rs ih =>
      have hbefore := steps_events ssl cx .calling s r.before
      have hwants : ∀ (d : Dir) (n : ℕ) (diag : SslDiag),
          Runs ssl cx (.calling, s) (awaitReady cx d r.wait (driveLoop ssl cx rs)
            ((s.events r.before).call (.doHandshake ssl (.stopped n (wantCode d) diag)))) := by
        intro d n diag
        obtain ⟨hsteps, hends⟩ := awaitReady_runs d r.wait ih
          ((s.events r.before).call (.doHandshake ssl (.stopped n (wantCode d) diag)))
        exact ⟨hbefore.trans (.head (.wants _ d n diag) hsteps), hends⟩
      unfold driveLoop
      rcases r.answer with a | ⟨n, err, diag⟩
      · exact ⟨hbefore.tail (.done _ a), .ok ⟨_, rfl⟩⟩
      · dsimp only
        split_ifs with hread hwrite
        · subst hread
          exact hwants .read n diag
        · subst hwrite
          exact hwants .write n diag
        · have hfail : ¬ IsWant err := not_or.mpr ⟨hread, hwrite⟩
          exact ⟨hbefore.tail (.failed _ n diag hfail), .failed hfail ⟨_, rfl⟩⟩

/-- **A poll of the future**, if it is not done, consists of steps from where it was suspended. -/
theorem drive_spec (ssl : H) (cx : W) (script : Script N) {q : Drive} (hq : q ≠ .finished)
    (s : Socket H N W) : Runs ssl cx (q, s) (drive ssl cx script q s) := by
  cases q with
  | calling => exact driveLoop_runs script.rounds s
  | waiting d => exact awaitReady_runs d script.resume (driveLoop_runs script.rounds) s
  | finished => exact absurd rfl hq

end steps

/-! ## The task -/

section task

variable {H N W : Type} [DecidableEq W]

/-- The future, its socket, and what it has returned. -/
structure Task (H N W : Type) where
  state : Drive
  socket : Socket H N W
  result : Option (Except Error N)

/-- The executor polls the future, or the socket becomes ready. -/
inductive Op (N W : Type)
  | poll (cx : W) (script : Script N)
  | event (d : Dir)

namespace Task

/-- A future nobody has polled yet. -/
def start (ready : Dir → Bool) : Task H N W :=
  ⟨.calling, .fresh ready, none⟩

/-- The task after a poll, with what that has returned if it is done. -/
def note (t : Task H N W) : Outcome H N W → Task H N W
  | (s, q, .returned (.ready r)) => ⟨q, s, some r⟩
  | (s, q, _) => ⟨q, s, t.result⟩

/-- Readiness events between the polls. -/
def events (t : Task H N W) (ds : List Dir) : Task H N W :=
  { t with socket := t.socket.events ds }

/-- One operation; the flag says whether it completed. -/
def step (ssl : H) (t : Task H N W) : Op N W → Task H N W × Bool
  | .poll cx script =>
      let o := drive ssl cx script t.state (t.socket.begin cx)
      match o.2.2 with
      | .returned _ => ((t.note o).events script.leave, true)
      | .panicked => (t.note o, false)
      | .running => (t.note o, false)
  | .event d => (t.events [d], true)

/-- Play a list of operations, up to the first that does not complete. -/
def run (ssl : H) (t : Task H N W) (ops : List (Op N W)) : Task H N W :=
  (Lib.Runs.exec (step ssl) t ops).1

end Task

/-! ## Reading the history -/

/-- The calls of a history. -/
def calls (t : List (Act H N W)) : List (Call H N) :=
  t.filterMap fun a => match a with
    | .call c => some c
    | _ => none

/-- The entry is a call of `SSL_do_handshake`. -/
def Act.isHandshake : Act H N W → Bool
  | .call (.doHandshake _ _) => true
  | _ => false

/-- The entry clears a bit. -/
def Act.isClear : Act H N W → Bool
  | .clear _ => true
  | _ => false

/-- The entry is a readiness event. -/
def Act.isEvent : Act H N W → Bool
  | .event _ => true
  | _ => false

/-- The call was answered by a WANT. -/
def Call.Wants (ssl : H) (c : Call H N) : Prop :=
  ∃ d n diag, c = .doHandshake ssl (.stopped n (wantCode d) diag)

/-- What the future returns after this call, if it was not a WANT. -/
def Call.report : Call H N → Except Error N
  | .doHandshake _ (.done a) => .ok a
  | .doHandshake _ (.stopped _ code diag) => .error (callError code diag)
  | .waitFailed d e => .error (waitError d e)

/-- The calls that were made up to some point of the driver: all of them were answered by a WANT, but for
the last one when the driver is done; when it waits, the last one has asked for that direction. -/
def Shape (ssl : H) (cs : List (Call H N)) : Drive → Prop
  | .calling => ∀ c ∈ cs, c.Wants ssl
  | .waiting d => (∀ c ∈ cs, c.Wants ssl) ∧
      ∃ n diag, cs.getLast? = some (.doHandshake ssl (.stopped n (wantCode d) diag))
  | .finished => ∃ ws c, cs = ws ++ [c] ∧ (∀ c ∈ ws, c.Wants ssl) ∧ ¬ c.Wants ssl

/-- The turns of the loop that are not paid for by a cleared bit. -/
def Drive.unpaid : Drive → ℕ
  | .calling => 0
  | .waiting _ => 1
  | .finished => 1

/-- What holds at every point of the driver, where `bits` bits were set at the beginning. -/
structure Sane (ssl : H) (bits : ℕ) (p : Point H N W) : Prop where
  shape : Shape ssl (calls p.2.trace) p.1
  /-- libssl is called on the one handle. -/
  handle : ∀ ssl' a, .doHandshake ssl' a ∈ calls p.2.trace → ssl' = ssl
  /-- Every turn but the last has cleared a bit. -/
  turns : p.2.trace.countP Act.isHandshake = p.2.trace.countP Act.isClear + p.1.unpaid
  /-- Every bit that was cleared had been set. -/
  paid : p.2.trace.countP Act.isClear + readyBits p.2.ready ≤ p.2.trace.countP Act.isEvent + bits

variable {ssl : H} {cx : W} {bits : ℕ} {p p' : Point H N W}

/-- The two codes that the driver waits for. -/
theorem wantCode_isWant (d : Dir) : IsWant (wantCode d) := by
  cases d <;> decide

/-- A call that does not ask to wait ends the handshake, after calls that all do. -/
theorem Shape.finish {cs : List (Call H N)} (h : ∀ c ∈ cs, c.Wants ssl) {c : Call H N}
    (hc : ¬ c.Wants ssl) : Shape ssl (cs ++ [c]) .finished :=
  ⟨cs, c, rfl, h, hc⟩

/-- Any other code is not a request to wait. -/
theorem not_wants_of_not_isWant {n : ℕ} {code : ℤ} {diag : SslDiag} (h : ¬ IsWant code) :
    ¬ (Call.doHandshake ssl (.stopped n code diag) : Call H N).Wants ssl := by
  rintro ⟨d, n', diag', heq⟩
  cases heq
  exact h (wantCode_isWant d)

/-- An event is no call. -/
@[simp] theorem calls_event (s : Socket H N W) (d : Dir) : calls (s.event d).trace = calls s.trace := by
  simp [Socket.event, calls]

/-- An event keeps the invariant of small steps. -/
theorem sane_event {q : Drive} {s : Socket H N W} (h : Sane ssl bits (q, s)) (d : Dir) :
    Sane ssl bits (q, s.event d) where
  shape := by simpa using h.shape
  handle := by simpa using h.handle
  turns := by simpa [Socket.event, Act.isHandshake, Act.isClear] using h.turns
  paid := by
    have hbits := readyBits_set s.ready d
    have hpaid := h.paid
    simp only [Socket.event, List.countP_append, List.countP_singleton, Act.isClear, Act.isEvent,
      Bool.false_eq_true, if_false, if_true] at hpaid ⊢
    omega

/-- So does the beginning of a poll. -/
theorem sane_begin {q : Drive} {s : Socket H N W} (h : Sane ssl bits (q, s)) (cx : W) :
    Sane ssl bits (q, s.begin cx) where
  shape := by simpa [Socket.begin, calls] using h.shape
  handle := by simpa [Socket.begin, calls] using h.handle
  turns := by simpa [Socket.begin, Act.isHandshake, Act.isClear] using h.turns
  paid := by simpa [Socket.begin, Act.isEvent, Act.isClear] using h.paid

/-- Every call that a step adds is made on the handle. -/
theorem Step.handle (hs : Step ssl cx p p')
    (h : ∀ ssl' a, .doHandshake ssl' a ∈ calls p.2.trace → ssl' = ssl) :
    ∀ ssl' a, .doHandshake ssl' a ∈ calls p'.2.trace → ssl' = ssl := by
  have hcall : ∀ (s : Socket H N W) (c : Call H N), (∀ ssl' a, c = .doHandshake ssl' a → ssl' = ssl) →
      (∀ ssl' a, .doHandshake ssl' a ∈ calls s.trace → ssl' = ssl) →
      ∀ ssl' a, .doHandshake ssl' a ∈ calls (s.call c).trace → ssl' = ssl := by
    intro s c hc h ssl' a hmem
    simp only [Socket.call, calls, List.filterMap_append, List.mem_append] at hmem
    rcases hmem with hold | hnew
    · exact h ssl' a hold
    · have heq : Call.doHandshake ssl' a = c := by simpa using hnew
      exact hc ssl' a heq.symm
  cases hs with
  | event q s d => simpa using h
  | wants s d n diag => exact hcall s _ (fun _ _ heq => (Call.doHandshake.inj heq).1.symm) h
  | done s a => exact hcall s _ (fun _ _ heq => (Call.doHandshake.inj heq).1.symm) h
  | failed s n diag hcode => exact hcall s _ (fun _ _ heq => (Call.doHandshake.inj heq).1.symm) h
  | gone s d e => exact hcall s _ (fun _ _ heq => by cases heq) h
  | park hready => simpa [Socket.arm, calls] using h
  | proceed hready => simpa [Socket.clear, calls] using h

/-- **Step lemma.** -/
theorem Step.sane (hs : Step ssl cx p p') (h : Sane ssl bits p) : Sane ssl bits p' := by
  have hhandle := hs.handle h.handle
  obtain ⟨hshape, -, hturns, hpaid⟩ := h
  cases hs with
  | event q s d => exact sane_event ⟨hshape, by simpa using hhandle, hturns, hpaid⟩ d
  | wants s d n diag =>
      refine ⟨⟨?_, n, diag, ?_⟩, hhandle, ?_, ?_⟩
      · intro c hc
        simp only [Socket.call, calls, List.filterMap_append, List.mem_append] at hc
        rcases hc with hc | hc
        · exact hshape c hc
        · exact ⟨d, n, diag, by simpa using hc⟩
      · simp [Socket.call, calls]
      · simpa [Socket.call, Act.isHandshake, Act.isClear, Drive.unpaid] using hturns
      · simpa [Socket.call, Act.isEvent, Act.isClear] using hpaid
  | done s a =>
      refine ⟨?_, hhandle, ?_, ?_⟩
      · have hnot : ¬ (Call.doHandshake ssl (.done a) : Call H N).Wants ssl := by
          rintro ⟨d, n, diag, heq⟩
          cases heq
        simpa [Socket.call, calls] using Shape.finish hshape hnot
      · simpa [Socket.call, Act.isHandshake, Act.isClear, Drive.unpaid] using hturns
      · simpa [Socket.call, Act.isEvent, Act.isClear] using hpaid
  | failed s n diag hcode =>
      refine ⟨?_, hhandle, ?_, ?_⟩
      · simpa [Socket.call, calls] using Shape.finish hshape (not_wants_of_not_isWant hcode)
      · simpa [Socket.call, Act.isHandshake, Act.isClear, Drive.unpaid] using hturns
      · simpa [Socket.call, Act.isEvent, Act.isClear] using hpaid
  | gone s d e =>
      refine ⟨?_, hhandle, ?_, ?_⟩
      · have hnot : ¬ (Call.waitFailed d e : Call H N).Wants ssl := by
          rintro ⟨d, n, diag, heq⟩
          cases heq
        simpa [Socket.call, calls] using Shape.finish hshape.1 hnot
      · simpa [Socket.call, Act.isHandshake, Act.isClear, Drive.unpaid] using hturns
      · simpa [Socket.call, Act.isEvent, Act.isClear] using hpaid
  | park hready =>
      refine ⟨?_, hhandle, ?_, ?_⟩
      · simpa [Socket.arm, calls] using hshape
      · simpa [Socket.arm, Act.isHandshake, Act.isClear] using hturns
      · simpa [Socket.arm, Act.isEvent, Act.isClear] using hpaid
  | @proceed s d hready =>
      have hbits := readyBits_clear hready
      refine ⟨?_, hhandle, ?_, ?_⟩
      · simpa [Socket.clear, calls, Shape] using hshape.1
      · simpa [Socket.clear, Act.isHandshake, Act.isClear, Drive.unpaid] using hturns
      · simp only [Socket.clear, List.countP_append, List.countP_singleton, Act.isClear, Act.isEvent,
          Bool.false_eq_true, if_false, if_true] at hpaid ⊢
        omega

/-- **A poll keeps it**, by induction on its steps. -/
theorem Steps.sane (hs : Steps ssl cx p p') (h : Sane ssl bits p) : Sane ssl bits p' :=
  Lib.invariant_of_steps (fun _ _ hstep => hstep.sane) hs h

/-! ## Runs of the task -/

/-- A suspended task will be polled again: its waker was woken, or is armed on the direction that it waits
for. -/
def Covered (q : Drive) (s : Socket H N W) : Prop :=
  ∀ d, q = .waiting d → ∃ cx woken, s.poll = some (cx, woken) ∧ (woken = true ∨ s.armed d = some cx)

/-- The future has returned iff it is done, and then it has returned what the last call says. -/
structure Reported (result : Option (Except Error N)) (q : Drive) (cs : List (Call H N)) : Prop where
  live : result = none → q ≠ .finished
  done : ∀ r, result = some r → q = .finished ∧ ∃ c, cs.getLast? = some c ∧ r = c.report

/-- What holds between the operations of a run. -/
structure Steady (ssl : H) (bits : ℕ) (t : Task H N W) : Prop where
  sane : Sane ssl bits (t.state, t.socket)
  covered : Covered t.state t.socket
  reported : Reported t.result t.state (calls t.socket.trace)

/-- An event disarms only the direction whose waker it wakes. -/
theorem Covered.event {q : Drive} {s : Socket H N W} (h : Covered q s) (d : Dir) :
    Covered q (s.event d) := by
  intro d' hq
  obtain ⟨cx, woken, hpoll, hcase⟩ := h d' hq
  refine ⟨cx, woken || decide (s.armed d = some cx), by simp [Socket.event, hpoll], ?_⟩
  rcases hcase with hwoken | harmed
  · left
    simp [hwoken]
  · by_cases hd : d' = d
    · left
      subst hd
      simp [harmed]
    · right
      simp [Socket.event, Function.update_of_ne hd, harmed]

/-- The waker of the last poll is kept by the steps of that poll. -/
theorem Step.poll (hs : Step ssl cx p p') (h : ∃ woken, p.2.poll = some (cx, woken)) :
    ∃ woken, p'.2.poll = some (cx, woken) := by
  obtain ⟨woken, h⟩ := h
  cases hs with
  | event q s d =>
      have h' : s.poll = some (cx, woken) := h
      refine ⟨woken || decide (s.armed d = some cx), ?_⟩
      simp only [Socket.event, h', Option.map_some]
  | wants | done | failed | gone | park | proceed => exact ⟨woken, h⟩

/-- Between polls, an event keeps what a poll has left. -/
theorem Steady.event {t : Task H N W} (h : Steady ssl bits t) (d : Dir) :
    Steady ssl bits { t with socket := t.socket.event d } where
  sane := sane_event h.sane d
  covered := h.covered.event d
  reported := by
    show Reported t.result t.state (calls (t.socket.event d).trace)
    rw [calls_event]
    exact h.reported

/-- So do any number of them. -/
theorem Steady.events {t : Task H N W} (h : Steady ssl bits t) (ds : List Dir) :
    Steady ssl bits (t.events ds) := by
  induction ds generalizing t with
  | nil => exact h
  | cons d ds ih => exact ih (h.event d)

/-- While the future is not done, it has returned nothing. -/
theorem Steady.result_eq_none {t : Task H N W} (h : Steady ssl bits t) (hq : t.state ≠ .finished) :
    t.result = none := by
  rcases hres : t.result with _ | r
  · rfl
  · exact absurd (h.reported.done r hres).1 hq

/-- A finished handshake waits for nothing. -/
theorem covered_finished (s : Socket H N W) : Covered .finished s := by
  intro d hd
  cases hd

/-- Neither does one that is about to call libssl. -/
theorem covered_calling (s : Socket H N W) : Covered .calling s := by
  intro d hd
  cases hd

/-- A poll that is done after this call has returned what the call says. -/
theorem reported_of_call {s : Socket H N W} {c : Call H N} (h : ∃ u, s.trace = u ++ [.call c]) :
    Reported (some c.report) .finished (calls s.trace) where
  live h := by cases h
  done r hr := by
    obtain ⟨u, hu⟩ := h
    refine ⟨rfl, c, ?_, (Option.some.inj hr).symm⟩
    simp [hu, calls]

/-- **A poll keeps the task steady.** -/
theorem Runs.steady {t : Task H N W} (ht : Steady ssl bits t) (hq : t.state ≠ .finished)
    {o : Outcome H N W} (hrun : Runs ssl cx (t.state, t.socket.begin cx) o) :
    Steady ssl bits (t.note o) := by
  obtain ⟨hsteps, hends⟩ := hrun
  have hsane : Sane ssl bits (o.2.1, o.1) := Steps.sane hsteps (sane_begin ht.sane cx)
  have hpoll : ∃ woken, o.1.poll = some (cx, woken) := by
    refine Lib.invariant_of_steps (I := fun p => ∃ woken, p.2.poll = some (cx, woken)) ?_ hsteps ?_
    · intro p p' hstep
      exact hstep.poll
    · exact ⟨false, rfl⟩
  have hnone := ht.result_eq_none hq
  cases hends with
  | ok h => exact ⟨hsane, covered_finished _, reported_of_call h⟩
  | failed _ h => exact ⟨hsane, covered_finished _, reported_of_call h⟩
  | gone h => exact ⟨hsane, covered_finished _, reported_of_call h⟩
  | @pending s d h =>
      obtain ⟨woken, hpoll⟩ := hpoll
      refine ⟨hsane, ?_, ?_, ?_⟩
      · intro d' hd
        cases hd
        exact ⟨cx, woken, hpoll, .inr h⟩
      · intro _ hd
        cases hd
      · intro r hr
        rw [show t.result = some r from hr] at hnone
        cases hnone
  | @running s =>
      refine ⟨hsane, covered_calling s, ?_, ?_⟩
      · intro _ hd
        cases hd
      · intro r hr
        rw [show t.result = some r from hr] at hnone
        cases hnone

/-- A future that is polled once more after it is done panics, and has done nothing. -/
theorem Steady.panicked {t : Task H N W} (h : Steady ssl bits t) (hq : t.state = .finished) (cx : W) :
    Steady ssl bits ⟨.finished, t.socket.begin cx, t.result⟩ where
  sane := by
    rw [← hq]
    exact sane_begin h.sane cx
  covered := covered_finished _
  reported := by
    have hcalls : calls (t.socket.begin cx).trace = calls t.socket.trace := by
      simp [Socket.begin, calls]
    show Reported t.result .finished (calls (t.socket.begin cx).trace)
    rw [hcalls, ← hq]
    exact h.reported

/-- **One operation.** -/
theorem Steady.step {t : Task H N W} (h : Steady ssl bits t) (op : Op N W) :
    Steady ssl bits (t.step ssl op).1 := by
  cases op with
  | event d => exact h.events [d]
  | poll cx script =>
      by_cases hq : t.state = .finished
      · simp only [Task.step, hq, drive]
        exact h.panicked hq cx
      · have hnote := Runs.steady h hq (drive_spec ssl cx script hq (t.socket.begin cx))
        simp only [Task.step]
        split
        · exact hnote.events script.leave
        · exact hnote
        · exact hnote

/-- The last call of a driver that is done was not answered by a WANT. -/
theorem Steady.not_wants {t : Task H N W} (h : Steady ssl bits t) (hstate : t.state = .finished)
    {c : Call H N} (hlast : (calls t.socket.trace).getLast? = some c) : ¬ c.Wants ssl := by
  have hshape := h.sane.shape
  rw [hstate] at hshape
  obtain ⟨ws, w, heq, -, hw⟩ := hshape
  rw [show calls t.socket.trace = ws ++ [w] from heq, List.getLast?_concat] at hlast
  obtain rfl := Option.some.inj hlast
  exact hw

/-- After a call that was not answered by a WANT the driver is done. -/
theorem Steady.finished_of_last {t : Task H N W} (h : Steady ssl bits t) {c : Call H N}
    (hlast : (calls t.socket.trace).getLast? = some c) (hnot : ¬ c.Wants ssl) : t.state = .finished := by
  have hshape := h.sane.shape
  have hmem : c ∈ calls t.socket.trace := List.mem_of_getLast? hlast
  rcases hstate : t.state with _ | d | _
  · rw [hstate] at hshape
    exact absurd (hshape c hmem) hnot
  · rw [hstate] at hshape
    exact absurd (hshape.1 c hmem) hnot
  · rfl

/-- **Run lemma.** -/
theorem steady_run (ssl : H) (ready : Dir → Bool) (ops : List (Op N W)) :
    Steady ssl (readyBits ready) ((Task.start ready).run ssl ops) := by
  refine Lib.Runs.exec_invariant (I := Steady ssl (readyBits ready)) ?_ ?_ ops
  · intro t op h
    exact h.step op
  · refine ⟨⟨?_, ?_, rfl, ?_⟩, covered_calling _, ?_, ?_⟩
    · intro c hc
      simp [Task.start, Socket.fresh, calls] at hc
    · intro ssl' a hc
      simp [Task.start, Socket.fresh, calls] at hc
    · simp [Task.start, Socket.fresh]
    · intro _ hd
      cases hd
    · intro r hr
      cases hr

end task

/-! ## A poll returns -/

section returns

variable {H N W : Type} [DecidableEq W]

/-- The number of events in a wait. -/
def Await.events (wait : Await) : ℕ :=
  wait.before.length + wait.beforeClear.length

/-- The number of events in a turn. -/
def Round.events (r : Round N) : ℕ :=
  r.before.length + r.wait.events

/-- The number of events in the turns of a poll. -/
def turnEvents (rounds : List (Round N)) : ℕ :=
  (rounds.map Round.events).sum

/-- Every event sets at most one bit. -/
theorem readyBits_events (s : Socket H N W) (ds : List Dir) :
    readyBits (s.events ds).ready ≤ readyBits s.ready + ds.length := by
  induction ds generalizing s with
  | nil => exact le_rfl
  | cons d ds ih =>
      have hset := readyBits_set s.ready d
      have hrest := ih (s.event d)
      rw [Socket.events_cons, List.length_cons]
      simp only [Socket.event] at hset hrest ⊢
      omega

/-- A wait returns, or goes on to the next turn with one bit less than there were bits and events. -/
theorem awaitReady_returns {cx : W} {d : Dir} {wait : Await} {next : Socket H N W → Outcome H N W}
    {s : Socket H N W}
    (hnext : ∀ s', readyBits s'.ready + 1 ≤ readyBits s.ready + wait.events →
      ∃ p, (next s').2.2 = .returned p) :
    ∃ p, (awaitReady cx d wait next s).2.2 = .returned p := by
  unfold awaitReady pollReadiness
  rcases wait.gone with _ | e
  · by_cases hready : (s.events wait.before).ready d = true
    · simp only [hready, if_true]
      apply hnext
      have hclear := readyBits_clear (ready_events hready wait.beforeClear)
      have hbefore := readyBits_events s wait.before
      have hafter := readyBits_events (s.events wait.before) wait.beforeClear
      simp only [Socket.clear, Await.events]
      omega
    · simp only [hready, if_false, Bool.false_eq_true]
      exact ⟨_, rfl⟩
  · exact ⟨_, rfl⟩

/-- The loop returns once its turns outnumber the bits and events, by induction on the turns: each of them
but the last uses one up. -/
theorem driveLoop_returns (ssl : H) (cx : W) (rounds : List (Round N)) (s : Socket H N W)
    (h : readyBits s.ready + turnEvents rounds < rounds.length) :
    ∃ p, (driveLoop ssl cx rounds s).2.2 = .returned p := by
  induction rounds generalizing s with
  | nil =>
      rw [List.length_nil] at h
      omega
  | cons r rs ih =>
      have hbefore := readyBits_events s r.before
      have hnext : ∀ (a : SslAnswer N) (s' : Socket H N W), readyBits s'.ready + 1 ≤
          readyBits ((s.events r.before).call (.doHandshake ssl a)).ready + r.wait.events →
          ∃ p, (driveLoop ssl cx rs s').2.2 = .returned p := by
        intro a s' hs'
        apply ih
        simp only [turnEvents, List.map_cons, List.sum_cons, Round.events, List.length_cons] at h
        simp only [Socket.call] at hs'
        rw [turnEvents]
        omega
      unfold driveLoop
      rcases r.answer with a | ⟨n, err, diag⟩
      · exact ⟨_, rfl⟩
      · dsimp only
        split_ifs
        · exact awaitReady_returns (hnext _)
        · exact awaitReady_returns (hnext _)
        · exact ⟨_, rfl⟩

/-- A poll of a future that is not done returns, if the environment has answers for more turns than there
are bits and events. -/
theorem drive_returns (ssl : H) (cx : W) (script : Script N) {q : Drive} (hq : q ≠ .finished)
    (s : Socket H N W)
    (h : readyBits s.ready + script.resume.events + turnEvents script.rounds < script.rounds.length) :
    ∃ p, (drive ssl cx script q s).2.2 = .returned p := by
  cases q with
  | calling =>
      apply driveLoop_returns
      omega
  | waiting d =>
      apply awaitReady_returns
      intro s' hs'
      apply driveLoop_returns
      omega
  | finished => exact absurd rfl hq

end returns

/-! ## The result -/

section result

variable {H N W : Type} [DecidableEq W]

/-- The handshake of the handle `ssl`, for a run that ends in `t` and began with `bits` ready bits. -/
structure HandshakeDriver (ssl : H) (bits : ℕ) (t : Task H N W) : Prop where
  /-- libssl is called on the handle. -/
  handle : ∀ ssl' a, .doHandshake ssl' a ∈ calls t.socket.trace → ssl' = ssl
  /-- Only a call that was answered by a WANT is followed by another call. -/
  wants : ∀ cs c, calls t.socket.trace = cs ++ [c] → ∀ c' ∈ cs, c'.Wants ssl
  /-- The future returns iff the last call was not answered by a WANT, and then returns what it says; it
  succeeds only with a handshake that libssl has finished. -/
  returns : ∀ r, t.result = some r ↔
    ∃ c, (calls t.socket.trace).getLast? = some c ∧ ¬ c.Wants ssl ∧ r = c.report
  /-- A suspended future waits for the direction that the last call asked for. -/
  asked : ∀ d, t.state = .waiting d → ∃ n diag,
    (calls t.socket.trace).getLast? = some (.doHandshake ssl (.stopped n (wantCode d) diag))
  /-- Its task was woken, or the next event of that direction wakes it. -/
  woken : ∀ d, t.state = .waiting d → ∃ cx woken, t.socket.poll = some (cx, woken) ∧
    (woken = true ∨ (t.socket.event d).poll = some (cx, true))
  /-- Between two calls one readiness event is used up, so that the task does not spin. -/
  turns : t.socket.trace.countP Act.isHandshake ≤ t.socket.trace.countP Act.isEvent + bits + 1
  /-- Every poll returns, once it gets answers for more turns than there are ready bits and events. -/
  polls : ∀ cx script, t.state ≠ .finished →
    readyBits t.socket.ready + script.resume.events + turnEvents script.rounds < script.rounds.length →
    ∃ p, (drive ssl cx script t.state (t.socket.begin cx)).2.2 = .returned p

/-- **The handshake driver**, for every handle, every libssl, every state of the socket and every run of
its task. -/
theorem handshake_driver (ssl : H) (ready : Dir → Bool) (ops : List (Op N W)) :
    HandshakeDriver ssl (readyBits ready) ((Task.start ready).run ssl ops) := by
  have h := steady_run ssl ready ops
  generalize (Task.start ready).run ssl ops = t at h
  refine ⟨h.sane.handle, ?_, ?_, ?_, ?_, ?_, ?_⟩
  · intro cs c hcalls c' hc'
    have hshape := h.sane.shape
    rw [hcalls] at hshape
    rcases hstate : t.state with _ | d | _
    · rw [hstate] at hshape
      exact hshape c' (List.mem_append_left _ hc')
    · rw [hstate] at hshape
      exact hshape.1 c' (List.mem_append_left _ hc')
    · rw [hstate] at hshape
      obtain ⟨ws, w, heq, hws, -⟩ := hshape
      obtain ⟨rfl, -⟩ := List.append_inj' heq rfl
      exact hws c' hc'
  · intro r
    constructor
    · intro hr
      obtain ⟨hstate, c, hlast, hreport⟩ := h.reported.done r hr
      exact ⟨c, hlast, h.not_wants hstate hlast, hreport⟩
    · rintro ⟨c, hlast, hnot, rfl⟩
      have hstate := h.finished_of_last hlast hnot
      rcases hres : t.result with _ | r
      · exact absurd hstate (h.reported.live hres)
      · obtain ⟨-, c', hlast', rfl⟩ := h.reported.done r hres
        obtain rfl := Option.some.inj (hlast.symm.trans hlast')
        rfl
  · intro d hd
    have hshape := h.sane.shape
    rw [hd] at hshape
    exact hshape.2
  · intro d hd
    obtain ⟨cx, woken, hpoll, hcase⟩ := h.covered d hd
    refine ⟨cx, woken, hpoll, hcase.imp_right ?_⟩
    intro harmed
    simp [Socket.event, hpoll, harmed]
  · have hturns := h.sane.turns
    have hpaid := h.sane.paid
    have hunpaid : t.state.unpaid ≤ 1 := by
      cases t.state <;> simp [Drive.unpaid]
    simp only at hturns hpaid
    omega
  · intro cx script hq hlen
    exact drive_returns ssl cx script hq _ hlen

end result

end TokioAwsLc.Handshake
