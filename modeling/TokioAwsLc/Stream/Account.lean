import TokioAwsLc.Lib.Amortize
import TokioAwsLc.Stream.KtlsPath

/-!
# What the loops of a poll cost

libssl reads and writes the socket behind Tokio's back, so the ready bit that Tokio has cached must be
cleared by hand whenever libssl has found the socket blocked. Otherwise a loop would find the bit set again
and again. Here the bits are counted: a turn of a loop that goes on has cleared a bit that was set, and only
a readiness event sets one.

* `World.balance`: the calls that were made and the bits that are set, less the events and the interrupted
  writes. It is what a call and a bit cost; an event pays for a bit, and a signal that interrupts a
  `write(2)` for that call.
* `sslTariff` and `writeTariff`: the loops around libssl, and the one around `write(2)`, are `Lib.Amortized`.
  A turn around libssl uses up a ready bit. A turn around `write(2)` goes on only after an event, or after a
  call that was interrupted by a signal.
* The other loops around system calls are bounded by `IO_BUDGET`.
* `Frugal k enough`: the contract that all of this comes to, at most `k` calls that are not paid for.
-/

set_option linter.unusedSectionVars false

namespace TokioAwsLc.Stream

open Lib (Tariff Turned Amortized)
open Ktls (Abi RecordReader RecvMsg Polls ioBudget)

variable {W : Type} [DecidableEq W] {w w' : World W}

/-! ## Counting -/

/-- The entry is a call of libssl or of the kernel. A wait that fails is neither: the reactor refuses it. -/
def Call.made : Call → Bool
  | .sslWrite _ _ _ | .sslRead _ _ | .sslShutdown _ => true
  | .write _ _ | .sendmsg _ | .recvmsg _ | .tcpShutdown _ => true
  | .waitFailed _ _ => false

/-- A `write(2)` that was interrupted by a signal: `ktls_poll_write` makes it again, without a budget. -/
def Call.interrupted : Call → Bool
  | .write _ (.error errno) => decide (decodeErrorKind errno = .interrupted)
  | _ => false

/-- The call has to be paid for by something else than its own interruption. -/
def Call.costs (c : Call) : Bool :=
  c.made && !c.interrupted

/-- The entry is a call of libssl or of the kernel. -/
def Act.isCall : Act W → Bool
  | .call c => c.made
  | _ => false

/-- The entry is a `write(2)` that was interrupted. -/
def Act.isInterruption : Act W → Bool
  | .call c => c.interrupted
  | _ => false

/-- The entry is a readiness event. -/
def Act.isEvent : Act W → Bool
  | .signal (.event _) => true
  | _ => false

/-- The entry is the beginning of a poll. -/
def Act.isPoll : Act W → Bool
  | .signal (.called _ _) => true
  | _ => false

/-- The calls that were made and the bits that are set, less the events and the interruptions. -/
def World.balance (w : World W) : ℤ :=
  w.trace.countP Act.isCall + readyBits w.net.ready - w.trace.countP Act.isEvent -
    w.trace.countP Act.isInterruption

section balance

variable (w)

/-- A call that costs something is charged one. -/
@[simp] theorem balance_call (c : Call) :
    (w.call c).balance = w.balance + if c.costs then 1 else 0 := by
  have hmade : c.interrupted = true → c.made = true := by
    cases c <;> simp [Call.interrupted, Call.made]
  rcases hm : c.made with _ | _ <;> rcases hi : c.interrupted with _ | _
  · simp [World.balance, Act.isCall, Act.isEvent, Act.isInterruption, Call.costs, hm, hi]
  · rw [hm] at hmade
    exact absurd (hmade hi) Bool.false_ne_true
  · simp [World.balance, Act.isCall, Act.isEvent, Act.isInterruption, Call.costs, hm, hi]
    ring
  · simp [World.balance, Act.isCall, Act.isEvent, Act.isInterruption, Call.costs, hm, hi]
    ring

/-- Signals that leave the ready bits alone. -/
theorem balance_signal {s : Signal W} (hready : (w.net.apply s).ready = w.net.ready)
    (hevent : ∀ d, s ≠ .event d) : (w.signal s).balance = w.balance := by
  have hno : (Act.signal s : Act W).isEvent = false := by
    cases s with
    | event d => exact absurd rfl (hevent d)
    | called | returned | register | arm | clear | notify | wakeByRef => rfl
  simp [World.balance, Act.isCall, Act.isInterruption, hno, hready]

/-- The beginning of a poll is free. -/
@[simp] theorem balance_called (h : Half) (cx : W) : (w.signal (.called h cx)).balance = w.balance :=
  balance_signal w rfl (by simp)

/-- So is its end. -/
@[simp] theorem balance_returned (h : Half) (b : Bool) :
    (w.signal (.returned h b)).balance = w.balance :=
  balance_signal w rfl (by simp)

/-- So is registering a task. -/
@[simp] theorem balance_register (h : Half) (cx : W) :
    (w.signal (.register h cx)).balance = w.balance :=
  balance_signal w rfl (by simp)

/-- So is arming a waker. -/
@[simp] theorem balance_arm (d : Dir) (wk : SocketWaker W) :
    (w.signal (.arm d wk)).balance = w.balance :=
  balance_signal w rfl (by simp)

/-- So is notifying the halves. -/
@[simp] theorem balance_notify : (w.signal .notify).balance = w.balance :=
  balance_signal w (by simp [Net.apply]) (by simp)

/-- So is waking oneself. -/
@[simp] theorem balance_wakeByRef (cx : W) : (w.signal (.wakeByRef cx)).balance = w.balance :=
  balance_signal w (by simp [Net.apply]) (by simp)

/-- What the stream keeps pending is not on the account. -/
@[simp] theorem balance_setPending (bs : Bytes) : (w.setPending bs).balance = w.balance := rfl

/-- Neither is its record reader. -/
@[simp] theorem balance_setReader (r : RecordReader) : (w.setReader r).balance = w.balance := rfl

/-- Neither is the state of its shutdown. -/
@[simp] theorem balance_moveTo (s : Shutdown) : (w.moveTo s).balance = w.balance := by
  simp [World.balance, Act.isCall, Act.isEvent, Act.isInterruption]

/-- Neither is a write failure. -/
@[simp] theorem balance_writeFailure (e : IoError) : (w.writeFailure e).balance = w.balance := by
  have hlatch : (w.latch e).balance = w.balance := by
    simp [World.balance, World.latch, Act.isCall, Act.isEvent, Act.isInterruption]
  rw [World.writeFailure, balance_notify, hlatch]

/-- An event sets the bit of its direction. -/
theorem ready_event (net : Net W) (d : Dir) :
    (net.event d).ready = Function.update net.ready d true := by
  rw [Net.event_eq]
  rcases net.armed d with _ | ⟨cx⟩ | _
  · rfl
  · simp [Net.setReady]
  · simp [Net.setReady]

/-- An event pays for the bit that it sets. -/
theorem balance_event (d : Dir) : (w.signal (.event d)).balance ≤ w.balance := by
  have hset := readyBits_set w.net.ready d
  simp only [World.balance, World.signal_trace, World.signal_net, Net.apply, ready_event,
    List.countP_append, List.countP_singleton, Act.isCall, Act.isEvent, Act.isInterruption,
    Bool.false_eq_true, if_false, if_true]
  push_cast
  omega

/-- Events are paid for by themselves: each sets at most one bit. -/
theorem balance_events (ds : List Dir) : (w.events ds).balance ≤ w.balance := by
  induction ds generalizing w with
  | nil => exact le_rfl
  | cons d ds ih => exact (ih (w.signal (.event d))).trans (balance_event w d)

/-- Every event sets at most one bit. -/
theorem bits_events (ds : List Dir) :
    readyBits (w.events ds).net.ready ≤ readyBits w.net.ready + ds.length := by
  induction ds generalizing w with
  | nil => exact le_rfl
  | cons d ds ih =>
      have hrest := ih (w.signal (.event d))
      have hset := readyBits_set w.net.ready d
      simp only [World.signal_net, Net.apply, ready_event] at hrest
      rw [World.events_cons, List.length_cons]
      omega

/-- What is set stays set under events. -/
theorem ready_events {d : Dir} (hready : w.net.ready d = true) (ds : List Dir) :
    (w.events ds).net.ready d = true := by
  induction ds generalizing w with
  | nil => exact hready
  | cons d' ds ih =>
      apply ih (w.signal (.event d'))
      show (w.net.event d').ready d = true
      rw [ready_event]
      by_cases hd : d = d'
      · rw [hd, Function.update_self]
      · rw [Function.update_of_ne hd, hready]

/-- Clearing a bit that is set uses it up. -/
theorem balance_clear {d : Dir} (hready : w.net.ready d = true) :
    (w.signal (.clear d)).balance + 1 = w.balance := by
  have hbits := readyBits_clear hready
  simp only [World.balance, World.signal_trace, World.signal_net, Net.apply, List.countP_append,
    List.countP_singleton, Act.isCall, Act.isEvent, Act.isInterruption, Bool.false_eq_true, if_false]
  push_cast
  omega

end balance

/-! ## The loops around libssl -/

/-- The number of events in a wait. -/
def Wait.events (wait : Wait) : ℕ :=
  wait.beforeRegister.length + wait.beforePoll.length + wait.beforeClear.length

/-- The number of events in a turn. -/
def Round.events {α : Type} (r : Round α) : ℕ :=
  r.before.length + r.wait.events

/-- The account of a loop around libssl: its credit is the number of ready bits. -/
def sslTariff (W α β : Type) [DecidableEq W] : Tariff (Round α) (World W) (Exit β) where
  balance := World.balance
  credit w := readyBits w.net.ready
  gain := Round.events
  stuck x := x = .running

section turns

variable {α β : Type} {f : List (Round α) → World W → World W × Exit β} {r : Round α}
  {rs : List (Round α)}

/-- A turn of a loop around libssl that ends it makes at most one call that is not paid for. -/
theorem ssl_stops {x : Exit β} (heq : f (r :: rs) w = (w', x)) (hcost : w'.balance ≤ w.balance + 1)
    (hbits : readyBits w'.net.ready ≤ readyBits w.net.ready + r.events) (hx : x ≠ .running) :
    Turned (sslTariff W α β) f r rs w :=
  .stops heq hcost hbits hx

/-- A turn that goes on has used up a bit, which pays for its call. -/
theorem ssl_again (heq : f (r :: rs) w = f rs w') (hcost : w'.balance ≤ w.balance)
    (hbits : readyBits w'.net.ready + 1 ≤ readyBits w.net.ready + r.events) :
    Turned (sslTariff W α β) f r rs w :=
  .again heq hcost hbits

end turns

/-- The number of events in the turns of a loop. -/
def turnEvents {α : Type} (rounds : List (Round α)) : ℕ :=
  (rounds.map Round.events).sum

/-- A poll, or a loop of one, makes at most `k` calls that are not paid for, and is over if its environment
has enough answers. -/
structure Frugal {β : Type} (k : ℕ) (enough : Prop) (w : World W) (r : World W × Exit β) : Prop where
  cost : r.1.balance ≤ w.balance + k
  returns : enough → r.2 ≠ .running

/-- How a wait ends: one that succeeds has used up a bit. -/
inductive Paid (wait : Wait) (w : World W) : World W × Poll (IoResult Unit) → Prop
  | ready {w' : World W} (hcost : w'.balance + 1 ≤ w.balance)
      (hbits : readyBits w'.net.ready + 1 ≤ readyBits w.net.ready + wait.events) :
      Paid wait w (w', .ready (.ok ()))
  | pending {w' : World W} (hcost : w'.balance ≤ w.balance)
      (hbits : readyBits w'.net.ready ≤ readyBits w.net.ready + wait.events) :
      Paid wait w (w', .pending)
  | failed {w' : World W} (e : IoError) (hcost : w'.balance ≤ w.balance)
      (hbits : readyBits w'.net.ready ≤ readyBits w.net.ready + wait.events) :
      Paid wait w (w', .ready (.error e))

/-- A wait of the loops around libssl uses up a bit of its direction if it succeeds, and costs nothing
otherwise. So a loop cannot go round without an event. -/
theorem pollSslReady_paid (site : WaitSite) (code : ℤ) (cx : W) (reader : Bool) (wait : Wait)
    (w : World W) : Paid wait w (pollSslReady site code cx reader wait w) := by
  set w₁ := (((w.events wait.beforeRegister).signal
    (.register (.ofReader reader) cx)).events wait.beforePoll) with hw₁
  have hcost : w₁.balance ≤ w.balance := by
    have hpoll := balance_events ((w.events wait.beforeRegister).signal
      (.register (.ofReader reader) cx)) wait.beforePoll
    have hreg := balance_events w wait.beforeRegister
    rw [balance_register] at hpoll
    exact hpoll.trans hreg
  have hbits : readyBits w₁.net.ready ≤
      readyBits w.net.ready + wait.beforeRegister.length + wait.beforePoll.length := by
    have hpoll := bits_events ((w.events wait.beforeRegister).signal
      (.register (.ofReader reader) cx)) wait.beforePoll
    have hreg := bits_events w wait.beforeRegister
    have hsame : ((w.events wait.beforeRegister).signal
        (.register (.ofReader reader) cx)).net.ready =
        (w.events wait.beforeRegister).net.ready := rfl
    rw [hsame] at hpoll
    rw [hw₁]
    omega
  have hclear : ∀ d, Paid wait w (pollClearReady site d .shared wait w₁) := by
    intro d
    unfold pollClearReady pollReady
    rcases wait.gone with _ | e
    · simp only
      split_ifs with hready
      · have hset := ready_events w₁ hready wait.beforeClear
        have hcleared := balance_clear (w₁.events wait.beforeClear) hset
        have hbefore := balance_events w₁ wait.beforeClear
        have hused := readyBits_clear hset
        have hgot := bits_events w₁ wait.beforeClear
        refine .ready (by omega) ?_
        simp only [World.signal_net, Net.apply, Wait.events]
        omega
      · refine .pending (by simpa using hcost) ?_
        simp only [World.signal_net, Net.apply, Wait.events]
        omega
    · refine .failed e (by simpa [Call.costs, Call.made] using hcost) ?_
      simp only [World.call_net, Wait.events]
      omega
  unfold pollSslReady
  by_cases hcode : code = sslErrorWantRead
  · simp only [if_pos hcode]
    exact hclear .read
  · simp only [if_neg hcode]
    exact hclear .write

/-- The world after the call at the head of a turn. -/
theorem call_costs (before : List Dir) (w : World W) (c : Call) :
    ((w.events before).call c).balance ≤ w.balance + 1 ∧
      readyBits ((w.events before).call c).net.ready ≤ readyBits w.net.ready + before.length := by
  have hcost := balance_events w before
  refine ⟨?_, bits_events w before⟩
  rw [balance_call]
  split_ifs <;> omega

/-- The loop of `poll_pending_write` pays for every turn but the last. -/
theorem drainLoop_amortized (cx : W) (reader : Bool) :
    Amortized (sslTariff W Unit (Poll (IoResult Unit))) (drainLoop cx reader) := by
  refine ⟨?_, ?_⟩
  · intro w
    unfold drainLoop
    split_ifs <;> rfl
  intro r rs w
  by_cases hp : w.stream.pendingWrite = []
  · exact ssl_stops (drainLoop_of_empty cx reader _ hp) (by omega) (by omega) (by simp)
  by_cases hlen : w.stream.pendingWrite.length < 2 ^ 31
  swap
  · have hpanic : drainLoop cx reader (r :: rs) w = (w, .panicked) := by
      have hc : cInt w.stream.pendingWrite.length = none := if_neg hlen
      rw [drainLoop, if_neg hp, hc]
    exact ssl_stops hpanic (by omega) (by omega) (by simp)
  have heq := drainLoop_cons cx reader r rs hp hlen
  rcases hanswer : r.answer with ⟨⟩ | ⟨n, code, diag⟩
  · rw [hanswer] at heq
    obtain ⟨hcost, hbits⟩ := call_costs r.before w
      (.sslWrite .retry w.stream.pendingWrite (.done ()))
    refine ssl_stops heq ?_ ?_ (by simp)
    · simpa using hcost
    · have hsame : readyBits (w.events r.before).net.ready ≤ readyBits w.net.ready + r.before.length :=
        hbits
      simp only [World.signal_net, Net.apply, World.setPending_net, World.call_net, Net.notify_ready,
        Round.events]
      omega
  · rw [hanswer] at heq
    simp only at heq
    obtain ⟨hcost, hbits⟩ := call_costs r.before w
      (.sslWrite .retry w.stream.pendingWrite (.stopped n code diag))
    split_ifs at heq with hwant
    · have hpaid := pollSslReady_paid .drain code cx reader r.wait
        ((w.events r.before).call (.sslWrite .retry w.stream.pendingWrite (.stopped n code diag)))
      generalize pollSslReady .drain code cx reader r.wait _ = p at hpaid heq
      cases hpaid with
      | ready hc hb => exact ssl_again heq (by omega) (by rw [Round.events]; omega)
      | pending hc hb => exact ssl_stops heq (by omega) (by rw [Round.events]; omega) (by simp)
      | failed e hc hb =>
          refine ssl_stops heq (by rw [balance_writeFailure]; omega) ?_ (by simp)
          simp only [World.writeFailure_net, Net.notify_ready, Round.events]
          omega
    · refine ssl_stops heq (by rw [balance_writeFailure]; omega) ?_ (by simp)
      simp only [World.writeFailure_net, Net.notify_ready, Round.events]
      omega

/-- So does the loop of `poll_read`. -/
theorem readLoop_amortized (cx : W) {cap : ℕ} (hcap : 0 < cap) :
    Amortized (sslTariff W Chunk (Poll (IoResult Bytes))) (readLoop cx cap) := by
  refine ⟨fun w => rfl, ?_⟩
  intro r rs w
  have heq := readLoop_cons (w := w) cx hcap r rs
  rcases hanswer : r.answer with bs | ⟨n, code, diag⟩
  · rw [hanswer] at heq
    obtain ⟨hcost, hbits⟩ := call_costs r.before w (.sslRead (min cap (2 ^ 31 - 1)) (.done bs))
    exact ssl_stops heq hcost (by rw [Round.events]; omega) (by simp)
  · rw [hanswer] at heq
    simp only at heq
    obtain ⟨hcost, hbits⟩ := call_costs r.before w
      (.sslRead (min cap (2 ^ 31 - 1)) (.stopped n code diag))
    split_ifs at heq with hzero hwant
    · exact ssl_stops heq hcost (by rw [Round.events]; omega) (by simp)
    · have hpaid := pollSslReady_paid .read code cx true r.wait
        ((w.events r.before).call (.sslRead (min cap (2 ^ 31 - 1)) (.stopped n code diag)))
      generalize pollSslReady .read code cx true r.wait _ = p at hpaid heq
      cases hpaid with
      | ready hc hb => exact ssl_again heq (by omega) (by rw [Round.events]; omega)
      | pending hc hb => exact ssl_stops heq (by omega) (by rw [Round.events]; omega) (by simp)
      | failed e hc hb => exact ssl_stops heq (by omega) (by rw [Round.events]; omega) (by simp)
    · exact ssl_stops heq hcost (by rw [Round.events]; omega) (by simp)

/-- So does the loop of `poll_shutdown`. -/
theorem shutdownLoop_amortized (cx : W) :
    Amortized (sslTariff W Bool (Poll (IoResult Unit))) (shutdownLoop cx) := by
  refine ⟨fun w => rfl, ?_⟩
  intro r rs w
  have heq := shutdownLoop_cons (w := w) cx r rs
  rcases hanswer : r.answer with peer | ⟨n, code, diag⟩
  · rw [hanswer] at heq
    obtain ⟨hcost, hbits⟩ := call_costs r.before w (.sslShutdown (.done peer))
    refine ssl_stops heq ?_ ?_ (by simp)
    · rw [balance_moveTo]
      exact hcost
    · rw [World.moveTo_net, Round.events]
      omega
  · rw [hanswer] at heq
    simp only at heq
    obtain ⟨hcost, hbits⟩ := call_costs r.before w (.sslShutdown (.stopped n code diag))
    split_ifs at heq with hwant
    · have hpaid := pollSslReady_paid .shutdown code cx false r.wait
        ((w.events r.before).call (.sslShutdown (.stopped n code diag)))
      generalize pollSslReady .shutdown code cx false r.wait _ = p at hpaid heq
      cases hpaid with
      | ready hc hb => exact ssl_again heq (by omega) (by rw [Round.events]; omega)
      | pending hc hb => exact ssl_stops heq (by omega) (by rw [Round.events]; omega) (by simp)
      | failed e hc hb =>
          refine ssl_stops heq (by rw [balance_writeFailure]; omega) ?_ (by simp)
          simp only [World.writeFailure_net, Net.notify_ready, Round.events]
          omega
    · refine ssl_stops heq (by rw [balance_writeFailure]; omega) ?_ (by simp)
      simp only [World.writeFailure_net, Net.notify_ready, Round.events]
      omega

/-- What `Lib.Amortized` says of a loop around libssl. -/
theorem frugal_of_amortized {α β : Type} {f : List (Round α) → World W → World W × Exit β}
    (h : Amortized (sslTariff W α β) f) (rounds : List (Round α)) (w : World W) :
    Frugal 1 (readyBits w.net.ready + turnEvents rounds < rounds.length) w (f rounds w) :=
  ⟨h.balance_le rounds w, h.not_stuck rounds w⟩

/-! ## The loops around system calls -/

/-- What `try_io` does: no call, a call that would block and so uses up the bit, or another call. -/
inductive Tried {α : Type} (d : Dir) (c : Call) (result : IoResult α) (w : World W) :
    World W × IoResult α → Prop
  | idle (hready : w.net.ready d = false) : Tried d c result w (w, .error (.simple .wouldBlock))
  | blocked {e : IoError} (hready : w.net.ready d = true) (hkind : e.kind = .wouldBlock) :
      Tried d c result w ((w.call c).signal (.clear d), .error e)
  | made (hkind : ∀ e, result = .error e → e.kind ≠ .wouldBlock) :
      Tried d c result w (w.call c, result)

/-- `try_io` does one of these three. -/
theorem tryIo_tried {α : Type} (d : Dir) (c : Call) (result : IoResult α) (w : World W) :
    Tried d c result w (tryIo d c result w) := by
  unfold tryIo
  split_ifs with hready
  · rcases result with e | a
    · simp only
      split_ifs with hkind
      · exact .blocked hready hkind
      · apply Tried.made
        intro e' he'
        obtain rfl := Except.error.inj he'
        exact hkind
    · exact .made (by simp)
  · exact .idle (by simpa using hready)

/-- A wait on the kTLS path leaves the bits alone. -/
@[simp] theorem balance_pollReady (site : WaitSite) (d : Dir) (wk : SocketWaker W)
    (gone : Option IoError) (w : World W) :
    (pollReady site d wk gone w).1.balance = w.balance := by
  unfold pollReady
  rcases gone with _ | e
  · simp only
    split_ifs
    · rfl
    · exact balance_arm w d wk
  · simp [Call.costs, Call.made]

/-- A wait that returns at once has found the bit set. -/
theorem pollReady_ready {site : WaitSite} {d : Dir} {wk : SocketWaker W} {gone : Option IoError}
    (h : pollReady site d wk gone w = (w', .ready (.ok ()))) : w.net.ready d = true := by
  unfold pollReady at h
  rcases gone with _ | e
  · simp only at h
    split_ifs at h with hready
    · exact hready
    · cases (Prod.mk.inj h).2
  · cases (Prod.mk.inj h).2

/-- A call that would block is paid for by the bit. -/
theorem Tried.balance_of_blocked {α : Type} {d : Dir} {c : Call} {result : IoResult α} {e : IoError}
    (ht : Tried d c result w (w', .error e)) (hkind : e.kind = .wouldBlock) :
    w'.balance ≤ w.balance := by
  cases ht with
  | idle => exact le_rfl
  | blocked hready =>
      have hclear := balance_clear (w.call c) hready
      rw [balance_call] at hclear
      split_ifs at hclear <;> omega
  | made hne => exact absurd hkind (hne e rfl)

/-- Afterwards the bit is clear. -/
theorem Tried.ready_of_blocked {α : Type} {d : Dir} {c : Call} {result : IoResult α} {e : IoError}
    (ht : Tried d c result w (w', .error e)) (hkind : e.kind = .wouldBlock) :
    w'.net.ready d = false := by
  cases ht with
  | idle hready => exact hready
  | blocked => simp [Net.apply]
  | made hne => exact absurd hkind (hne e rfl)

/-- However `try_io` ends, it costs no more than the call. -/
theorem Tried.balance_le {α : Type} {d : Dir} {c : Call} {result x : IoResult α}
    (ht : Tried d c result w (w', x)) : w'.balance ≤ w.balance + if c.costs then 1 else 0 := by
  cases ht with
  | idle => split_ifs <;> omega
  | blocked hready =>
      have hclear := balance_clear (w.call c) hready
      rw [balance_call] at hclear
      omega
  | made => exact (balance_call w c).le

/-- A turn of the loop around `write(2)` that goes on has had an event, or its call was interrupted. -/
def SysRound.stalls (r : SysRound) : ℕ :=
  r.beforePoll.length +
    match r.result with
    | .ok _ => 0
    | .error errno => if decodeErrorKind errno = .interrupted then 1 else 0

/-- The result of a `write(2)`, as `try_io` hands it on, was interrupted: so was the call, and the
interruption pays for it. -/
theorem Tried.interrupted {buf : Bytes} {r : SysRound} {e : IoError}
    (ht : Tried .write (.write buf r.result) (r.result.mapError .os) w (w', .error e))
    (hkind : e.kind = .interrupted) : w'.balance = w.balance ∧ 0 < r.stalls := by
  generalize hx : (.error e : IoResult ℕ) = x at ht
  cases ht with
  | idle =>
      obtain rfl := Except.error.inj hx
      cases hkind
  | blocked hready hblock =>
      obtain rfl := Except.error.inj hx
      rw [hkind] at hblock
      cases hblock
  | made =>
      rcases hres : r.result with errno | n
      · rw [hres] at hx
        obtain rfl := Except.error.inj hx
        have hintr : decodeErrorKind errno = .interrupted := hkind
        constructor
        · rw [balance_call]
          simp [Call.costs, Call.interrupted, hintr]
        · simp [SysRound.stalls, hres, hintr]
      · rw [hres] at hx
        cases hx

/-- The account of the loop around `write(2)`. -/
def writeTariff (W : Type) [DecidableEq W] : Tariff SysRound (World W) (Exit (Poll (IoResult ℕ))) where
  balance := World.balance
  credit _ := 0
  gain := SysRound.stalls
  stuck x := x = .running

section turns

variable {f : List SysRound → World W → World W × Exit (Poll (IoResult ℕ))} {r : SysRound}
  {rs : List SysRound}

/-- A turn of the loop around `write(2)` that ends it makes at most one call that is not paid for. -/
theorem write_stops {x : Exit (Poll (IoResult ℕ))} (heq : f (r :: rs) w = (w', x))
    (hcost : w'.balance ≤ w.balance + 1) (hx : x ≠ .running) :
    Turned (writeTariff W) f r rs w :=
  .stops heq hcost (Nat.zero_le _) hx

/-- A turn that goes on was stalled: its call was interrupted, or has used up the bit. -/
theorem write_again (heq : f (r :: rs) w = f rs w') (hcost : w'.balance ≤ w.balance)
    (hstall : 0 < r.stalls) : Turned (writeTariff W) f r rs w := by
  refine .again heq hcost ?_
  show 0 + 1 ≤ 0 + r.stalls
  omega

end turns

/-- The loop of `ktls_poll_write` pays for every turn but the last: an interrupted `write(2)` is granted,
and one that would block has used up the bit that let it through. -/
theorem ktlsPollWrite_amortized (cx : W) (buf : Bytes) :
    Amortized (writeTariff W) (ktlsPollWrite cx buf) := by
  refine ⟨fun w => rfl, ?_⟩
  intro r rs w
  have hev := balance_events w r.before
  have ht := tryIo_tried .write (.write buf r.result) (r.result.mapError .os) (w.events r.before)
  rcases htry : tryIo .write (.write buf r.result) (r.result.mapError .os) (w.events r.before) with
    ⟨w₁, e | n⟩
  · rw [htry] at ht
    have hcost : w₁.balance ≤ w.balance + 1 := by
      have hle := ht.balance_le
      split_ifs at hle <;> omega
    by_cases hblock : e.kind = .wouldBlock
    · have hpaid := ht.balance_of_blocked hblock
      have hpoll := balance_events w₁ r.beforePoll
      have hkeep := balance_pollReady .ktlsWrite .write (.task cx) r.gone (w₁.events r.beforePoll)
      rcases hwait : pollReady .ktlsWrite .write (.task cx) r.gone (w₁.events r.beforePoll) with
        ⟨w₂, ((e' | ⟨⟨⟩⟩) | _)⟩
      · rw [hwait] at hkeep
        have heq : ktlsPollWrite cx buf (r :: rs) w = (w₂, .returned (.ready (.error e'))) := by
          rw [ktlsPollWrite, htry]
          simp only [if_pos hblock, hwait]
        exact write_stops heq (by simp only at hkeep; omega) (by simp)
      · rw [hwait] at hkeep
        have heq : ktlsPollWrite cx buf (r :: rs) w = ktlsPollWrite cx buf rs w₂ := by
          rw [ktlsPollWrite, htry]
          simp only [if_pos hblock, hwait]
        refine write_again heq (by simp only at hkeep; omega) ?_
        -- the bit was clear after the call, so that an event has set it
        have hset := pollReady_ready hwait
        have hclear := ht.ready_of_blocked hblock
        rcases hds : r.beforePoll with _ | ⟨d, ds⟩
        · rw [hds, World.events_nil, hclear] at hset
          cases hset
        · simp only [SysRound.stalls, hds, List.length_cons]
          omega
      · rw [hwait] at hkeep
        have heq : ktlsPollWrite cx buf (r :: rs) w = (w₂, .returned .pending) := by
          rw [ktlsPollWrite, htry]
          simp only [if_pos hblock, hwait]
        exact write_stops heq (by simp only at hkeep; omega) (by simp)
    by_cases hintr : e.kind = .interrupted
    · obtain ⟨hsame, hstall⟩ := ht.interrupted hintr
      have heq : ktlsPollWrite cx buf (r :: rs) w = ktlsPollWrite cx buf rs w₁ := by
        rw [ktlsPollWrite, htry]
        simp only [if_neg hblock, if_pos hintr]
      exact write_again heq (by omega) hstall
    · have heq : ktlsPollWrite cx buf (r :: rs) w = (w₁, .returned (.ready (.error e))) := by
        rw [ktlsPollWrite, htry]
        simp only [if_neg hblock, if_neg hintr]
      exact write_stops heq hcost (by simp)
  · rw [htry] at ht
    have hle := ht.balance_le
    have heq : ktlsPollWrite cx buf (r :: rs) w = (w₁, .returned (.ready (.ok n))) := by
      rw [ktlsPollWrite, htry]
    exact write_stops heq (by split_ifs at hle <;> omega) (by simp)

/-- So a whole `ktls_poll_write` makes at most one call that is not paid for. -/
theorem ktlsPollWrite_frugal (cx : W) (buf : Bytes) (rounds : List SysRound) (w : World W) :
    Frugal 1 ((rounds.map SysRound.stalls).sum < rounds.length) w (ktlsPollWrite cx buf rounds w) := by
  have h := ktlsPollWrite_amortized cx buf
  refine ⟨h.balance_le rounds w, ?_⟩
  intro henough
  exact h.not_stuck rounds w ((Nat.zero_add _).le.trans_lt henough)

/-- A wait of a loop with a budget: it is over, or it goes on with the budget that is left. -/
theorem frugal_wait {budget : ℕ} {enough : Prop} {w₁ : World W}
    {next : World W → World W × Exit (Poll (IoResult Unit))} (site : WaitSite) (cx : W)
    (gone : Option IoError) (ds : List Dir) (hcost : w₁.balance ≤ w.balance + 1)
    (hnext : ∀ w₂, Frugal budget enough w₂ (next w₂)) :
    Frugal (budget + 1) enough w
      (afterWait next (pollReady site .write (.task cx) gone (w₁.events ds))) := by
  have hpoll := balance_events w₁ ds
  have hkeep := balance_pollReady site .write (.task cx) gone (w₁.events ds)
  generalize pollReady site .write (.task cx) gone (w₁.events ds) = p at hkeep
  rcases p with ⟨w₂, ((e | ⟨⟨⟩⟩) | _)⟩
  · refine ⟨?_, by simp [afterWait]⟩
    simp only [afterWait] at hkeep ⊢
    push_cast
    omega
  · obtain ⟨hrest, hreturns⟩ := hnext w₂
    refine ⟨?_, hreturns⟩
    simp only [afterWait] at hkeep ⊢
    push_cast
    omega
  · refine ⟨?_, by simp [afterWait]⟩
    simp only [afterWait] at hkeep ⊢
    push_cast
    omega

/-- `poll_close_notify` makes at most as many calls as its budget allows, by induction on the budget. -/
theorem closeNotifyLoop_frugal (cx : W) (budget : ℕ) (rounds : List SysRound) (w : World W) :
    Frugal budget (budget ≤ rounds.length) w (closeNotifyLoop cx budget rounds w) := by
  induction budget generalizing rounds w with
  | zero =>
      refine ⟨?_, by simp [closeNotifyLoop]⟩
      rw [closeNotifyLoop, balance_wakeByRef]
      simp
  | succ budget ih =>
      rcases rounds with _ | ⟨r, rs⟩
      · refine ⟨?_, by simp⟩
        rw [closeNotifyLoop]
        simp only
        omega
      have hev := balance_events w r.before
      have ht := tryIo_tried .write (.sendmsg r.result) (sendCloseNotify r.result) (w.events r.before)
      have hrest : ∀ w₁, Frugal budget (budget + 1 ≤ (r :: rs).length) w₁
          (closeNotifyLoop cx budget rs w₁) := by
        intro w₁
        exact ⟨(ih rs w₁).cost, fun h => (ih rs w₁).returns (by simpa using h)⟩
      unfold closeNotifyLoop
      generalize tryIo .write (.sendmsg r.result) (sendCloseNotify r.result) (w.events r.before) = p
        at ht ⊢
      rcases p with ⟨w₁, e | ⟨⟨⟩⟩⟩
      · have hle := ht.balance_le
        simp only [Call.costs, Call.made, Call.interrupted, Bool.not_false, Bool.and_self, if_true] at hle
        have hcost : w₁.balance ≤ w.balance + 1 := by omega
        simp only
        split_ifs
        · obtain ⟨hsame, hreturns⟩ := hrest w₁
          refine ⟨?_, hreturns⟩
          push_cast
          omega
        · exact frugal_wait .closeNotify cx r.gone r.beforePoll hcost hrest
        · refine ⟨?_, by simp⟩
          simp only
          push_cast
          omega
      · have hle := ht.balance_le
        simp only [Call.costs, Call.made, Call.interrupted, Bool.not_false, Bool.and_self, if_true] at hle
        refine ⟨?_, by simp⟩
        simp only
        push_cast
        omega

/-- A receive costs at most one call. -/
theorem recvmsg_balance {cx : W} {cap : ℕ} {k k₁ : RecvState W} {got : Option RecvMsg}
    (heq : (recvEnv cx).tryRecvmsg k cap = (k₁, got)) : k₁.world.balance ≤ k.world.balance + 1 := by
  have hev := balance_events k.world (k.rest.headD RecvRound.silent).before
  unfold recvEnv at heq
  simp only at heq
  split_ifs at heq with hready
  · rcases hm : (k.rest.headD RecvRound.silent).msg with errno | _
    · rw [hm] at heq
      simp only at heq
      split_ifs at heq
      · -- the readiness that is cleared pays for the call
        obtain ⟨rfl, -⟩ := Prod.mk.inj heq
        have hclear := balance_clear ((k.world.events (k.rest.headD RecvRound.silent).before).call
          (.recvmsg cap)) hready
        rw [balance_call] at hclear
        simp only [Call.costs, Call.made, Call.interrupted, Bool.not_false, Bool.and_self, if_true]
          at hclear ⊢
        omega
      · obtain ⟨rfl, -⟩ := Prod.mk.inj heq
        rw [balance_call]
        simp only [Call.costs, Call.made, Call.interrupted, Bool.not_false, Bool.and_self, if_true]
        omega
    · rw [hm] at heq
      obtain ⟨rfl, -⟩ := Prod.mk.inj heq
      rw [balance_call]
      simp only [Call.costs, Call.made, Call.interrupted, Bool.not_false, Bool.and_self, if_true]
      omega
  · obtain ⟨rfl, -⟩ := Prod.mk.inj heq
    simp only
    omega

/-- A wait for readability costs nothing. -/
theorem pollReadReady_balance {cx : W} {k k₂ : RecvState W} {p : Poll (IoResult Unit)}
    (heq : (recvEnv cx).pollReadReady k = (k₂, p)) : k₂.world.balance ≤ k.world.balance := by
  unfold recvEnv at heq
  simp only at heq
  obtain ⟨rfl, -⟩ := Prod.mk.inj heq
  rw [balance_pollReady]
  exact balance_events k.world k.round.beforePoll

/-- So the kTLS read loop costs one call a round, by induction on its rounds. -/
theorem Polls.balance {abi : Abi} {cx : W} {cap n : ℕ} {r r' : RecordReader} {k k' : RecvState W}
    {e : Ktls.Ending} (hpolls : Polls abi (recvEnv cx) cap n r k e r' k') :
    k'.world.balance ≤ k.world.balance + n := by
  induction hpolls with
  | outOfBudget => exact (balance_wakeByRef _ cx).le.trans (by simp)
  | interrupted hr _ ih =>
      have hle := recvmsg_balance hr
      push_cast
      omega
  | retried hr _ hw _ ih =>
      have hle := recvmsg_balance hr
      have hle' := pollReadReady_balance hw
      push_cast
      omega
  | skipped hr _ _ _ ih =>
      have hle := recvmsg_balance hr
      push_cast
      omega
  | firstAlertByte hr _ _ _ _ ih =>
      have hle := recvmsg_balance hr
      push_cast
      omega
  | notReady hr _ hw =>
      have hle := recvmsg_balance hr
      have hle' := pollReadReady_balance hw
      push_cast
      omega
  | readiness hr _ hw =>
      have hle := recvmsg_balance hr
      have hle' := pollReadReady_balance hw
      push_cast
      omega
  | data hr | closed hr | rejected hr | ancillary hr | oversized hr | socket hr =>
      have hle := recvmsg_balance hr
      push_cast
      omega

end TokioAwsLc.Stream
