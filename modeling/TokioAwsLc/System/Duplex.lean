import TokioAwsLc.System.Receive

/-!
# Two streams and the wire between them

A connection of two streams of this crate, each of them on either data path. The records that one of them
emits travel to the other in order, which is what TLS makes of TCP; when they come in, or whether they ever
do, is up to the network, and what libssl and the kernel hand out of them is up to these, as long as it is
honest. Everything else is arbitrary: the order of the polls on both sides, their buffers, wakers and results,
the readiness events, and where a read meets a FIN.

* `Duplex`: the two sessions, and for each side the records on the way to it and those that have come in.
* `Move`: a side is polled, or a record comes in.
* `Connected`: the invariant. What a side has delivered, with what is still on the way, is what its peer has
  emitted.
* `duplex_delivery`: the result, for every run of the two.
-/

set_option linter.unusedSectionVars false

namespace TokioAwsLc.System

open Ktls (Abi Record plaintext verdict restore)
open TokioAwsLc.Stream

variable {W : Type} [DecidableEq W]

/-! ## The system -/

/-- The two ends of a connection. -/
inductive Side
  | client
  | server
  deriving DecidableEq, Repr

/-- The other end. -/
def Side.peer : Side → Side
  | .client => .server
  | .server => .client

/-- The peer of the peer is oneself. -/
@[simp] theorem Side.peer_peer (x : Side) : x.peer.peer = x := by
  cases x <;> rfl

/-- Nobody is their own peer. -/
theorem Side.peer_ne (x : Side) : x.peer ≠ x := by
  cases x <;> simp [Side.peer]

/-- There are two sides. -/
theorem Side.eq_peer_of_ne {x y : Side} (h : y ≠ x) : y = x.peer := by
  cases x <;> cases y <;> first | rfl | exact absurd rfl h

/-- Two sessions, and the records between them. -/
structure Duplex (W : Type) where
  session : Side → Session W
  /-- The records on the way to a side. -/
  flight : Side → List Record
  /-- The records that have come in for a side and have not been read. -/
  arrived : Side → List Record

/-- Two new streams on sockets in any state. -/
def Duplex.start (ktls disabled : Side → Bool) (ready : Side → Dir → Bool)
    (armed : Side → Dir → Option W) : Duplex W where
  session x := .start (World.established (ktls x) (disabled x) (.fresh (ready x) (armed x)))
  flight _ := []
  arrived _ := []

/-- One move of the system. -/
inductive Move (abi : Abi) : Duplex W → Duplex W → Prop
  /-- A side is polled, and gets honest answers. What it emits in that is on the way to its peer, cut into
  records as libssl or the kernel like. -/
  | poll {d : Duplex W} (x : Side) (op : Op W) {rest new : List Record} {u : List (Act W)}
      (hhonest : Honest abi (d.session x) (d.arrived x) op rest)
      (htrace : ((d.session x).step abi op).1.world.trace = (d.session x).world.trace ++ u)
      (hnew : Emitted u new) :
      Move abi d
        { session := Function.update d.session x ((d.session x).step abi op).1
          flight := Function.update d.flight x.peer (d.flight x.peer ++ new)
          arrived := Function.update d.arrived x rest }
  /-- The next record comes in. -/
  | arrive {d : Duplex W} (x : Side) {r : Record} {tail : List Record} (hflight : d.flight x = r :: tail) :
      Move abi d
        { d with
          flight := Function.update d.flight x tail
          arrived := Function.update d.arrived x (d.arrived x ++ [r]) }

/-- The states that a connection can get into. -/
def Reaches (abi : Abi) (d d' : Duplex W) : Prop :=
  Relation.ReflTransGen (Move abi) d d'

/-! ## The invariant -/

/-- Both sessions are sound, and each side is behind what the other has emitted. -/
structure Connected (ktls : Side → Bool) (d : Duplex W) : Prop where
  polled : ∀ x, Polled (ktls x) (d.session x)
  behind : ∀ x, ∃ ks, Emitted (d.session x.peer).world.trace ks ∧
    Behind (ktls x) (d.session x) (d.arrived x) (d.flight x) ks

/-- The invariant holds of two fresh streams. -/
theorem connected_start (ktls disabled : Side → Bool) (ready : Side → Dir → Bool)
    (armed : Side → Dir → Option W) : Connected ktls (Duplex.start ktls disabled ready armed) where
  polled x := polled_start (ktls x) (disabled x) (ready x) (armed x)
  behind x := by
    refine ⟨[], .nil, ?_⟩
    rcases hk : ktls x with _ | _
    · exact .userspace rfl (Flow.refl [])
    · have hheld : Ktls.Holds Ktls.RecordReader.default none := Ktls.holds_default
      exact .live rfl hheld (fun hne => absurd rfl hne) (Flow.refl [])

/-- **Step lemma.** The side that is polled goes on reading, and its peer has more to read. -/
theorem Connected.move {abi : Abi} {ktls : Side → Bool} {d d' : Duplex W} (h : Connected ktls d)
    (hm : Move abi d d') : Connected ktls d' := by
  cases hm with
  | @poll x op rest new u hhonest htrace hnew =>
      refine ⟨?_, ?_⟩
      · intro y
        by_cases hy : y = x
        · subst hy
          simp only [Function.update_self]
          exact (h.polled y).step abi op
        · simp only [Function.update_of_ne hy]
          exact h.polled y
      · intro y
        by_cases hy : y = x
        · subst hy
          simp only [Function.update_self, Function.update_of_ne y.peer_ne,
            Function.update_of_ne y.peer_ne.symm]
          obtain ⟨ks, hks, hbehind⟩ := h.behind y
          exact ⟨ks, hks, hbehind.poll (h.polled y) abi hhonest⟩
        · obtain rfl := Side.eq_peer_of_ne hy
          simp only [Function.update_of_ne x.peer_ne, Function.update_self, Side.peer_peer]
          obtain ⟨ks, hks, hbehind⟩ := h.behind x.peer
          rw [Side.peer_peer] at hks
          refine ⟨ks ++ new, ?_, hbehind.append new⟩
          rw [htrace]
          exact hks.append hnew
  | @arrive x r tail hflight =>
      refine ⟨h.polled, ?_⟩
      intro y
      by_cases hy : y = x
      · subst hy
        simp only [Function.update_self]
        obtain ⟨ks, hks, hbehind⟩ := h.behind y
        refine ⟨ks, hks, ?_⟩
        apply Behind.arrive
        rw [← hflight]
        exact hbehind
      · simp only [Function.update_of_ne hy]
        exact h.behind y

/-- **Run lemma.** -/
theorem connected_reaches {abi : Abi} {ktls disabled : Side → Bool} {ready : Side → Dir → Bool}
    {armed : Side → Dir → Option W} {d : Duplex W}
    (hr : Reaches abi (Duplex.start ktls disabled ready armed) d) : Connected ktls d :=
  Lib.invariant_of_steps (I := Connected ktls) (fun _ _ hm h => h.move hm) hr
    (connected_start ktls disabled ready armed)

/-! ## The result -/

/-- The reader of a session has not ended: it never does on the userspace path, and on the kTLS path it does
with a close_notify or an error. -/
def Live (ktls : Bool) (s : Session W) : Prop :=
  ktls = true → s.world.stream.ktlsReader.terminal = none

/-- The alert byte that a reader holds is no plaintext. -/
theorem plaintext_restore {held : Option UInt8} {rx : List Record} (hmid : Ktls.Midway held rx)
    (ls : List Record) : plaintext (restore held rx ++ ls) = plaintext (rx ++ ls) := by
  rcases held with _ | l
  · rfl
  · obtain ⟨p, rest, -, rfl⟩ := hmid (by simp)
    have halert : Ktls.alertType ≠ Ktls.applicationData := by decide
    rw [restore, List.cons_append, List.cons_append, Ktls.plaintext_control halert,
      Ktls.plaintext_control halert]

/-- What is delivered and what is still between the two streams. -/
theorem Behind.conserved {ktls : Bool} {s : Session W} {rx tail ks : List Record}
    (h : Behind ktls s rx tail ks) (hlive : Live ktls s) :
    plaintext ks = s.delivered ++ plaintext (rx ++ tail) := by
  cases h with
  | userspace hk hflow => exact hflow.bytes
  | live hk hheld hmid hflow => rw [hflow.bytes, plaintext_restore hmid]
  | closed hk hterm =>
      rw [hlive hk] at hterm
      cases hterm
  | failed hk hterm =>
      rw [hlive hk] at hterm
      cases hterm

/-- What the side `x` of a connection gets from its peer. -/
structure Delivers (abi : Abi) (ktls : Side → Bool) (d : Duplex W) (x : Side) : Prop where
  /-- What was delivered was written by the peer, in this order. -/
  in_order : (d.session x).delivered <+: (d.session x.peer).acked
  /-- No byte is lost or doubled: what the peer was told is written was delivered, is on the way, or is
  pending at the peer. -/
  conserved : Live (ktls x) (d.session x) →
    (d.session x.peer).acked = (d.session x).delivered ++ plaintext (d.arrived x ++ d.flight x) ++
      (d.session x.peer).world.stream.pendingWrite
  /-- A read that comes to a clean end has delivered everything, and the peer has shut down. -/
  clean_end : ∀ cx cap script rest, 0 < cap →
    Honest abi (d.session x) (d.arrived x) (.read cx cap script) rest →
    (pollRead abi cx cap script ((d.session x).world.signal (.called .reader cx))).2 =
        .returned (.ready (.ok [])) →
      (d.session x.peer).world.stream.shutdown = .closed ∧
        (d.session x).delivered = (d.session x.peer).acked

/-- **End to end.** For every mixture of data paths, every order of polls on both sides and every honest
behaviour of libssl, the kernel and the network, each side reads exactly what the other has written, and no
truncation passes for a clean end. -/
theorem duplex_delivery (abi : Abi) (ktls disabled : Side → Bool) (ready : Side → Dir → Bool)
    (armed : Side → Dir → Option W) :
    ∀ d, Reaches abi (Duplex.start ktls disabled ready armed) d → ∀ x, Delivers abi ktls d x := by
  intro d hr x
  have h := connected_reaches hr
  obtain ⟨ks, hks, hbehind⟩ := h.behind x
  have hacked := (h.polled x.peer).acked hks
  refine ⟨?_, ?_, ?_⟩
  · rw [hacked]
    exact hbehind.delivered_le.trans (List.prefix_append _ _)
  · intro hlive
    rw [hacked, hbehind.conserved hlive]
  · intro cx cap script rest hcap hhonest heof
    obtain ⟨hall, hverdict⟩ := hbehind.eof (h.polled x) abi hcap hhonest heof
    obtain ⟨hshut, hacked⟩ := (h.polled x.peer).acked_of_eof hks hverdict
    exact ⟨hshut, by rw [hacked, hall]⟩

/-! ## An exchange

A client on the userspace path writes three bytes, libssl makes one record of them, and a server on the kTLS
path reads it. -/

namespace Exchange

def abi : Abi := ⟨17, 24, by decide, by decide⟩

def start : Duplex Unit :=
  Duplex.start (fun x => x = .server) (fun _ => false) (fun _ _ => true) (fun _ _ => none)

def write : Op Unit := .write () [1, 2, 3] ⟨[], [], .done (), [], []⟩

def delivery : Ktls.Delivery := ⟨3, 0, .once⟩

def sent : List Record := [⟨Ktls.applicationData, [1, 2, 3]⟩]

def script : ReadScript :=
  ⟨[], [], [⟨[], Ktls.encode abi .once (Ktls.deliver delivery 8 sent).1, [], none⟩], []⟩

/-- What the client does. -/
def writing : List (Act Unit) :=
  [.signal (.called .writer ()), .call (.sslWrite .fresh [1, 2, 3] (.done ())),
    .signal (.returned .writer false)]

/-- What the client's write leaves in its history. -/
theorem trace_write : ((start.session .client).step abi write).1.world.trace =
    (start.session .client).world.trace ++ writing :=
  rfl

/-- The kernel may cut it into these records. -/
theorem emitted_write : Emitted writing sent := by
  have hcuts : Cuts [1, 2, 3] sent := by
    refine ⟨?_, rfl, ?_⟩
    · intro r hr
      obtain rfl := List.mem_singleton.mp hr
      rfl
    · intro r hr
      obtain rfl := List.mem_singleton.mp hr
      exact List.cons_ne_nil _ _
  have hcalled : Emitted [.signal (.called .writer ())] [] :=
    Emitted.nil.concat (a := .signal (.called .writer ())) rfl
  have hwritten : Emitted [.signal (.called .writer ()), .call (.sslWrite .fresh [1, 2, 3] (.done ()))]
      sent :=
    hcalled.concat (a := .call (.sslWrite .fresh [1, 2, 3] (.done ()))) hcuts
  exact hwritten.concat (a := .signal (.returned .writer false)) rfl

/-- What the server does. -/
def reading : List (Act Unit) :=
  [.signal (.called .reader ()), .call (.recvmsg 8), .signal (.returned .reader false)]

/-- What the server's read leaves in its history. -/
theorem trace_read : ((start.session .server).step abi (.read () 8 script)).1.world.trace =
    (start.session .server).world.trace ++ reading :=
  rfl

/-- A read puts nothing on the wire. -/
theorem emitted_read : Emitted reading [] :=
  ((Emitted.nil.concat (a := .signal (.called .reader ())) rfl).concat (a := .call (.recvmsg 8)) rfl).concat
    (a := .signal (.returned .reader false)) rfl

/-- The record is on the way. -/
def written : Duplex Unit where
  session := Function.update start.session .client ((start.session .client).step abi write).1
  flight := Function.update start.flight .server sent
  arrived := Function.update start.arrived .client []

/-- It has come in. -/
def arrived : Duplex Unit where
  session := written.session
  flight := Function.update written.flight .server []
  arrived := Function.update written.arrived .server sent

/-- It has been read. -/
def read : Duplex Unit where
  session := Function.update arrived.session .server
    ((arrived.session .server).step abi (.read () 8 script)).1
  flight := Function.update arrived.flight .client []
  arrived := Function.update arrived.arrived .server []

/-- The exchange is a run of the two streams. -/
theorem reaches_read : Reaches abi start read := by
  have hwrite : Move abi start written := .poll .client write rfl trace_write emitted_write
  have harrive : Move abi written arrived := .arrive .server rfl
  have hhonest : Honest abi (arrived.session .server) (arrived.arrived .server)
      (.read () 8 script) [] := .cons (.fragment delivery) .nil
  have hread : Move abi arrived read := .poll .server (.read () 8 script) hhonest trace_read emitted_read
  exact ((Relation.ReflTransGen.single hwrite).tail harrive).tail hread

end Exchange

/-- In the exchange the server delivers what the client has written. -/
theorem duplex_delivery_exchange :
    Reaches Exchange.abi Exchange.start Exchange.read ∧
      (Exchange.read.session .server).delivered = [1, 2, 3] ∧
      Delivers Exchange.abi (fun x => x = .server) Exchange.read .server :=
  ⟨Exchange.reaches_read, rfl, duplex_delivery Exchange.abi (fun x => x = .server) (fun _ => false)
    (fun _ _ => true) (fun _ _ => none) Exchange.read Exchange.reaches_read .server⟩

end TokioAwsLc.System
