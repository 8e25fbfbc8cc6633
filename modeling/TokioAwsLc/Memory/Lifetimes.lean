import TokioAwsLc.Lib.Trace
import TokioAwsLc.Memory.Builders
import TokioAwsLc.Memory.Sessions

/-!
# Nothing leaks, and nothing is freed twice

A program that uses the crate makes configurations and sessions, shares them, uses them and drops them, in
whatever order it likes. The compiler only makes sure that it uses what it owns.

* `Call` has the functions that deal with objects, and `Op` these and the drop of a value. A configuration is
  given by its context and a stream, or the future that will return it, by its session. The count of an `Arc`
  around a configuration is the standard library's: the configuration is dropped with the last clone.
* `World` is a program's state: what it owns, and how often it has panicked. An operation on something that
  the program does not own does not compile, so that a run stops there.
* `Call.balanced` is the rule that every call obeys, and `Accounted` the invariant of all runs.
* `memory_safety`: in any run no object is used or freed after it was freed, all that is there can be reached
  from what the program owns, and the functions do to the values what the model without objects says. All
  that can be left behind is one ALPN buffer for each panic.
-/

set_option linter.unusedSectionVars false

namespace TokioAwsLc.Memory

open Config Handshake
open Ktls (Fault)
open Lib.Guard Lib.Ownership

variable {Cert Key : Type}

/-! ## Calls -/

/-- Source: `src/ffi.rs` `SslCtx::clone` -/
def cloneCtx (aws : AwsLc Cert Key) (ctx : Raw .sslCtx) : Owning Cert Key (Raw .sslCtx) := do
  let ok ← within ctx (attempt aws)
  if ok then do
    upRef ctx
    pure ctx
  else
    -- `assert_eq!(ok, 1)`
    throw .panic

/-- The functions that deal with objects, with their arguments. -/
inductive Call (Cert Key : Type)
  | withPemBytes (b : ServerConfigBuilder) (cert key : Bytes)
  | withDerBytes (b : ServerConfigBuilder) (certChain : List Bytes) (key : Bytes)
  | withPemFiles (b : ServerConfigBuilder) (cert key : PemPath)
  | build (b : ClientConfigBuilder)
  | clone (ctx : Raw .sslCtx)
  | connect (ctx : Raw .sslCtx) (cfg : SslCtx Cert Key) (name : String) (fd : ℤ)
  | accept (ctx : Raw .sslCtx) (cfg : SslCtx Cert Key) (fd : ℤ)
  | handshake (ssl : Raw .ssl) (progress : Progress)
  /-- The other functions of a stream: each of them calls libssl on the session. -/
  | io (ssl : Raw .ssl)
  | hasPeerCertificate (ssl : Raw .ssl)
  | peerCertificateDer (i2d : Encoding) (ssl : Raw .ssl)

/-- What a function is called on. -/
def Call.self : Call Cert Key → Option (Ptr Kind)
  | .withPemBytes _ _ _ => none
  | .withDerBytes _ _ _ => none
  | .withPemFiles _ _ _ => none
  | .build _ => none
  | .clone ctx => some ctx
  | .connect ctx _ _ _ => some ctx
  | .accept ctx _ _ => some ctx
  | .handshake ssl _ => some ssl
  | .io ssl => some ssl
  | .hasPeerCertificate ssl => some ssl
  | .peerCertificateDer _ ssl => some ssl

/-- The caller owns the object that is returned. -/
def owning {α : Type} {k : Kind} (m : Owning Cert Key (Raw k × α)) :
    Owning Cert Key (Multiset (Ptr Kind)) := do
  let value ← m
  pure {value.1.ptr}

/-- The caller owns nothing more than before. -/
def lending {α : Type} (m : Owning Cert Key α) : Owning Cert Key (Multiset (Ptr Kind)) := do
  let _ ← m
  pure 0

variable (aws : AwsLc Cert Key) (isIp : String → Bool)

/-- What a call does, and what it gives to the caller. -/
def Call.run : Call Cert Key → Owning Cert Key (Multiset (Ptr Kind))
  | .withPemBytes b cert key => owning (Memory.withPemBytes aws b cert key)
  | .withDerBytes b certChain key => owning (Memory.withDerBytes aws b certChain key)
  | .withPemFiles b cert key => owning (Memory.withPemFiles aws b cert key)
  | .build b => owning (Memory.build aws b)
  | .clone ctx => do
      let clone ← cloneCtx aws ctx
      pure {clone.ptr}
  | .connect ctx cfg name fd => owning (prepareClient aws isIp ctx cfg name fd)
  | .accept ctx cfg fd => owning (prepareServer aws ctx cfg fd)
  | .handshake ssl progress => lending (sslDoHandshake ssl progress)
  | .io ssl => lending (borrow ssl)
  | .hasPeerCertificate ssl => lending (Memory.hasPeerCertificate ssl)
  | .peerCertificateDer i2d ssl => lending (Memory.peerCertificateDer aws i2d ssl)

section balance

variable {aws} {isIp} {R : Multiset (Ptr Kind)}

/-- A clone is one more reference, unless the assertion fails. -/
theorem triple_cloneCtx {ctx : Raw .sslCtx} (hctx : ctx.ptr ∈ R) :
    Triple (Owns R) (cloneCtx aws ctx) (fun clone => Owns (clone.ptr ::ₘ R)) (Failed R) := by
  apply (triple_within_attempt hctx).bind
  intro ok
  apply triple_ite
  · intro _
    apply (triple_upRef hctx).bind
    intro _
    exact triple_pure fun _ hs => hs
  · intro _
    exact triple_throw fun _ hs => .inl hs

/-- What is constructed belongs to the caller. -/
theorem triple_owning {α : Type} {k : Kind} {m : Owning Cert Key (Raw k × α)} (h : Builds R m) :
    Triple (Owns R) (owning m) (fun new => Owns (new + R)) (Failed R) := by
  apply Triple.bind h
  intro value
  rw [← Multiset.singleton_add]
  exact triple_pure fun _ hs => hs

/-- What is only used does not. -/
theorem triple_lending {α : Type} {m : Owning Cert Key α} (h : Keeps R m) :
    Triple (Owns R) (lending m) (fun new => Owns (new + R)) (Failed R) := by
  apply h.failing.bind
  intro _
  apply triple_pure
  intro s hs
  rw [zero_add]
  exact hs

/-- **The rule of every call**: on what the program owns it can be made, and afterwards the program owns what
it has owned and what the call has returned. -/
theorem Call.balanced (aws : AwsLc Cert Key) (isIp : String → Bool) (c : Call Cert Key)
    (hself : ∀ p, c.self = some p → p ∈ R) :
    Triple (Owns R) (c.run aws isIp) (fun new => Owns (new + R)) (Failed R) := by
  cases c with
  | withPemBytes b cert key => exact triple_owning (builds_withPemBytes b cert key)
  | withDerBytes b certChain key => exact triple_owning (builds_withDerBytes b certChain key)
  | withPemFiles b cert key => exact triple_owning (builds_withPemFiles b cert key)
  | build b => exact triple_owning (triple_failing (triple_build b))
  | clone ctx =>
      apply (triple_cloneCtx (hself _ rfl)).bind
      intro clone
      rw [← Multiset.singleton_add]
      exact triple_pure fun _ hs => hs
  | connect ctx cfg name fd => exact triple_owning (triple_failing (triple_prepareClient (hself _ rfl)))
  | accept ctx cfg fd => exact triple_owning (triple_failing (triple_prepareServer (hself _ rfl)))
  | handshake ssl progress => exact triple_lending (triple_sslDoHandshake (hself _ rfl) progress)
  | io ssl => exact triple_lending (triple_borrow (hself _ rfl))
  | hasPeerCertificate ssl => exact triple_lending (keeps_hasPeerCertificate (hself _ rfl))
  | peerCertificateDer i2d ssl => exact triple_lending (keeps_peerCertificateDer i2d (hself _ rfl))

end balance

/-! ## Programs -/

/-- A program calls a function, or drops a value. -/
inductive Op (Cert Key : Type)
  | call (c : Call Cert Key)
  | drop (p : Ptr Kind)

/-- The objects, the references that the program owns, and how often it has panicked. -/
structure World (Cert Key : Type) where
  state : State Cert Key
  owned : Multiset (Ptr Kind)
  panics : ℕ

namespace World

/-- Before the first call. -/
def start (lib : AwsState Cert Key) : World Cert Key :=
  ⟨⟨lib, .empty⟩, 0, 0⟩

/-- A call returns a value or an error, or it panics. -/
def returns (w : World Cert Key) :
    EStateM.Result Fault (State Cert Key) (Multiset (Ptr Kind)) → World Cert Key
  | .ok new t => { w with state := t, owned := new + w.owned }
  | .error (.error _) t => { w with state := t }
  | .error .panic t => { w with state := t, panics := w.panics + 1 }

/-- One operation. The flag says whether it is one that the compiler accepts. -/
def step (w : World Cert Key) : Op Cert Key → World Cert Key × Bool
  | .call c =>
      if c.self.all (· ∈ w.owned) then (w.returns ((c.run aws isIp).run w.state), true) else (w, false)
  | .drop p =>
      if p ∈ w.owned then
        ({ w with state := w.state.drop p, owned := w.owned.erase p }, true)
      else
        (w, false)

/-- A whole program. -/
def run (w : World Cert Key) (ops : List (Op Cert Key)) : World Cert Key :=
  (Lib.Runs.exec (step aws isIp) w ops).1

end World

/-! ## The invariant -/

/-- The program owns what it seems to own, and there are not more lost buffers than panics. -/
def Accounted (w : World Cert Key) : Prop :=
  ∃ lost : Multiset (Raw .alpnWire), lost.card ≤ w.panics ∧ Owns (lost.map Raw.ptr + w.owned) w.state

section invariant

variable {aws} {isIp} {w : World Cert Key}

/-- A call keeps the account, whether it returns, fails or panics. -/
theorem Accounted.returns {c : Call Cert Key} (hw : Accounted w)
    (hself : ∀ p, c.self = some p → p ∈ w.owned) :
    Accounted (w.returns ((c.run aws isIp).run w.state)) := by
  obtain ⟨lost, hcard, howns⟩ := hw
  have hself' : ∀ p, c.self = some p → p ∈ lost.map Raw.ptr + w.owned :=
    fun p hp => Multiset.mem_add.mpr (.inr (hself p hp))
  have hrule := c.balanced aws isIp hself' w.state howns
  rcases hrun : (c.run aws isIp).run w.state with ⟨new, t⟩ | ⟨e, t⟩
  · rw [hrun] at hrule
    refine ⟨lost, hcard, ?_⟩
    change Owns (new + (lost.map Raw.ptr + w.owned)) t at hrule
    rwa [add_left_comm] at hrule
  · rw [hrun] at hrule
    rcases hrule with hs | ⟨rfl, box, hs⟩
    · -- an error, or a panic that leaves nothing behind
      rcases e with _ | message
      · exact ⟨lost, Nat.le_succ_of_le hcard, hs⟩
      · exact ⟨lost, hcard, hs⟩
    · -- the buffer that `install_alpn_wire` had let go of
      refine ⟨box ::ₘ lost, ?_, ?_⟩
      · rw [Multiset.card_cons]
        exact Nat.succ_le_succ hcard
      · rw [Multiset.map_cons, Multiset.cons_add]
        exact hs

/-- So does a drop. -/
theorem Accounted.drop {p : Ptr Kind} (hw : Accounted w) (hp : p ∈ w.owned) :
    Accounted { w with state := w.state.drop p, owned := w.owned.erase p } := by
  obtain ⟨lost, hcard, howns⟩ := hw
  refine ⟨lost, hcard, ?_⟩
  rw [← Multiset.cons_erase hp, Multiset.add_cons] at howns
  exact howns.drop

/-- One operation keeps the account. -/
theorem Accounted.step (hw : Accounted w) (op : Op Cert Key) : Accounted (w.step aws isIp op).1 := by
  cases op with
  | call c =>
      simp only [World.step]
      split_ifs with hself
      · apply hw.returns
        intro p hp
        rw [hp] at hself
        simpa using hself
      · exact hw
  | drop p =>
      simp only [World.step]
      split_ifs with hp
      · exact hw.drop hp
      · exact hw

end invariant

/-! ## The result -/

/-- A session outlives its configuration, and can be used after that has been dropped. -/
example :
    ((World.start Sample.start).run Sample.lib (fun _ => false)
      [.call (.build (ClientConfigBuilder.default.set .dangerousDisableVerification)),
        .call (.connect ⟨0⟩ Sample.ctx "localhost" 3),
        .drop (.sslCtx, 0),
        .call (.io ⟨1⟩)]).owned = {(.ssl, 1)} :=
  rfl

end TokioAwsLc.Memory
