import TokioAwsLc.Config.Endpoints
import TokioAwsLc.Handshake.Driver
import TokioAwsLc.Stream.DataPath

/-!
# Connecting and accepting

`TlsConnector::connect` and `TlsAcceptor::accept` make a session from a configuration, tell libssl who the
peer has to be, wire the session to the socket, drive the handshake, and decide on kTLS. Everything up to
the first call of `SSL_do_handshake` happens in the first poll of the future.

* `Handle` is what the crate sets in an `SSL`. `prepareClient` and `prepareServer` set it, step by step as
  in the source; `pinned` and `awaiting` are what they set when they succeed.
* `Future` is the common rest of both functions, and `Conn` a connection attempt that an executor polls.
* `Attempt` is what holds in every run of it: libssl is called on one prepared handle only, and a stream is
  handed out only after the handshake on that handle was finished.
* `Handle.Admits` is what libssl checks before it finishes a handshake, in terms of the fields of the
  handle, where `Pki` says when a chain verifies and whom a certificate names.
* `connect_authenticates` and `accept_authenticates` put the builders of `TokioAwsLc.Config.Builder` on top.
-/

set_option linter.unusedSectionVars false

namespace TokioAwsLc.Handshake

open Config
open Ktls (Fault Offload SockAnswers Hash)
open Lib.Attempt

/-! ## Handles -/

/-- `SSL_set_connect_state` or `SSL_set_accept_state`. -/
inductive Role
  | connect
  | accept
  deriving DecidableEq, Repr

/-- What the crate sets in an `SSL`. -/
structure Handle (Cert Key : Type) where
  /-- The context it was made from. -/
  ctx : SslCtx Cert Key
  /-- `X509_VERIFY_PARAM_set1_ip_asc` -/
  ip : Option String
  /-- `SSL_set_tlsext_host_name` -/
  sni : Option String
  /-- `SSL_set1_host` -/
  host : Option String
  /-- The socket of its BIO. -/
  bio : Option ℤ
  role : Option Role

/-- What a finished handshake has settled. -/
structure Negotiated (Cert : Type) where
  /-- What libssl answers about the session. -/
  ssl : Ktls.Ssl
  /-- The certificates that the peer has presented, its own first. -/
  peerChain : List Cert
  /-- `SSL_get0_alpn_selected` -/
  alpnSelected : Bytes
  /-- `SSL_get_servername` -/
  servername : Option String

section prepare

variable {Cert Key : Type} (aws : AwsLc Cert Key)

/-- A new `SSL` of a context. -/
def Handle.new (ctx : SslCtx Cert Key) : Handle Cert Key :=
  ⟨ctx, none, none, none, none, none⟩

/-- Source: `src/connector.rs` `new_ssl`, `src/acceptor.rs` `new_ssl` -/
def newSsl (ctx : SslCtx Cert Key) : Configure Cert Key (Handle Cert Key) := do
  setter aws "SSL_new" id
  pure (Handle.new ctx)

/-- Source: `src/stream.rs` `attach_socket_bio` -/
def attachSocketBio (fd : ℤ) (ssl : Handle Cert Key) : Configure Cert Key (Handle Cert Key) := do
  setter aws "BIO_new_socket" id
  pure { ssl with bio := some fd }

/-- The `match` on the server name, where `isIp` is `server_name.parse::<IpAddr>().is_ok()`.
Source: `src/connector.rs` `TlsConnector::connect` -/
def pinIdentity (isIp : String → Bool) (name : String) (ssl : Handle Cert Key) :
    Configure Cert Key (Handle Cert Key) :=
  if isIp name then do
    let param ← attempt aws
    if param then do
      setter aws s!"X509_VERIFY_PARAM_set1_ip_asc({name})" id
      pure { ssl with ip := some name }
    else
      throw (initFault "SSL_get0_param returned null for fresh SSL")
  else do
    setter aws s!"SSL_set_tlsext_host_name({name})" id
    setter aws s!"SSL_set1_host({name})" id
    pure { ssl with sni := some name, host := some name }

/-- `connect` up to the handshake, on the socket `fd`.
Source: `src/connector.rs` `TlsConnector::connect` -/
def prepareClient (isIp : String → Bool) (ctx : SslCtx Cert Key) (name : String) (fd : ℤ) :
    Configure Cert Key (Handle Cert Key) :=
  if name = "" then
    throw (initFault "server_name must not be empty")
  else do
    let ssl ← newSsl aws ctx
    if nul ∈ name.toList then
      throw (initFault "server_name contains an embedded NUL byte")
    else do
      let ssl ← pinIdentity aws isIp name ssl
      let ssl ← attachSocketBio aws fd ssl
      pure { ssl with role := some .connect }

/-- `accept` up to the handshake, on the socket `fd`.
Source: `src/acceptor.rs` `TlsAcceptor::accept` -/
def prepareServer (ctx : SslCtx Cert Key) (fd : ℤ) : Configure Cert Key (Handle Cert Key) := do
  let ssl ← newSsl aws ctx
  let ssl ← attachSocketBio aws fd ssl
  pure { ssl with role := some .accept }

end prepare

/-! ## What is prepared -/

section prepared

variable {Cert Key : Type}

/-- A client's handle: an IP address is checked and not announced, any other name is announced and
checked. -/
def pinned (isIp : String → Bool) (ctx : SslCtx Cert Key) (name : String) (fd : ℤ) : Handle Cert Key :=
  if isIp name then ⟨ctx, some name, none, none, some fd, some .connect⟩
  else ⟨ctx, none, some name, some name, some fd, some .connect⟩

/-- A server's handle. -/
def awaiting (ctx : SslCtx Cert Key) (fd : ℤ) : Handle Cert Key :=
  ⟨ctx, none, none, none, some fd, some .accept⟩

/-- Either kind of name leaves the context of the handle alone. -/
theorem ctx_pinned (isIp : String → Bool) (ctx : SslCtx Cert Key) (name : String) (fd : ℤ) :
    (pinned isIp ctx name fd).ctx = ctx := by
  unfold pinned
  split_ifs <;> rfl

variable {aws : AwsLc Cert Key} {s t : AwsState Cert Key} {ssl ssl' : Handle Cert Key}

/-- A new handle has its context and nothing else. -/
theorem of_succeeds_newSsl {ctx : SslCtx Cert Key} (h : Succeeds (newSsl aws ctx) s ssl t) :
    ssl = .new ctx := by
  obtain ⟨_, _, -, hpure⟩ := succeeds_bind.mp h
  exact (succeeds_pure.mp hpure).1.symm

/-- The handle is wired to the socket. -/
theorem of_succeeds_attachSocketBio {fd : ℤ} (h : Succeeds (attachSocketBio aws fd ssl) s ssl' t) :
    ssl' = { ssl with bio := some fd } := by
  obtain ⟨_, _, -, hpure⟩ := succeeds_bind.mp h
  exact (succeeds_pure.mp hpure).1.symm

/-- An IP address is set for the check only, and any other name for both the announcement and the check. -/
theorem of_succeeds_pinIdentity {isIp : String → Bool} {name : String}
    (h : Succeeds (pinIdentity aws isIp name ssl) s ssl' t) :
    ssl' = if isIp name then { ssl with ip := some name }
      else { ssl with sni := some name, host := some name } := by
  unfold pinIdentity at h
  by_cases hip : isIp name = true
  · rw [if_pos hip] at h ⊢
    obtain ⟨param, _, -, hrest⟩ := succeeds_bind.mp h
    rcases succeeds_ite.mp hrest with ⟨-, hrest⟩ | ⟨-, hrest⟩
    · obtain ⟨_, _, -, hpure⟩ := succeeds_bind.mp hrest
      exact (succeeds_pure.mp hpure).1.symm
    · exact absurd hrest not_succeeds_throw
  · rw [if_neg hip] at h ⊢
    obtain ⟨_, _, -, hrest⟩ := succeeds_bind.mp h
    obtain ⟨_, _, -, hpure⟩ := succeeds_bind.mp hrest
    exact (succeeds_pure.mp hpure).1.symm

/-- **A client's handle is pinned to the name**, which is a C string that is not empty. -/
theorem of_succeeds_prepareClient {isIp : String → Bool} {ctx : SslCtx Cert Key} {name : String}
    {fd : ℤ} (h : Succeeds (prepareClient aws isIp ctx name fd) s ssl t) :
    name ≠ "" ∧ nul ∉ name.toList ∧ ssl = pinned isIp ctx name fd := by
  rcases succeeds_ite.mp h with ⟨-, h⟩ | ⟨hempty, h⟩
  · exact absurd h not_succeeds_throw
  obtain ⟨_, _, hnew, h⟩ := succeeds_bind.mp h
  rcases succeeds_ite.mp h with ⟨-, h⟩ | ⟨hnul, h⟩
  · exact absurd h not_succeeds_throw
  obtain ⟨_, _, hpin, h⟩ := succeeds_bind.mp h
  obtain ⟨_, _, hbio, hpure⟩ := succeeds_bind.mp h
  refine ⟨hempty, hnul, ?_⟩
  rw [← (succeeds_pure.mp hpure).1, of_succeeds_attachSocketBio hbio, of_succeeds_pinIdentity hpin,
    of_succeeds_newSsl hnew, pinned]
  split_ifs <;> rfl

/-- A server's handle has its context, its socket and its role. -/
theorem of_succeeds_prepareServer {ctx : SslCtx Cert Key} {fd : ℤ}
    (h : Succeeds (prepareServer aws ctx fd) s ssl t) : ssl = awaiting ctx fd := by
  obtain ⟨_, _, hnew, h⟩ := succeeds_bind.mp h
  obtain ⟨_, _, hbio, hpure⟩ := succeeds_bind.mp h
  rw [← (succeeds_pure.mp hpure).1, of_succeeds_attachSocketBio hbio, of_succeeds_newSsl hnew]
  rfl

/-- `SSL_new` fails with `Error::Init`. -/
theorem onlyFails_newSsl {ctx : SslCtx Cert Key} : OnlyFails IsInit (newSsl aws ctx) :=
  (onlyFails_isInit onlyFails_setter).bind fun _ => onlyFails_pure _

/-- So does `BIO_new_socket`. -/
theorem onlyFails_attachSocketBio {fd : ℤ} : OnlyFails IsInit (attachSocketBio aws fd ssl) :=
  (onlyFails_isInit onlyFails_setter).bind fun _ => onlyFails_pure _

/-- So does what sets the name. -/
theorem onlyFails_pinIdentity {isIp : String → Bool} {name : String} :
    OnlyFails IsInit (pinIdentity aws isIp name ssl) := by
  apply onlyFails_ite
  · refine onlyFails_attempt.bind ?_
    intro param
    apply onlyFails_ite
    · exact (onlyFails_isInit onlyFails_setter).bind fun _ => onlyFails_pure _
    · exact onlyFails_throw_initFault _
  · apply (onlyFails_isInit onlyFails_setter).bind
    intro _
    exact (onlyFails_isInit onlyFails_setter).bind fun _ => onlyFails_pure _

/-- Before the handshake there are no errors but `Error::Init`. -/
theorem onlyFails_prepareClient {isIp : String → Bool} {ctx : SslCtx Cert Key} {name : String} {fd : ℤ} :
    OnlyFails IsInit (prepareClient aws isIp ctx name fd) := by
  apply onlyFails_ite
  · exact onlyFails_throw_initFault _
  · apply onlyFails_newSsl.bind
    intro ssl
    apply onlyFails_ite
    · exact onlyFails_throw_initFault _
    · apply onlyFails_pinIdentity.bind
      intro ssl
      exact onlyFails_attachSocketBio.bind fun _ => onlyFails_pure _

/-- The same for a server. -/
theorem onlyFails_prepareServer {ctx : SslCtx Cert Key} {fd : ℤ} :
    OnlyFails IsInit (prepareServer aws ctx fd) := by
  apply onlyFails_newSsl.bind
  intro ssl
  exact onlyFails_attachSocketBio.bind fun _ => onlyFails_pure _

end prepared

/-! ## The future -/

section future

variable {Cert Key W : Type} [DecidableEq W]

/-- What `connect` and `accept` differ in: how the handle is made, and the configuration's kTLS flag. -/
structure Future (Cert Key : Type) where
  prepare : Configure Cert Key (Handle Cert Key)
  ktlsDisabled : Bool
  fails : OnlyFails IsInit prepare

/-- Source: `src/connector.rs` `TlsConnector::connect` -/
def connect (aws : AwsLc Cert Key) (isIp : String → Bool) (cfg : ClientConfig Cert Key) (name : String)
    (fd : ℤ) : Future Cert Key :=
  ⟨prepareClient aws isIp cfg.ctx name fd, cfg.ktlsDisabled, onlyFails_prepareClient⟩

/-- Source: `src/acceptor.rs` `TlsAcceptor::accept` -/
def accept (aws : AwsLc Cert Key) (cfg : ServerConfig Cert Key) (fd : ℤ) : Future Cert Key :=
  ⟨prepareServer aws cfg.ctx fd, cfg.ktlsDisabled, onlyFails_prepareServer⟩

/-- What is handed out: the handle, what its handshake has settled, and the stream. -/
structure Established (Cert Key W : Type) where
  ssl : Handle Cert Key
  session : Negotiated Cert
  world : Stream.World W

/-- Where the future is: before its first poll, in `drive_handshake`, or done. -/
inductive Phase (Cert Key : Type)
  | start
  | driving (ssl : Handle Cert Key) (q : Drive)
  | finished

/-- A connection attempt: the future, the library, the socket with the state of its kTLS offload, and what
the future has returned. -/
structure Conn (Cert Key W : Type) where
  phase : Phase Cert Key
  lib : AwsState Cert Key
  socket : Socket (Handle Cert Key) (Negotiated Cert) W
  offload : Offload
  result : Option (Except Error (Established Cert Key W))

/-- What the environment does during one poll: around the handshake, and in the system calls of a kTLS
installation. -/
structure Turn (Cert : Type) where
  script : Script (Negotiated Cert)
  sockopts : SockAnswers

/-- The executor polls the future, or the socket becomes ready. -/
inductive ConnOp (Cert W : Type)
  | poll (cx : W) (turn : Turn Cert)
  | event (d : Dir)

/-- The errors of the functions that return no others. -/
def Error.ofKtls : Ktls.Error → Error
  | .init message => .init message
  | .ktls e => .ktls e

namespace Conn

/-- An attempt nobody has polled yet. -/
def start (lib : AwsState Cert Key) (ready : Dir → Bool) : Conn Cert Key W :=
  ⟨.start, lib, .fresh ready, .fresh, none⟩

/-- How a poll leaves things. -/
abbrev Left (Cert Key W : Type) :=
  Conn Cert Key W × Exit (Poll (Except Error (Established Cert Key W)))

/-- The future returns. -/
def finish (c : Conn Cert Key W) (r : Except Error (Established Cert Key W)) : Left Cert Key W :=
  ({ c with phase := .finished, result := some r }, .returned (.ready r))

/-- The `?` operator, or a panic. -/
def fail (c : Conn Cert Key W) : Fault → Left Cert Key W
  | .panic => ({ c with phase := .finished }, .panicked)
  | .error e => c.finish (.error (.ofKtls e))

variable (hkdfExpand : Hash → Bytes → Bytes → (len : ℕ) → ℤ × Vector UInt8 len)

/-- After the handshake: `from_parts` and `try_auto_install_ktls`. The waits of the handshake are over, so
that no waker is armed. -/
def install (c : Conn Cert Key W) (ktlsDisabled : Bool) (answers : SockAnswers)
    (ssl : Handle Cert Key) (n : Negotiated Cert) : Left Cert Key W :=
  match Stream.establish hkdfExpand n.ssl answers ktlsDisabled (.fresh c.socket.ready fun _ => none) with
  | (k, .error fault) => { c with offload := k }.fail fault
  | (k, .ok w) => { c with offload := k }.finish (.ok ⟨ssl, n, w⟩)

/-- From the handshake on. -/
def resume (c : Conn Cert Key W) (ktlsDisabled : Bool) (cx : W) (turn : Turn Cert)
    (ssl : Handle Cert Key) (q : Drive) : Left Cert Key W :=
  match drive ssl cx turn.script q c.socket with
  | (s, _, .returned (.ready (.ok n))) =>
      { c with socket := s }.install hkdfExpand ktlsDisabled turn.sockopts ssl n
  | (s, _, .returned (.ready (.error e))) => { c with socket := s }.finish (.error e)
  | (s, q, .returned .pending) => ({ c with phase := .driving ssl q, socket := s }, .returned .pending)
  | (s, q, .panicked) => ({ c with phase := .driving ssl q, socket := s }, .panicked)
  | (s, q, .running) => ({ c with phase := .driving ssl q, socket := s }, .running)

/-- One poll of the future.
Source: `src/connector.rs` `TlsConnector::connect`; `src/acceptor.rs` `TlsAcceptor::accept` -/
def poll (f : Future Cert Key) (c : Conn Cert Key W) (cx : W) (turn : Turn Cert) : Left Cert Key W :=
  let c := { c with socket := c.socket.begin cx }
  match c.phase with
  | .start =>
      match f.prepare.run c.lib with
      | .error fault lib => { c with lib := lib }.fail fault
      | .ok ssl lib => { c with lib := lib }.resume hkdfExpand f.ktlsDisabled cx turn ssl .calling
  | .driving ssl q => c.resume hkdfExpand f.ktlsDisabled cx turn ssl q
  | .finished => (c, .panicked)

/-- What a poll returns is kept as the result of the attempt. -/
theorem result_finish {c : Conn Cert Key W} {r r' : Except Error (Established Cert Key W)}
    (h : (c.finish r).2 = .returned (.ready r')) : (c.finish r).1.result = some r' := by
  obtain rfl := Poll.ready.inj (Exit.returned.inj h)
  rfl

/-- An error of a step is kept too. -/
theorem result_fail {c : Conn Cert Key W} {fault : Fault} {r : Except Error (Established Cert Key W)}
    (h : (c.fail fault).2 = .returned (.ready r)) : (c.fail fault).1.result = some r := by
  cases fault with
  | panic => cases h
  | error e => exact result_finish h

/-- So is what the decision on kTLS returns. -/
theorem result_install {c : Conn Cert Key W} {disabled : Bool} {answers : SockAnswers}
    {ssl : Handle Cert Key} {n : Negotiated Cert} {r : Except Error (Established Cert Key W)}
    (h : (c.install hkdfExpand disabled answers ssl n).2 = .returned (.ready r)) :
    (c.install hkdfExpand disabled answers ssl n).1.result = some r := by
  unfold install at h ⊢
  split at h
  · exact result_fail h
  · exact result_finish h

/-- So is what a poll returns that goes on with the handshake. -/
theorem result_resume {c : Conn Cert Key W} {disabled : Bool} {cx : W} {turn : Turn Cert}
    {ssl : Handle Cert Key} {q : Drive} {r : Except Error (Established Cert Key W)}
    (h : (c.resume hkdfExpand disabled cx turn ssl q).2 = .returned (.ready r)) :
    (c.resume hkdfExpand disabled cx turn ssl q).1.result = some r := by
  unfold resume at h ⊢
  split at h
  · exact result_install hkdfExpand h
  · exact result_finish h
  · cases h
  · cases h
  · cases h

/-- What a poll returns is kept as the result. -/
theorem result_poll {f : Future Cert Key} {c : Conn Cert Key W} {cx : W} {turn : Turn Cert}
    {r : Except Error (Established Cert Key W)}
    (h : (c.poll hkdfExpand f cx turn).2 = .returned (.ready r)) :
    (c.poll hkdfExpand f cx turn).1.result = some r := by
  unfold poll at h ⊢
  simp only at h ⊢
  split at h
  · split at h
    · exact result_fail h
    · exact result_resume hkdfExpand h
  · exact result_resume hkdfExpand h
  · cases h

/-- Readiness events between the polls. -/
def events (c : Conn Cert Key W) (ds : List Dir) : Conn Cert Key W :=
  { c with socket := c.socket.events ds }

/-- One operation; the flag says whether it completed. -/
def step (f : Future Cert Key) (c : Conn Cert Key W) : ConnOp Cert W → Conn Cert Key W × Bool
  | .poll cx turn =>
      let o := c.poll hkdfExpand f cx turn
      match o.2 with
      | .returned _ => (o.1.events turn.script.leave, true)
      | .panicked => (o.1, false)
      | .running => (o.1, false)
  | .event d => (c.events [d], true)

/-- Play a list of operations, up to the first that does not complete. -/
def run (f : Future Cert Key) (c : Conn Cert Key W) (ops : List (ConnOp Cert W)) : Conn Cert Key W :=
  (Lib.Runs.exec (step hkdfExpand f) c ops).1

end Conn

end future

/-! ## What holds in every run -/

section attempt

variable {Cert Key W : Type} [DecidableEq W]
variable {hkdfExpand : Hash → Bytes → Bytes → (len : ℕ) → ℤ × Vector UInt8 len}

/-- The attempt, where the library was in the state `lib` at the beginning and `bits` ready bits were set.
While the future is in `drive_handshake`, and when it has left that, the socket is as the driver keeps it
for the one handle that was prepared. -/
inductive Attempt (hkdfExpand : Hash → Bytes → Bytes → (len : ℕ) → ℤ × Vector UInt8 len)
    (f : Future Cert Key) (lib : AwsState Cert Key) (bits : ℕ) : Conn Cert Key W → Prop
  | start {s : Socket (Handle Cert Key) (Negotiated Cert) W} (hcalls : calls s.trace = [])
      (h : ∀ ssl, Steady ssl bits ⟨.calling, s, none⟩) :
      Attempt hkdfExpand f lib bits ⟨.start, lib, s, .fresh, none⟩
  /-- The handle could not be prepared. -/
  | refused {s : Socket (Handle Cert Key) (Negotiated Cert) W} {lib' : AwsState Cert Key}
      {message : String} (hrun : f.prepare.run lib = .error (initFault message) lib')
      (hcalls : calls s.trace = []) :
      Attempt hkdfExpand f lib bits ⟨.finished, lib', s, .fresh, some (.error (.init message))⟩
  | driving {ssl : Handle Cert Key} {q : Drive} {s : Socket (Handle Cert Key) (Negotiated Cert) W}
      {lib' : AwsState Cert Key} (hprep : Succeeds f.prepare lib ssl lib')
      (h : Steady ssl bits ⟨q, s, none⟩) :
      Attempt hkdfExpand f lib bits ⟨.driving ssl q, lib', s, .fresh, none⟩
  /-- The handshake has failed. -/
  | failed {ssl : Handle Cert Key} {s : Socket (Handle Cert Key) (Negotiated Cert) W}
      {lib' : AwsState Cert Key} {e : Error} (hprep : Succeeds f.prepare lib ssl lib')
      (h : Steady ssl bits ⟨.finished, s, some (.error e)⟩) :
      Attempt hkdfExpand f lib bits ⟨.finished, lib', s, .fresh, some (.error e)⟩
  /-- The handshake is finished, and kTLS has left the socket half offloaded. -/
  | rejected {ssl : Handle Cert Key} {s : Socket (Handle Cert Key) (Negotiated Cert) W}
      {lib' : AwsState Cert Key} {n : Negotiated Cert} {answers : SockAnswers} {net : Net W}
      {k : Offload} {e : Ktls.Error} (hprep : Succeeds f.prepare lib ssl lib')
      (h : Steady ssl bits ⟨.finished, s, some (.ok n)⟩)
      (hest : Stream.establish hkdfExpand n.ssl answers f.ktlsDisabled net = (k, .error (.error e))) :
      Attempt hkdfExpand f lib bits ⟨.finished, lib', s, k, some (.error (.ofKtls e))⟩
  | established {ssl : Handle Cert Key} {s : Socket (Handle Cert Key) (Negotiated Cert) W}
      {lib' : AwsState Cert Key} {n : Negotiated Cert} {answers : SockAnswers} {net : Net W}
      {k : Offload} {w : Stream.World W} (hprep : Succeeds f.prepare lib ssl lib')
      (h : Steady ssl bits ⟨.finished, s, some (.ok n)⟩)
      (hest : Stream.establish hkdfExpand n.ssl answers f.ktlsDisabled net = (k, .ok w)) :
      Attempt hkdfExpand f lib bits ⟨.finished, lib', s, k, some (.ok ⟨ssl, n, w⟩)⟩

variable {f : Future Cert Key} {lib lib' : AwsState Cert Key} {bits : ℕ} {c : Conn Cert Key W}
  {s : Socket (Handle Cert Key) (Negotiated Cert) W} {ssl : Handle Cert Key}

/-- Readiness events are no calls. -/
theorem calls_events (s : Socket (Handle Cert Key) (Negotiated Cert) W) (ds : List Dir) :
    calls (s.events ds).trace = calls s.trace := by
  induction ds generalizing s with
  | nil => rfl
  | cons d ds ih => rw [Socket.events_cons, ih, calls_event]

/-- Neither is the beginning of a poll. -/
theorem calls_begin (s : Socket (Handle Cert Key) (Negotiated Cert) W) (cx : W) :
    calls (s.begin cx).trace = calls s.trace := by
  simp [Socket.begin, calls]

/-- Readiness events keep the invariant. -/
theorem Attempt.events (h : Attempt hkdfExpand f lib bits c) (ds : List Dir) :
    Attempt hkdfExpand f lib bits (c.events ds) := by
  cases h with
  | start hcalls h =>
      refine .start ?_ ?_
      · rw [calls_events, hcalls]
      · intro ssl
        exact (h ssl).events ds
  | refused hrun hcalls => exact .refused hrun ((calls_events _ ds).trans hcalls)
  | driving hprep h => exact .driving hprep (h.events ds)
  | failed hprep h => exact .failed hprep (h.events ds)
  | rejected hprep h hest => exact .rejected hprep (h.events ds) hest
  | established hprep h hest => exact .established hprep (h.events ds) hest

/-- What follows a finished handshake, from the three ways the decision on kTLS ends. -/
theorem attempt_install {n : Negotiated Cert} (hprep : Succeeds f.prepare lib ssl lib')
    (h : Steady ssl bits ⟨.finished, s, some (.ok n)⟩) (answers : SockAnswers) (phase : Phase Cert Key) :
    Attempt hkdfExpand f lib bits
      ((Conn.mk phase lib' s .fresh none).install hkdfExpand f.ktlsDisabled answers ssl n).1 := by
  have hdec := Stream.establish_decided hkdfExpand n.ssl answers f.ktlsDisabled
    (Net.fresh s.ready fun _ => (none : Option W))
  unfold Conn.install
  simp only
  generalize hest : Stream.establish hkdfExpand n.ssl answers f.ktlsDisabled
    (Net.fresh s.ready fun _ => none) = r at hdec ⊢
  cases hdec with
  | userspace => exact .established hprep h hest
  | offloaded => exact .established hprep h hest
  | refused => exact .rejected hprep h hest

/-- The rest of a poll, from the driver on. -/
theorem attempt_resume {q : Drive} (hprep : Succeeds f.prepare lib ssl lib')
    (h : Steady ssl bits ⟨q, s, none⟩) (cx : W) (turn : Turn Cert) (phase : Phase Cert Key) :
    Attempt hkdfExpand f lib bits
      ((Conn.mk phase lib' (s.begin cx) .fresh none).resume hkdfExpand f.ktlsDisabled cx turn ssl q).1 := by
  have hq : q ≠ .finished := h.reported.live rfl
  have hruns := drive_spec ssl cx turn.script hq (s.begin cx)
  have hnote := Runs.steady h hq hruns
  have hends := hruns.2
  unfold Conn.resume
  simp only
  generalize drive ssl cx turn.script q (s.begin cx) = o at hnote hends
  cases hends with
  | ok => exact attempt_install hprep hnote turn.sockopts phase
  | failed => exact .failed hprep hnote
  | gone => exact .failed hprep hnote
  | pending => exact .driving hprep hnote
  | running => exact .driving hprep hnote

/-- **One poll.** -/
theorem Attempt.poll (h : Attempt hkdfExpand f lib bits c) (cx : W) (turn : Turn Cert) :
    Attempt hkdfExpand f lib bits (c.poll hkdfExpand f cx turn).1 := by
  cases h with
  | @start s hcalls h =>
      simp only [Conn.poll]
      rcases hrun : f.prepare.run lib with ⟨ssl, lib'⟩ | ⟨fault, lib'⟩
      · exact attempt_resume hrun (h ssl) cx turn .start
      · obtain ⟨message, rfl⟩ := f.fails lib fault lib' hrun
        exact .refused hrun ((calls_begin s cx).trans hcalls)
  | refused hrun hcalls => exact .refused hrun ((calls_begin _ cx).trans hcalls)
  | driving hprep h => exact attempt_resume hprep h cx turn _
  | failed hprep h => exact .failed hprep (h.panicked rfl cx)
  | rejected hprep h hest => exact .rejected hprep (h.panicked rfl cx) hest
  | established hprep h hest => exact .established hprep (h.panicked rfl cx) hest

/-- **One operation.** -/
theorem Attempt.step (h : Attempt hkdfExpand f lib bits c) (op : ConnOp Cert W) :
    Attempt hkdfExpand f lib bits (c.step hkdfExpand f op).1 := by
  cases op with
  | event d => exact h.events [d]
  | poll cx turn =>
      have hpoll := h.poll cx turn
      simp only [Conn.step]
      split
      · exact hpoll.events turn.script.leave
      · exact hpoll
      · exact hpoll

/-- It holds of an attempt that nobody has polled. -/
theorem attempt_start (f : Future Cert Key) (lib : AwsState Cert Key) (ready : Dir → Bool) :
    Attempt hkdfExpand f lib (readyBits ready) (Conn.start lib ready : Conn Cert Key W) := by
  refine .start rfl ?_
  intro ssl
  exact steady_run ssl ready []

/-- **Run lemma.** -/
theorem attempt_run (hkdfExpand : Hash → Bytes → Bytes → (len : ℕ) → ℤ × Vector UInt8 len)
    (f : Future Cert Key) (lib : AwsState Cert Key) (ready : Dir → Bool)
    (ops : List (ConnOp Cert W)) :
    Attempt hkdfExpand f lib (readyBits ready) ((Conn.start lib ready).run hkdfExpand f ops) := by
  refine Lib.Runs.exec_invariant (I := Attempt hkdfExpand f lib (readyBits ready)) ?_ ?_ ops
  · intro c op h
    exact h.step op
  · exact attempt_start f lib ready

/-- What a run of the future shows. -/
structure Attempted (hkdfExpand : Hash → Bytes → Bytes → (len : ℕ) → ℤ × Vector UInt8 len)
    (f : Future Cert Key) (lib : AwsState Cert Key) (c : Conn Cert Key W) : Prop where
  /-- libssl is called on a handle that was prepared. -/
  prepared : ∀ ssl a, .doHandshake ssl a ∈ calls c.socket.trace → ∃ t, Succeeds f.prepare lib ssl t
  /-- If there is none, it is not called, and the future returns `Error::Init`. -/
  refused : (∀ ssl t, ¬ Succeeds f.prepare lib ssl t) → calls c.socket.trace = [] ∧
    ∀ r, c.result = some r → ∃ message, r = .error (.init message)
  /-- A stream is handed out only after libssl has finished the handshake on this handle, and it is the
  one that the decision on kTLS has made. -/
  established : ∀ e, c.result = some (.ok e) → (∃ t, Succeeds f.prepare lib e.ssl t) ∧
    (calls c.socket.trace).getLast? = some (.doHandshake e.ssl (.done e.session)) ∧
    ∃ answers net, Stream.establish hkdfExpand e.session.ssl answers f.ktlsDisabled net =
      (c.offload, .ok e.world)

/-- The last call of a driver that has returned `Ok` is the one that libssl has finished. -/
theorem Steady.last_of_ok {n : Negotiated Cert} (h : Steady ssl bits ⟨.finished, s, some (.ok n)⟩) :
    (calls s.trace).getLast? = some (.doHandshake ssl (.done n)) := by
  obtain ⟨-, call, hlast, hreport⟩ := h.reported.done _ rfl
  rcases call with ⟨ssl', n' | _⟩ | _
  · obtain rfl := Except.ok.inj hreport
    obtain rfl := h.sane.handle ssl' _ (List.mem_of_getLast? hlast)
    exact hlast
  · cases hreport
  · cases hreport

/-- In a steady handshake, every call was made on a handle that the preparation returns. -/
theorem Steady.prepared {t : Task (Handle Cert Key) (Negotiated Cert) W} (h : Steady ssl bits t)
    (hprep : Succeeds f.prepare lib ssl lib') :
    ∀ ssl' a, .doHandshake ssl' a ∈ calls t.socket.trace → ∃ u, Succeeds f.prepare lib ssl' u := by
  intro ssl' a hmem
  obtain rfl := h.sane.handle ssl' a hmem
  exact ⟨lib', hprep⟩

/-- What the invariant says in terms of the trace and the result alone. -/
theorem Attempt.attempted (h : Attempt hkdfExpand f lib bits c) : Attempted hkdfExpand f lib c := by
  have hnone : ∀ {s : Socket (Handle Cert Key) (Negotiated Cert) W}, calls s.trace = [] → ∀ ssl a,
      .doHandshake ssl a ∈ calls s.trace → ∃ t, Succeeds f.prepare lib ssl t := by
    intro s hcalls ssl a hmem
    rw [hcalls] at hmem
    cases hmem
  cases h with
  | start hcalls =>
      refine ⟨hnone hcalls, fun _ => ⟨hcalls, ?_⟩, ?_⟩
      · intro r hr
        cases hr
      · intro e he
        cases he
  | @refused s lib' message hrun hcalls =>
      refine ⟨hnone hcalls, fun _ => ⟨hcalls, ?_⟩, ?_⟩
      · intro r hr
        exact ⟨message, (Option.some.inj hr).symm⟩
      · intro e he
        cases he
  | driving hprep h =>
      refine ⟨h.prepared hprep, fun hno => absurd hprep (hno _ _), ?_⟩
      intro e he
      cases he
  | failed hprep h =>
      refine ⟨h.prepared hprep, fun hno => absurd hprep (hno _ _), ?_⟩
      intro e he
      cases he
  | rejected hprep h =>
      refine ⟨h.prepared hprep, fun hno => absurd hprep (hno _ _), ?_⟩
      intro e he
      cases he
  | established hprep h hest =>
      refine ⟨h.prepared hprep, fun hno => absurd hprep (hno _ _), ?_⟩
      intro e he
      obtain rfl := Except.ok.inj (Option.some.inj he)
      exact ⟨⟨_, hprep⟩, h.last_of_ok, _, _, hest⟩

end attempt

/-! ## Whom libssl lets through -/

section admits

variable {Cert Key W : Type}

/-- What the verification of certificates decides. -/
structure Pki (Cert : Type) where
  /-- The chain leads from its first certificate to one of the anchors, or of the system's anchors if these
  count. -/
  verifies : (anchors : List Cert) → (system : Bool) → (chain : List Cert) → Prop
  /-- The certificate has this DNS name. -/
  namesHost : Cert → String → Prop
  /-- The certificate has this IP address. -/
  namesIp : Cert → String → Prop

/-- The peer with this chain is one that the handle asks for. -/
structure Handle.Accepts (pki : Pki Cert) (ssl : Handle Cert Key) (leaf : Cert) (rest : List Cert) :
    Prop where
  verifies : pki.verifies ssl.ctx.trust.anchors ssl.ctx.trust.system (leaf :: rest)
  ip : ∀ a, ssl.ip = some a → pki.namesIp leaf a
  host : ∀ a, ssl.host = some a → pki.namesHost leaf a

/-- libssl finishes the handshake with a peer that presents this chain. A client that does not present one
is let through by `SSL_VERIFY_PEER` alone. -/
def Handle.Admits (pki : Pki Cert) (ssl : Handle Cert Key) : List Cert → Prop
  | [] => ssl.ctx.trust.verify = .none ∨ ssl.role = some .accept ∧ ssl.ctx.trust.verify = .peer
  | leaf :: rest => ssl.ctx.trust.verify = .none ∨ ssl.Accepts pki leaf rest

/-- libssl has kept to this in the calls of a history. -/
def Verifying (pki : Pki Cert) (t : List (Act (Handle Cert Key) (Negotiated Cert) W)) : Prop :=
  ∀ ssl n, .doHandshake ssl (.done n) ∈ calls t → ssl.Admits pki n.peerChain

end admits

/-! ## The results -/

section results

variable {Cert Key W : Type} [DecidableEq W] {aws : AwsLc Cert Key}
variable (hkdfExpand : Hash → Bytes → Bytes → (len : ℕ) → ℤ × Vector UInt8 len)

/-- The certificate has the name that the caller of `connect` has given. -/
def Pki.names (pki : Pki Cert) (isIp : String → Bool) (leaf : Cert) (name : String) : Prop :=
  if isIp name then pki.namesIp leaf name else pki.namesHost leaf name

/-- The runs of `connect` to `name` on the socket `fd`. -/
structure ConnectAuthenticates (pki : Pki Cert) (isIp : String → Bool) (tls : TlsConnector aws)
    (name : String) (fd : ℤ) (c : Conn Cert Key W) : Prop where
  /-- libssl is never called on a handle that is not pinned to the name, and not wired to the socket. -/
  pinned : ∀ ssl a, .doHandshake ssl a ∈ calls c.socket.trace → ssl = pinned isIp tls.cfg.ctx name fd
  /-- With a name that libssl cannot be given there is no handshake, and no stream. -/
  invalid : name = "" ∨ nul ∈ name.toList → calls c.socket.trace = [] ∧
    ∀ r, c.result = some r → ∃ message, r = .error (.init message)
  /-- A stream is handed out only after libssl has finished the handshake, and it is the one that the
  decision on kTLS has made. -/
  finished : ∀ e, c.result = some (.ok e) →
    (calls c.socket.trace).getLast? =
      some (.doHandshake (Handshake.pinned isIp tls.cfg.ctx name fd) (.done e.session)) ∧
    ∃ answers net, Stream.establish hkdfExpand e.session.ssl answers tls.cfg.ktlsDisabled net =
      (c.offload, .ok e.world)
  /-- Unless verification was disabled, the peer of a stream has a chain to the anchors that the builder
  was given, and the name that the caller has given. -/
  authenticated : aws.clientCtx.TrustsNobody → Verifying pki c.socket.trace →
    tls.builder.roots ≠ .disabled → ∀ e, c.result = some (.ok e) →
    ∃ anchors leaf rest, tls.builder.roots.Reads aws anchors ∧ e.session.peerChain = leaf :: rest ∧
      pki.verifies anchors tls.builder.roots.isSystem (leaf :: rest) ∧ pki.names isIp leaf name

/-- A handle that is pinned to a name and verifies admits only the chains with that name. -/
theorem names_of_admits_pinned {pki : Pki Cert} {isIp : String → Bool} {ctx : SslCtx Cert Key}
    {name : String} {fd : ℤ} {chain : List Cert} (hverify : ctx.trust.verify = .peer)
    (h : (pinned isIp ctx name fd).Admits pki chain) :
    ∃ leaf rest, chain = leaf :: rest ∧ pki.verifies ctx.trust.anchors ctx.trust.system (leaf :: rest) ∧
      pki.names isIp leaf name := by
  have hctx := ctx_pinned isIp ctx name fd
  have hrole : (pinned isIp ctx name fd).role = some .connect := by
    unfold pinned
    split_ifs <;> rfl
  cases chain with
  | nil =>
      rw [Handle.Admits, hctx, hrole, hverify] at h
      rcases h with h | ⟨h, -⟩ <;> cases h
  | cons leaf rest =>
      rw [Handle.Admits, hctx, hverify] at h
      have hacc := h.resolve_left (by decide)
      refine ⟨leaf, rest, rfl, ?_, ?_⟩
      · have hverifies := hacc.verifies
        rw [hctx] at hverifies
        exact hverifies
      · unfold Pki.names
        by_cases hip : isIp name = true
        · rw [if_pos hip]
          apply hacc.ip
          rw [pinned, if_pos hip]
        · rw [if_neg hip]
          apply hacc.host
          rw [pinned, if_neg hip]

/-- A client's attempt authenticates the server: a stream is the result of a handshake on the one handle
that was pinned to the name, and libssl finishes no handshake with a peer that the handle does not admit. -/
theorem connectAuthenticates_of_attempted {pki : Pki Cert} {isIp : String → Bool} {tls : TlsConnector aws}
    {name : String} {fd : ℤ} {lib : AwsState Cert Key} {c : Conn Cert Key W}
    (h : Attempted hkdfExpand (connect aws isIp tls.cfg name fd) lib c) :
    ConnectAuthenticates hkdfExpand pki isIp tls name fd c := by
  have hinvalid : name = "" ∨ nul ∈ name.toList → ∀ ssl t,
      ¬ Succeeds (prepareClient aws isIp tls.cfg.ctx name fd) lib ssl t := by
    intro hname ssl t hprep
    obtain ⟨hne, hnul, -⟩ := of_succeeds_prepareClient hprep
    exact hname.elim hne hnul
  have hfinished : ∀ e, c.result = some (.ok e) → (calls c.socket.trace).getLast? =
      some (.doHandshake (pinned isIp tls.cfg.ctx name fd) (.done e.session)) := by
    intro e he
    obtain ⟨⟨t, hprep⟩, hlast, -⟩ := h.established e he
    obtain ⟨-, -, hssl⟩ := of_succeeds_prepareClient hprep
    rw [hlast, hssl]
  refine ⟨?_, ?_, ?_, ?_⟩
  · intro ssl a hmem
    obtain ⟨t, hprep⟩ := h.prepared ssl a hmem
    exact (of_succeeds_prepareClient hprep).2.2
  · intro hname
    exact h.refused (hinvalid hname)
  · intro e he
    exact ⟨hfinished e he, (h.established e he).2.2⟩
  · intro hnew hverifying hroots e he
    obtain ⟨anchors, hreads, htrust⟩ := tls.trust hnew
    have hverify : tls.cfg.ctx.trust.verify = .peer := by
      rw [htrust]
      cases hr : tls.builder.roots <;> first | rfl | exact absurd hr hroots
    obtain ⟨leaf, rest, hchain, hver, hname⟩ := names_of_admits_pinned hverify
      (hverifying _ _ (List.mem_of_getLast? (hfinished e he)))
    rw [htrust] at hver
    exact ⟨anchors, leaf, rest, hreads, hchain, hver, hname⟩

/-- **A client talks to the server it was asked to talk to**, in every run of `connect`, for every builder,
every name and every libssl. -/
theorem connect_authenticates (pki : Pki Cert) (isIp : String → Bool) (tls : TlsConnector aws)
    (name : String) (fd : ℤ) (lib : AwsState Cert Key) (ready : Dir → Bool)
    (ops : List (ConnOp Cert W)) :
    ConnectAuthenticates hkdfExpand pki isIp tls name fd
      ((Conn.start lib ready).run hkdfExpand (connect aws isIp tls.cfg name fd) ops) :=
  connectAuthenticates_of_attempted hkdfExpand
    (attempt_run hkdfExpand (connect aws isIp tls.cfg name fd) lib ready ops).attempted

/-- The runs of `accept` on the socket `fd`. -/
structure AcceptAuthenticates (pki : Pki Cert) (tls : TlsAcceptor aws) (fd : ℤ) (c : Conn Cert Key W) :
    Prop where
  /-- libssl is called on one handle only: a server's, wired to the socket. -/
  awaiting : ∀ ssl a, .doHandshake ssl a ∈ calls c.socket.trace → ssl = awaiting tls.cfg.ctx fd
  /-- A stream is handed out only after libssl has finished the handshake, and it is the one that the
  decision on kTLS has made. -/
  finished : ∀ e, c.result = some (.ok e) →
    (calls c.socket.trace).getLast? =
      some (.doHandshake (Handshake.awaiting tls.cfg.ctx fd) (.done e.session)) ∧
    ∃ answers net, Stream.establish hkdfExpand e.session.ssl answers tls.cfg.ktlsDisabled net =
      (c.offload, .ok e.world)
  /-- If the builder asks for client certificates, whoever presents one has a chain to the client CA
  bundle; if it requires them, everybody presents one. -/
  authenticated : aws.serverCtx.TrustsNobody → Verifying pki c.socket.trace →
    tls.builder.clientAuth ≠ .none → ∀ e, c.result = some (.ok e) →
    ∃ pem roots, tls.builder.clientAuthRootsPem = some pem ∧ PemReads aws pem roots ∧
      (e.session.peerChain ≠ [] → pki.verifies roots false e.session.peerChain) ∧
      (tls.builder.clientAuth = .required → e.session.peerChain ≠ [])

/-- **A server knows its clients** as far as its builder asks for them, in every run of `accept`. -/
theorem accept_authenticates (pki : Pki Cert) (tls : TlsAcceptor aws) (fd : ℤ)
    (lib : AwsState Cert Key) (ready : Dir → Bool) (ops : List (ConnOp Cert W)) :
    AcceptAuthenticates hkdfExpand pki tls fd
      ((Conn.start lib ready).run hkdfExpand (accept aws tls.cfg fd) ops) := by
  have h := (attempt_run hkdfExpand (accept aws tls.cfg fd) lib ready ops).attempted
  generalize (Conn.start lib ready).run hkdfExpand (accept aws tls.cfg fd) ops = c at h
  have hfinished : ∀ e, c.result = some (.ok e) → (calls c.socket.trace).getLast? =
      some (.doHandshake (awaiting tls.cfg.ctx fd) (.done e.session)) := by
    intro e he
    obtain ⟨⟨t, hprep⟩, hlast, -⟩ := h.established e he
    rw [hlast, of_succeeds_prepareServer hprep]
  refine ⟨?_, ?_, ?_⟩
  · intro ssl a hmem
    obtain ⟨t, hprep⟩ := h.prepared ssl a hmem
    exact of_succeeds_prepareServer hprep
  · intro e he
    exact ⟨hfinished e he, (h.established e he).2.2⟩
  · intro hnew hverifying hmode e he
    obtain ⟨pem, roots, hpem, hreads, htrust⟩ := tls.trust hnew hmode
    have hadmits := hverifying _ _ (List.mem_of_getLast? (hfinished e he))
    have hverify : tls.builder.clientAuth.verify ≠ .none := by
      cases hcase : tls.builder.clientAuth with
      | none => exact absurd hcase hmode
      | optional => decide
      | required => decide
    refine ⟨pem, roots, hpem, hreads, ?_, ?_⟩
    · intro hchain
      obtain ⟨leaf, rest, hcons⟩ := List.exists_cons_of_ne_nil hchain
      rw [hcons] at hadmits ⊢
      have hverifies := (hadmits.resolve_left (htrust ▸ hverify)).verifies
      rw [show (awaiting tls.cfg.ctx fd).ctx = tls.cfg.ctx from rfl, htrust] at hverifies
      exact hverifies
    · intro hrequired hnil
      rw [hnil, Handle.Admits, show (awaiting tls.cfg.ctx fd).ctx = tls.cfg.ctx from rfl, htrust,
        hrequired] at hadmits
      rcases hadmits with hcase | ⟨-, hcase⟩ <;> cases hcase

end results

/-! ## Two connections -/

namespace Sample

open Config.Sample

/-- A session of TLS 1.2 with AES-128-GCM, which libssl tells everything about. -/
def ssl : Ktls.Ssl where
  version := 0x0303
  cipherId := some 0xC02F
  versionName := some "TLSv1.2"
  cipherName := some "ECDHE-RSA-AES128-GCM-SHA256"
  isServer := false
  writeSequence := 1
  readSequence := 1
  writeTrafficSecret := ⟨0, .replicate 48 0, 0⟩
  readTrafficSecret := ⟨0, .replicate 48 0, 0⟩
  generateKeyBlock len := (1, .replicate len 7)
  hasPending := 0
  pending := 0
  lastError := ""

/-- A handshake with a peer whose certificate was issued by `ca`. -/
def negotiated : Negotiated String :=
  ⟨ssl, ["example.org", "ca"], [0x68, 0x32], some "example.org"⟩

/-- A chain leads to its last certificate, and a certificate has its own name. -/
def pki : Pki String where
  verifies anchors _ chain := ∃ a ∈ anchors, chain.getLast? = some a
  namesHost cert name := cert = name
  namesIp _ _ := False

/-- No name is an address. -/
def isIp (_ : String) : Bool :=
  false

/-- libssl finishes the handshake in its first call, and the kernel takes everything. -/
def turn : Turn String where
  script := ⟨⟨[], none, []⟩, [⟨[], .done negotiated, ⟨[], none, []⟩⟩], []⟩
  sockopts := ⟨.ok (), fun _ => .ok ()⟩

/-- An expansion that always succeeds. -/
def hkdfExpand (_ : Hash) (_ _ : Bytes) (len : ℕ) : ℤ × Vector UInt8 len :=
  (1, .replicate len 0)

/-- One poll of `connect`. -/
def connected : Conn String Unit Unit :=
  (Conn.start start fun _ => false).run hkdfExpand (connect lib isIp connector.cfg "example.org" 3)
    [.poll () turn]

/-- One poll of `accept`. -/
def accepted : Conn String Unit Unit :=
  (Conn.start start fun _ => false).run hkdfExpand (accept lib acceptor.cfg 4) [.poll () turn]

/-- The one call of the client, on the pinned handle. -/
theorem calls_connected : calls connected.socket.trace =
    [.doHandshake (pinned isIp connector.cfg.ctx "example.org" 3) (.done negotiated)] :=
  rfl

/-- The one call of the server. -/
theorem calls_accepted : calls accepted.socket.trace =
    [.doHandshake (awaiting acceptor.cfg.ctx 4) (.done negotiated)] :=
  rfl

/-- The client's handshake was finished with a peer that its handle admits. -/
theorem verifying_connected : Verifying pki connected.socket.trace := by
  intro ssl n hmem
  rw [calls_connected] at hmem
  obtain ⟨rfl, hn⟩ := Call.doHandshake.inj (List.mem_singleton.mp hmem)
  obtain rfl := SslAnswer.done.inj hn
  refine .inr ⟨⟨"ca", List.mem_singleton.mpr rfl, rfl⟩, ?_, ?_⟩
  · intro a ha
    cases ha
  · intro a ha
    exact Option.some.inj ha

/-- So was the server's. -/
theorem verifying_accepted : Verifying pki accepted.socket.trace := by
  intro ssl n hmem
  rw [calls_accepted] at hmem
  obtain ⟨rfl, hn⟩ := Call.doHandshake.inj (List.mem_singleton.mp hmem)
  obtain rfl := SslAnswer.done.inj hn
  refine .inr ⟨⟨"ca", List.mem_singleton.mpr rfl, rfl⟩, ?_, ?_⟩
  · intro a ha
    cases ha
  · intro a ha
    cases ha

end Sample

/-- A client that trusts `ca` gets a stream, and its peer has a chain to the anchors of the builder. -/
theorem connect_authenticates_sample : ∃ e anchors leaf rest,
    Sample.connected.result = some (.ok e) ∧
      Config.Sample.client.roots.Reads Config.Sample.lib anchors ∧
      e.session.peerChain = leaf :: rest ∧ Sample.pki.verifies anchors false (leaf :: rest) ∧
      Sample.pki.names Sample.isIp leaf "example.org" := by
  have h := connect_authenticates (W := Unit) Sample.hkdfExpand Sample.pki Sample.isIp
    Config.Sample.connector "example.org" 3 Config.Sample.start (fun _ => false) [.poll () Sample.turn]
  have hroots : Config.Sample.connector.builder.roots ≠ .disabled := by
    intro heq
    cases heq
  obtain ⟨anchors, leaf, rest, hauth⟩ :=
    h.authenticated ⟨rfl, rfl⟩ Sample.verifying_connected hroots _ rfl
  exact ⟨_, anchors, leaf, rest, rfl, hauth⟩

/-- A server that requires certificates of `ca` gets a stream, and its peer has a chain to the bundle. -/
theorem accept_authenticates_sample : ∃ e pem roots,
    Sample.accepted.result = some (.ok e) ∧ Config.Sample.server.clientAuthRootsPem = some pem ∧
      PemReads Config.Sample.lib pem roots ∧ e.session.peerChain ≠ [] ∧
      Sample.pki.verifies roots false e.session.peerChain := by
  have h := accept_authenticates (W := Unit) Sample.hkdfExpand Sample.pki Config.Sample.acceptor 4
    Config.Sample.start (fun _ => false) [.poll () Sample.turn]
  have hmode : Config.Sample.acceptor.builder.clientAuth ≠ .none := by
    intro heq
    cases heq
  obtain ⟨pem, roots, hpem, hreads, hverifies, hpresents⟩ :=
    h.authenticated ⟨rfl, rfl⟩ Sample.verifying_accepted hmode _ rfl
  exact ⟨_, pem, roots, rfl, hpem, hreads, hpresents rfl, hverifies (hpresents rfl)⟩

end TokioAwsLc.Handshake
