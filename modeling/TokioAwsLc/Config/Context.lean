import TokioAwsLc.Ktls.Derive
import TokioAwsLc.Lib.Attempt

/-!
# AWS-LC as the configuration code meets it

The builders fill in an `SSL_CTX` by calls into AWS-LC, each of which can fail. This module has the
context, the error queue of the thread, and the crate's two ways to look at that queue.

* `SslCtx`: what the crate sets in a context. Certificates and keys are opaque.
* `ErrCode`, `ErrCode.pack`: an error of AWS-LC and the packed code it is queued as. `pack_lib` and
  `pack_reason` say that the fields can be read back.
* `AwsLc`: what the library brings along, with an answer for every call that can fail, in the order of
  the calls.
* `Configure`: a computation on the library's state that can fail, and keeps that state when it does.
  `setter` is the crate's idiom for a call that changes the context.
* `lastError` and `pemEofOrErr` are the functions of `src/error.rs`; `succeeds_pemEofOrErr_iff` and
  `leaves_pemEofOrErr` state the second one.
-/

namespace TokioAwsLc.Config

open Ktls (Error Fault)
open Lib.Attempt

/-! ## The context -/

/-- Source: `src/config/mod.rs` `ProtocolVersion` -/
inductive ProtocolVersion
  | tls12
  | tls13
  deriving DecidableEq, Repr

/-- Source: `src/config/mod.rs` `ProtocolVersion::raw` -/
def ProtocolVersion.raw : ProtocolVersion → UInt16
  | .tls12 => 0x0303
  | .tls13 => 0x0304

/-- Source: `src/config/named_group.rs` `NamedGroup` -/
inductive NamedGroup
  | x25519
  | secp256r1
  | secp384r1
  | secp521r1
  | x25519MLKEM768
  | secP256r1MLKEM768
  | secP384r1MLKEM1024
  deriving DecidableEq, Repr

/-- The verification modes that the crate sets: `SSL_VERIFY_NONE`, `SSL_VERIFY_PEER`, and the latter
with `SSL_VERIFY_FAIL_IF_NO_PEER_CERT`. -/
inductive VerifyMode
  | none
  | peer
  | peerRequired
  deriving DecidableEq, Repr

/-- What the crate sets in an `SSL_CTX`. The two cipher lists are kept as the strings they were set to,
and the trust store as the certificates that were added to it, in this order. -/
structure SslCtx (Cert Key : Type) where
  minProto : ProtocolVersion
  maxProto : ProtocolVersion
  options : BitVec 32
  numTickets : ℕ
  /-- The TLS 1.2 list. -/
  cipherList : String
  /-- The TLS 1.3 list. -/
  ciphersuites : String
  groups : Option (List NamedGroup)
  leaf : Option Cert
  chain : List Cert
  privateKey : Option Key
  store : List Cert
  defaultVerifyPaths : Bool
  verify : VerifyMode
  /-- The server's ALPN buffer, kept as ex_data. -/
  alpnWire : Option Bytes
  /-- The select callback is registered. -/
  alpnSelect : Bool
  /-- The client's ALPN offer. -/
  alpnProtos : Bytes

/-! ## Errors -/

/-- An error of AWS-LC: a library, which is not zero, and a reason. -/
structure ErrCode where
  lib : BitVec 8
  reason : BitVec 12
  lib_ne_zero : lib ≠ 0
  deriving DecidableEq

/-- The packed code: the library in the top byte, the reason in the low twelve bits. -/
def ErrCode.pack (e : ErrCode) : BitVec 32 :=
  e.lib.setWidth 32 <<< 24 ||| e.reason.setWidth 32

/-- AWS-LC `ERR_LIB_PEM`. -/
def errLibPem : BitVec 32 := 9
/-- AWS-LC `PEM_R_NO_START_LINE`. -/
def pemRNoStartLine : BitVec 32 := 110

/-- The error that marks the end of a PEM bundle. -/
def noStartLine : ErrCode :=
  ⟨9, 110, by decide⟩

/-- The two fields do not overlap. -/
theorem toNat_pack (e : ErrCode) : e.pack.toNat = e.lib.toNat * 2 ^ 24 + e.reason.toNat := by
  have hlib := e.lib.isLt
  have hreason := e.reason.isLt
  have hshift : (e.lib.toNat % 2 ^ 32) <<< 24 % 2 ^ 32 = e.lib.toNat <<< 24 := by
    rw [Nat.shiftLeft_eq, Nat.shiftLeft_eq]
    omega
  have hmod : e.reason.toNat % 2 ^ 32 = e.reason.toNat := by omega
  have hlt : e.reason.toNat < 2 ^ 24 := by omega
  rw [ErrCode.pack, BitVec.toNat_or, BitVec.toNat_shiftLeft, BitVec.toNat_setWidth,
    BitVec.toNat_setWidth, hshift, hmod, ← Nat.shiftLeft_add_eq_or_of_lt hlt, Nat.shiftLeft_eq]

/-- The library can be read back from a packed code. -/
theorem pack_lib (e : ErrCode) : (e.pack >>> 24) &&& 0xff = e.lib.setWidth 32 := by
  have hlib := e.lib.isLt
  have hreason := e.reason.isLt
  have hpack := toNat_pack e
  have hmask := Nat.and_two_pow_sub_one_eq_mod (e.pack.toNat >>> 24) 8
  apply BitVec.eq_of_toNat_eq
  simp at *
  omega

/-- The reason can be read back from a packed code. -/
theorem pack_reason (e : ErrCode) : e.pack &&& 0xfff = e.reason.setWidth 32 := by
  have hreason := e.reason.isLt
  have hpack := toNat_pack e
  have hmask := Nat.and_two_pow_sub_one_eq_mod e.pack.toNat 12
  apply BitVec.eq_of_toNat_eq
  simp at *
  omega

/-- Zero is free to say that nothing is queued. -/
theorem pack_ne_zero (e : ErrCode) : e.pack ≠ 0 := by
  intro h
  have hpack := toNat_pack e
  have hlib : e.lib.toNat ≠ 0 := fun hzero => e.lib_ne_zero (BitVec.eq_of_toNat_eq hzero)
  rw [h] at hpack
  simp at hpack
  omega

/-- The comparison that `pem_eof_or_err` makes on the two fields. -/
theorem pack_eq_noStartLine_iff (e : ErrCode) :
    (e.pack >>> 24) &&& 0xff = errLibPem ∧ e.pack &&& 0xfff = pemRNoStartLine ↔ e = noStartLine := by
  rw [pack_lib, pack_reason]
  constructor
  · rintro ⟨hlib, hreason⟩
    have hlib' : e.lib = 9 := by
      have := congrArg (BitVec.setWidth 8) hlib
      simpa [errLibPem] using this
    have hreason' : e.reason = 110 := by
      have := congrArg (BitVec.setWidth 12) hreason
      simpa [pemRNoStartLine] using this
    rcases e with ⟨lib, reason, hne⟩
    subst hlib' hreason'
    rfl
  · rintro rfl
    decide

/-! ## The library -/

/-- How a call that can fail ends: whether it succeeds, and the errors it queues. -/
structure Answer where
  ok : Bool
  errors : List ErrCode

/-- What a PEM reader finds next in a bundle: a certificate, or a block for which it returns NULL with a
newest error that is not the end marker. -/
inductive Block (Cert : Type)
  | cert (c : Cert)
  | corrupt (older : List ErrCode) (newest : ErrCode) (h : newest ≠ noStartLine)

/-- A PEM bundle as the readers find it. At the end of the blocks they return NULL and queue the end
marker, after the errors in `trailer`. -/
structure Bundle (Cert : Type) where
  blocks : List (Block Cert)
  trailer : List ErrCode

/-- What AWS-LC brings along. The calls that can fail are answered in the order in which they are made,
and the parsers are functions of their input. -/
structure AwsLc (Cert Key : Type) where
  /-- The answer to call number `n`. -/
  answer : ℕ → Answer
  /-- `ERR_error_string_n` and the conversion of its buffer. -/
  errorString : BitVec 32 → String
  /-- A new context of `TLS_server_method`. -/
  serverCtx : SslCtx Cert Key
  /-- A new context of `TLS_client_method`. -/
  clientCtx : SslCtx Cert Key
  /-- What `PEM_read_bio_X509` and `PEM_read_bio_X509_AUX` find in a text. -/
  pemCerts : Bytes → Bundle Cert
  /-- `PEM_read_bio_PrivateKey`. -/
  pemKey : Bytes → Except (List ErrCode) Key
  /-- `d2i_X509`: the certificate and the number of bytes that it takes up. -/
  d2iX509 : Bytes → Except (List ErrCode) (Cert × ℕ)
  d2iX509_le : ∀ der c n, d2iX509 der = .ok (c, n) → n ≤ der.length
  /-- `d2i_AutoPrivateKey`. -/
  d2iAutoPrivateKey : Bytes → Except (List ErrCode) (Key × ℕ)
  d2iAutoPrivateKey_le : ∀ der k n, d2iAutoPrivateKey der = .ok (k, n) → n ≤ der.length
  /-- What `SSL_CTX_use_certificate_chain_file` installs from a file: the leaf and the chain. -/
  certificateChainFile : String → Cert × List Cert
  /-- What `SSL_CTX_use_PrivateKey_file` installs from a file. -/
  privateKeyFile : String → Key
  /-- The largest value of the platform's `long`. -/
  cLongMax : ℕ

/-- The context under construction, the error queue with its oldest error first, the number of calls that
were answered, and whether the process has its ex_data slot for ALPN. -/
structure AwsState (Cert Key : Type) where
  ctx : SslCtx Cert Key
  queue : List ErrCode
  calls : ℕ
  alpnExIndex : Bool

/-- A computation on the library's state. It keeps the state that it has reached when it fails. -/
abbrev Configure (Cert Key : Type) :=
  EStateM Fault (AwsState Cert Key)

variable {Cert Key α : Type}

/-- AWS-LC `ERR_get_error`: takes the oldest error, 0 if there is none. -/
def errGetError : Configure Cert Key (BitVec 32) := do
  let s ← get
  modify fun s => { s with queue := s.queue.tail }
  pure ((s.queue.head?.map ErrCode.pack).getD 0)

/-- AWS-LC `ERR_peek_last_error`: looks at the newest error, 0 if there is none. -/
def errPeekLastError : Configure Cert Key (BitVec 32) := do
  let s ← get
  pure ((s.queue.getLast?.map ErrCode.pack).getD 0)

/-- AWS-LC `ERR_clear_error` -/
def errClearError : Configure Cert Key PUnit :=
  modify fun s => { s with queue := [] }

/-- The library queues errors. -/
def putErrors (errors : List ErrCode) : Configure Cert Key PUnit :=
  modify fun s => { s with queue := s.queue ++ errors }

/-- The library changes the context, in a call that cannot fail. -/
def update (f : SslCtx Cert Key → SslCtx Cert Key) : Configure Cert Key PUnit :=
  modify fun s => { s with ctx := f s.ctx }

/-! ## Looking at the queue -/

variable (aws : AwsLc Cert Key)

/-- Source: `src/error.rs` `format_and_clear` -/
def formatAndClear (code : BitVec 32) : Configure Cert Key String := do
  errClearError
  pure (aws.errorString code)

/-- Source: `src/error.rs` `last_error` -/
def lastError : Configure Cert Key String := do
  let code ← errGetError
  if code = 0 then
    pure "(no error queued)"
  else
    formatAndClear aws code

/-- The fault of a function that returns `Error::Init`. -/
def initFault (message : String) : Fault :=
  .error (.init message)

/-- Source: `src/error.rs` `pem_eof_or_err` -/
def pemEofOrErr (label : String) : Configure Cert Key PUnit := do
  let packed ← errPeekLastError
  if packed = 0 then
    pure ⟨⟩
  -- the library is the top byte, the reason the low twelve bits
  else if (packed >>> 24) &&& 0xff = errLibPem ∧ packed &&& 0xfff = pemRNoStartLine then
    errClearError
  else do
    let detail ← formatAndClear aws packed
    throw (initFault s!"{label}: {detail}")

/-- The idiom `return Err(Error::Init(format!("{label}: {}", last_error())))`. -/
def failWith (label : String) : Configure Cert Key α := do
  let detail ← lastError aws
  throw (initFault s!"{label}: {detail}")

/-- A call that can fail, and whether it succeeds. -/
def attempt : Configure Cert Key Bool := do
  let s ← get
  let answer := aws.answer s.calls
  modify fun s => { s with queue := s.queue ++ answer.errors, calls := s.calls + 1 }
  pure answer.ok

/-- The idiom of a call that changes the context, and is checked by `if ok != 1`. -/
def setter (label : String) (f : SslCtx Cert Key → SslCtx Cert Key) : Configure Cert Key PUnit := do
  let ok ← attempt aws
  if ok then
    update f
  else
    failWith aws label

/-! ## Rules -/

section rules

variable {aws} {s t : AwsState Cert Key}

/-- The state after the next call, if this succeeds and changes the context by `f`. -/
def AwsState.after (aws : AwsLc Cert Key) (f : SslCtx Cert Key → SslCtx Cert Key)
    (s : AwsState Cert Key) : AwsState Cert Key :=
  { s with
    ctx := f s.ctx
    queue := s.queue ++ (aws.answer s.calls).errors
    calls := s.calls + 1 }

/-- The function returned `Error::Init`. -/
def IsInit (e : Fault) (_s : AwsState Cert Key) : Prop :=
  ∃ message, e = initFault message

/-- The function returned `Error::Init`, and nothing is left in the error queue. -/
def CleanInit (e : Fault) (s : AwsState Cert Key) : Prop :=
  IsInit e s ∧ s.queue = []

/-- To queue errors always succeeds, and appends them. -/
@[simp] theorem succeeds_putErrors {errors : List ErrCode} {u : PUnit} :
    Succeeds (putErrors errors) s u t ↔ t = { s with queue := s.queue ++ errors } := by
  simp [putErrors, eq_comm]

/-- A call that cannot fail changes the context and nothing else. -/
@[simp] theorem succeeds_update {f : SslCtx Cert Key → SslCtx Cert Key} {u : PUnit} :
    Succeeds (update f) s u t ↔ t = { s with ctx := f s.ctx } := by
  simp [update, eq_comm]

/-- `last_error` always leaves the queue empty. -/
theorem run_lastError (aws : AwsLc Cert Key) (s : AwsState Cert Key) :
    ∃ detail, (lastError aws).run s = .ok detail { s with queue := [] } := by
  rcases s with ⟨ctx, queue, calls, index⟩
  rcases queue with _ | ⟨e, queue⟩
  · exact ⟨"(no error queued)", rfl⟩
  · refine ⟨aws.errorString e.pack, ?_⟩
    change (if e.pack = 0 then _ else formatAndClear aws e.pack : Configure Cert Key String).run _ = _
    rw [if_neg (pack_ne_zero e)]
    rfl

/-- The idiom returns `Error::Init` and leaves the queue empty, whatever was in it. -/
theorem run_failWith (aws : AwsLc Cert Key) (label : String) (s : AwsState Cert Key) :
    ∃ message, (failWith aws label : Configure Cert Key α).run s
      = .error (initFault message) { s with queue := [] } := by
  obtain ⟨detail, h⟩ := run_lastError aws s
  refine ⟨s!"{label}: {detail}", ?_⟩
  rw [failWith, EStateM.run_bind, h]
  rfl

/-- The idiom never returns. -/
@[simp] theorem not_succeeds_failWith {label : String} {a : α} :
    ¬ Succeeds (failWith aws label) s a t := by
  obtain ⟨message, h⟩ := run_failWith (α := α) aws label s
  simp [Succeeds, h]

/-- It fails in one way. -/
theorem onlyFails_failWith {label : String} :
    OnlyFails CleanInit (failWith aws label : Configure Cert Key α) := by
  intro s e t hrun
  obtain ⟨message, h⟩ := run_failWith (α := α) aws label s
  rw [h] at hrun
  cases hrun
  exact ⟨⟨message, rfl⟩, rfl⟩

/-- A clean failure is an `Error::Init`. -/
theorem onlyFails_isInit {m : Configure Cert Key α} (h : OnlyFails CleanInit m) : OnlyFails IsInit m :=
  h.mono fun _ _ hclean => hclean.1

/-- So is an error with a text of the crate's own. -/
theorem onlyFails_throw_initFault (message : String) :
    OnlyFails IsInit (throw (initFault message) : Configure Cert Key α) :=
  onlyFails_throw fun _ => ⟨message, rfl⟩

/-- To ask the library always succeeds: the answer is the next one, and its errors are queued. -/
theorem succeeds_attempt {ok : Bool} :
    Succeeds (attempt aws) s ok t ↔ (aws.answer s.calls).ok = ok ∧ s.after aws id = t := by
  have hrun : (attempt aws).run s = .ok (aws.answer s.calls).ok (s.after aws id) := rfl
  simp [Succeeds, hrun]

/-- To ask the library is not to fail. -/
theorem onlyFails_attempt {P : Fault → AwsState Cert Key → Prop} : OnlyFails P (attempt aws) :=
  onlyFails_get.bind fun _ => (onlyFails_modify _).bind fun _ => onlyFails_pure _

/-- **A setter succeeds iff the call does**, and then has changed the context. -/
theorem succeeds_setter {label : String} {f : SslCtx Cert Key → SslCtx Cert Key} {u : PUnit} :
    Succeeds (setter aws label f) s u t ↔ (aws.answer s.calls).ok = true ∧ t = s.after aws f := by
  simp [setter, succeeds_bind, succeeds_attempt, succeeds_ite, AwsState.after]

/-- A setter whose call fails takes the error from the queue. -/
theorem onlyFails_setter {label : String} {f : SslCtx Cert Key → SslCtx Cert Key} :
    OnlyFails CleanInit (setter aws label f) :=
  onlyFails_attempt.bind fun _ => onlyFails_ite (onlyFails_modify _) onlyFails_failWith

/-- With nothing queued the peek returns 0. -/
theorem run_errPeekLastError_nil (h : s.queue = []) :
    (errPeekLastError : Configure Cert Key _).run s = .ok 0 s := by
  change EStateM.Result.ok ((s.queue.getLast?.map ErrCode.pack).getD 0) s = _
  rw [h]
  rfl

/-- Otherwise it returns the newest error, and leaves it there. -/
theorem run_errPeekLastError_some {e : ErrCode} (h : s.queue.getLast? = some e) :
    (errPeekLastError : Configure Cert Key _).run s = .ok e.pack s := by
  change EStateM.Result.ok ((s.queue.getLast?.map ErrCode.pack).getD 0) s = _
  rw [h]
  rfl

/-- With nothing queued, `pem_eof_or_err` takes the NULL for the end of the bundle. -/
theorem run_pemEofOrErr_nil (label : String) (h : s.queue = []) :
    (pemEofOrErr aws label).run s = .ok ⟨⟩ s := by
  rw [pemEofOrErr, EStateM.run_bind, run_errPeekLastError_nil h]
  rfl

/-- With the end marker as the newest error it does so too, and drops what is queued. -/
theorem run_pemEofOrErr_end (label : String) (h : s.queue.getLast? = some noStartLine) :
    (pemEofOrErr aws label).run s = .ok ⟨⟩ { s with queue := [] } := by
  rw [pemEofOrErr, EStateM.run_bind, run_errPeekLastError_some h]
  rfl

/-- Any other newest error is the one that is reported. -/
theorem run_pemEofOrErr_error {e : ErrCode} (label : String) (h : s.queue.getLast? = some e)
    (hne : e ≠ noStartLine) :
    (pemEofOrErr aws label).run s
      = .error (initFault s!"{label}: {aws.errorString e.pack}") { s with queue := [] } := by
  rw [pemEofOrErr, EStateM.run_bind, run_errPeekLastError_some h]
  dsimp only
  rw [if_neg (pack_ne_zero e), if_neg (mt (pack_eq_noStartLine_iff e).mp hne)]
  rfl

/-- `pem_eof_or_err` succeeds iff nothing is queued or the newest error is the end marker. -/
theorem succeeds_pemEofOrErr_iff {label : String} {u : PUnit} :
    Succeeds (pemEofOrErr aws label) s u t
      ↔ (s.queue = [] ∨ s.queue.getLast? = some noStartLine) ∧ t = { s with queue := [] } := by
  rcases hlast : s.queue.getLast? with _ | e
  · have hnil := List.getLast?_eq_none_iff.mp hlast
    have hs : ({ s with queue := [] } : AwsState Cert Key) = s := by rw [← hnil]
    simp [Succeeds, run_pemEofOrErr_nil label hnil, hnil, hs, eq_comm]
  · have hne : s.queue ≠ [] := by
      intro hnil
      simp [hnil] at hlast
    by_cases hend : e = noStartLine
    · subst hend
      simp [Succeeds, run_pemEofOrErr_end label hlast, eq_comm]
    · simp [Succeeds, run_pemEofOrErr_error label hlast hend, hne, hend]

/-- What `pem_eof_or_err` reports it takes from the queue. -/
theorem onlyFails_pemEofOrErr {label : String} : OnlyFails CleanInit (pemEofOrErr aws label) := by
  intro s e t h
  rcases hlast : s.queue.getLast? with _ | newest
  · rw [run_pemEofOrErr_nil label (List.getLast?_eq_none_iff.mp hlast)] at h
    cases h
  · by_cases hend : newest = noStartLine
    · subst hend
      rw [run_pemEofOrErr_end label hlast] at h
      cases h
    · rw [run_pemEofOrErr_error label hlast hend] at h
      cases h
      exact ⟨⟨_, rfl⟩, rfl⟩

/-- Whatever was queued before, nothing is left when `pem_eof_or_err` returns. -/
theorem leaves_pemEofOrErr {label : String} :
    Leaves (fun t => t.queue = []) (pemEofOrErr aws label) s := by
  constructor
  · intro u t h
    rw [(succeeds_pemEofOrErr_iff.mp h).2]
  · intro e t h
    exact (onlyFails_pemEofOrErr s e t h).2

end rules

end TokioAwsLc.Config
