import TokioAwsLc.Handshake.Connect
import TokioAwsLc.Memory.Ffi

/-!
# Sessions and their objects

A session is made from a context, and libssl keeps a reference to that context as long as the session lives.
The BIO of the socket belongs to the session alone.

* `prepareClient` and `prepareServer` are the first poll of `connect` and `accept`, as in
  `TokioAwsLc.Handshake.Connect`. The future owns the session from then on: dropping the future, the stream
  that it returns, or the error that it returns in its place, is `SSL_free`.
* `alpnSelectCb` follows two pointers that belong to libssl, from the session to its context and from there to
  the crate's buffer. Nothing but the session keeps them alive, and that is enough (`triple_alpnSelectCb`).
* `getPeerCertificate` counts one more reference, which `hasPeerCertificate` and `peerCertificateDer` give up
  on every way out.
-/

set_option linter.unusedSectionVars false

namespace TokioAwsLc.Memory

open Config Handshake
open Ktls (Fault)
open Lib.Guard Lib.Ownership

variable {Cert Key α : Type} {R : Multiset (Ptr Kind)}

/-! ## Making a session -/

section sessions

variable (aws : AwsLc Cert Key)

/-- `SSL_new` counts one more reference to the context, whose value is `cfg`.
Source: `src/connector.rs` `new_ssl`, `src/acceptor.rs` `new_ssl` -/
def newSsl (ctx : Raw .sslCtx) (cfg : SslCtx Cert Key) : Owning Cert Key (Raw .ssl × Handle Cert Key) := do
  borrow ctx
  let ssl ← create aws "SSL_new" .ssl id
  upRef ctx
  take ssl .ctx ctx
  pure (ssl, .new cfg)

/-- `SSL_set_bio` takes over the one reference that `BIO_new_socket` returns, as both of its arguments are the
same BIO.
Source: `src/stream.rs` `attach_socket_bio` -/
def attachSocketBio (fd : ℤ) (ssl : Raw .ssl) (handle : Handle Cert Key) :
    Owning Cert Key (Handle Cert Key) := do
  let bio ← create aws "BIO_new_socket" .bio id
  borrow ssl
  take ssl .bio bio
  pure { handle with bio := some fd }

/-- `connect` up to the handshake.
Source: `src/connector.rs` `TlsConnector::connect` -/
def prepareClient (isIp : String → Bool) (ctx : Raw .sslCtx) (cfg : SslCtx Cert Key) (name : String)
    (fd : ℤ) : Owning Cert Key (Raw .ssl × Handle Cert Key) :=
  if name = "" then
    throw (initFault "server_name must not be empty")
  else do
    let ssl ← newSsl aws ctx cfg
    guarding ssl.1 (
      if nul ∈ name.toList then
        throw (initFault "server_name contains an embedded NUL byte")
      else do
        let handle ← within ssl.1 (pinIdentity aws isIp name ssl.2)
        let handle ← attachSocketBio aws fd ssl.1 handle
        pure (ssl.1, { handle with role := some .connect }))

/-- `accept` up to the handshake.
Source: `src/acceptor.rs` `TlsAcceptor::accept` -/
def prepareServer (ctx : Raw .sslCtx) (cfg : SslCtx Cert Key) (fd : ℤ) :
    Owning Cert Key (Raw .ssl × Handle Cert Key) := do
  let ssl ← newSsl aws ctx cfg
  guarding ssl.1 do
    let handle ← attachSocketBio aws fd ssl.1 ssl.2
    pure (ssl.1, { handle with role := some .accept })

section balance

variable {aws} {ctx : Raw .sslCtx} {cfg : SslCtx Cert Key}

/-- A new session holds its context, so that the caller need not. -/
theorem triple_newSsl (hctx : ctx.ptr ∈ R) :
    Triple (Owns R) (newSsl aws ctx cfg) (fun ssl => Owns (ssl.1.ptr ::ₘ R)) fun _ => Owns R := by
  apply (triple_borrow hctx).bind
  intro _
  apply triple_create.bind
  intro ssl
  apply (triple_upRef (Multiset.mem_cons_of_mem hctx)).bind
  intro _
  refine (triple_take (k := .ssl) (l := .sslCtx) (Multiset.mem_cons_self _ _) Nat.one_lt_two).bind ?_
  intro _
  exact triple_pure fun _ hs => hs

/-- The BIO belongs to the session, or there is none. -/
theorem keeps_attachSocketBio {fd : ℤ} {ssl : Raw .ssl} {handle : Handle Cert Key} (hssl : ssl.ptr ∈ R) :
    Keeps R (attachSocketBio aws fd ssl handle) := by
  apply triple_create.bind
  intro bio
  apply (triple_borrow (Multiset.mem_cons_of_mem hssl)).bind
  intro _
  refine (triple_take (l := .bio) hssl Nat.two_pos).bind ?_
  intro _
  exact triple_pure fun _ hs => hs

/-- **A client's session is returned, or freed** with everything that it holds. -/
theorem triple_prepareClient {isIp : String → Bool} {name : String} {fd : ℤ} (hctx : ctx.ptr ∈ R) :
    Triple (Owns R) (prepareClient aws isIp ctx cfg name fd) (fun ssl => Owns (ssl.1.ptr ::ₘ R))
      fun _ => Owns R := by
  apply triple_ite
  · intro _
    exact triple_throw fun _ hs => hs
  intro _
  apply (triple_newSsl hctx).bind
  intro ssl
  have hssl := Multiset.mem_cons_self ssl.1.ptr R
  apply triple_guarding
  apply triple_ite
  · intro _
    exact triple_throw fun _ hs => hs
  · intro _
    apply Triple.bind (keeps_within hssl _)
    intro handle
    apply Triple.bind (keeps_attachSocketBio hssl)
    intro handle
    exact triple_pure fun _ hs => hs

/-- **So is a server's.** -/
theorem triple_prepareServer {fd : ℤ} (hctx : ctx.ptr ∈ R) :
    Triple (Owns R) (prepareServer aws ctx cfg fd) (fun ssl => Owns (ssl.1.ptr ::ₘ R))
      fun _ => Owns R := by
  apply (triple_newSsl hctx).bind
  intro ssl
  apply triple_guarding
  apply Triple.bind (keeps_attachSocketBio (Multiset.mem_cons_self ssl.1.ptr R))
  intro handle
  exact triple_pure fun _ hs => hs

end balance

section view

variable {aws} {ctx : Raw .sslCtx} {cfg : SslCtx Cert Key}

end view

end sessions

/-! ## The handshake -/

section handshake

/-- The pointers that the callback follows. It gives up where one of them is NULL.
Source: `src/config/server.rs` `alpn_select_cb` -/
def alpnSelectCb (ssl : Raw .ssl) : Owning Cert Key PUnit := do
  let ctx ← follow ssl .ctx
  match ctx with
  | none => pure ⟨⟩
  | some ctx => do
      let wire ← follow ctx .exData
      match wire with
      | none => pure ⟨⟩
      | some wire => borrow wire

/-- libssl keeps the certificate that the peer presents. -/
def keepPeerCertificate (ssl : Raw .ssl) : Owning Cert Key PUnit := do
  clearSlot ssl .peer
  adopt ssl .peer .x509

/-- What a call of `SSL_do_handshake` can get to. -/
inductive Progress
  | waits
  | selects
  | learnsPeer
  deriving DecidableEq, Repr

/-- AWS-LC `SSL_do_handshake`. One call can get to several of these, which are then one after the other. -/
def sslDoHandshake (ssl : Raw .ssl) : Progress → Owning Cert Key PUnit
  | .waits => borrow ssl
  | .selects => alpnSelectCb ssl
  | .learnsPeer => keepPeerCertificate ssl

variable {ssl : Raw .ssl} {E : Fault → State Cert Key → Prop}

/-- **The context and the buffer are there when the callback runs**, because the session is. -/
theorem triple_alpnSelectCb (hssl : ssl.ptr ∈ R) :
    Triple (Owns R) (alpnSelectCb ssl : Owning Cert Key PUnit) (fun _ => Owns R) E := by
  apply triple_of_mem hssl
  apply triple_follow
  · exact triple_pure fun _ hs => hs
  intro ctx
  apply triple_follow
  · exact triple_pure fun _ hs => hs
  intro wire
  exact triple_borrow_of_present

/-- Nothing that the handshake gets to needs more than the session. -/
theorem triple_sslDoHandshake (hssl : ssl.ptr ∈ R) (progress : Progress) :
    Triple (Owns R) (sslDoHandshake ssl progress : Owning Cert Key PUnit) (fun _ => Owns R) E := by
  rcases progress with _ | _ | _
  · exact triple_borrow hssl
  · exact triple_alpnSelectCb hssl
  · exact (triple_clearSlot hssl).bind fun _ => triple_adopt hssl Nat.two_pos

end handshake

/-! ## The peer's certificate -/

section peer

variable (aws : AwsLc Cert Key)

/-- AWS-LC `SSL_get_peer_certificate`: a reference of the caller's own, or NULL. -/
def getPeerCertificate (ssl : Raw .ssl) : Owning Cert Key (Option (Ptr Kind)) := do
  let cert ← follow ssl .peer
  match cert with
  | none => pure none
  | some x => do
      upRef x
      pure (some x)

/-- Source: `src/stream.rs` `TlsStream::has_peer_certificate` -/
def hasPeerCertificate (ssl : Raw .ssl) : Owning Cert Key Bool := do
  let cert ← getPeerCertificate ssl
  match cert with
  | none => pure false
  | some x => do
      free x
      pure true

/-- How `i2d_X509` answers: the length, what it returns when it is called again with a buffer, and what it has
put there. -/
structure Encoding where
  len : ℤ
  written : ℤ
  der : Bytes

/-- The text of the `io::Error` of `peer_certificate_der`. -/
def encodingError : Owning Cert Key (Except String (Option Bytes)) := do
  let detail ← call (lastError aws)
  pure (.error s!"i2d_X509: {detail}")

/-- The two calls of `i2d_X509` on a certificate. -/
def encodeDer (i2d : Encoding) (x : Ptr Kind) : Owning Cert Key (Except String (Option Bytes)) := do
  borrow x
  if i2d.len ≤ 0 then
    encodingError aws
  else do
    borrow x
    if i2d.written ≠ i2d.len then
      encodingError aws
    else
      pure (.ok (some i2d.der))

/-- The local `cert` is dropped on every way out.
Source: `src/stream.rs` `TlsStream::peer_certificate_der` -/
def peerCertificateDer (i2d : Encoding) (ssl : Raw .ssl) :
    Owning Cert Key (Except String (Option Bytes)) := do
  let cert ← getPeerCertificate ssl
  match cert with
  | none => pure (.ok none)
  | some x => atEnd (State.drop x) (encodeDer aws i2d x)

variable {aws} {ssl : Raw .ssl} {E : Fault → State Cert Key → Prop}

/-- The caller has one more reference, or there is no certificate. -/
theorem triple_getPeerCertificate (hssl : ssl.ptr ∈ R) :
    Triple (Owns R) (getPeerCertificate ssl : Owning Cert Key (Option (Ptr Kind)))
      (fun cert => Owns (cert.elim R fun x => x ::ₘ R)) E := by
  apply triple_of_mem hssl
  apply triple_follow
  · exact triple_pure fun _ hs => hs
  intro x
  apply triple_upRef_of_present.bind
  intro _
  exact triple_pure fun _ hs => hs

/-- The reference is given up at once. -/
theorem keeps_hasPeerCertificate (hssl : ssl.ptr ∈ R) :
    Keeps R (hasPeerCertificate ssl : Owning Cert Key Bool) := by
  apply (triple_getPeerCertificate hssl).bind
  rintro (_ | x)
  · exact keeps_pure _
  · exact triple_free.bind fun _ => keeps_pure _

/-- The certificate is only looked at. -/
theorem keeps_encodeDer (i2d : Encoding) {x : Ptr Kind} (hx : x ∈ R) :
    Keeps R (encodeDer aws i2d x) := by
  have herror : Keeps R (encodingError aws) := (keeps_call _).bind fun _ => keeps_pure _
  apply (triple_borrow hx).bind
  intro _
  apply keeps_ite herror
  apply (triple_borrow hx).bind
  intro _
  exact keeps_ite herror (keeps_pure _)

/-- **The certificate is freed even where it cannot be encoded.** -/
theorem keeps_peerCertificateDer (i2d : Encoding) (hssl : ssl.ptr ∈ R) :
    Keeps R (peerCertificateDer aws i2d ssl) := by
  apply (triple_getPeerCertificate hssl).bind
  rintro (_ | x)
  · exact keeps_pure _
  · apply (keeps_encodeDer i2d (Multiset.mem_cons_self x R)).atEnd
    · exact fun _ _ hs => hs.drop
    · exact fun _ _ hs => hs.drop

end peer

end TokioAwsLc.Memory
