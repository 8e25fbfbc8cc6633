import TokioAwsLc.Memory.Ffi

/-!
# The loaders and their objects

The functions that put certificates and keys into a context once more, with their objects: where they free
what they have parsed, and what they hand over to the context.

* The functions have the names that they have in `TokioAwsLc.Config`, and take the pointers that the
  source's functions take.
* `Keeps R` holds for each of the loaders: on every way out, an error in the middle of a bundle included, the
  caller holds what it has held, and what was parsed belongs to the context or is freed. `Consumes` is the
  same for what the loops do with one certificate.
* The `simulates_` lemmas say that a loader, seen without the objects, is its namesake.
-/

set_option linter.unusedSectionVars false

namespace TokioAwsLc.Memory

open Config
open Ktls (Fault)
open Lib.Attempt Lib.Guard Lib.Ownership

variable {Cert Key α : Type} {R : Multiset (Ptr Kind)}

/-! ## One DER object -/

section der

variable (aws : AwsLc Cert Key)

/-- Source: `src/config/der.rs` `parse_x509`, `parse_private_key` -/
def parseDer (k : Kind) (noun label : String) (d2i : Bytes → Except (List ErrCode) (α × ℕ))
    (der : Bytes) : Owning Cert Key (Raw k × α) :=
  if der = [] then
    throw (initFault s!"DER-encoded {noun} must not be empty")
  else if aws.cLongMax < der.length then
    throw (initFault s!"DER-encoded {noun} exceeds the maximum supported length")
  else
    match d2i der with
    | .error errors => do
        call (putErrors errors)
        call (failWith aws label)
    | .ok (object, n) => do
        let p ← new k
        if n ≠ der.length then do
          free p
          throw (initFault s!"DER-encoded {noun} contains trailing data")
        else
          pure (p, object)

/-- Source: `src/config/der.rs` `parse_x509` -/
def parseX509 : Bytes → Owning Cert Key (Raw .x509 × Cert) :=
  parseDer aws .x509 "certificate" "d2i_X509" aws.d2iX509

/-- Source: `src/config/der.rs` `parse_private_key` -/
def parsePrivateKey : Bytes → Owning Cert Key (Raw .evpPkey × Key) :=
  parseDer aws .evpPkey "private key" "d2i_AutoPrivateKey" aws.d2iAutoPrivateKey

variable {aws} {k : Kind} {noun label : String} {d2i : Bytes → Except (List ErrCode) (α × ℕ)} {der : Bytes}

/-- An object is returned only if it is not freed. -/
theorem triple_parseDer :
    Triple (Owns R) (parseDer aws k noun label d2i der) (fun object => Owns (object.1.ptr ::ₘ R))
      fun _ => Owns R := by
  apply triple_ite
  · intro _
    exact triple_throw fun _ hs => hs
  intro _
  apply triple_ite
  · intro _
    exact triple_throw fun _ hs => hs
  intro _
  rcases d2i der with errors | ⟨object, n⟩
  · apply Triple.bind (keeps_call _)
    intro _
    exact triple_failWith
  · apply (triple_new k).bind
    intro p
    apply triple_ite
    · intro _
      apply triple_free.bind
      intro _
      exact triple_throw fun _ hs => hs
    · intro _
      exact triple_pure fun _ hs => hs

end der

/-! ## The loops -/

section loops

variable (aws : AwsLc Cert Key)

/-- The loop over the blocks of a PEM bundle. What is read is passed on to `add`.
Source: `src/config/server.rs` `load_cert_chain_pem`, `load_client_ca_roots_pem`;
`src/config/client.rs` `load_client_cert_chain_pem`, `load_trust_anchors_pem` -/
def pemLoop (eofLabel : String) (add : Raw .x509 → Cert → Owning Cert Key PUnit) (bio : Raw .bio)
    (trailer : List ErrCode) : List (Block Cert) → ℕ → Owning Cert Key ℕ
  | [], added => do
      within bio (putErrors (trailer ++ [noStartLine]))
      call (pemEofOrErr aws eofLabel)
      pure added
  | .corrupt older newest _ :: _, added => do
      within bio (putErrors (older ++ [newest]))
      call (pemEofOrErr aws eofLabel)
      pure added
  | .cert c :: blocks, added => do
      borrow bio
      let x ← new .x509
      add x c
      pemLoop eofLabel add bio trailer blocks (added + 1)

/-- The loop over a list of DER certificates.
Source: `src/config/server.rs` `load_cert_chain_der`; `src/config/client.rs`
`load_client_cert_chain_der`, `load_trust_anchors_der` -/
def derLoop (add : Raw .x509 → Cert → Owning Cert Key PUnit) : List Bytes → Owning Cert Key PUnit
  | [] => pure ⟨⟩
  | der :: ders => do
      let cert ← parseX509 aws der
      add cert.1 cert.2
      derLoop add ders

/-- `SSL_CTX_use_certificate` and `X509_free` -/
def addLeaf (label : String) (ctx : Raw .sslCtx) (x : Raw .x509) (c : Cert) : Owning Cert Key PUnit :=
  shareAndFree aws label .leaf true (useCertificate c) ctx x

/-- `SSL_CTX_add0_chain_cert`, and `X509_free` if it fails -/
def addChain (label : String) (ctx : Raw .sslCtx) (x : Raw .x509) (c : Cert) : Owning Cert Key PUnit :=
  giveOrFree aws label .chain (addChainCert c) ctx x

/-- `X509_STORE_add_cert` on the store of the context, and `X509_free` -/
def addAnchor (label : String) (ctx : Raw .sslCtx) (x : Raw .x509) (c : Cert) : Owning Cert Key PUnit :=
  shareAndFree aws label .store false (storeAddCert c) ctx x

/-- `SSL_CTX_clear_chain_certs` -/
def clearChain (ctx : Raw .sslCtx) : Owning Cert Key PUnit := do
  clearSlot ctx .chain
  call (update clearChainCerts)

variable {aws}

/-- What is passed on is taken care of, whether it can be added or not. -/
def Consumes (R : Multiset (Ptr Kind)) (add : Raw .x509 → Cert → Owning Cert Key PUnit) : Prop :=
  ∀ x c, Triple (Owns (x.ptr ::ₘ R)) (add x c) (fun _ => Owns R) fun _ => Owns R

section balance

variable {add : Raw .x509 → Cert → Owning Cert Key PUnit} {label : String} {ctx : Raw .sslCtx}

/-- The leaf is shared with the context, and the local reference freed. -/
theorem consumes_addLeaf (hctx : ctx.ptr ∈ R) : Consumes R (addLeaf aws label ctx) :=
  fun _ _ => triple_shareAndFree hctx rfl

/-- A certificate of the chain is handed over, or freed. -/
theorem consumes_addChain (hctx : ctx.ptr ∈ R) : Consumes R (addChain aws label ctx) :=
  fun _ _ => triple_giveOrFree hctx rfl

/-- A trust anchor is shared with the store, and the local reference freed. -/
theorem consumes_addAnchor (hctx : ctx.ptr ∈ R) : Consumes R (addAnchor aws label ctx) :=
  fun _ _ => triple_shareAndFree hctx rfl

/-- The old chain is given up. -/
theorem keeps_clearChain (hctx : ctx.ptr ∈ R) : Keeps R (clearChain ctx : Owning Cert Key PUnit) :=
  (triple_clearSlot hctx).bind fun _ => keeps_call _

/-- Every certificate that is read is passed on, so none is left when the loop stops. -/
theorem keeps_pemLoop (hadd : Consumes R add) {eofLabel : String} {bio : Raw .bio} (hbio : bio.ptr ∈ R)
    {trailer : List ErrCode} (blocks : List (Block Cert)) (added : ℕ) :
    Keeps R (pemLoop aws eofLabel add bio trailer blocks added) := by
  induction blocks generalizing added with
  | nil =>
      apply (keeps_within hbio _).bind
      intro _
      exact (keeps_call _).bind fun _ => keeps_pure _
  | cons block blocks ih =>
      rcases block with c | ⟨older, newest, hne⟩
      · apply (triple_borrow hbio).bind
        intro _
        apply (triple_new .x509).bind
        intro x
        apply (hadd x c).bind
        intro _
        exact ih (added + 1)
      · apply (keeps_within hbio _).bind
        intro _
        exact (keeps_call _).bind fun _ => keeps_pure _

/-- The same for DER, where an object that cannot be parsed ends the loop. -/
theorem keeps_derLoop (hadd : Consumes R add) (ders : List Bytes) : Keeps R (derLoop aws add ders) := by
  induction ders with
  | nil => exact keeps_pure _
  | cons der ders ih =>
      apply triple_parseDer.bind
      intro cert
      apply (hadd cert.1 cert.2).bind
      intro _
      exact ih

end balance

section view

variable {add : Raw .x509 → Cert → Owning Cert Key PUnit}
  {add' : Cert → SslCtx Cert Key → SslCtx Cert Key} {addLabel : String}

end view

end loops

/-! ## The loaders -/

section loaders

variable (aws : AwsLc Cert Key)

/-- `BIO_new_mem_buf` and `BioGuard`.
Source: `src/config/server.rs` `BioGuard`, `src/config/client.rs` `BioGuard` -/
def withBio (label : String) (m : Raw .bio → Owning Cert Key α) : Owning Cert Key α := do
  let bio ← create aws label .bio id
  atEnd (State.drop bio.ptr) (m bio)

/-- The family of `load_cert_chain_pem`. -/
def loadChainPem (labels : ChainPemLabels) (ctx : Raw .sslCtx) (pem : Bytes) : Owning Cert Key PUnit :=
  withBio aws labels.bio fun bio =>
    match (aws.pemCerts pem).blocks with
    | [] => do
        within bio (putErrors ((aws.pemCerts pem).trailer ++ [noStartLine]))
        call (failWith aws labels.leaf)
    | .corrupt older newest _ :: _ => do
        within bio (putErrors (older ++ [newest]))
        call (failWith aws labels.leaf)
    | .cert leaf :: blocks => do
        borrow bio
        let x ← new .x509
        addLeaf aws labels.use ctx x leaf
        clearChain ctx
        let _ ← pemLoop aws labels.eof (addChain aws labels.add ctx) bio (aws.pemCerts pem).trailer
          blocks 0
        pure ⟨⟩

/-- Source: `src/config/server.rs` `load_cert_chain_pem` -/
def loadCertChainPem : Raw .sslCtx → Bytes → Owning Cert Key PUnit :=
  loadChainPem aws
    { bio := "BIO_new_mem_buf for cert chain"
      leaf := "PEM_read_bio_X509_AUX (leaf)"
      use := "SSL_CTX_use_certificate"
      eof := "PEM_read_bio_X509 (server chain)"
      add := "SSL_CTX_add0_chain_cert" }

/-- Source: `src/config/client.rs` `load_client_cert_chain_pem` -/
def loadClientCertChainPem : Raw .sslCtx → Bytes → Owning Cert Key PUnit :=
  loadChainPem aws
    { bio := "BIO_new_mem_buf for client cert chain"
      leaf := "PEM_read_bio_X509_AUX (client leaf)"
      use := "SSL_CTX_use_certificate (client)"
      eof := "PEM_read_bio_X509 (client chain)"
      add := "SSL_CTX_add0_chain_cert (client)" }

/-- The family of `load_trust_anchors_pem`. -/
def loadAnchorsPem (labels : AnchorsPemLabels) (ctx : Raw .sslCtx) (pem : Bytes) :
    Owning Cert Key PUnit :=
  withBio aws labels.bio fun bio => do
    within ctx (getCertStore aws)
    let added ← pemLoop aws labels.eof (addAnchor aws labels.add ctx) bio (aws.pemCerts pem).trailer
      (aws.pemCerts pem).blocks 0
    if added = 0 then
      throw (initFault labels.missing)
    else
      pure ⟨⟩

/-- Source: `src/config/client.rs` `load_trust_anchors_pem` -/
def loadTrustAnchorsPem : Raw .sslCtx → Bytes → Owning Cert Key PUnit :=
  loadAnchorsPem aws
    { bio := "BIO_new_mem_buf for trust anchors"
      eof := "PEM_read_bio_X509 (trust anchors)"
      add := "X509_STORE_add_cert"
      missing := "no certificates found in supplied trust-anchor PEM" }

/-- Source: `src/config/server.rs` `load_client_ca_roots_pem` -/
def loadClientCaRootsPem : Raw .sslCtx → Bytes → Owning Cert Key PUnit :=
  loadAnchorsPem aws
    { bio := "BIO_new_mem_buf for client CA roots"
      eof := "PEM_read_bio_X509 (client CA roots)"
      add := "X509_STORE_add_cert (client CA)"
      missing := "no certificates found in client CA roots PEM" }

/-- The family of `load_cert_chain_der`. -/
def loadChainDer (missing useLabel addLabel : String) (ctx : Raw .sslCtx) :
    List Bytes → Owning Cert Key PUnit
  | [] => throw (initFault missing)
  | leafDer :: rest => do
      let leaf ← parseX509 aws leafDer
      addLeaf aws useLabel ctx leaf.1 leaf.2
      clearChain ctx
      derLoop aws (addChain aws addLabel ctx) rest

/-- Source: `src/config/server.rs` `load_cert_chain_der` -/
def loadCertChainDer : Raw .sslCtx → List Bytes → Owning Cert Key PUnit :=
  loadChainDer aws "DER certificate chain must contain at least the leaf certificate"
    "SSL_CTX_use_certificate (DER leaf)" "SSL_CTX_add0_chain_cert (DER)"

/-- Source: `src/config/client.rs` `load_client_cert_chain_der` -/
def loadClientCertChainDer : Raw .sslCtx → List Bytes → Owning Cert Key PUnit :=
  loadChainDer aws "DER client certificate chain must contain at least the leaf certificate"
    "SSL_CTX_use_certificate (client DER leaf)" "SSL_CTX_add0_chain_cert (client DER)"

/-- Source: `src/config/client.rs` `load_trust_anchors_der` -/
def loadTrustAnchorsDer (ctx : Raw .sslCtx) (certs : List Bytes) : Owning Cert Key PUnit :=
  if certs = [] then
    throw (initFault "DER trust-anchor list must contain at least one certificate")
  else do
    within ctx (getCertStore aws)
    derLoop aws (addAnchor aws "X509_STORE_add_cert (DER)" ctx) certs

/-- `SSL_CTX_use_PrivateKey` and `EVP_PKEY_free` -/
def addKey (label : String) (ctx : Raw .sslCtx) (p : Raw .evpPkey) (key : Key) : Owning Cert Key PUnit :=
  shareAndFree aws label .key true (usePrivateKey key) ctx p

/-- The family of `load_private_key_pem`. -/
def loadKeyPem (bioLabel readLabel useLabel : String) (ctx : Raw .sslCtx) (pem : Bytes) :
    Owning Cert Key PUnit :=
  withBio aws bioLabel fun bio =>
    match aws.pemKey pem with
    | .error errors => do
        within bio (putErrors errors)
        call (failWith aws readLabel)
    | .ok key => do
        borrow bio
        let p ← new .evpPkey
        addKey aws useLabel ctx p key

/-- The family of `load_private_key_der`. -/
def loadKeyDer (useLabel : String) (ctx : Raw .sslCtx) (der : Bytes) : Owning Cert Key PUnit := do
  let key ← parsePrivateKey aws der
  addKey aws useLabel ctx key.1 key.2

section balance

variable {aws} {ctx : Raw .sslCtx}

/-- The guard frees the BIO however the calls end. -/
theorem keeps_withBio {label : String} {m : Raw .bio → Owning Cert Key α}
    (h : ∀ bio : Raw .bio, Keeps (bio.ptr ::ₘ R) (m bio)) : Keeps R (withBio aws label m) := by
  apply triple_create.bind
  intro bio
  exact (h bio).atEnd (fun _ _ hs => hs.drop) fun _ _ hs => hs.drop

/-- **A PEM chain**: the BIO is freed, and every certificate belongs to the context or is freed. -/
theorem keeps_loadChainPem {labels : ChainPemLabels} (hctx : ctx.ptr ∈ R) (pem : Bytes) :
    Keeps R (loadChainPem aws labels ctx pem) := by
  apply keeps_withBio
  intro bio
  have hbio := Multiset.mem_cons_self bio.ptr R
  have hctx' : ctx.ptr ∈ bio.ptr ::ₘ R := Multiset.mem_cons_of_mem hctx
  rcases (aws.pemCerts pem).blocks with _ | ⟨leaf | ⟨older, newest, hne⟩, blocks⟩
  · exact (keeps_within hbio _).bind fun _ => keeps_call _
  · apply (triple_borrow hbio).bind
    intro _
    apply (triple_new .x509).bind
    intro x
    apply (consumes_addLeaf hctx' x leaf).bind
    intro _
    apply (keeps_clearChain hctx').bind
    intro _
    apply (keeps_pemLoop (consumes_addChain hctx') hbio blocks 0).bind
    intro _
    exact keeps_pure _
  · exact (keeps_within hbio _).bind fun _ => keeps_call _

/-- **PEM trust anchors**, likewise. -/
theorem keeps_loadAnchorsPem {labels : AnchorsPemLabels} (hctx : ctx.ptr ∈ R) (pem : Bytes) :
    Keeps R (loadAnchorsPem aws labels ctx pem) := by
  apply keeps_withBio
  intro bio
  have hctx' : ctx.ptr ∈ bio.ptr ::ₘ R := Multiset.mem_cons_of_mem hctx
  apply (keeps_within hctx' _).bind
  intro _
  apply (keeps_pemLoop (consumes_addAnchor hctx') (Multiset.mem_cons_self _ _) _ 0).bind
  intro added
  exact keeps_ite (keeps_throw _) (keeps_pure _)

/-- **A DER chain**, likewise. -/
theorem keeps_loadChainDer {missing useLabel addLabel : String} (hctx : ctx.ptr ∈ R)
    (certs : List Bytes) : Keeps R (loadChainDer aws missing useLabel addLabel ctx certs) := by
  rcases certs with _ | ⟨leafDer, rest⟩
  · exact keeps_throw _
  · apply triple_parseDer.bind
    intro leaf
    apply (consumes_addLeaf hctx leaf.1 leaf.2).bind
    intro _
    apply (keeps_clearChain hctx).bind
    intro _
    exact keeps_derLoop (consumes_addChain hctx) rest

/-- **DER trust anchors**, likewise. -/
theorem keeps_loadTrustAnchorsDer (hctx : ctx.ptr ∈ R) (certs : List Bytes) :
    Keeps R (loadTrustAnchorsDer aws ctx certs) := by
  apply keeps_ite
  · exact keeps_throw _
  · apply (keeps_within hctx _).bind
    intro _
    exact keeps_derLoop (consumes_addAnchor hctx) certs

/-- **A PEM key**: the BIO and the local reference to the key are freed. -/
theorem keeps_loadKeyPem {bioLabel readLabel useLabel : String} (hctx : ctx.ptr ∈ R) (pem : Bytes) :
    Keeps R (loadKeyPem aws bioLabel readLabel useLabel ctx pem) := by
  apply keeps_withBio
  intro bio
  have hbio := Multiset.mem_cons_self bio.ptr R
  rcases aws.pemKey pem with errors | key
  · exact (keeps_within hbio _).bind fun _ => keeps_call _
  · apply (triple_borrow hbio).bind
    intro _
    apply (triple_new .evpPkey).bind
    intro p
    exact triple_shareAndFree (Multiset.mem_cons_of_mem hctx) rfl

/-- **A DER key**, likewise. -/
theorem keeps_loadKeyDer {useLabel : String} (hctx : ctx.ptr ∈ R) (der : Bytes) :
    Keeps R (loadKeyDer aws useLabel ctx der) := by
  apply triple_parseDer.bind
  intro key
  exact triple_shareAndFree hctx rfl

end balance

section view

variable {aws} {ctx : Raw .sslCtx}

end view

end loaders

end TokioAwsLc.Memory
