import TokioAwsLc.Config.Context

/-!
# Loading certificates

Seven loops of the builders read certificates: a chain or a set of trust anchors, from a PEM text or from
a list of DER objects, for the server or for the client. Each is a member of one of four families here,
with its own labels.

* `pemLoop` and `derLoop` are the loops. At a NULL of the reader the first one asks `pemEofOrErr` whether
  the bundle is at its end.
* `PemReads` and `DerReads` say what certificates an input holds, without a word about how it is read.
* `Loads` says what a loader is for, given what its input holds. Neither the format of the input nor the
  side that loads it occurs there; `Loads.agree` says that two such loaders agree.
* `bundle_loading` is the result: the loaders do what they are for.
-/

namespace TokioAwsLc.Config

open Ktls (Fault)
open Lib.Attempt

variable {Cert Key α : Type}

/-! ## One DER object -/

section der

variable (aws : AwsLc Cert Key)

/-- The parser of one DER object by `d2i`, which takes a prefix of its input.
Source: `src/config/der.rs` `parse_x509`, `parse_private_key` -/
def parseDer (noun label : String) (d2i : Bytes → Except (List ErrCode) (α × ℕ)) (der : Bytes) :
    Configure Cert Key α :=
  if der = [] then
    throw (initFault s!"DER-encoded {noun} must not be empty")
  else if aws.cLongMax < der.length then
    throw (initFault s!"DER-encoded {noun} exceeds the maximum supported length")
  else
    match d2i der with
    | .error errors => do
        putErrors errors
        failWith aws label
    | .ok (object, n) =>
        if n ≠ der.length then
          throw (initFault s!"DER-encoded {noun} contains trailing data")
        else
          pure object

/-- Source: `src/config/der.rs` `parse_x509` -/
def parseX509 : Bytes → Configure Cert Key Cert :=
  parseDer aws "certificate" "d2i_X509" aws.d2iX509

/-- Source: `src/config/der.rs` `parse_private_key` -/
def parsePrivateKey : Bytes → Configure Cert Key Key :=
  parseDer aws "private key" "d2i_AutoPrivateKey" aws.d2iAutoPrivateKey

end der

/-! ## The loops -/

section loops

variable (aws : AwsLc Cert Key)

/-- The loop over the blocks of a PEM bundle, with the number of certificates that it has added. The chain
loaders do not count.
Source: `src/config/server.rs` `load_cert_chain_pem`, `load_client_ca_roots_pem`;
`src/config/client.rs` `load_client_cert_chain_pem`, `load_trust_anchors_pem` -/
def pemLoop (eofLabel addLabel : String) (add : Cert → SslCtx Cert Key → SslCtx Cert Key)
    (trailer : List ErrCode) : List (Block Cert) → ℕ → Configure Cert Key ℕ
  | [], added => do
      -- NULL at the end of the input
      putErrors (trailer ++ [noStartLine])
      pemEofOrErr aws eofLabel
      pure added
  | .corrupt older newest _ :: _, added => do
      -- NULL for a block that does not parse
      putErrors (older ++ [newest])
      pemEofOrErr aws eofLabel
      pure added
  | .cert c :: blocks, added => do
      setter aws addLabel (add c)
      pemLoop eofLabel addLabel add trailer blocks (added + 1)

/-- The loop over a list of DER certificates.
Source: `src/config/server.rs` `load_cert_chain_der`; `src/config/client.rs`
`load_client_cert_chain_der`, `load_trust_anchors_der` -/
def derLoop (addLabel : String) (add : Cert → SslCtx Cert Key → SslCtx Cert Key) :
    List Bytes → Configure Cert Key PUnit
  | [] => pure ⟨⟩
  | der :: ders => do
      let c ← parseX509 aws der
      setter aws addLabel (add c)
      derLoop addLabel add ders

/-- `SSL_CTX_use_certificate` -/
def useCertificate (c : Cert) (ctx : SslCtx Cert Key) : SslCtx Cert Key :=
  { ctx with leaf := some c }

/-- `SSL_CTX_clear_chain_certs` -/
def clearChainCerts (ctx : SslCtx Cert Key) : SslCtx Cert Key :=
  { ctx with chain := [] }

/-- `SSL_CTX_add0_chain_cert` -/
def addChainCert (c : Cert) (ctx : SslCtx Cert Key) : SslCtx Cert Key :=
  { ctx with chain := ctx.chain ++ [c] }

/-- `X509_STORE_add_cert` on the store of the context -/
def storeAddCert (c : Cert) (ctx : SslCtx Cert Key) : SslCtx Cert Key :=
  { ctx with store := ctx.store ++ [c] }

/-- The check of `SSL_CTX_get_cert_store`, which is the only one that does not look at the queue. -/
def getCertStore : Configure Cert Key PUnit := do
  let ok ← attempt aws
  if ok then
    pure ⟨⟩
  else
    throw (initFault "SSL_CTX_get_cert_store returned null")

/-! ## The loaders -/

/-- The labels of a loader that reads a chain from PEM. -/
structure ChainPemLabels where
  bio : String
  leaf : String
  use : String
  eof : String
  add : String

/-- The family of `load_cert_chain_pem`. -/
def loadChainPem (labels : ChainPemLabels) (pem : Bytes) : Configure Cert Key PUnit := do
  setter aws labels.bio id
  match (aws.pemCerts pem).blocks with
  | [] => do
      putErrors ((aws.pemCerts pem).trailer ++ [noStartLine])
      failWith aws labels.leaf
  | .corrupt older newest _ :: _ => do
      putErrors (older ++ [newest])
      failWith aws labels.leaf
  | .cert leaf :: blocks => do
      setter aws labels.use (useCertificate leaf)
      update clearChainCerts
      let _ ← pemLoop aws labels.eof labels.add addChainCert (aws.pemCerts pem).trailer blocks 0
      pure ⟨⟩

/-- Source: `src/config/server.rs` `load_cert_chain_pem` -/
def loadCertChainPem : Bytes → Configure Cert Key PUnit :=
  loadChainPem aws
    { bio := "BIO_new_mem_buf for cert chain"
      leaf := "PEM_read_bio_X509_AUX (leaf)"
      use := "SSL_CTX_use_certificate"
      eof := "PEM_read_bio_X509 (server chain)"
      add := "SSL_CTX_add0_chain_cert" }

/-- Source: `src/config/client.rs` `load_client_cert_chain_pem` -/
def loadClientCertChainPem : Bytes → Configure Cert Key PUnit :=
  loadChainPem aws
    { bio := "BIO_new_mem_buf for client cert chain"
      leaf := "PEM_read_bio_X509_AUX (client leaf)"
      use := "SSL_CTX_use_certificate (client)"
      eof := "PEM_read_bio_X509 (client chain)"
      add := "SSL_CTX_add0_chain_cert (client)" }

/-- The labels of a loader that reads trust anchors from PEM. -/
structure AnchorsPemLabels where
  bio : String
  eof : String
  add : String
  missing : String

/-- The family of `load_trust_anchors_pem`. -/
def loadAnchorsPem (labels : AnchorsPemLabels) (pem : Bytes) : Configure Cert Key PUnit := do
  setter aws labels.bio id
  getCertStore aws
  let added ← pemLoop aws labels.eof labels.add storeAddCert (aws.pemCerts pem).trailer
    (aws.pemCerts pem).blocks 0
  if added = 0 then
    throw (initFault labels.missing)
  else
    pure ⟨⟩

/-- Source: `src/config/client.rs` `load_trust_anchors_pem` -/
def loadTrustAnchorsPem : Bytes → Configure Cert Key PUnit :=
  loadAnchorsPem aws
    { bio := "BIO_new_mem_buf for trust anchors"
      eof := "PEM_read_bio_X509 (trust anchors)"
      add := "X509_STORE_add_cert"
      missing := "no certificates found in supplied trust-anchor PEM" }

/-- Source: `src/config/server.rs` `load_client_ca_roots_pem` -/
def loadClientCaRootsPem : Bytes → Configure Cert Key PUnit :=
  loadAnchorsPem aws
    { bio := "BIO_new_mem_buf for client CA roots"
      eof := "PEM_read_bio_X509 (client CA roots)"
      add := "X509_STORE_add_cert (client CA)"
      missing := "no certificates found in client CA roots PEM" }

/-- The family of `load_cert_chain_der`. -/
def loadChainDer (missing useLabel addLabel : String) : List Bytes → Configure Cert Key PUnit
  | [] => throw (initFault missing)
  | leafDer :: rest => do
      let leaf ← parseX509 aws leafDer
      setter aws useLabel (useCertificate leaf)
      update clearChainCerts
      derLoop aws addLabel addChainCert rest

/-- Source: `src/config/server.rs` `load_cert_chain_der` -/
def loadCertChainDer : List Bytes → Configure Cert Key PUnit :=
  loadChainDer aws "DER certificate chain must contain at least the leaf certificate"
    "SSL_CTX_use_certificate (DER leaf)" "SSL_CTX_add0_chain_cert (DER)"

/-- Source: `src/config/client.rs` `load_client_cert_chain_der` -/
def loadClientCertChainDer : List Bytes → Configure Cert Key PUnit :=
  loadChainDer aws "DER client certificate chain must contain at least the leaf certificate"
    "SSL_CTX_use_certificate (client DER leaf)" "SSL_CTX_add0_chain_cert (client DER)"

/-- Source: `src/config/client.rs` `load_trust_anchors_der` -/
def loadTrustAnchorsDer (certs : List Bytes) : Configure Cert Key PUnit :=
  if certs = [] then
    throw (initFault "DER trust-anchor list must contain at least one certificate")
  else do
    getCertStore aws
    derLoop aws "X509_STORE_add_cert (DER)" storeAddCert certs

end loops

/-! ## What an input holds -/

section reads

variable (aws : AwsLc Cert Key)

/-- The PEM text holds these certificates, and no block that does not parse. -/
def PemReads (pem : Bytes) (certs : List Cert) : Prop :=
  (aws.pemCerts pem).blocks = certs.map .cert

/-- The DER object is this certificate, with nothing behind it. -/
structure IsCert (der : Bytes) (c : Cert) : Prop where
  ne_nil : der ≠ []
  length_le : der.length ≤ aws.cLongMax
  parses : aws.d2iX509 der = .ok (c, der.length)

/-- The DER objects are these certificates. -/
def DerReads (ders : List Bytes) (certs : List Cert) : Prop :=
  List.Forall₂ (IsCert aws) ders certs

/-- From call `k` on, `n` calls in a row succeed. -/
def AllOk (k n : ℕ) : Prop :=
  ∀ i < n, (aws.answer (k + i)).ok = true

variable {aws}

/-- There is no call that could fail. -/
@[simp] theorem allOk_zero (k : ℕ) : AllOk aws k 0 := by
  intro i hi
  omega

/-- Calls succeed one after the other. -/
theorem allOk_succ (k n : ℕ) :
    AllOk aws k (n + 1) ↔ (aws.answer k).ok = true ∧ AllOk aws (k + 1) n := by
  constructor
  · intro h
    refine ⟨h 0 (Nat.succ_pos n), fun i hi => ?_⟩
    rw [Nat.add_assoc, Nat.add_comm 1 i]
    exact h (i + 1) (Nat.succ_lt_succ hi)
  · rintro ⟨hk, h⟩ i hi
    rcases i with _ | i
    · exact hk
    · have hi' := h i (Nat.lt_of_succ_lt_succ hi)
      rwa [Nat.add_assoc, Nat.add_comm 1 i] at hi'

/-- The state after the certificates have been added one by one, if the calls succeed. -/
def AwsState.afterAll (aws : AwsLc Cert Key) (add : Cert → SslCtx Cert Key → SslCtx Cert Key)
    (certs : List Cert) (s : AwsState Cert Key) : AwsState Cert Key :=
  certs.foldl (fun s c => s.after aws (add c)) s

/-- If `install` adds one certificate after the other by `add`, then it says what is in the context. -/
theorem afterAll_ctx {add : Cert → SslCtx Cert Key → SslCtx Cert Key}
    {install : List Cert → SslCtx Cert Key → SslCtx Cert Key} (hnil : ∀ ctx, install [] ctx = ctx)
    (hcons : ∀ c certs ctx, install (c :: certs) ctx = install certs (add c ctx)) (certs : List Cert)
    (s : AwsState Cert Key) : (s.afterAll aws add certs).ctx = install certs s.ctx := by
  induction certs generalizing s with
  | nil => exact (hnil s.ctx).symm
  | cons c certs ih =>
      rw [hcons]
      exact ih (s.after aws (add c))

end reads

/-! ## When the loops succeed -/

section succeeds

variable {aws : AwsLc Cert Key} {s t : AwsState Cert Key} {u : PUnit}

/-- A DER object is accepted iff it is one object with nothing behind it. The state stays as it is. -/
theorem succeeds_parseDer {noun label : String} {d2i : Bytes → Except (List ErrCode) (α × ℕ)}
    {der : Bytes} {a : α} :
    Succeeds (parseDer aws noun label d2i der) s a t ↔
      (der ≠ [] ∧ der.length ≤ aws.cLongMax ∧ d2i der = .ok (a, der.length)) ∧ t = s := by
  rcases hd2i : d2i der with errors | ⟨object, n⟩
  · simp [parseDer, hd2i, succeeds_ite, succeeds_bind]
  · by_cases hn : n = der.length
    · subst hn
      simp [parseDer, hd2i, succeeds_ite, eq_comm (a := s), and_assoc]
    · simp [parseDer, hd2i, succeeds_ite, hn]

/-- A DER certificate is accepted iff the whole object is one, and nothing but the result changes. -/
theorem succeeds_parseX509 {der : Bytes} {c : Cert} :
    Succeeds (parseX509 aws der) s c t ↔ IsCert aws der c ∧ t = s := by
  rw [parseX509, succeeds_parseDer]
  refine and_congr_left' ⟨?_, ?_⟩
  · rintro ⟨hne, hle, hparse⟩
    exact ⟨hne, hle, hparse⟩
  · rintro ⟨hne, hle, hparse⟩
    exact ⟨hne, hle, hparse⟩

/-- The loop over DER certificates succeeds iff each of them is one and is added. -/
theorem succeeds_derLoop {addLabel : String} {add : Cert → SslCtx Cert Key → SslCtx Cert Key}
    {ders : List Bytes} :
    Succeeds (derLoop aws addLabel add ders) s u t ↔
      ∃ certs, DerReads aws ders certs ∧ AllOk aws s.calls certs.length ∧
        t = s.afterAll aws add certs := by
  induction ders generalizing s with
  | nil =>
      constructor
      · intro h
        obtain ⟨-, rfl⟩ := succeeds_pure.mp h
        exact ⟨[], .nil, allOk_zero _, rfl⟩
      · rintro ⟨certs, hreads, -, rfl⟩
        obtain rfl := List.forall₂_nil_left_iff.mp hreads
        exact succeeds_pure.mpr ⟨rfl, rfl⟩
  | cons der ders ih =>
      simp only [derLoop, succeeds_bind, succeeds_parseX509, succeeds_setter, ih]
      constructor
      · rintro ⟨c, _, ⟨hc, rfl⟩, _, _, ⟨hok, rfl⟩, certs, hreads, hall, rfl⟩
        exact ⟨c :: certs, .cons hc hreads, (allOk_succ _ _).mpr ⟨hok, hall⟩, rfl⟩
      · rintro ⟨certs, hreads, hall, rfl⟩
        rcases hreads with _ | ⟨hc, hreads⟩
        obtain ⟨hok, hall⟩ := (allOk_succ _ _).mp hall
        exact ⟨_, s, ⟨hc, rfl⟩, ⟨⟩, _, ⟨hok, rfl⟩, _, hreads, hall, rfl⟩

/-- The loop over PEM blocks succeeds iff each of them is a certificate and is added. Then nothing is left
in the error queue. -/
theorem succeeds_pemLoop {eofLabel addLabel : String}
    {add : Cert → SslCtx Cert Key → SslCtx Cert Key} {trailer : List ErrCode}
    {blocks : List (Block Cert)} {added n : ℕ} :
    Succeeds (pemLoop aws eofLabel addLabel add trailer blocks added) s n t ↔
      ∃ certs, blocks = certs.map .cert ∧ AllOk aws s.calls certs.length ∧
        n = added + certs.length ∧ t = { s.afterAll aws add certs with queue := [] } := by
  induction blocks generalizing s added with
  | nil =>
      simp only [pemLoop, succeeds_bind, succeeds_putErrors, succeeds_pemEofOrErr_iff, succeeds_pure]
      constructor
      · rintro ⟨_, _, rfl, _, _, ⟨-, rfl⟩, rfl, rfl⟩
        exact ⟨[], rfl, allOk_zero _, rfl, rfl⟩
      · rintro ⟨certs, hcerts, -, rfl, rfl⟩
        obtain rfl := List.map_eq_nil_iff.mp hcerts.symm
        -- whatever was queued before, the end marker is the newest error
        exact ⟨⟨⟩, _, rfl, ⟨⟩, _, ⟨.inr (by simp), rfl⟩, rfl, rfl⟩
  | cons block blocks ih =>
      rcases block with c | ⟨older, newest, hne⟩
      · simp only [pemLoop, succeeds_bind, succeeds_setter, ih]
        constructor
        · rintro ⟨_, _, ⟨hok, rfl⟩, certs, rfl, hall, rfl, rfl⟩
          refine ⟨c :: certs, rfl, (allOk_succ _ _).mpr ⟨hok, hall⟩, ?_, rfl⟩
          rw [List.length_cons]
          omega
        · rintro ⟨certs, hcerts, hall, rfl, rfl⟩
          rcases certs with _ | ⟨c', certs⟩
          · cases hcerts
          obtain ⟨hc, rfl⟩ := List.cons.inj hcerts
          obtain rfl := Block.cert.inj hc
          obtain ⟨hok, hall⟩ := (allOk_succ _ _).mp hall
          refine ⟨⟨⟩, _, ⟨hok, rfl⟩, certs, rfl, hall, ?_, rfl⟩
          rw [List.length_cons]
          omega
      · -- the newest error is the one of the corrupt block
        simp only [pemLoop, succeeds_bind, succeeds_putErrors, succeeds_pemEofOrErr_iff]
        constructor
        · rintro ⟨_, _, rfl, _, _, ⟨hend, rfl⟩, -⟩
          simp [hne] at hend
        · rintro ⟨certs, hcerts, -⟩
          rcases certs with _ | ⟨c', certs⟩
          · cases hcerts
          · cases (List.cons.inj hcerts).1

/-- A context has a trust store, unless the library says otherwise. -/
theorem succeeds_getCertStore :
    Succeeds (getCertStore aws) s u t ↔ (aws.answer s.calls).ok = true ∧ t = s.after aws id := by
  simp [getCertStore, succeeds_bind, succeeds_attempt, succeeds_ite, eq_comm (a := t)]

end succeeds

/-! ## How the loaders fail -/

section fails

variable {aws : AwsLc Cert Key}

/-- A DER parser fails only with `Error::Init`. -/
theorem onlyFails_parseDer {noun label : String} {d2i : Bytes → Except (List ErrCode) (α × ℕ)}
    {der : Bytes} : OnlyFails IsInit (parseDer aws noun label d2i der) := by
  refine onlyFails_ite (onlyFails_throw_initFault _) (onlyFails_ite (onlyFails_throw_initFault _) ?_)
  rcases d2i der with errors | ⟨object, n⟩
  · exact (onlyFails_modify _).bind fun _ => onlyFails_isInit onlyFails_failWith
  · exact onlyFails_ite (onlyFails_throw_initFault _) (onlyFails_pure object)

/-- So does the loop over DER certificates. -/
theorem onlyFails_derLoop {addLabel : String} {add : Cert → SslCtx Cert Key → SslCtx Cert Key}
    (ders : List Bytes) : OnlyFails IsInit (derLoop aws addLabel add ders) := by
  induction ders with
  | nil => exact onlyFails_pure _
  | cons der ders ih =>
      exact onlyFails_parseDer.bind fun c =>
        (onlyFails_isInit onlyFails_setter).bind fun _ => ih

/-- The loop over a PEM bundle also leaves no error in the queue. -/
theorem onlyFails_pemLoop {eofLabel addLabel : String}
    {add : Cert → SslCtx Cert Key → SslCtx Cert Key} {trailer : List ErrCode}
    (blocks : List (Block Cert)) (added : ℕ) :
    OnlyFails CleanInit (pemLoop aws eofLabel addLabel add trailer blocks added) := by
  induction blocks generalizing added with
  | nil =>
      exact (onlyFails_modify _).bind fun _ => onlyFails_pemEofOrErr.bind fun _ => onlyFails_pure _
  | cons block blocks ih =>
      rcases block with c | ⟨older, newest, hne⟩
      · exact onlyFails_setter.bind fun _ => ih _
      · exact (onlyFails_modify _).bind fun _ => onlyFails_pemEofOrErr.bind fun _ => onlyFails_pure _

/-- A missing trust store is an `Error::Init` too. -/
theorem onlyFails_getCertStore : OnlyFails IsInit (getCertStore aws) :=
  onlyFails_attempt.bind fun _ => onlyFails_ite (onlyFails_pure _) (onlyFails_throw_initFault _)

/-- A PEM chain fails cleanly: every error was taken from the queue. -/
theorem onlyFails_loadChainPem (labels : ChainPemLabels) (pem : Bytes) :
    OnlyFails CleanInit (loadChainPem aws labels pem) := by
  refine onlyFails_setter.bind fun _ => ?_
  rcases (aws.pemCerts pem).blocks with _ | ⟨c | ⟨older, newest, hne⟩, blocks⟩
  · exact (onlyFails_modify _).bind fun _ => onlyFails_failWith
  · exact onlyFails_setter.bind fun _ => (onlyFails_modify _).bind fun _ =>
      (onlyFails_pemLoop blocks 0).bind fun _ => onlyFails_pure _
  · exact (onlyFails_modify _).bind fun _ => onlyFails_failWith

/-- PEM trust anchors fail with `Error::Init`. -/
theorem onlyFails_loadAnchorsPem (labels : AnchorsPemLabels) (pem : Bytes) :
    OnlyFails IsInit (loadAnchorsPem aws labels pem) :=
  (onlyFails_isInit onlyFails_setter).bind fun _ => onlyFails_getCertStore.bind fun _ =>
    (onlyFails_isInit (onlyFails_pemLoop _ 0)).bind fun _ =>
      onlyFails_ite (onlyFails_throw_initFault _) (onlyFails_pure _)

/-- A DER chain fails with `Error::Init`. -/
theorem onlyFails_loadChainDer (missing useLabel addLabel : String) (ders : List Bytes) :
    OnlyFails IsInit (loadChainDer aws missing useLabel addLabel ders) := by
  rcases ders with _ | ⟨leafDer, rest⟩
  · exact onlyFails_throw_initFault _
  · exact onlyFails_parseDer.bind fun leaf => (onlyFails_isInit onlyFails_setter).bind fun _ =>
      (onlyFails_modify _).bind fun _ => onlyFails_derLoop rest

/-- DER trust anchors fail with `Error::Init`. -/
theorem onlyFails_loadTrustAnchorsDer (ders : List Bytes) :
    OnlyFails IsInit (loadTrustAnchorsDer aws ders) :=
  onlyFails_ite (onlyFails_throw_initFault _)
    (onlyFails_getCertStore.bind fun _ => onlyFails_derLoop ders)

end fails

/-! ## What the loaders are for -/

/-- A chain: the first certificate is the leaf, the others follow in their order. -/
def installChain : List Cert → SslCtx Cert Key → SslCtx Cert Key
  | [], ctx => ctx
  | leaf :: chain, ctx => { ctx with leaf := some leaf, chain := chain }

/-- Trust anchors: they are added to those that are there. -/
def installAnchors (certs : List Cert) (ctx : SslCtx Cert Key) : SslCtx Cert Key :=
  { ctx with store := ctx.store ++ certs }

/-- A loader that installs the certificates of an input, with `setup` calls before the first setter: it
succeeds iff the input holds certificates, at least one, and every call succeeds; and then exactly these
are installed. -/
structure Loads (aws : AwsLc Cert Key) (setup : ℕ) (Reads : List Cert → Prop)
    (install : List Cert → SslCtx Cert Key → SslCtx Cert Key) (load : Configure Cert Key PUnit) :
    Prop where
  succeeds_iff : ∀ s, (∃ t, Succeeds load s ⟨⟩ t) ↔
    ∃ certs, certs ≠ [] ∧ Reads certs ∧ AllOk aws s.calls (certs.length + setup)
  installs : ∀ s t, Succeeds load s ⟨⟩ t → ∃ certs, Reads certs ∧ t.ctx = install certs s.ctx
  fails : OnlyFails IsInit load

section loads

variable {aws : AwsLc Cert Key} {setup : ℕ} {Reads : List Cert → Prop}
  {install : List Cert → SslCtx Cert Key → SslCtx Cert Key} {load : Configure Cert Key PUnit}

/-- From the closed form of a loader. -/
theorem Loads.of_succeeds_iff {final : List Cert → AwsState Cert Key → AwsState Cert Key}
    (hiff : ∀ s t, Succeeds load s ⟨⟩ t ↔ ∃ certs, certs ≠ [] ∧ Reads certs ∧
      AllOk aws s.calls (certs.length + setup) ∧ t = final certs s)
    (hfinal : ∀ certs s, (final certs s).ctx = install certs s.ctx) (hfails : OnlyFails IsInit load) :
    Loads aws setup Reads install load where
  succeeds_iff s := by
    simp only [hiff]
    constructor
    · rintro ⟨t, certs, hne, hreads, hall, -⟩
      exact ⟨certs, hne, hreads, hall⟩
    · rintro ⟨certs, hne, hreads, hall⟩
      exact ⟨_, certs, hne, hreads, hall, rfl⟩
  installs s t h := by
    obtain ⟨certs, -, hreads, -, rfl⟩ := (hiff s t).mp h
    exact ⟨certs, hreads, hfinal certs s⟩
  fails := hfails

/-- What is installed are the certificates that the input holds, if it can only hold these. -/
theorem Loads.ctx_eq (h : Loads aws setup Reads install load) {certs : List Cert}
    (honly : ∀ certs', Reads certs' → certs' = certs) {s t : AwsState Cert Key}
    (hload : Succeeds load s ⟨⟩ t) : t.ctx = install certs s.ctx := by
  obtain ⟨certs', hreads, hctx⟩ := h.installs s t hload
  rw [hctx, honly certs' hreads]

/-- Two loaders of the same certificates agree, if one of them makes one call more before the first setter
and this call succeeds. -/
theorem Loads.agree (h : Loads aws (setup + 1) Reads install load) {Reads' : List Cert → Prop}
    {load' : Configure Cert Key PUnit} (h' : Loads aws setup Reads' install load')
    {certs : List Cert} (honly : ∀ certs', Reads certs' ↔ certs' = certs)
    (honly' : ∀ certs', Reads' certs' ↔ certs' = certs) {s : AwsState Cert Key}
    (hok : (aws.answer s.calls).ok = true) (ctx : SslCtx Cert Key) :
    (∃ t, Succeeds load s ⟨⟩ t ∧ t.ctx = ctx) ↔
      ∃ t, Succeeds load' (s.after aws id) ⟨⟩ t ∧ t.ctx = ctx := by
  constructor
  · rintro ⟨t, ht, rfl⟩
    obtain ⟨certs', hne, hreads, hall⟩ := (h.succeeds_iff s).mp ⟨t, ht⟩
    obtain rfl := (honly certs').mp hreads
    obtain ⟨-, hall⟩ := (allOk_succ _ _).mp hall
    obtain ⟨t', ht'⟩ :=
      (h'.succeeds_iff (s.after aws id)).mpr ⟨certs', hne, (honly' certs').mpr rfl, hall⟩
    refine ⟨t', ht', ?_⟩
    rw [h'.ctx_eq (fun _ hr => (honly' _).mp hr) ht', h.ctx_eq (fun _ hr => (honly _).mp hr) ht]
    rfl
  · rintro ⟨t', ht', rfl⟩
    obtain ⟨certs', hne, hreads, hall⟩ := (h'.succeeds_iff (s.after aws id)).mp ⟨t', ht'⟩
    obtain rfl := (honly' certs').mp hreads
    obtain ⟨t, ht⟩ :=
      (h.succeeds_iff s).mpr ⟨certs', hne, (honly certs').mpr rfl, (allOk_succ _ _).mpr ⟨hok, hall⟩⟩
    refine ⟨t, ht, ?_⟩
    rw [h'.ctx_eq (fun _ hr => (honly' _).mp hr) ht', h.ctx_eq (fun _ hr => (honly _).mp hr) ht]
    rfl

end loads

/-! ## The loaders do what they are for -/

/-- The state after a chain has been installed, if the calls succeed. -/
def AwsState.chained (aws : AwsLc Cert Key) : List Cert → AwsState Cert Key → AwsState Cert Key
  | [], s => s
  | leaf :: chain, s =>
      AwsState.afterAll aws addChainCert chain
        { s.after aws (useCertificate leaf) with ctx := clearChainCerts (useCertificate leaf s.ctx) }

section loaders

variable {aws : AwsLc Cert Key} {s t : AwsState Cert Key} {u : PUnit}

/-- Certificates behind those of the chain. -/
def extendChain (certs : List Cert) (ctx : SslCtx Cert Key) : SslCtx Cert Key :=
  { ctx with chain := ctx.chain ++ certs }

/-- The certificates are appended to the chain in the order in which they are read. -/
theorem afterAll_addChainCert (certs : List Cert) (s : AwsState Cert Key) :
    (s.afterAll aws addChainCert certs).ctx = extendChain certs s.ctx :=
  afterAll_ctx (fun ctx => by simp [extendChain])
    (fun c certs ctx => by simp [extendChain, addChainCert]) certs s

/-- The first certificate is the leaf, and the others replace the chain. -/
theorem chained_ctx (certs : List Cert) (s : AwsState Cert Key) :
    (s.chained aws certs).ctx = installChain certs s.ctx := by
  rcases certs with _ | ⟨leaf, chain⟩
  · rfl
  · rw [AwsState.chained, afterAll_addChainCert]
    rfl

/-- The certificates are added to the trust store in the order in which they are read. -/
theorem afterAll_storeAddCert (certs : List Cert) (s : AwsState Cert Key) :
    (s.afterAll aws storeAddCert certs).ctx = installAnchors certs s.ctx :=
  afterAll_ctx (fun ctx => by simp [installAnchors])
    (fun c certs ctx => by simp [installAnchors, storeAddCert]) certs s

/-- **A PEM chain is loaded iff** it holds a certificate, every block of it is one, and every call succeeds.
-/
theorem succeeds_loadChainPem {labels : ChainPemLabels} {pem : Bytes} :
    Succeeds (loadChainPem aws labels pem) s u t ↔
      ∃ certs, certs ≠ [] ∧ PemReads aws pem certs ∧ AllOk aws s.calls (certs.length + 1) ∧
        t = { (s.after aws id).chained aws certs with queue := [] } := by
  simp only [loadChainPem, succeeds_bind, succeeds_setter, PemReads]
  rcases (aws.pemCerts pem).blocks with _ | ⟨c | ⟨older, newest, hne⟩, blocks⟩
  · constructor
    · rintro ⟨_, _, -, h⟩
      simp [succeeds_bind] at h
    · rintro ⟨certs, hcerts, hblocks, -⟩
      exact absurd (List.map_eq_nil_iff.mp hblocks.symm) hcerts
  · simp only [succeeds_bind, succeeds_setter, succeeds_update, succeeds_pemLoop, succeeds_pure]
    constructor
    · rintro ⟨_, _, ⟨hbio, rfl⟩, _, _, ⟨huse, rfl⟩, _, _, rfl, _, _, ⟨chain, rfl, hall, -, rfl⟩, -, rfl⟩
      exact ⟨c :: chain, List.cons_ne_nil _ _, rfl,
        (allOk_succ _ _).mpr ⟨hbio, (allOk_succ _ _).mpr ⟨huse, hall⟩⟩, rfl⟩
    · rintro ⟨certs, -, hblocks, hall, rfl⟩
      rcases certs with _ | ⟨leaf, chain⟩
      · cases hblocks
      obtain ⟨hleaf, rfl⟩ := List.cons.inj hblocks
      obtain rfl := Block.cert.inj hleaf
      obtain ⟨hbio, hall⟩ := (allOk_succ _ _).mp hall
      obtain ⟨huse, hall⟩ := (allOk_succ _ _).mp hall
      exact ⟨⟨⟩, _, ⟨hbio, rfl⟩, ⟨⟩, _, ⟨huse, rfl⟩, ⟨⟩, _, rfl, _, _, ⟨chain, rfl, hall, rfl, rfl⟩,
        trivial, rfl⟩
  · constructor
    · rintro ⟨_, _, -, h⟩
      simp [succeeds_bind] at h
    · rintro ⟨certs, -, hblocks, -⟩
      rcases certs with _ | ⟨leaf, chain⟩
      · cases hblocks
      · cases (List.cons.inj hblocks).1

/-- **A DER chain is loaded iff** there is a certificate, every object is one, and every call succeeds. -/
theorem succeeds_loadChainDer {missing useLabel addLabel : String} {ders : List Bytes} :
    Succeeds (loadChainDer aws missing useLabel addLabel ders) s u t ↔
      ∃ certs, certs ≠ [] ∧ DerReads aws ders certs ∧ AllOk aws s.calls (certs.length + 0) ∧
        t = s.chained aws certs := by
  rcases ders with _ | ⟨leafDer, rest⟩
  · constructor
    · intro h
      exact absurd h not_succeeds_throw
    · rintro ⟨certs, hcerts, hreads, -⟩
      exact absurd (List.forall₂_nil_left_iff.mp hreads) hcerts
  · simp only [loadChainDer, succeeds_bind, succeeds_parseX509, succeeds_setter, succeeds_update,
      succeeds_derLoop]
    constructor
    · rintro ⟨leaf, _, ⟨hleaf, rfl⟩, _, _, ⟨huse, rfl⟩, _, _, rfl, chain, hreads, hall, rfl⟩
      exact ⟨leaf :: chain, List.cons_ne_nil _ _, .cons hleaf hreads,
        (allOk_succ _ _).mpr ⟨huse, hall⟩, rfl⟩
    · rintro ⟨certs, -, hreads, hall, rfl⟩
      rcases hreads with _ | ⟨hleaf, hreads⟩
      obtain ⟨huse, hall⟩ := (allOk_succ _ _).mp hall
      exact ⟨_, s, ⟨hleaf, rfl⟩, ⟨⟩, _, ⟨huse, rfl⟩, ⟨⟩, _, rfl, _, hreads, hall, rfl⟩

/-- **PEM trust anchors are loaded iff** there is one, every block is one, and every call succeeds. -/
theorem succeeds_loadAnchorsPem {labels : AnchorsPemLabels} {pem : Bytes} :
    Succeeds (loadAnchorsPem aws labels pem) s u t ↔
      ∃ certs, certs ≠ [] ∧ PemReads aws pem certs ∧ AllOk aws s.calls (certs.length + 2) ∧
        t = { ((s.after aws id).after aws id).afterAll aws storeAddCert certs with queue := [] } := by
  simp only [loadAnchorsPem, succeeds_bind, succeeds_setter, succeeds_getCertStore, succeeds_pemLoop,
    succeeds_ite, not_succeeds_throw, and_false, false_or, succeeds_pure, PemReads]
  constructor
  · rintro ⟨_, _, ⟨hbio, rfl⟩, _, _, ⟨hstore, rfl⟩, _, _, ⟨certs, hreads, hall, rfl, rfl⟩, hadded, -,
      rfl⟩
    refine ⟨certs, ?_, hreads, (allOk_succ _ _).mpr ⟨hbio, (allOk_succ _ _).mpr ⟨hstore, hall⟩⟩, rfl⟩
    rintro rfl
    exact hadded rfl
  · rintro ⟨certs, hne, hreads, hall, rfl⟩
    obtain ⟨hbio, hall⟩ := (allOk_succ _ _).mp hall
    obtain ⟨hstore, hall⟩ := (allOk_succ _ _).mp hall
    refine ⟨⟨⟩, _, ⟨hbio, rfl⟩, ⟨⟩, _, ⟨hstore, rfl⟩, _, _, ⟨certs, hreads, hall, rfl, rfl⟩, ?_,
      trivial, rfl⟩
    have := List.length_pos_iff.mpr hne
    omega

/-- **DER trust anchors are loaded iff** there is one, every object is one, and every call succeeds. -/
theorem succeeds_loadTrustAnchorsDer {ders : List Bytes} :
    Succeeds (loadTrustAnchorsDer aws ders) s u t ↔
      ∃ certs, certs ≠ [] ∧ DerReads aws ders certs ∧ AllOk aws s.calls (certs.length + 1) ∧
        t = (s.after aws id).afterAll aws storeAddCert certs := by
  simp only [loadTrustAnchorsDer, succeeds_ite, succeeds_bind, not_succeeds_throw, and_false,
    false_or, succeeds_getCertStore, succeeds_derLoop]
  constructor
  · rintro ⟨hne, _, _, ⟨hstore, rfl⟩, certs, hreads, hall, rfl⟩
    refine ⟨certs, ?_, hreads, (allOk_succ _ _).mpr ⟨hstore, hall⟩, rfl⟩
    rintro rfl
    exact hne (List.forall₂_nil_right_iff.mp hreads)
  · rintro ⟨certs, hne, hreads, hall, rfl⟩
    obtain ⟨hstore, hall⟩ := (allOk_succ _ _).mp hall
    refine ⟨?_, ⟨⟩, _, ⟨hstore, rfl⟩, certs, hreads, hall, rfl⟩
    rintro rfl
    exact hne (List.forall₂_nil_left_iff.mp hreads)

/-- A PEM chain, as an instance of what all loaders do. -/
theorem loads_chainPem (labels : ChainPemLabels) (pem : Bytes) :
    Loads aws 1 (PemReads aws pem) installChain (loadChainPem aws labels pem) :=
  .of_succeeds_iff (fun _ _ => succeeds_loadChainPem) (fun certs s => chained_ctx certs (s.after aws id))
    (onlyFails_isInit (onlyFails_loadChainPem labels pem))

/-- Nothing is left in the queue by a chain loader of a PEM text, whether it fails or not. -/
theorem leaves_loadChainPem (labels : ChainPemLabels) (pem : Bytes) (s : AwsState Cert Key) :
    Leaves (fun t => t.queue = []) (loadChainPem aws labels pem) s := by
  constructor
  · intro u t h
    obtain ⟨certs, -, -, -, rfl⟩ := succeeds_loadChainPem.mp h
    rfl
  · intro e t h
    exact (onlyFails_loadChainPem labels pem s e t h).2

/-- A DER chain, as an instance of what all loaders do. -/
theorem loads_chainDer (missing useLabel addLabel : String) (ders : List Bytes) :
    Loads aws 0 (DerReads aws ders) installChain (loadChainDer aws missing useLabel addLabel ders) :=
  .of_succeeds_iff (fun _ _ => succeeds_loadChainDer) chained_ctx
    (onlyFails_loadChainDer missing useLabel addLabel ders)

/-- PEM trust anchors, as an instance of what all loaders do. -/
theorem loads_anchorsPem (labels : AnchorsPemLabels) (pem : Bytes) :
    Loads aws 2 (PemReads aws pem) installAnchors (loadAnchorsPem aws labels pem) :=
  .of_succeeds_iff (fun _ _ => succeeds_loadAnchorsPem) (fun certs _ => afterAll_storeAddCert certs _)
    (onlyFails_loadAnchorsPem labels pem)

/-- DER trust anchors, as an instance of what all loaders do. -/
theorem loads_anchorsDer (ders : List Bytes) :
    Loads aws 1 (DerReads aws ders) installAnchors (loadTrustAnchorsDer aws ders) :=
  .of_succeeds_iff (fun _ _ => succeeds_loadTrustAnchorsDer) (fun certs _ => afterAll_storeAddCert certs _)
    (onlyFails_loadTrustAnchorsDer ders)

end loaders

/-! ## The seven loaders -/

/-- The loaders of a PEM text. -/
def pemLoaders (aws : AwsLc Cert Key) (pem : Bytes) : List (Configure Cert Key PUnit) :=
  [loadCertChainPem aws pem, loadClientCertChainPem aws pem, loadTrustAnchorsPem aws pem,
    loadClientCaRootsPem aws pem]

section bundles

variable {aws : AwsLc Cert Key}

/-- A text holds one list of certificates. -/
theorem pemReads_iff {pem : Bytes} {certs : List Cert} (h : PemReads aws pem certs)
    (certs' : List Cert) : PemReads aws pem certs' ↔ certs' = certs := by
  unfold PemReads at h ⊢
  rw [h]
  constructor
  · intro heq
    exact (List.map_injective_iff.mpr (fun _ _ => Block.cert.inj) heq).symm
  · rintro rfl
    rfl

/-- DER objects are one list of certificates. -/
theorem derReads_iff {ders : List Bytes} {certs : List Cert} (h : DerReads aws ders certs)
    (certs' : List Cert) : DerReads aws ders certs' ↔ certs' = certs := by
  constructor
  · intro h'
    have huniq : Relator.RightUnique (IsCert aws) := by
      intro der c c' hc hc'
      have heq := hc.parses.symm.trans hc'.parses
      exact (Prod.mk.inj (Except.ok.inj heq)).1
    exact List.right_unique_forall₂' huniq h' h
  · rintro rfl
    exact h

/-- A text with a corrupt block does not hold certificates. -/
theorem not_pemReads_of_corrupt {pem : Bytes} {older : List ErrCode} {newest : ErrCode}
    {hne : newest ≠ noStartLine} (h : .corrupt older newest hne ∈ (aws.pemCerts pem).blocks)
    (certs : List Cert) : ¬ PemReads aws pem certs := by
  intro hreads
  rw [show (aws.pemCerts pem).blocks = _ from hreads] at h
  obtain ⟨c, -, hc⟩ := List.mem_map.mp h
  cases hc

/-- The four loaders of a PEM text differ in what they install, and in their labels. -/
theorem loads_of_mem_pemLoaders {pem : Bytes} {load : Configure Cert Key PUnit}
    (hload : load ∈ pemLoaders aws pem) :
    ∃ setup install, Loads aws setup (PemReads aws pem) install load := by
  simp only [pemLoaders, List.mem_cons, List.not_mem_nil, or_false] at hload
  rcases hload with rfl | rfl | rfl | rfl
  · exact ⟨1, installChain, loads_chainPem _ pem⟩
  · exact ⟨1, installChain, loads_chainPem _ pem⟩
  · exact ⟨2, installAnchors, loads_anchorsPem _ pem⟩
  · exact ⟨2, installAnchors, loads_anchorsPem _ pem⟩

/-- A text with a corrupt block fails each of them. -/
theorem fails_of_corrupt {pem : Bytes} {older : List ErrCode} {newest : ErrCode}
    {hne : newest ≠ noStartLine} (hmem : .corrupt older newest hne ∈ (aws.pemCerts pem).blocks)
    {load : Configure Cert Key PUnit} (hload : load ∈ pemLoaders aws pem) (s : AwsState Cert Key) :
    ∃ e t, load.run s = .error e t ∧ IsInit e t := by
  obtain ⟨setup, install, hloads⟩ := loads_of_mem_pemLoaders hload
  apply hloads.fails.of_not_succeeds
  intro u t h
  obtain ⟨certs, hreads, -⟩ := hloads.installs s t h
  exact not_pemReads_of_corrupt hmem certs hreads

/-- When one of them succeeds, nothing is left in the queue. -/
theorem queue_of_mem_pemLoaders {pem : Bytes} {load : Configure Cert Key PUnit}
    (hload : load ∈ pemLoaders aws pem) {s t : AwsState Cert Key} (h : Succeeds load s ⟨⟩ t) :
    t.queue = [] := by
  simp only [pemLoaders, List.mem_cons, List.not_mem_nil, or_false] at hload
  rcases hload with rfl | rfl | rfl | rfl
  · exact (leaves_loadChainPem _ pem s).1 _ t h
  · exact (leaves_loadChainPem _ pem s).1 _ t h
  · obtain ⟨certs, -, -, -, rfl⟩ := succeeds_loadAnchorsPem.mp h
    rfl
  · obtain ⟨certs, -, -, -, rfl⟩ := succeeds_loadAnchorsPem.mp h
    rfl

end bundles

/-- Loading is all or nothing, keeps the order, and is the same for PEM and DER, server and client. -/
structure BundleLoading (aws : AwsLc Cert Key) : Prop where
  cert_chain_pem : ∀ pem, Loads aws 1 (PemReads aws pem) installChain (loadCertChainPem aws pem)
  client_cert_chain_pem : ∀ pem,
    Loads aws 1 (PemReads aws pem) installChain (loadClientCertChainPem aws pem)
  cert_chain_der : ∀ ders, Loads aws 0 (DerReads aws ders) installChain (loadCertChainDer aws ders)
  client_cert_chain_der : ∀ ders,
    Loads aws 0 (DerReads aws ders) installChain (loadClientCertChainDer aws ders)
  trust_anchors_pem : ∀ pem,
    Loads aws 2 (PemReads aws pem) installAnchors (loadTrustAnchorsPem aws pem)
  client_ca_roots_pem : ∀ pem,
    Loads aws 2 (PemReads aws pem) installAnchors (loadClientCaRootsPem aws pem)
  trust_anchors_der : ∀ ders,
    Loads aws 1 (DerReads aws ders) installAnchors (loadTrustAnchorsDer aws ders)
  /-- A corrupt block fails the load, wherever it stands and whatever is queued. -/
  corrupt : ∀ pem older newest hne, .corrupt older newest hne ∈ (aws.pemCerts pem).blocks →
    ∀ load ∈ pemLoaders aws pem, ∀ s, ∃ e t, load.run s = .error e t ∧ IsInit e t
  /-- Nothing is left in the queue when `pem_eof_or_err` returns, when a chain loader returns from a PEM
  text, and when any PEM loader succeeds. -/
  classifier_empties : ∀ label s, Leaves (fun t => t.queue = []) (pemEofOrErr aws label) s
  chain_pem_empties : ∀ pem s, Leaves (fun t => t.queue = []) (loadCertChainPem aws pem) s ∧
    Leaves (fun t => t.queue = []) (loadClientCertChainPem aws pem) s
  pem_empties : ∀ pem, ∀ load ∈ pemLoaders aws pem, ∀ s t, Succeeds load s ⟨⟩ t → t.queue = []
  /-- The server and the client load the same from the same text or objects. -/
  sides_pem : ∀ pem s t, Succeeds (loadCertChainPem aws pem) s ⟨⟩ t ↔
    Succeeds (loadClientCertChainPem aws pem) s ⟨⟩ t
  sides_der : ∀ ders s t, Succeeds (loadCertChainDer aws ders) s ⟨⟩ t ↔
    Succeeds (loadClientCertChainDer aws ders) s ⟨⟩ t
  sides_anchors : ∀ pem s t, Succeeds (loadTrustAnchorsPem aws pem) s ⟨⟩ t ↔
    Succeeds (loadClientCaRootsPem aws pem) s ⟨⟩ t
  /-- After `BIO_new_mem_buf` has succeeded, a PEM loader does what its DER counterpart does on the same
  certificates. -/
  formats_chain : ∀ pem ders certs s ctx, PemReads aws pem certs → DerReads aws ders certs →
    (aws.answer s.calls).ok = true →
    ((∃ t, Succeeds (loadCertChainPem aws pem) s ⟨⟩ t ∧ t.ctx = ctx) ↔
      ∃ t, Succeeds (loadCertChainDer aws ders) (s.after aws id) ⟨⟩ t ∧ t.ctx = ctx)
  formats_anchors : ∀ pem ders certs s ctx, PemReads aws pem certs → DerReads aws ders certs →
    (aws.answer s.calls).ok = true →
    ((∃ t, Succeeds (loadTrustAnchorsPem aws pem) s ⟨⟩ t ∧ t.ctx = ctx) ↔
      ∃ t, Succeeds (loadTrustAnchorsDer aws ders) (s.after aws id) ⟨⟩ t ∧ t.ctx = ctx)

/-- **The loaders install the certificates of their input, all of them or none.** -/
theorem bundle_loading (aws : AwsLc Cert Key) : BundleLoading aws where
  cert_chain_pem := loads_chainPem _
  client_cert_chain_pem := loads_chainPem _
  cert_chain_der := loads_chainDer _ _ _
  client_cert_chain_der := loads_chainDer _ _ _
  trust_anchors_pem := loads_anchorsPem _
  client_ca_roots_pem := loads_anchorsPem _
  trust_anchors_der := loads_anchorsDer
  corrupt _ _ _ _ hmem _ hload s := fails_of_corrupt hmem hload s
  classifier_empties _ _ := leaves_pemEofOrErr
  chain_pem_empties pem s := ⟨leaves_loadChainPem _ pem s, leaves_loadChainPem _ pem s⟩
  pem_empties _ _ hload _ _ h := queue_of_mem_pemLoaders hload h
  sides_pem _ _ _ := succeeds_loadChainPem.trans succeeds_loadChainPem.symm
  sides_der _ _ _ := succeeds_loadChainDer.trans succeeds_loadChainDer.symm
  sides_anchors _ _ _ := succeeds_loadAnchorsPem.trans succeeds_loadAnchorsPem.symm
  formats_chain pem ders _ _ ctx hpem hder hok :=
    (loads_chainPem _ pem).agree (loads_chainDer _ _ _ ders) (pemReads_iff hpem) (derReads_iff hder)
      hok ctx
  formats_anchors pem ders _ _ ctx hpem hder hok :=
    (loads_anchorsPem _ pem).agree (loads_anchorsDer ders) (pemReads_iff hpem) (derReads_iff hder)
      hok ctx

end TokioAwsLc.Config
