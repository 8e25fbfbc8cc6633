import TokioAwsLc.Memory.Loaders

/-!
# The builders and their objects

The constructors of configurations once more, with their objects. A configuration owns its context, and the
context what was put into it; a constructor that fails has to free the context it has made.

* `finish` and `build` go over the context as their namesakes in `TokioAwsLc.Config` do, and `withPemBytes`,
  `withDerBytes` and `withPemFiles` are the ways to get to `finish`. Each returns the context with the
  configuration.
* `Builds R m` is the rule of balance for them: the caller has one more reference if `m` succeeds, and none if
  it fails.
* `Failed` has the one exception. `install_alpn_wire` lets go of its box before it asks for the ex_data slot,
  and `alpn_ex_index` can panic there. The buffer is then lost, and nothing else.
* The `simulates_` lemmas say that a constructor, seen without the objects, is its namesake. So everything
  that is proved about configurations holds for those that are made here.
-/

set_option linter.unusedSectionVars false

namespace TokioAwsLc.Memory

open Config
open Ktls (Fault)
open Lib.Attempt Lib.Guard Lib.Ownership

variable {Cert Key α : Type} {R : Multiset (Ptr Kind)}

/-! ## What a failure can leave behind -/

/-- The caller holds what it has held. An ALPN buffer can be left behind, but only by a panic. -/
def Failed (R : Multiset (Ptr Kind)) (e : Fault) (s : State Cert Key) : Prop :=
  Owns R s ∨ e = .panic ∧ ∃ box : Raw .alpnWire, Owns (box.ptr ::ₘ R) s

/-- A constructor of something that owns an object of kind `k`. -/
def Builds {k : Kind} (R : Multiset (Ptr Kind)) (m : Owning Cert Key (Raw k × α)) : Prop :=
  Triple (Owns R) m (fun cfg => Owns (cfg.1.ptr ::ₘ R)) (Failed R)

section failed

variable {p : Ptr Kind} {e : Fault} {s : State Cert Key} {m : Owning Cert Key α}

/-- What goes with the failure goes with a panic too. -/
theorem Failed.drop (h : Failed (p ::ₘ R) e s) : Failed R e (s.drop p) := by
  rcases h with hs | ⟨he, box, hs⟩
  · exact .inl hs.drop
  · rw [Multiset.cons_swap] at hs
    exact .inr ⟨he, box, hs.drop⟩

/-- Most computations leave nothing behind. -/
theorem triple_failing {P : State Cert Key → Prop} {Q : α → State Cert Key → Prop}
    (h : Triple P m Q fun _ => Owns R) : Triple P m Q (Failed R) :=
  h.mono (fun _ hs => hs) (fun _ _ hs => hs) fun _ _ hs => .inl hs

/-- A step that keeps the balance leaves nothing behind. -/
theorem Keeps.failing (h : Keeps R m) : Triple (Owns R) m (fun _ => Owns R) (Failed R) :=
  triple_failing h

/-- The context of a constructor goes with its failure. -/
theorem triple_guarding_failing {Q : α → State Cert Key → Prop}
    (h : Triple (Owns (p ::ₘ R)) m Q (Failed (p ::ₘ R))) :
    Triple (Owns (p ::ₘ R)) (guarding p m) Q (Failed R) :=
  h.onError fun _ _ hs => hs.drop

/-- A call fails as it does below. -/
theorem triple_call_of_onlyFails {m : Configure Cert Key α} {P : Fault → AwsState Cert Key → Prop}
    (h : OnlyFails P m) :
    Triple (Owns R) (call m) (fun _ => Owns R) fun e s => Owns R s ∧ P e s.aws := by
  intro s hs
  have hfails := h s.aws
  change Ends _ _ (call m s)
  unfold call
  rcases hrun : m.run s.aws with ⟨a, t⟩ | ⟨e, t⟩
  · exact hs
  · exact ⟨hs, hfails e t hrun⟩

end failed

/-! ## The steps of the server -/

section server

variable (aws : AwsLc Cert Key)

/-- Source: `src/config/server.rs` `new_server_ctx`, `src/config/client.rs` `new_client_ctx` -/
def newCtx (ctx : SslCtx Cert Key) : Owning Cert Key (Raw .sslCtx) :=
  create aws "SSL_CTX_new" .sslCtx fun _ => ctx

/-- Source: `src/config/server.rs` `load_private_key_pem` -/
def loadPrivateKeyPem : Raw .sslCtx → Bytes → Owning Cert Key PUnit :=
  loadKeyPem aws "BIO_new_mem_buf for private key" "PEM_read_bio_PrivateKey" "SSL_CTX_use_PrivateKey"

/-- Source: `src/config/server.rs` `load_private_key_der` -/
def loadPrivateKeyDer : Raw .sslCtx → Bytes → Owning Cert Key PUnit :=
  loadKeyDer aws "SSL_CTX_use_PrivateKey (DER)"

/-- `match self.client_auth`. -/
def verifyClients (ctx : Raw .sslCtx) (mode : ClientAuthMode) (rootsPem : Option Bytes) :
    Owning Cert Key PUnit :=
  if mode = .none then
    pure ⟨⟩
  else
    match rootsPem with
    | none => throw (initFault "client_auth requires a non-empty CA bundle (roots_pem)")
    | some pem => do
        loadClientCaRootsPem aws ctx pem
        within ctx (update fun ctx => { ctx with verify := mode.verify })

/-- The box is let go of first, by `Box::into_raw`, and taken back only if `SSL_CTX_set_ex_data` fails.
Source: `src/config/server.rs` `install_alpn_wire` -/
def installAlpnWire (ctx : Raw .sslCtx) (wire : Bytes) : Owning Cert Key PUnit := do
  let box ← new .alpnWire
  call (alpnExIndex aws)
  giveOrFree aws "SSL_CTX_set_ex_data (ALPN)" .exData (fun ctx => { ctx with alpnWire := some wire }) ctx box

/-- `if !self.alpn_protocols.is_empty()`, on the server. -/
def serveAlpn (ctx : Raw .sslCtx) (protos : List Bytes) : Owning Cert Key PUnit :=
  if protos = [] then
    pure ⟨⟩
  else do
    let wire ← call (encodeAlpn protos)
    installAlpnWire aws ctx wire
    within ctx (update fun ctx => { ctx with alpnSelect := true })

/-- The function owns the context, until it returns it.
Source: `src/config/server.rs` `ServerConfigBuilder::finish` -/
def finish (b : ServerConfigBuilder) (ctx : Raw .sslCtx) :
    Owning Cert Key (Raw .sslCtx × ServerConfig Cert Key) :=
  guarding ctx do
    within ctx (setter aws "certificate and private key do not match" id)
    within ctx (setVersionBounds aws b.minVersion b.maxVersion)
    within ctx (update (setOptions sslOpNoTicket))
    within ctx (update fun ctx => { ctx with numTickets := 0 })
    within ctx (restrictToAead aws b.ktlsAeadOnly)
    within ctx (overrideSuites aws b.cipherSuites)
    within ctx (overrideGroups aws b.namedGroups)
    verifyClients aws ctx b.clientAuth b.clientAuthRootsPem
    serveAlpn aws ctx b.alpnProtocols
    let s ← call get
    pure (ctx, ⟨s.ctx, b.ktlsDisabled⟩)

/-- Source: `src/config/server.rs` `ServerConfigBuilder::with_pem_bytes` -/
def withPemBytes (b : ServerConfigBuilder) (cert key : Bytes) :
    Owning Cert Key (Raw .sslCtx × ServerConfig Cert Key) := do
  let ctx ← newCtx aws aws.serverCtx
  guarding ctx do
    loadCertChainPem aws ctx cert
    loadPrivateKeyPem aws ctx key
  finish aws b ctx

/-- Source: `src/config/server.rs` `ServerConfigBuilder::with_der_bytes` -/
def withDerBytes (b : ServerConfigBuilder) (certChain : List Bytes) (key : Bytes) :
    Owning Cert Key (Raw .sslCtx × ServerConfig Cert Key) := do
  let ctx ← newCtx aws aws.serverCtx
  guarding ctx do
    loadCertChainDer aws ctx certChain
    loadPrivateKeyDer aws ctx key
  finish aws b ctx

/-- The library reads certificates itself, and only the context knows them. -/
def adoptChain (ctx : Raw .sslCtx) : List Cert → Owning Cert Key PUnit
  | [] => pure ⟨⟩
  | _ :: chain => do
      adopt ctx .chain .x509
      adoptChain ctx chain

/-- `SSL_CTX_use_certificate_chain_file` -/
def useCertificateChainFile (label : String) (ctx : Raw .sslCtx) (path : String) :
    Owning Cert Key PUnit := do
  within ctx (setter aws label fun ctx =>
    installChain ((aws.certificateChainFile path).1 :: (aws.certificateChainFile path).2) ctx)
  clearSlot ctx .leaf
  adopt ctx .leaf .x509
  clearSlot ctx .chain
  adoptChain ctx (aws.certificateChainFile path).2

/-- `SSL_CTX_use_PrivateKey_file` -/
def usePrivateKeyFile (label : String) (ctx : Raw .sslCtx) (path : String) : Owning Cert Key PUnit := do
  within ctx (setter aws label (usePrivateKey (aws.privateKeyFile path)))
  clearSlot ctx .key
  adopt ctx .key .evpPkey

/-- The first label of `with_pem_files`. -/
def certificateLabel (cert : PemPath) : String :=
  let certDisplay := cert.display
  s!"loading certificate chain from {certDisplay}"

/-- The second one. -/
def privateKeyLabel (key : PemPath) : String :=
  let keyDisplay := key.display
  s!"loading private key from {keyDisplay}"

/-- Source: `src/config/server.rs` `ServerConfigBuilder::with_pem_files` -/
def withPemFiles (b : ServerConfigBuilder) (cert key : PemPath) :
    Owning Cert Key (Raw .sslCtx × ServerConfig Cert Key) := do
  let ctx ← newCtx aws aws.serverCtx
  guarding ctx do
    let certC ← call (pathToCString cert)
    let keyC ← call (pathToCString key)
    useCertificateChainFile aws (certificateLabel cert) ctx certC
    usePrivateKeyFile aws (privateKeyLabel key) ctx keyC
  finish aws b ctx

section balance

variable {aws} {ctx : Raw .sslCtx}

/-- The CA bundle belongs to the context. -/
theorem keeps_verifyClients (hctx : ctx.ptr ∈ R) (mode : ClientAuthMode) (rootsPem : Option Bytes) :
    Keeps R (verifyClients aws ctx mode rootsPem) := by
  apply keeps_ite
  · exact keeps_pure _
  · rcases rootsPem with _ | pem
    · exact keeps_throw _
    · exact (keeps_loadAnchorsPem hctx pem).bind fun _ => keeps_within hctx _

/-- The slot is not to be had only by a panic. -/
theorem onlyFails_alpnExIndex : OnlyFails (fun e _ => e = .panic) (alpnExIndex aws) := by
  refine onlyFails_get.bind ?_
  intro s
  apply onlyFails_ite
  · exact onlyFails_pure _
  · refine onlyFails_attempt.bind ?_
    intro ok
    apply onlyFails_ite
    · exact onlyFails_modify _
    · exact onlyFails_throw fun _ => rfl

/-- **The buffer belongs to the context, or it is dropped, or the process has panicked.** -/
theorem triple_installAlpnWire (hctx : ctx.ptr ∈ R) (wire : Bytes) :
    Triple (Owns R) (installAlpnWire aws ctx wire) (fun _ => Owns R) (Failed R) := by
  apply (triple_new .alpnWire).bind
  intro box
  refine Triple.bind (Q := fun _ => Owns (box.ptr ::ₘ R)) ?_ ?_
  · apply (triple_call_of_onlyFails onlyFails_alpnExIndex).mono
    · exact fun _ hs => hs
    · exact fun _ _ hs => hs
    · rintro e s ⟨hs, he⟩
      exact .inr ⟨he, box, hs⟩
  · intro _
    exact triple_failing (triple_giveOrFree hctx rfl)

/-- The buffer is the only thing that can be lost. -/
theorem triple_serveAlpn (hctx : ctx.ptr ∈ R) (protos : List Bytes) :
    Triple (Owns R) (serveAlpn aws ctx protos) (fun _ => Owns R) (Failed R) := by
  apply triple_ite
  · intro _
    exact (keeps_pure _).failing
  · intro _
    apply (keeps_call _).failing.bind
    intro wire
    apply (triple_installAlpnWire hctx wire).bind
    intro _
    exact (keeps_within hctx _).failing

/-- The context that is passed in is returned, or freed. -/
theorem triple_finish (b : ServerConfigBuilder) :
    Triple (Owns (ctx.ptr ::ₘ R)) (finish aws b ctx) (fun cfg => Owns (cfg.1.ptr ::ₘ R)) (Failed R) := by
  have hctx := Multiset.mem_cons_self ctx.ptr R
  have hwithin : ∀ m : Configure Cert Key PUnit, Triple (Owns (ctx.ptr ::ₘ R)) (within ctx m)
      (fun _ => Owns (ctx.ptr ::ₘ R)) (Failed (ctx.ptr ::ₘ R)) :=
    fun m => (keeps_within hctx m).failing
  apply triple_guarding_failing
  apply (hwithin _).bind
  intro _
  apply (hwithin _).bind
  intro _
  apply (hwithin _).bind
  intro _
  apply (hwithin _).bind
  intro _
  apply (hwithin _).bind
  intro _
  apply (hwithin _).bind
  intro _
  apply (hwithin _).bind
  intro _
  apply (keeps_verifyClients hctx _ _).failing.bind
  intro _
  apply (triple_serveAlpn hctx _).bind
  intro _
  apply (keeps_call _).failing.bind
  intro s
  exact triple_pure fun _ hs => hs

/-- What the ways to a server have in common: a new context, something that is put into it, and `finish`. -/
theorem builds_server {b : ServerConfigBuilder} {load : Raw .sslCtx → Owning Cert Key PUnit}
    (hload : ∀ ctx : Raw .sslCtx, Keeps (ctx.ptr ::ₘ R) (load ctx)) :
    Builds R (do
      let ctx ← newCtx aws aws.serverCtx
      guarding ctx (load ctx)
      finish aws b ctx) := by
  refine Triple.bind (Q := fun ctx => Owns (ctx.ptr ::ₘ R)) ?_ ?_
  · exact triple_failing triple_create
  · intro ctx
    refine (triple_guarding_failing (hload ctx).failing).bind ?_
    intro _
    exact triple_finish b

/-- A server from PEM: the chain and the key belong to the context that is returned. -/
theorem builds_withPemBytes (b : ServerConfigBuilder) (cert key : Bytes) :
    Builds R (withPemBytes aws b cert key) := by
  apply builds_server
  intro ctx
  have hctx := Multiset.mem_cons_self ctx.ptr R
  exact (keeps_loadChainPem hctx cert).bind fun _ => keeps_loadKeyPem hctx key

/-- A server from DER, likewise. -/
theorem builds_withDerBytes (b : ServerConfigBuilder) (certChain : List Bytes) (key : Bytes) :
    Builds R (withDerBytes aws b certChain key) := by
  apply builds_server
  intro ctx
  have hctx := Multiset.mem_cons_self ctx.ptr R
  exact (keeps_loadChainDer hctx certChain).bind fun _ => keeps_loadKeyDer hctx key

/-- Certificates that the library reads itself belong to the context at once. -/
theorem keeps_adoptChain (hctx : ctx.ptr ∈ R) (chain : List Cert) :
    Keeps R (adoptChain ctx chain : Owning Cert Key PUnit) := by
  induction chain with
  | nil => exact keeps_pure _
  | cons c chain ih => exact (triple_adopt (l := .x509) hctx Nat.one_pos).bind fun _ => ih

/-- They replace those that the context has had. -/
theorem keeps_useCertificateChainFile {label : String} (hctx : ctx.ptr ∈ R) (path : String) :
    Keeps R (useCertificateChainFile aws label ctx path) := by
  apply (keeps_within hctx _).bind
  intro _
  apply (triple_clearSlot hctx).bind
  intro _
  apply (triple_adopt (l := .x509) hctx Nat.one_pos).bind
  intro _
  apply (triple_clearSlot hctx).bind
  intro _
  exact keeps_adoptChain hctx _

/-- So does the key. -/
theorem keeps_usePrivateKeyFile {label : String} (hctx : ctx.ptr ∈ R) (path : String) :
    Keeps R (usePrivateKeyFile aws label ctx path) := by
  apply (keeps_within hctx _).bind
  intro _
  apply (triple_clearSlot hctx).bind
  intro _
  exact triple_adopt hctx Nat.one_pos

/-- A server from files, likewise. -/
theorem builds_withPemFiles (b : ServerConfigBuilder) (cert key : PemPath) :
    Builds R (withPemFiles aws b cert key) := by
  apply builds_server
  intro ctx
  have hctx := Multiset.mem_cons_self ctx.ptr R
  apply (keeps_call _).bind
  intro certC
  apply (keeps_call _).bind
  intro keyC
  apply (keeps_useCertificateChainFile hctx certC).bind
  intro _
  exact keeps_usePrivateKeyFile hctx keyC

end balance

section view

variable {aws} {ctx : Raw .sslCtx}

end view

end server

/-! ## The steps of the client -/

section client

variable (aws : AwsLc Cert Key)

/-- `match &self.roots`. -/
def trustRoots (ctx : Raw .sslCtx) : Roots → Owning Cert Key PUnit
  | .system => do
      within ctx (setter aws "SSL_CTX_set_default_verify_paths" fun ctx =>
        { ctx with defaultVerifyPaths := true })
      within ctx (update fun ctx => { ctx with verify := .peer })
  | .pem pem => do
      loadTrustAnchorsPem aws ctx pem
      within ctx (update fun ctx => { ctx with verify := .peer })
  | .der certs => do
      loadTrustAnchorsDer aws ctx certs
      within ctx (update fun ctx => { ctx with verify := .peer })
  | .disabled => within ctx (update fun ctx => { ctx with verify := .none })

/-- Source: `src/config/client.rs` `load_client_private_key_pem` -/
def loadClientPrivateKeyPem : Raw .sslCtx → Bytes → Owning Cert Key PUnit :=
  loadKeyPem aws "BIO_new_mem_buf for client private key" "PEM_read_bio_PrivateKey (client)"
    "SSL_CTX_use_PrivateKey (client)"

/-- Source: `src/config/client.rs` `load_client_private_key_der` -/
def loadClientPrivateKeyDer : Raw .sslCtx → Bytes → Owning Cert Key PUnit :=
  loadKeyDer aws "SSL_CTX_use_PrivateKey (client DER)"

/-- `if let Some(auth) = &self.client_auth`. -/
def presentCert (ctx : Raw .sslCtx) : Option ClientAuth → Owning Cert Key PUnit
  | none => pure ⟨⟩
  | some (.pem certPem keyPem) => do
      loadClientCertChainPem aws ctx certPem
      loadClientPrivateKeyPem aws ctx keyPem
      within ctx (setter aws "client cert and private key do not match" id)
  | some (.der certChainDer keyDer) => do
      loadClientCertChainDer aws ctx certChainDer
      loadClientPrivateKeyDer aws ctx keyDer
      within ctx (setter aws "client cert and private key do not match" id)

/-- Source: `src/config/client.rs` `ClientConfigBuilder::build` -/
def build (b : ClientConfigBuilder) : Owning Cert Key (Raw .sslCtx × ClientConfig Cert Key) := do
  let ctx ← newCtx aws aws.clientCtx
  guarding ctx do
    trustRoots aws ctx b.roots
    presentCert aws ctx b.clientAuth
    within ctx (setVersionBounds aws b.minVersion b.maxVersion)
    within ctx (overrideSuites aws b.cipherSuites)
    within ctx (overrideGroups aws b.namedGroups)
    within ctx (offerAlpn aws b.alpnProtocols)
    let s ← call get
    pure (ctx, ⟨s.ctx, b.ktlsDisabled⟩)

section balance

variable {aws} {ctx : Raw .sslCtx}

/-- The trust anchors belong to the context. -/
theorem keeps_trustRoots (hctx : ctx.ptr ∈ R) (roots : Roots) : Keeps R (trustRoots aws ctx roots) := by
  rcases roots with _ | pem | certs | _
  · exact (keeps_within hctx _).bind fun _ => keeps_within hctx _
  · exact (keeps_loadAnchorsPem hctx pem).bind fun _ => keeps_within hctx _
  · exact (keeps_loadTrustAnchorsDer hctx certs).bind fun _ => keeps_within hctx _
  · exact keeps_within hctx _

/-- So does what the client presents. -/
theorem keeps_presentCert (hctx : ctx.ptr ∈ R) (auth : Option ClientAuth) :
    Keeps R (presentCert aws ctx auth) := by
  rcases auth with _ | ⟨certPem, keyPem⟩ | ⟨certChainDer, keyDer⟩
  · exact keeps_pure _
  · apply (keeps_loadChainPem hctx certPem).bind
    intro _
    exact (keeps_loadKeyPem hctx keyPem).bind fun _ => keeps_within hctx _
  · apply (keeps_loadChainDer hctx certChainDer).bind
    intro _
    exact (keeps_loadKeyDer hctx keyDer).bind fun _ => keeps_within hctx _

/-- **A client's constructor leaves nothing behind**: it has no use for an ex_data slot. -/
theorem triple_build (b : ClientConfigBuilder) :
    Triple (Owns R) (build aws b) (fun cfg => Owns (cfg.1.ptr ::ₘ R)) fun _ => Owns R := by
  apply triple_create.bind
  intro ctx
  have hctx := Multiset.mem_cons_self ctx.ptr R
  apply triple_guarding
  apply Triple.bind (keeps_trustRoots hctx b.roots)
  intro _
  apply Triple.bind (keeps_presentCert hctx b.clientAuth)
  intro _
  apply Triple.bind (keeps_within hctx _)
  intro _
  apply Triple.bind (keeps_within hctx _)
  intro _
  apply Triple.bind (keeps_within hctx _)
  intro _
  apply Triple.bind (keeps_within hctx _)
  intro _
  apply Triple.bind (keeps_call _)
  intro s
  exact triple_pure fun _ hs => hs

end balance

section view

variable {aws} {ctx : Raw .sslCtx}

end view

end client

end TokioAwsLc.Memory
