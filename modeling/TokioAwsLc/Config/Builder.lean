import TokioAwsLc.Config.AlpnSelect
import TokioAwsLc.Config.Certificates
import TokioAwsLc.Config.CipherSuite

/-!
# The two builders

`ServerConfigBuilder` and `ClientConfigBuilder` collect what the caller asks for, and put it into a new
context at the end.

* `ServerSetter` and `ClientSetter` are the setters, and `set` what each of them does.
* `finish` and `build` go over the context once, step by step as in the source. `withPemBytes`,
  `withDerBytes` and `withPemFiles` are the ways to get to `finish`.
* `ServerConfigBuilder.configure` and `ClientConfigBuilder.configure` are what a builder makes of a
  context, without the calls. `ctx_of_finish` and `ctx_of_build` say that a configuration that is returned
  has this context, and `ctx_of_withPemBytes` and its siblings which certificates are in it.
-/

namespace TokioAwsLc.Config

open Ktls (Fault)
open Lib.Attempt

/-! ## The server's builder -/

/-- A list that the setters have found not to be empty. -/
abbrev NonEmptyList (α : Type) :=
  { l : List α // l ≠ [] }

/-- `if list.is_empty() { None } else { Some(list.to_vec()) }`. -/
def unlessEmpty {α : Type} (l : List α) : Option (NonEmptyList α) :=
  match l with
  | [] => none
  | a :: l => some ⟨a :: l, List.cons_ne_nil a l⟩

/-- Source: `src/config/server.rs` `ClientAuthMode` -/
inductive ClientAuthMode
  | none
  | optional
  | required
  deriving DecidableEq, Repr

/-- Source: `src/config/server.rs` `ServerConfigBuilder` -/
structure ServerConfigBuilder where
  alpnProtocols : List Bytes
  minVersion : Option ProtocolVersion
  maxVersion : Option ProtocolVersion
  ktlsAeadOnly : Bool
  ktlsDisabled : Bool
  cipherSuites : Option (NonEmptyList Suite)
  namedGroups : Option (NonEmptyList NamedGroup)
  clientAuth : ClientAuthMode
  clientAuthRootsPem : Option Bytes

/-- Source: `src/config/server.rs` `ServerConfig::builder` -/
def ServerConfigBuilder.default : ServerConfigBuilder where
  alpnProtocols := []
  minVersion := none
  maxVersion := none
  ktlsAeadOnly := false
  ktlsDisabled := false
  cipherSuites := none
  namedGroups := none
  clientAuth := .none
  clientAuthRootsPem := none

/-- A call of a setter, with its arguments. -/
inductive ServerSetter
  | alpnProtocols (protos : List Bytes)
  | minProtocolVersion (v : ProtocolVersion)
  | maxProtocolVersion (v : ProtocolVersion)
  | ktlsAeadOnly (on : Bool)
  | disableKtls
  | cipherSuites (suites : List Suite)
  | namedGroups (groups : List NamedGroup)
  | clientAuth (mode : ClientAuthMode) (rootsPem : Bytes)

/-- Source: the setters of `src/config/server.rs` `ServerConfigBuilder` -/
def ServerConfigBuilder.set (b : ServerConfigBuilder) : ServerSetter → ServerConfigBuilder
  | .alpnProtocols protos => { b with alpnProtocols := protos }
  | .minProtocolVersion v => { b with minVersion := some v }
  | .maxProtocolVersion v => { b with maxVersion := some v }
  | .ktlsAeadOnly on => { b with ktlsAeadOnly := on }
  | .disableKtls => { b with ktlsDisabled := true }
  | .cipherSuites suites => { b with cipherSuites := unlessEmpty suites }
  | .namedGroups groups => { b with namedGroups := unlessEmpty groups }
  | .clientAuth mode rootsPem => { b with clientAuth := mode, clientAuthRootsPem := some rootsPem }

/-- Source: `src/config/server.rs` `ServerConfig` -/
structure ServerConfig (Cert Key : Type) where
  ctx : SslCtx Cert Key
  ktlsDisabled : Bool

/-! ## The client's builder -/

/-- Source: `src/config/client.rs` `Roots` -/
inductive Roots
  | system
  | pem (pem : Bytes)
  | der (certs : List Bytes)
  | disabled

/-- Source: `src/config/client.rs` `ClientAuth` -/
inductive ClientAuth
  | pem (certPem keyPem : Bytes)
  | der (certChainDer : List Bytes) (keyDer : Bytes)

/-- Source: `src/config/client.rs` `ClientConfigBuilder` -/
structure ClientConfigBuilder where
  roots : Roots
  alpnProtocols : List Bytes
  minVersion : Option ProtocolVersion
  maxVersion : Option ProtocolVersion
  clientAuth : Option ClientAuth
  cipherSuites : Option (NonEmptyList Suite)
  namedGroups : Option (NonEmptyList NamedGroup)
  ktlsDisabled : Bool

/-- Source: `src/config/client.rs` `ClientConfig::builder` -/
def ClientConfigBuilder.default : ClientConfigBuilder where
  roots := .system
  alpnProtocols := []
  minVersion := none
  maxVersion := none
  clientAuth := none
  cipherSuites := none
  namedGroups := none
  ktlsDisabled := false

/-- A call of a setter, with its arguments. -/
inductive ClientSetter
  | withSystemRootCerts
  | withRootCertsPemBytes (pem : Bytes)
  | withRootCertsDerBytes (certs : List Bytes)
  | dangerousDisableVerification
  | alpnProtocols (protos : List Bytes)
  | minProtocolVersion (v : ProtocolVersion)
  | maxProtocolVersion (v : ProtocolVersion)
  | withClientAuthPemBytes (cert key : Bytes)
  | withClientAuthDerBytes (certChain : List Bytes) (key : Bytes)
  | cipherSuites (suites : List Suite)
  | namedGroups (groups : List NamedGroup)
  | disableKtls

/-- Source: the setters of `src/config/client.rs` `ClientConfigBuilder` -/
def ClientConfigBuilder.set (b : ClientConfigBuilder) : ClientSetter → ClientConfigBuilder
  | .withSystemRootCerts => { b with roots := .system }
  | .withRootCertsPemBytes pem => { b with roots := .pem pem }
  | .withRootCertsDerBytes certs => { b with roots := .der certs }
  | .dangerousDisableVerification => { b with roots := .disabled }
  | .alpnProtocols protos => { b with alpnProtocols := protos }
  | .minProtocolVersion v => { b with minVersion := some v }
  | .maxProtocolVersion v => { b with maxVersion := some v }
  | .withClientAuthPemBytes cert key => { b with clientAuth := some (.pem cert key) }
  | .withClientAuthDerBytes certChain key => { b with clientAuth := some (.der certChain key) }
  | .cipherSuites suites => { b with cipherSuites := unlessEmpty suites }
  | .namedGroups groups => { b with namedGroups := unlessEmpty groups }
  | .disableKtls => { b with ktlsDisabled := true }

/-- Source: `src/config/client.rs` `ClientConfig` -/
structure ClientConfig (Cert Key : Type) where
  ctx : SslCtx Cert Key
  ktlsDisabled : Bool

/-! ## Steps of both -/

section steps

variable {Cert Key : Type} (aws : AwsLc Cert Key)

/-- Source: `src/config/server.rs` `new_server_ctx`, `src/config/client.rs` `new_client_ctx` -/
def newCtx (ctx : SslCtx Cert Key) : Configure Cert Key PUnit :=
  setter aws "SSL_CTX_new" fun _ => ctx

/-- The version bounds, as both builders set them. -/
def setVersionBounds (min max : Option ProtocolVersion) : Configure Cert Key PUnit := do
  setter aws "SSL_CTX_set_min_proto_version" fun ctx => { ctx with minProto := min.getD .tls12 }
  setter aws "SSL_CTX_set_max_proto_version" fun ctx => { ctx with maxProto := max.getD .tls13 }

/-- `if let Some(suites) = &self.cipher_suites`. -/
def overrideSuites : Option (NonEmptyList Suite) → Configure Cert Key PUnit
  | none => pure ⟨⟩
  | some suites => applyToCtx aws suites.val

/-- `if let Some(groups) = &self.named_groups`.
Source: `src/config/named_group.rs` `apply_to_ctx` -/
def overrideGroups : Option (NonEmptyList NamedGroup) → Configure Cert Key PUnit
  | none => pure ⟨⟩
  | some groups =>
      -- its `debug_assert!` is the invariant of the list
      setter aws "SSL_CTX_set1_groups" fun ctx => { ctx with groups := some groups.val }

/-- `SSL_CTX_use_PrivateKey` -/
def usePrivateKey (key : Key) (ctx : SslCtx Cert Key) : SslCtx Cert Key :=
  { ctx with privateKey := some key }

/-- The family of `load_private_key_pem`. -/
def loadKeyPem (bioLabel readLabel useLabel : String) (pem : Bytes) : Configure Cert Key PUnit := do
  setter aws bioLabel id
  match aws.pemKey pem with
  | .error errors => do
      putErrors errors
      failWith aws readLabel
  | .ok key => setter aws useLabel (usePrivateKey key)

/-- The family of `load_private_key_der`. -/
def loadKeyDer (useLabel : String) (der : Bytes) : Configure Cert Key PUnit := do
  let key ← parsePrivateKey aws der
  setter aws useLabel (usePrivateKey key)

/-- `encode_alpn_wire` with the error of the builders. -/
def encodeAlpn (protos : List Bytes) : Configure Cert Key Bytes :=
  match encodeAlpnWire protos with
  | .ok wire => pure wire
  | .error e =>
      let detail := e.display
      throw (initFault s!"encoding ALPN protocol list: {detail}")

/-! ## Finishing a server -/

/-- AWS-LC `SSL_OP_NO_TICKET`. -/
def sslOpNoTicket : BitVec 32 := 0x00004000

/-- The TLS 1.2 list of `ktls_aead_only`. -/
def aeadOnlyList : String := "ECDHE+AESGCM:ECDHE+CHACHA20"

/-- `if self.ktls_aead_only`. -/
def restrictToAead (on : Bool) : Configure Cert Key PUnit :=
  if on then
    setter aws "SSL_CTX_set_cipher_list (AEAD-only)" (setCipherList aeadOnlyList)
  else
    pure ⟨⟩

/-- The flags of a mode that asks for client certificates. -/
def ClientAuthMode.verify : ClientAuthMode → VerifyMode
  | .none => .none
  | .optional => .peer
  | .required => .peerRequired

/-- `match self.client_auth`. -/
def verifyClients (mode : ClientAuthMode) (rootsPem : Option Bytes) : Configure Cert Key PUnit :=
  if mode = .none then
    pure ⟨⟩
  else
    match rootsPem with
    | none => throw (initFault "client_auth requires a non-empty CA bundle (roots_pem)")
    | some pem => do
        loadClientCaRootsPem aws pem
        update fun ctx => { ctx with verify := mode.verify }

/-- Source: `src/config/server.rs` `alpn_ex_index` -/
def alpnExIndex : Configure Cert Key PUnit := do
  let s ← get
  if s.alpnExIndex then
    pure ⟨⟩
  else do
    let ok ← attempt aws
    if ok then
      modify fun s => { s with alpnExIndex := true }
    else
      -- `assert!(idx >= 0)`
      throw .panic

/-- Source: `src/config/server.rs` `install_alpn_wire` -/
def installAlpnWire (wire : Bytes) : Configure Cert Key PUnit := do
  alpnExIndex aws
  setter aws "SSL_CTX_set_ex_data (ALPN)" fun ctx => { ctx with alpnWire := some wire }

/-- `if !self.alpn_protocols.is_empty()`, on the server. -/
def serveAlpn (protos : List Bytes) : Configure Cert Key PUnit :=
  if protos = [] then
    pure ⟨⟩
  else do
    let wire ← encodeAlpn protos
    installAlpnWire aws wire
    update fun ctx => { ctx with alpnSelect := true }

/-- Source: `src/config/server.rs` `ServerConfigBuilder::finish` -/
def ServerConfigBuilder.finish (b : ServerConfigBuilder) : Configure Cert Key (ServerConfig Cert Key) := do
  setter aws "certificate and private key do not match" id
  setVersionBounds aws b.minVersion b.maxVersion
  update (setOptions sslOpNoTicket)
  update fun ctx => { ctx with numTickets := 0 }
  restrictToAead aws b.ktlsAeadOnly
  overrideSuites aws b.cipherSuites
  overrideGroups aws b.namedGroups
  verifyClients aws b.clientAuth b.clientAuthRootsPem
  serveAlpn aws b.alpnProtocols
  let s ← get
  pure ⟨s.ctx, b.ktlsDisabled⟩

/-- Source: `src/config/server.rs` `load_private_key_pem` -/
def loadPrivateKeyPem : Bytes → Configure Cert Key PUnit :=
  loadKeyPem aws "BIO_new_mem_buf for private key" "PEM_read_bio_PrivateKey" "SSL_CTX_use_PrivateKey"

/-- Source: `src/config/server.rs` `load_private_key_der` -/
def loadPrivateKeyDer : Bytes → Configure Cert Key PUnit :=
  loadKeyDer aws "SSL_CTX_use_PrivateKey (DER)"

/-- Source: `src/config/server.rs` `ServerConfigBuilder::with_pem_bytes` -/
def ServerConfigBuilder.withPemBytes (b : ServerConfigBuilder) (cert key : Bytes) :
    Configure Cert Key (ServerConfig Cert Key) := do
  newCtx aws aws.serverCtx
  loadCertChainPem aws cert
  loadPrivateKeyPem aws key
  b.finish aws

/-- Source: `src/config/server.rs` `ServerConfigBuilder::with_der_bytes` -/
def ServerConfigBuilder.withDerBytes (b : ServerConfigBuilder) (certChain : List Bytes) (key : Bytes) :
    Configure Cert Key (ServerConfig Cert Key) := do
  newCtx aws aws.serverCtx
  loadCertChainDer aws certChain
  loadPrivateKeyDer aws key
  b.finish aws

/-- A path: its text, if it is valid UTF-8, and how it is displayed. -/
structure PemPath where
  toStr : Option String
  display : String

/-- Source: `src/config/server.rs` `path_to_cstring` -/
def pathToCString (p : PemPath) : Configure Cert Key String :=
  let display := p.display
  match p.toStr with
  | none =>
      throw (initFault
        s!"path {display} is not valid UTF-8; AWS-LC PEM loaders require a NUL-terminated path")
  | some s =>
      if nul ∈ s.toList then
        throw (initFault s!"path {display} contains an embedded NUL byte")
      else
        pure s

/-- Source: `src/config/server.rs` `ServerConfigBuilder::with_pem_files` -/
def ServerConfigBuilder.withPemFiles (b : ServerConfigBuilder) (cert key : PemPath) :
    Configure Cert Key (ServerConfig Cert Key) := do
  newCtx aws aws.serverCtx
  let certC ← pathToCString cert
  let keyC ← pathToCString key
  let certDisplay := cert.display
  let keyDisplay := key.display
  setter aws s!"loading certificate chain from {certDisplay}" fun ctx =>
    installChain ((aws.certificateChainFile certC).1 :: (aws.certificateChainFile certC).2) ctx
  setter aws s!"loading private key from {keyDisplay}" (usePrivateKey (aws.privateKeyFile keyC))
  b.finish aws

/-! ## Building a client -/

/-- `match &self.roots`. -/
def trustRoots : Roots → Configure Cert Key PUnit
  | .system => do
      setter aws "SSL_CTX_set_default_verify_paths" fun ctx => { ctx with defaultVerifyPaths := true }
      update fun ctx => { ctx with verify := .peer }
  | .pem pem => do
      loadTrustAnchorsPem aws pem
      update fun ctx => { ctx with verify := .peer }
  | .der certs => do
      loadTrustAnchorsDer aws certs
      update fun ctx => { ctx with verify := .peer }
  | .disabled => update fun ctx => { ctx with verify := .none }

/-- Source: `src/config/client.rs` `load_client_private_key_pem` -/
def loadClientPrivateKeyPem : Bytes → Configure Cert Key PUnit :=
  loadKeyPem aws "BIO_new_mem_buf for client private key" "PEM_read_bio_PrivateKey (client)"
    "SSL_CTX_use_PrivateKey (client)"

/-- Source: `src/config/client.rs` `load_client_private_key_der` -/
def loadClientPrivateKeyDer : Bytes → Configure Cert Key PUnit :=
  loadKeyDer aws "SSL_CTX_use_PrivateKey (client DER)"

/-- `if let Some(auth) = &self.client_auth`. -/
def presentCert : Option ClientAuth → Configure Cert Key PUnit
  | none => pure ⟨⟩
  | some (.pem certPem keyPem) => do
      loadClientCertChainPem aws certPem
      loadClientPrivateKeyPem aws keyPem
      setter aws "client cert and private key do not match" id
  | some (.der certChainDer keyDer) => do
      loadClientCertChainDer aws certChainDer
      loadClientPrivateKeyDer aws keyDer
      setter aws "client cert and private key do not match" id

/-- `if !self.alpn_protocols.is_empty()`, on the client. The setter returns 0 when it succeeds. -/
def offerAlpn (protos : List Bytes) : Configure Cert Key PUnit :=
  if protos = [] then
    pure ⟨⟩
  else do
    let wire ← encodeAlpn protos
    setter aws "SSL_CTX_set_alpn_protos" fun ctx => { ctx with alpnProtos := wire }

/-- Source: `src/config/client.rs` `ClientConfigBuilder::build` -/
def ClientConfigBuilder.build (b : ClientConfigBuilder) : Configure Cert Key (ClientConfig Cert Key) := do
  newCtx aws aws.clientCtx
  trustRoots aws b.roots
  presentCert aws b.clientAuth
  setVersionBounds aws b.minVersion b.maxVersion
  overrideSuites aws b.cipherSuites
  overrideGroups aws b.namedGroups
  offerAlpn aws b.alpnProtocols
  let s ← get
  pure ⟨s.ctx, b.ktlsDisabled⟩

end steps

/-! ## What the steps make of a context -/

section effects

variable {Cert Key : Type}

/-- The bounds that a builder asks for. -/
def withBounds (min max : Option ProtocolVersion) (ctx : SslCtx Cert Key) : SslCtx Cert Key :=
  { ctx with minProto := min.getD .tls12, maxProto := max.getD .tls13 }

/-- The suites that a builder asks for, if it does. -/
def withSuites (suites : Option (NonEmptyList Suite)) (ctx : SslCtx Cert Key) : SslCtx Cert Key :=
  suites.elim ctx fun suites => applySuites suites.val ctx

/-- The groups that a builder asks for, if it does. -/
def withGroups (groups : Option (NonEmptyList NamedGroup)) (ctx : SslCtx Cert Key) : SslCtx Cert Key :=
  groups.elim ctx fun groups => { ctx with groups := some groups.val }

/-- No tickets, and the AEAD list if it is asked for. -/
def withoutTickets (aeadOnly : Bool) (ctx : SslCtx Cert Key) : SslCtx Cert Key :=
  { ctx with
    options := ctx.options ||| sslOpNoTicket
    numTickets := 0
    cipherList := if aeadOnly then aeadOnlyList else ctx.cipherList }

/-- The certificates that clients are verified against. -/
def withClientAuth (mode : ClientAuthMode) (roots : List Cert) (ctx : SslCtx Cert Key) :
    SslCtx Cert Key :=
  if mode = .none then ctx else { installAnchors roots ctx with verify := mode.verify }

/-- The protocols that the server has, in the order of its preference. -/
def withServerAlpn (protos : List Bytes) (ctx : SslCtx Cert Key) : SslCtx Cert Key :=
  if protos = [] then ctx else { ctx with alpnWire := some (wire protos), alpnSelect := true }

/-- What the server's builder makes of a context, where `roots` are the certificates of its client CA
bundle. -/
def ServerConfigBuilder.configure (b : ServerConfigBuilder) (roots : List Cert)
    (ctx : SslCtx Cert Key) : SslCtx Cert Key :=
  withServerAlpn b.alpnProtocols (withClientAuth b.clientAuth roots (withGroups b.namedGroups
    (withSuites b.cipherSuites (withoutTickets b.ktlsAeadOnly
      (withBounds b.minVersion b.maxVersion ctx)))))

/-- The certificates that servers are verified against. -/
def withRoots (roots : Roots) (anchors : List Cert) (ctx : SslCtx Cert Key) : SslCtx Cert Key :=
  match roots with
  | .system => { ctx with defaultVerifyPaths := true, verify := .peer }
  | .pem _ => { installAnchors anchors ctx with verify := .peer }
  | .der _ => { installAnchors anchors ctx with verify := .peer }
  | .disabled => { ctx with verify := .none }

/-- The certificates and the key that the client presents, if it does. -/
def withClientCert (auth : Option (List Cert × Key)) (ctx : SslCtx Cert Key) : SslCtx Cert Key :=
  auth.elim ctx fun auth => usePrivateKey auth.2 (installChain auth.1 ctx)

/-- The protocols that the client offers. -/
def withClientAlpn (protos : List Bytes) (ctx : SslCtx Cert Key) : SslCtx Cert Key :=
  if protos = [] then ctx else { ctx with alpnProtos := wire protos }

/-- What the client's builder makes of a context, where `anchors` are the certificates of its trust roots
and `auth` is what it presents. -/
def ClientConfigBuilder.configure (b : ClientConfigBuilder) (anchors : List Cert)
    (auth : Option (List Cert × Key)) (ctx : SslCtx Cert Key) : SslCtx Cert Key :=
  withClientAlpn b.alpnProtocols (withGroups b.namedGroups (withSuites b.cipherSuites
    (withBounds b.minVersion b.maxVersion (withClientCert auth (withRoots b.roots anchors ctx)))))

end effects

/-! ## The steps do this -/

section succeeds

variable {Cert Key : Type} {aws : AwsLc Cert Key} {s t : AwsState Cert Key} {u : PUnit}

/-- A setter that returns 1 has changed the context as it says. -/
theorem ctx_of_setter {label : String} {f : SslCtx Cert Key → SslCtx Cert Key}
    (h : Succeeds (setter aws label f) s u t) : t.ctx = f s.ctx := by
  rw [(succeeds_setter.mp h).2]
  rfl

/-- Both bounds are set, with the defaults for those that were not asked for. -/
theorem ctx_of_setVersionBounds {min max : Option ProtocolVersion}
    (h : Succeeds (setVersionBounds aws min max) s u t) : t.ctx = withBounds min max s.ctx := by
  obtain ⟨_, t', hmin, hmax⟩ := succeeds_bind.mp h
  rw [ctx_of_setter hmax, ctx_of_setter hmin]
  rfl

/-- The suites are overridden only if the caller has given some. -/
theorem ctx_of_overrideSuites {suites : Option (NonEmptyList Suite)}
    (h : Succeeds (overrideSuites aws suites) s u t) : t.ctx = withSuites suites s.ctx := by
  rcases suites with _ | ⟨suites, hne⟩
  · obtain ⟨-, rfl⟩ := succeeds_pure.mp h
    rfl
  · exact ctx_of_applyToCtx hne h

/-- So are the groups. -/
theorem ctx_of_overrideGroups {groups : Option (NonEmptyList NamedGroup)}
    (h : Succeeds (overrideGroups aws groups) s u t) : t.ctx = withGroups groups s.ctx := by
  rcases groups with _ | groups
  · obtain ⟨-, rfl⟩ := succeeds_pure.mp h
    rfl
  · exact ctx_of_setter h

/-- The protocols are encoded, or the builder fails; the library is not asked. -/
theorem succeeds_encodeAlpn {protos : List Bytes} {w : Bytes} :
    Succeeds (encodeAlpn protos) s w t ↔ encodeAlpnWire protos = .ok w ∧ t = s := by
  rcases h : encodeAlpnWire protos with e | w'
  · simp [encodeAlpn, h]
  · simp [encodeAlpn, h, eq_comm (a := s)]

/-- The TLS 1.2 list is restricted only if the caller has asked for it. -/
theorem ctx_of_restrictToAead {on : Bool} (h : Succeeds (restrictToAead aws on) s u t) :
    t.ctx = if on then setCipherList aeadOnlyList s.ctx else s.ctx := by
  rcases on with _ | _
  · obtain ⟨-, rfl⟩ := succeeds_pure.mp h
    rfl
  · exact ctx_of_setter (f := setCipherList aeadOnlyList) h

/-- The certificates that the server's builder asks to verify clients against. -/
def ServerConfigBuilder.ReadsRoots (aws : AwsLc Cert Key) (b : ServerConfigBuilder)
    (roots : List Cert) : Prop :=
  b.clientAuth = .none ∨ ∃ pem, b.clientAuthRootsPem = some pem ∧ PemReads aws pem roots

/-- **Clients are verified against the CA bundle**, all of it, or not at all. -/
theorem ctx_of_verifyClients {b : ServerConfigBuilder}
    (h : Succeeds (verifyClients aws b.clientAuth b.clientAuthRootsPem) s u t) :
    ∃ roots, b.ReadsRoots aws roots ∧ t.ctx = withClientAuth b.clientAuth roots s.ctx := by
  unfold verifyClients at h
  by_cases hmode : b.clientAuth = .none
  · rw [if_pos hmode] at h
    obtain ⟨-, rfl⟩ := succeeds_pure.mp h
    refine ⟨[], .inl hmode, ?_⟩
    rw [withClientAuth, if_pos hmode]
  · rw [if_neg hmode] at h
    rcases hpem : b.clientAuthRootsPem with _ | pem
    · rw [hpem] at h
      exact absurd h not_succeeds_throw
    · rw [hpem] at h
      obtain ⟨_, t', hload, hverify⟩ := succeeds_bind.mp h
      obtain ⟨roots, hreads, hctx⟩ := (loads_anchorsPem _ pem).installs s t' hload
      refine ⟨roots, .inr ⟨pem, hpem, hreads⟩, ?_⟩
      rw [succeeds_update.mp hverify, withClientAuth, if_neg hmode, ← hctx]

/-- The ex_data slot belongs to the process, and no context changes with it. -/
theorem ctx_of_alpnExIndex (h : Succeeds (alpnExIndex aws) s u t) : t.ctx = s.ctx := by
  obtain ⟨_, _, hget, h⟩ := succeeds_bind.mp h
  obtain ⟨rfl, rfl⟩ := succeeds_get.mp hget
  rcases succeeds_ite.mp h with ⟨-, h⟩ | ⟨-, h⟩
  · obtain ⟨-, rfl⟩ := succeeds_pure.mp h
    rfl
  · obtain ⟨ok, t', hattempt, h⟩ := succeeds_bind.mp h
    obtain ⟨-, rfl⟩ := succeeds_attempt.mp hattempt
    rcases succeeds_ite.mp h with ⟨-, h⟩ | ⟨-, h⟩
    · obtain rfl := succeeds_modify.mp h
      rfl
    · exact absurd h not_succeeds_throw

/-- The server keeps the wire form of its protocols, which can be encoded, and registers the callback with
it. -/
theorem ctx_of_serveAlpn {protos : List Bytes} (h : Succeeds (serveAlpn aws protos) s u t) :
    encodeAlpnWire protos = .ok (wire protos) ∧ t.ctx = withServerAlpn protos s.ctx := by
  unfold serveAlpn at h
  unfold withServerAlpn
  by_cases hprotos : protos = []
  · rw [if_pos hprotos] at h ⊢
    obtain ⟨-, rfl⟩ := succeeds_pure.mp h
    rw [hprotos]
    exact ⟨rfl, rfl⟩
  · rw [if_neg hprotos] at h ⊢
    obtain ⟨w, _, hencode, hrest⟩ := succeeds_bind.mp h
    obtain ⟨hw, rfl⟩ := succeeds_encodeAlpn.mp hencode
    obtain ⟨_, t₁, hinstall, hselect⟩ := succeeds_bind.mp hrest
    obtain ⟨_, t₂, hindex, hset⟩ := succeeds_bind.mp hinstall
    obtain ⟨-, rfl⟩ := (encodeAlpnWire_eq_ok_iff protos w).mp hw
    refine ⟨hw, ?_⟩
    rw [succeeds_update.mp hselect, ctx_of_setter hset, ctx_of_alpnExIndex hindex]

/-- **A finished server has the context of its builder.** -/
theorem ctx_of_finish {b : ServerConfigBuilder} {cfg : ServerConfig Cert Key}
    (h : Succeeds (b.finish aws) s cfg t) :
    ∃ roots, b.ReadsRoots aws roots ∧ encodeAlpnWire b.alpnProtocols = .ok (wire b.alpnProtocols) ∧
      cfg = ⟨b.configure roots s.ctx, b.ktlsDisabled⟩ := by
  simp only [ServerConfigBuilder.finish, succeeds_bind, succeeds_update, succeeds_get,
    succeeds_pure] at h
  obtain ⟨_, t₁, hcheck, _, t₂, hbounds, _, _, rfl, _, _, rfl, _, t₃, haead, _, t₄, hsuites, _, t₅,
    hgroups, _, t₆, hverify, _, t₇, halpn, _, _, ⟨rfl, rfl⟩, rfl, rfl⟩ := h
  obtain ⟨roots, hreads, hctx⟩ := ctx_of_verifyClients hverify
  obtain ⟨hencode, hctx'⟩ := ctx_of_serveAlpn halpn
  refine ⟨roots, hreads, hencode, ?_⟩
  rw [hctx', hctx, ctx_of_overrideGroups hgroups, ctx_of_overrideSuites hsuites,
    ctx_of_restrictToAead haead, ctx_of_setVersionBounds hbounds, ctx_of_setter hcheck]
  rcases haead : b.ktlsAeadOnly <;> simp [ServerConfigBuilder.configure, withoutTickets, haead,
    setOptions, setCipherList]

/-- The DER object is this private key, with nothing behind it. -/
structure IsKey (aws : AwsLc Cert Key) (der : Bytes) (key : Key) : Prop where
  ne_nil : der ≠ []
  length_le : der.length ≤ aws.cLongMax
  parses : aws.d2iAutoPrivateKey der = .ok (key, der.length)

/-- The key of the context is the one that the PEM text holds. -/
theorem ctx_of_loadKeyPem {bioLabel readLabel useLabel : String} {pem : Bytes}
    (h : Succeeds (loadKeyPem aws bioLabel readLabel useLabel pem) s u t) :
    ∃ key, aws.pemKey pem = .ok key ∧ t.ctx = usePrivateKey key s.ctx := by
  obtain ⟨_, t', hbio, hread⟩ := succeeds_bind.mp h
  rcases hkey : aws.pemKey pem with errors | key
  · simp [hkey, succeeds_bind] at hread
  · simp only [hkey] at hread
    refine ⟨key, rfl, ?_⟩
    rw [ctx_of_setter hread, ctx_of_setter hbio]
    rfl

/-- The key of the context is the DER object, with nothing behind it. -/
theorem ctx_of_loadKeyDer {useLabel : String} {der : Bytes}
    (h : Succeeds (loadKeyDer aws useLabel der) s u t) :
    ∃ key, IsKey aws der key ∧ t.ctx = usePrivateKey key s.ctx := by
  obtain ⟨key, _, hparse, hset⟩ := succeeds_bind.mp h
  rw [parsePrivateKey, succeeds_parseDer] at hparse
  obtain ⟨⟨hne, hle, hd2i⟩, rfl⟩ := hparse
  exact ⟨key, ⟨hne, hle, hd2i⟩, ctx_of_setter hset⟩

/-- **A server from PEM** presents the certificates of the text, all of them, with the key. -/
theorem ctx_of_withPemBytes {b : ServerConfigBuilder} {cert key : Bytes} {cfg : ServerConfig Cert Key}
    (h : Succeeds (b.withPemBytes aws cert key) s cfg t) :
    ∃ certs k roots, PemReads aws cert certs ∧ aws.pemKey key = .ok k ∧ b.ReadsRoots aws roots ∧
      cfg.ctx = b.configure roots (usePrivateKey k (installChain certs aws.serverCtx)) := by
  simp only [ServerConfigBuilder.withPemBytes, succeeds_bind] at h
  obtain ⟨_, t₁, hnew, _, t₂, hchain, _, t₃, hkey, hfinish⟩ := h
  obtain ⟨certs, hcerts, hctx₂⟩ := (loads_chainPem _ cert).installs t₁ t₂ hchain
  obtain ⟨k, hk, hctx₃⟩ := ctx_of_loadKeyPem hkey
  obtain ⟨roots, hroots, -, rfl⟩ := ctx_of_finish hfinish
  refine ⟨certs, k, roots, hcerts, hk, hroots, ?_⟩
  rw [hctx₃, hctx₂, ctx_of_setter hnew]

/-- **A server from DER** does so with the objects it is given. -/
theorem ctx_of_withDerBytes {b : ServerConfigBuilder} {certChain : List Bytes} {key : Bytes}
    {cfg : ServerConfig Cert Key} (h : Succeeds (b.withDerBytes aws certChain key) s cfg t) :
    ∃ certs k roots, DerReads aws certChain certs ∧ IsKey aws key k ∧ b.ReadsRoots aws roots ∧
      cfg.ctx = b.configure roots (usePrivateKey k (installChain certs aws.serverCtx)) := by
  simp only [ServerConfigBuilder.withDerBytes, succeeds_bind] at h
  obtain ⟨_, t₁, hnew, _, t₂, hchain, _, t₃, hkey, hfinish⟩ := h
  obtain ⟨certs, hcerts, hctx₂⟩ := (loads_chainDer _ _ _ certChain).installs t₁ t₂ hchain
  obtain ⟨k, hk, hctx₃⟩ := ctx_of_loadKeyDer hkey
  obtain ⟨roots, hroots, -, rfl⟩ := ctx_of_finish hfinish
  refine ⟨certs, k, roots, hcerts, hk, hroots, ?_⟩
  rw [hctx₃, hctx₂, ctx_of_setter hnew]

/-- A path can be passed on if it is UTF-8 without a NUL. -/
theorem succeeds_pathToCString {p : PemPath} {text : String} :
    Succeeds (pathToCString p) s text t ↔ (p.toStr = some text ∧ nul ∉ text.toList) ∧ t = s := by
  rcases h : p.toStr with _ | text'
  · simp [pathToCString, h]
  · simp only [pathToCString, h, succeeds_ite, not_succeeds_throw, and_false, false_or, succeeds_pure,
      Option.some.injEq]
    constructor
    · rintro ⟨hnul, rfl, rfl⟩
      exact ⟨⟨rfl, hnul⟩, rfl⟩
    · rintro ⟨⟨rfl, hnul⟩, rfl⟩
      exact ⟨hnul, rfl, rfl⟩

/-- **A server from files** presents what the library finds in them. -/
theorem ctx_of_withPemFiles {b : ServerConfigBuilder} {cert key : PemPath} {cfg : ServerConfig Cert Key}
    (h : Succeeds (b.withPemFiles aws cert key) s cfg t) :
    ∃ certC keyC roots, cert.toStr = some certC ∧ key.toStr = some keyC ∧ b.ReadsRoots aws roots ∧
      cfg.ctx = b.configure roots (usePrivateKey (aws.privateKeyFile keyC)
        (installChain ((aws.certificateChainFile certC).1 :: (aws.certificateChainFile certC).2)
          aws.serverCtx)) := by
  simp only [ServerConfigBuilder.withPemFiles, succeeds_bind, succeeds_pathToCString] at h
  obtain ⟨_, t₁, hnew, certC, _, ⟨⟨hcert, -⟩, rfl⟩, keyC, _, ⟨⟨hkey, -⟩, rfl⟩, _, t₂, hchain, _, t₃,
    huse, hfinish⟩ := h
  obtain ⟨roots, hroots, -, rfl⟩ := ctx_of_finish hfinish
  refine ⟨certC, keyC, roots, hcert, hkey, hroots, ?_⟩
  rw [ctx_of_setter huse, ctx_of_setter hchain, ctx_of_setter hnew]

/-- The certificates that the client's trust roots hold. -/
def Roots.Reads (aws : AwsLc Cert Key) (roots : Roots) (anchors : List Cert) : Prop :=
  match roots with
  | .system => anchors = []
  | .pem text => PemReads aws text anchors
  | .der certs => DerReads aws certs anchors
  | .disabled => anchors = []

/-- The trust store holds the anchors of the roots, and `verify` says whether they are asked for. -/
theorem ctx_of_trustRoots {roots : Roots} (h : Succeeds (trustRoots aws roots) s u t) :
    ∃ anchors, roots.Reads aws anchors ∧ t.ctx = withRoots roots anchors s.ctx := by
  rcases roots with _ | pem | certs | _
  · obtain ⟨_, t', hpaths, hverify⟩ := succeeds_bind.mp h
    refine ⟨[], rfl, ?_⟩
    rw [succeeds_update.mp hverify, ctx_of_setter hpaths]
    rfl
  · obtain ⟨_, t', hload, hverify⟩ := succeeds_bind.mp h
    obtain ⟨anchors, hreads, hctx⟩ := (loads_anchorsPem _ pem).installs s t' hload
    refine ⟨anchors, hreads, ?_⟩
    rw [succeeds_update.mp hverify, hctx]
    rfl
  · obtain ⟨_, t', hload, hverify⟩ := succeeds_bind.mp h
    obtain ⟨anchors, hreads, hctx⟩ := (loads_anchorsDer certs).installs s t' hload
    refine ⟨anchors, hreads, ?_⟩
    rw [succeeds_update.mp hverify, hctx]
    rfl
  · rw [trustRoots, succeeds_update] at h
    refine ⟨[], rfl, ?_⟩
    rw [h]
    rfl

/-- What the client presents, if it does. -/
def ClientAuth.Reads (aws : AwsLc Cert Key) (auth : ClientAuth) (certs : List Cert) (key : Key) : Prop :=
  match auth with
  | .pem certPem keyPem => PemReads aws certPem certs ∧ aws.pemKey keyPem = .ok key
  | .der certChainDer keyDer => DerReads aws certChainDer certs ∧ IsKey aws keyDer key

/-- The client presents a certificate iff it is asked to, and then this one. -/
def ClientConfigBuilder.Presents (aws : AwsLc Cert Key) (b : ClientConfigBuilder) :
    Option (List Cert × Key) → Prop
  | none => b.clientAuth = none
  | some (certs, key) => ∃ auth, b.clientAuth = some auth ∧ auth.Reads aws certs key

/-- The client presents what its builder was given, if it was. -/
theorem ctx_of_presentCert {b : ClientConfigBuilder} (h : Succeeds (presentCert aws b.clientAuth) s u t) :
    ∃ auth, b.Presents aws auth ∧ t.ctx = withClientCert auth s.ctx := by
  rcases hauth : b.clientAuth with _ | ⟨certPem, keyPem⟩ | ⟨certChainDer, keyDer⟩
  · rw [hauth] at h
    obtain ⟨-, rfl⟩ := succeeds_pure.mp h
    exact ⟨none, hauth, rfl⟩
  · rw [hauth] at h
    simp only [presentCert, succeeds_bind] at h
    obtain ⟨_, t₁, hchain, _, t₂, hkey, hcheck⟩ := h
    obtain ⟨certs, hcerts, hctx₁⟩ := (loads_chainPem _ certPem).installs s t₁ hchain
    obtain ⟨key, hk, hctx₂⟩ := ctx_of_loadKeyPem hkey
    refine ⟨some (certs, key), ⟨_, hauth, hcerts, hk⟩, ?_⟩
    rw [ctx_of_setter hcheck, hctx₂, hctx₁]
    rfl
  · rw [hauth] at h
    simp only [presentCert, succeeds_bind] at h
    obtain ⟨_, t₁, hchain, _, t₂, hkey, hcheck⟩ := h
    obtain ⟨certs, hcerts, hctx₁⟩ := (loads_chainDer _ _ _ certChainDer).installs s t₁ hchain
    obtain ⟨key, hk, hctx₂⟩ := ctx_of_loadKeyDer hkey
    refine ⟨some (certs, key), ⟨_, hauth, hcerts, hk⟩, ?_⟩
    rw [ctx_of_setter hcheck, hctx₂, hctx₁]
    rfl

/-- The client offers the wire form of its protocols, unless there are none. -/
theorem ctx_of_offerAlpn {protos : List Bytes} (h : Succeeds (offerAlpn aws protos) s u t) :
    t.ctx = withClientAlpn protos s.ctx := by
  unfold offerAlpn at h
  unfold withClientAlpn
  by_cases hprotos : protos = []
  · rw [if_pos hprotos] at h ⊢
    obtain ⟨-, rfl⟩ := succeeds_pure.mp h
    rfl
  · rw [if_neg hprotos] at h ⊢
    obtain ⟨w, _, hencode, hset⟩ := succeeds_bind.mp h
    obtain ⟨hw, rfl⟩ := succeeds_encodeAlpn.mp hencode
    obtain ⟨-, rfl⟩ := (encodeAlpnWire_eq_ok_iff protos w).mp hw
    exact ctx_of_setter hset

/-- **A client that is built has the context of its builder.** -/
theorem ctx_of_build {b : ClientConfigBuilder} {cfg : ClientConfig Cert Key}
    (h : Succeeds (b.build aws) s cfg t) :
    ∃ anchors auth, b.roots.Reads aws anchors ∧ b.Presents aws auth ∧
      cfg = ⟨b.configure anchors auth aws.clientCtx, b.ktlsDisabled⟩ := by
  simp only [ClientConfigBuilder.build, succeeds_bind, succeeds_get, succeeds_pure] at h
  obtain ⟨_, t₁, hnew, _, t₂, hroots, _, t₃, hpresent, _, t₄, hbounds, _, t₅, hsuites, _, t₆, hgroups,
    _, t₇, halpn, _, _, ⟨rfl, rfl⟩, rfl, rfl⟩ := h
  obtain ⟨anchors, hanchors, hctx₂⟩ := ctx_of_trustRoots hroots
  obtain ⟨auth, hauth, hctx₃⟩ := ctx_of_presentCert hpresent
  refine ⟨anchors, auth, hanchors, hauth, ?_⟩
  rw [ctx_of_offerAlpn halpn, ctx_of_overrideGroups hgroups, ctx_of_overrideSuites hsuites,
    ctx_of_setVersionBounds hbounds, hctx₃, hctx₂, ctx_of_setter hnew]
  rfl

end succeeds

end TokioAwsLc.Config
