import TokioAwsLc.Config.Builder

/-!
# Connectors and acceptors

A `TlsConnector` holds a configuration of a `ClientConfigBuilder`, a `TlsAcceptor` one of a
`ServerConfigBuilder`; there is no other way to come by one. Both are kept with the builder that has made
them, so that what is known of the builder is known of the context (`TlsConnector.cfg_eq`,
`TlsAcceptor.ctx_eq`).

The rest is what the builders say about each field of the context. Every step of a builder sets some fields
and leaves the others as they are. `Sample` has a connector and an acceptor that are really built.
-/

namespace TokioAwsLc.Config

open Lib.Attempt

variable {Cert Key : Type} {aws : AwsLc Cert Key}

/-- The configuration is one that the server's builder returns.
Source: `src/config/server.rs` `ServerConfigBuilder` -/
inductive ServerConfigBuilder.Makes (aws : AwsLc Cert Key) (b : ServerConfigBuilder)
    (cfg : ServerConfig Cert Key) : Prop
  | pemBytes {cert key : Bytes} {s t : AwsState Cert Key}
      (h : Succeeds (b.withPemBytes aws cert key) s cfg t) : Makes aws b cfg
  | derBytes {certChain : List Bytes} {key : Bytes} {s t : AwsState Cert Key}
      (h : Succeeds (b.withDerBytes aws certChain key) s cfg t) : Makes aws b cfg
  | pemFiles {cert key : PemPath} {s t : AwsState Cert Key}
      (h : Succeeds (b.withPemFiles aws cert key) s cfg t) : Makes aws b cfg

/-- Source: `src/acceptor.rs` `TlsAcceptor` -/
structure TlsAcceptor (aws : AwsLc Cert Key) where
  builder : ServerConfigBuilder
  cfg : ServerConfig Cert Key
  made : builder.Makes aws cfg

/-- Source: `src/connector.rs` `TlsConnector` -/
structure TlsConnector (aws : AwsLc Cert Key) where
  builder : ClientConfigBuilder
  cfg : ClientConfig Cert Key
  made : ∃ s t, Succeeds (builder.build aws) s cfg t

/-! ## Their contexts -/

/-- The configuration of a connector: a new context, as its builder configures it. -/
theorem TlsConnector.cfg_eq (c : TlsConnector aws) :
    ∃ anchors auth, c.builder.roots.Reads aws anchors ∧ c.builder.Presents aws auth ∧
      c.cfg = ⟨c.builder.configure anchors auth aws.clientCtx, c.builder.ktlsDisabled⟩ := by
  obtain ⟨s, t, h⟩ := c.made
  exact ctx_of_build h

/-- The context that a server's builder starts from: a new one, with a certificate chain and its key. -/
theorem TlsAcceptor.ctx_eq (a : TlsAcceptor aws) :
    ∃ certs key roots, a.builder.ReadsRoots aws roots ∧
      a.cfg.ctx = a.builder.configure roots (usePrivateKey key (installChain certs aws.serverCtx)) := by
  rcases a.made with h | h | h
  · obtain ⟨certs, key, roots, -, -, hroots, hctx⟩ := ctx_of_withPemBytes h
    exact ⟨certs, key, roots, hroots, hctx⟩
  · obtain ⟨certs, key, roots, -, -, hroots, hctx⟩ := ctx_of_withDerBytes h
    exact ⟨certs, key, roots, hroots, hctx⟩
  · obtain ⟨certC, keyC, roots, -, -, hroots, hctx⟩ := ctx_of_withPemFiles h
    exact ⟨_, _, roots, hroots, hctx⟩

/-! ## Whom they trust -/

/-- What libssl verifies a peer's chain by. -/
structure Trust (Cert : Type) where
  anchors : List Cert
  /-- The system's anchors count too. -/
  system : Bool
  verify : VerifyMode

/-- The fields of a context that say whom it trusts. -/
def SslCtx.trust (ctx : SslCtx Cert Key) : Trust Cert :=
  ⟨ctx.store, ctx.defaultVerifyPaths, ctx.verify⟩

/-- A new context trusts nobody. -/
def SslCtx.TrustsNobody (ctx : SslCtx Cert Key) : Prop :=
  ctx.store = [] ∧ ctx.defaultVerifyPaths = false

section frame

variable (ctx : SslCtx Cert Key)

/-- The version bounds do not say whom to trust. -/
@[simp] theorem trust_withBounds (min max : Option ProtocolVersion) :
    (withBounds min max ctx).trust = ctx.trust := rfl

/-- Neither do the suites. -/
@[simp] theorem trust_withSuites (suites : Option (NonEmptyList Suite)) :
    (withSuites suites ctx).trust = ctx.trust := by
  cases suites <;> rfl

/-- Neither do the groups. -/
@[simp] theorem trust_withGroups (groups : Option (NonEmptyList NamedGroup)) :
    (withGroups groups ctx).trust = ctx.trust := by
  cases groups <;> rfl

/-- Neither do tickets and the AEAD list. -/
@[simp] theorem trust_withoutTickets (aeadOnly : Bool) :
    (withoutTickets aeadOnly ctx).trust = ctx.trust := rfl

/-- Neither do the server's protocols. -/
@[simp] theorem trust_withServerAlpn (protos : List Bytes) :
    (withServerAlpn protos ctx).trust = ctx.trust := by
  unfold withServerAlpn
  split_ifs <;> rfl

/-- Neither do the client's protocols. -/
@[simp] theorem trust_withClientAlpn (protos : List Bytes) :
    (withClientAlpn protos ctx).trust = ctx.trust := by
  unfold withClientAlpn
  split_ifs <;> rfl

/-- Neither does a key of one's own. -/
@[simp] theorem trust_usePrivateKey (key : Key) : (usePrivateKey key ctx).trust = ctx.trust := rfl

/-- Neither do one's own certificates. -/
@[simp] theorem trust_installChain (certs : List Cert) : (installChain certs ctx).trust = ctx.trust := by
  cases certs <;> rfl

/-- Neither does what a client presents. -/
@[simp] theorem trust_withClientCert (auth : Option (List Cert × Key)) :
    (withClientCert auth ctx).trust = ctx.trust := by
  cases auth with
  | none => rfl
  | some auth => simp [withClientCert]

end frame

/-- The roots are those of the system. -/
def Roots.isSystem : Roots → Bool
  | .system => true
  | _ => false

/-- Whether a client with these roots verifies servers. -/
def Roots.verify : Roots → VerifyMode
  | .disabled => .none
  | _ => .peer

/-- **Whom a client trusts**: the anchors of its roots, and nobody else. -/
theorem TlsConnector.trust (c : TlsConnector aws) (hnew : aws.clientCtx.TrustsNobody) :
    ∃ anchors, c.builder.roots.Reads aws anchors ∧
      c.cfg.ctx.trust = ⟨anchors, c.builder.roots.isSystem, c.builder.roots.verify⟩ := by
  obtain ⟨anchors, auth, hreads, -, hcfg⟩ := c.cfg_eq
  obtain ⟨hstore, hpaths⟩ := hnew
  refine ⟨anchors, hreads, ?_⟩
  rw [hcfg]
  simp only [ClientConfigBuilder.configure, trust_withClientAlpn, trust_withGroups, trust_withSuites,
    trust_withBounds, trust_withClientCert]
  cases hroots : c.builder.roots with
  | system =>
      rw [hroots] at hreads
      rw [show anchors = [] from hreads]
      simp [withRoots, SslCtx.trust, hstore, Roots.isSystem, Roots.verify]
  | pem text =>
      simp [withRoots, installAnchors, SslCtx.trust, hstore, hpaths, Roots.isSystem, Roots.verify]
  | der certs =>
      simp [withRoots, installAnchors, SslCtx.trust, hstore, hpaths, Roots.isSystem, Roots.verify]
  | disabled =>
      rw [hroots] at hreads
      rw [show anchors = [] from hreads]
      simp [withRoots, SslCtx.trust, hstore, hpaths, Roots.isSystem, Roots.verify]

/-- **Whom a server trusts**, if it asks for certificates: the client CA bundle, and nobody else. -/
theorem TlsAcceptor.trust (a : TlsAcceptor aws) (hnew : aws.serverCtx.TrustsNobody)
    (hmode : a.builder.clientAuth ≠ .none) :
    ∃ pem roots, a.builder.clientAuthRootsPem = some pem ∧ PemReads aws pem roots ∧
      a.cfg.ctx.trust = ⟨roots, false, a.builder.clientAuth.verify⟩ := by
  obtain ⟨certs, key, roots, hroots, hctx⟩ := a.ctx_eq
  obtain ⟨hstore, hpaths⟩ := hnew
  obtain ⟨pem, hpem, hreads⟩ := hroots.resolve_left hmode
  refine ⟨pem, roots, hpem, hreads, ?_⟩
  rw [hctx]
  have hfresh : ∀ ctx : SslCtx Cert Key, ctx.trust = aws.serverCtx.trust →
      (withClientAuth a.builder.clientAuth roots ctx).trust =
        ⟨roots, false, a.builder.clientAuth.verify⟩ := by
    intro ctx htrust
    have hstore' : ctx.store = [] := (congrArg Trust.anchors htrust).trans hstore
    have hpaths' : ctx.defaultVerifyPaths = false := (congrArg Trust.system htrust).trans hpaths
    rw [withClientAuth, if_neg hmode]
    simp [SslCtx.trust, installAnchors, hstore', hpaths']
  simp only [ServerConfigBuilder.configure, trust_withServerAlpn]
  apply hfresh
  simp

/-! ## A connector and an acceptor -/

namespace Sample

/-- A new context, for both versions. -/
def ctx : SslCtx String Unit where
  minProto := .tls12
  maxProto := .tls13
  options := 0
  numTickets := 2
  cipherList := "ALL"
  ciphersuites := "TLS_AES_128_GCM_SHA256"
  groups := none
  leaf := none
  chain := []
  privateKey := none
  store := []
  defaultVerifyPaths := false
  verify := .none
  alpnWire := none
  alpnSelect := false
  alpnProtos := []

/-- From a DER object nothing is read. -/
theorem not_parsed {α : Type} (der : Bytes) (a : α) (n : ℕ)
    (h : (.error [] : Except (List ErrCode) (α × ℕ)) = .ok (a, n)) : n ≤ der.length := by
  cases h

/-- A library whose calls succeed. Every PEM text holds the certificate `ca`, and every key can be read. -/
def lib : AwsLc String Unit where
  answer _ := ⟨true, []⟩
  errorString _ := ""
  serverCtx := ctx
  clientCtx := ctx
  pemCerts _ := ⟨[.cert "ca"], []⟩
  pemKey _ := .ok ()
  d2iX509 _ := .error []
  d2iX509_le := not_parsed
  d2iAutoPrivateKey _ := .error []
  d2iAutoPrivateKey_le := not_parsed
  certificateChainFile _ := ("ca", [])
  privateKeyFile _ := ()
  cLongMax := 0

/-- Nothing was called yet. -/
def start : AwsState String Unit :=
  ⟨ctx, [], 0, false⟩

/-- A client that trusts `ca` and offers `h2`. -/
def client : ClientConfigBuilder :=
  [.withRootCertsPemBytes [0], .alpnProtocols [[0x68, 0x32]]].foldl ClientConfigBuilder.set .default

/-- A server with `h2` and the suites that the kernel has, which requires client certificates of `ca`. -/
def server : ServerConfigBuilder :=
  [.ktlsAeadOnly true, .clientAuth .required [0], .alpnProtocols [[0x68, 0x32]]].foldl
    ServerConfigBuilder.set .default

/-- The connector of the client. -/
def connector : TlsConnector lib where
  builder := client
  cfg := ⟨client.configure ["ca"] none ctx, false⟩
  made := ⟨start, _, rfl⟩

/-- The acceptor of the server, from a certificate and its key in PEM. -/
def acceptor : TlsAcceptor lib where
  builder := server
  cfg := ⟨server.configure ["ca"] (usePrivateKey () (installChain ["ca"] ctx)), false⟩
  made := @ServerConfigBuilder.Makes.pemBytes _ _ lib server _ [1] [2] start _ rfl

end Sample

end TokioAwsLc.Config
