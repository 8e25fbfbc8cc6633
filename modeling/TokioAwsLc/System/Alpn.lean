import TokioAwsLc.Handshake.Session

/-!
# The protocol that both ends of a connection see

A client's builder encodes the protocols that it offers, a server's builder those that it has. In the
handshake libssl takes the client's bytes to the callback of the server, and both ends report what the
callback points at. hyper decides by that report whether it speaks HTTP/2.

* `negotiateAlpn` is what libssl makes of the two contexts, with the callback of
  `TokioAwsLc.Config.AlpnSelect` in the middle.
* `negotiateAlpn_eq` is the same in terms of the lists that the builders were given.
* `Relays` says that libssl keeps to it at one end of a connection.
* `alpn_agreement` is the result, for the runs of `connect` and of `accept`.
-/

set_option linter.unusedSectionVars false

namespace TokioAwsLc.System

open Config Handshake
open Ktls (Hash)
open Lib.Attempt

variable {Cert Key W : Type} {aws aws' : AwsLc Cert Key}

/-! ## The handshake -/

/-- The bytes that the out-parameters of the callback describe. -/
def selectedBytes (serverWire : Bytes) (o : OutParams) : Option Bytes :=
  match o.out with
  | .server off => some ((serverWire.drop off).take o.outLen.toNat)
  | .caller _ => none

/-- What libssl takes from a callback that has returned. -/
def selected (serverWire : Bytes) : SelectCode × OutParams → Option Bytes
  | (.ok, after) => selectedBytes serverWire after
  | (.alertFatal, _) => none

/-- What both ends will have as `SSL_get0_alpn_selected`, where the out-parameters are `before` when libssl
calls the callback. It does so if there is a callback and the client has sent an offer, and fails the
handshake unless the callback returns `SSL_TLSEXT_ERR_OK`. -/
def negotiateAlpn (before : OutParams) (client server : SslCtx Cert Key) : Option Bytes :=
  if client.alpnProtos = [] ∨ server.alpnSelect = false then some []
  else
    match alpnSelectCb (some server) client.alpnProtos before with
    | .returned r => selected (server.alpnWire.getD []) r
    | .panicked => none
    | .running => none

/-! ## The contexts -/

/-- The fields of a context that have to do with ALPN. -/
structure AlpnFields where
  offer : Bytes
  callback : Bool
  serverWire : Option Bytes

/-- The fields of a context that have to do with ALPN. -/
def alpnFields (ctx : SslCtx Cert Key) : AlpnFields :=
  ⟨ctx.alpnProtos, ctx.alpnSelect, ctx.alpnWire⟩

section frame

variable (ctx : SslCtx Cert Key)

/-- The version bounds have nothing to do with ALPN. -/
@[simp] theorem alpnFields_withBounds (min max : Option ProtocolVersion) :
    alpnFields (withBounds min max ctx) = alpnFields ctx := rfl

/-- Neither have the suites. -/
@[simp] theorem alpnFields_withSuites (suites : Option (NonEmptyList Suite)) :
    alpnFields (withSuites suites ctx) = alpnFields ctx := by
  cases suites <;> rfl

/-- Neither have the groups. -/
@[simp] theorem alpnFields_withGroups (groups : Option (NonEmptyList NamedGroup)) :
    alpnFields (withGroups groups ctx) = alpnFields ctx := by
  cases groups <;> rfl

/-- Neither have tickets and the AEAD list. -/
@[simp] theorem alpnFields_withoutTickets (aeadOnly : Bool) :
    alpnFields (withoutTickets aeadOnly ctx) = alpnFields ctx := rfl

/-- Neither has the verification of clients. -/
@[simp] theorem alpnFields_withClientAuth (mode : ClientAuthMode) (roots : List Cert) :
    alpnFields (withClientAuth mode roots ctx) = alpnFields ctx := by
  unfold withClientAuth
  split_ifs <;> rfl

/-- Neither have the trust roots. -/
@[simp] theorem alpnFields_withRoots (roots : Roots) (anchors : List Cert) :
    alpnFields (withRoots roots anchors ctx) = alpnFields ctx := by
  cases roots <;> rfl

/-- Neither has the key. -/
@[simp] theorem alpnFields_usePrivateKey (key : Key) :
    alpnFields (usePrivateKey key ctx) = alpnFields ctx := rfl

/-- Neither have the certificates. -/
@[simp] theorem alpnFields_installChain (certs : List Cert) :
    alpnFields (installChain certs ctx) = alpnFields ctx := by
  cases certs <;> rfl

/-- Neither has what a client presents. -/
@[simp] theorem alpnFields_withClientCert (auth : Option (List Cert × Key)) :
    alpnFields (withClientCert auth ctx) = alpnFields ctx := by
  cases auth with
  | none => rfl
  | some auth => simp [withClientCert]

/-- The client's step sets the offer. -/
@[simp] theorem alpnFields_withClientAlpn (protos : List Bytes) :
    alpnFields (withClientAlpn protos ctx) =
      if protos = [] then alpnFields ctx else { alpnFields ctx with offer := wire protos } := by
  unfold withClientAlpn
  split_ifs <;> rfl

/-- The server's step sets the buffer, and registers the callback with it. -/
@[simp] theorem alpnFields_withServerAlpn (protos : List Bytes) :
    alpnFields (withServerAlpn protos ctx) = if protos = [] then alpnFields ctx
      else { alpnFields ctx with callback := true, serverWire := some (wire protos) } := by
  unfold withServerAlpn
  split_ifs <;> rfl

end frame

/-- A connector offers the protocols that its builder was given, and a new context's offer without any. -/
theorem alpnFields_connector (tls : TlsConnector aws) :
    alpnFields tls.cfg.ctx = if tls.builder.alpnProtocols = [] then alpnFields aws.clientCtx
      else { alpnFields aws.clientCtx with offer := wire tls.builder.alpnProtocols } := by
  obtain ⟨anchors, auth, -, -, hcfg⟩ := tls.cfg_eq
  rw [hcfg]
  simp [ClientConfigBuilder.configure]

/-- An acceptor has the protocols that its builder was given, and the callback if there are any. -/
theorem alpnFields_acceptor (tls : TlsAcceptor aws) :
    alpnFields tls.cfg.ctx = if tls.builder.alpnProtocols = [] then alpnFields aws.serverCtx
      else { alpnFields aws.serverCtx with
        callback := true, serverWire := some (wire tls.builder.alpnProtocols) } := by
  obtain ⟨certs, key, roots, -, hctx⟩ := tls.ctx_eq
  rw [hctx]
  simp [ServerConfigBuilder.configure]

/-- The protocols of a connector can be encoded. -/
theorem encoded_connector (tls : TlsConnector aws) :
    encodeAlpnWire tls.builder.alpnProtocols = .ok (wire tls.builder.alpnProtocols) := by
  by_cases hprotos : tls.builder.alpnProtocols = []
  · rw [hprotos]
    rfl
  · obtain ⟨s, t, h⟩ := tls.made
    simp only [ClientConfigBuilder.build, succeeds_bind] at h
    obtain ⟨_, _, -, _, _, -, _, _, -, _, _, -, _, _, -, _, _, -, _, _, halpn, -⟩ := h
    rw [offerAlpn, if_neg hprotos] at halpn
    obtain ⟨w, _, hencode, -⟩ := succeeds_bind.mp halpn
    obtain ⟨hw, -⟩ := succeeds_encodeAlpn.mp hencode
    obtain ⟨-, rfl⟩ := (encodeAlpnWire_eq_ok_iff _ w).mp hw
    exact hw

/-- So can those of an acceptor. -/
theorem encoded_acceptor (tls : TlsAcceptor aws) :
    encodeAlpnWire tls.builder.alpnProtocols = .ok (wire tls.builder.alpnProtocols) := by
  have hfinish : ∃ s t, Succeeds (tls.builder.finish aws) s tls.cfg t := by
    rcases tls.made with h | h | h
    · simp only [ServerConfigBuilder.withPemBytes, succeeds_bind] at h
      obtain ⟨_, _, -, _, _, -, _, s, -, h⟩ := h
      exact ⟨s, _, h⟩
    · simp only [ServerConfigBuilder.withDerBytes, succeeds_bind] at h
      obtain ⟨_, _, -, _, _, -, _, s, -, h⟩ := h
      exact ⟨s, _, h⟩
    · simp only [ServerConfigBuilder.withPemFiles, succeeds_bind] at h
      obtain ⟨_, _, -, _, _, -, _, _, -, _, _, -, _, s, -, h⟩ := h
      exact ⟨s, _, h⟩
  obtain ⟨s, t, h⟩ := hfinish
  obtain ⟨-, -, hencode, -⟩ := ctx_of_finish h
  exact hencode

/-! ## The choice -/

/-- New contexts have nothing to do with ALPN. -/
structure NoAlpn (client server : SslCtx Cert Key) : Prop where
  offer : client.alpnProtos = []
  callback : server.alpnSelect = false

/-- What the callback chooses from two lists is the first of the server's protocols that the client has. -/
theorem selected_of_chooses {protos client : List Bytes} {before after : OutParams} {code : SelectCode}
    (h : Chooses protos client (wire protos) before code after) :
    selected (wire protos) (code, after) = protos.find? (· ∈ client) := by
  rcases hfind : protos.find? (· ∈ client) with _ | p
  · have hdisjoint : protos.Disjoint client := by
      intro p hp hclient
      simpa [hclient] using List.find?_eq_none.mp hfind p hp
    rw [h.fatal_iff.mpr hdisjoint]
    rfl
  · obtain ⟨rfl, off, hout, hbytes, hlen⟩ := h.selects p hfind
    rw [selected, selectedBytes, hout]
    simp only
    rw [hlen, hbytes]

/-- A list of protocols is not empty on the wire. -/
theorem wire_ne_nil {protos : List Bytes} (h : protos ≠ []) : wire protos ≠ [] := by
  obtain ⟨p, ps, rfl⟩ := List.exists_cons_of_ne_nil h
  rw [wire_cons]
  exact List.cons_ne_nil _ _

/-- **What libssl makes of two configurations**, in terms of what their builders were given. -/
theorem negotiateAlpn_eq (client : TlsConnector aws) (server : TlsAcceptor aws')
    (hnew : NoAlpn aws.clientCtx aws'.serverCtx) (before : OutParams) :
    negotiateAlpn before client.cfg.ctx server.cfg.ctx =
      if client.builder.alpnProtocols = [] ∨ server.builder.alpnProtocols = [] then some []
      else server.builder.alpnProtocols.find? (· ∈ client.builder.alpnProtocols) := by
  have hclient := alpnFields_connector client
  have hserver := alpnFields_acceptor server
  unfold negotiateAlpn
  by_cases hoffers : client.builder.alpnProtocols = []
  · rw [if_pos hoffers] at hclient
    have hoffer : client.cfg.ctx.alpnProtos = [] := (congrArg AlpnFields.offer hclient).trans hnew.offer
    rw [if_pos (.inl hoffer), if_pos (.inl hoffers)]
  by_cases hhas : server.builder.alpnProtocols = []
  · rw [if_pos hhas] at hserver
    have hcallback : server.cfg.ctx.alpnSelect = false :=
      (congrArg AlpnFields.callback hserver).trans hnew.callback
    rw [if_pos (.inr hcallback), if_pos (.inr hhas)]
  rw [if_neg hoffers] at hclient
  rw [if_neg hhas] at hserver
  have hoffer : client.cfg.ctx.alpnProtos = wire client.builder.alpnProtocols :=
    congrArg AlpnFields.offer hclient
  have hcallback : server.cfg.ctx.alpnSelect = true := congrArg AlpnFields.callback hserver
  have hwire : server.cfg.ctx.alpnWire = some (wire server.builder.alpnProtocols) :=
    congrArg AlpnFields.serverWire hserver
  obtain ⟨cs, hsplits, hbodies⟩ := splits_encoded (encoded_connector client)
  obtain ⟨code, after, hcb, hchooses⟩ :=
    alpnSelectCb_splits before (encoded_acceptor server) hwire hsplits
  rw [hbodies] at hchooses
  rw [if_neg (by simp [hoffer, hcallback, wire_ne_nil hoffers]), if_neg (by simp [hoffers, hhas]), hoffer,
    hcb, hwire]
  exact selected_of_chooses hchooses

/-! ## The result -/

/-- libssl has kept to the contexts of both ends in the calls of a history. -/
def Relays (client server : SslCtx Cert Key)
    (t : List (Handshake.Act (Handle Cert Key) (Negotiated Cert) W)) : Prop :=
  ∀ ssl n, .doHandshake ssl (.done n) ∈ calls t →
    ∃ before, negotiateAlpn before client server = some n.alpnSelected

/-- The protocol of HTTP/2. -/
def h2 : Bytes := Ktls.ascii "h2"

/-- Whether `Connected::negotiated_h2` is called.
Source: `src/hyper.rs` `Connection::connected` -/
def connected (e : Established Cert Key W) : Bool :=
  match e.negotiated.alpn with
  | some a => a = h2
  | none => false

/-- The protocol that two ends agree on: the first of the server's that the client has. -/
def agreed (client : ClientConfigBuilder) (server : ServerConfigBuilder) : Option Bytes :=
  server.alpnProtocols.find? client.alpnProtocols.contains

/-- The agreement is the first of the server's protocols that the client has. -/
theorem agreed_eq (client : ClientConfigBuilder) (server : ServerConfigBuilder) :
    agreed client server = server.alpnProtocols.find? (· ∈ client.alpnProtocols) := by
  have hcontains : client.alpnProtocols.contains = fun p => decide (p ∈ client.alpnProtocols) := by
    funext p
    exact List.contains_eq_mem p client.alpnProtocols
  rw [agreed, hcontains]

/-- What one end has come to. -/
structure Reports (client : TlsConnector aws) (server : TlsAcceptor aws') (x : Conn Cert Key W) : Prop where
  /-- A stream reports the protocol that the ends agree on, if they do. -/
  agreed : ∀ e, x.result = some (.ok e) → e.negotiated.alpn = agreed client.builder server.builder
  /-- If both have protocols and none in common, there is no stream. -/
  refused : client.builder.alpnProtocols ≠ [] → server.builder.alpnProtocols ≠ [] →
    System.agreed client.builder server.builder = none → ∀ e, x.result ≠ some (.ok e)

/-- The report, from the last call of the handshake. -/
theorem reports_of_relays (client : TlsConnector aws) (server : TlsAcceptor aws') {x : Conn Cert Key W}
    (hnew : NoAlpn aws.clientCtx aws'.serverCtx)
    (hrelays : Relays client.cfg.ctx server.cfg.ctx x.socket.trace)
    (hlast : ∀ e, x.result = some (.ok e) →
      (calls x.socket.trace).getLast? = some (.doHandshake e.ssl (.done e.session))) :
    Reports client server x := by
  have hselected : ∀ e, x.result = some (.ok e) →
      (if client.builder.alpnProtocols = [] ∨ server.builder.alpnProtocols = [] then some []
        else agreed client.builder server.builder) = some e.session.alpnSelected := by
    intro e he
    obtain ⟨before, hneg⟩ := hrelays _ _ (List.mem_of_getLast? (hlast e he))
    rw [negotiateAlpn_eq client server hnew, ← agreed_eq] at hneg
    exact hneg
  refine ⟨?_, ?_⟩
  · intro e he
    have hsel := hselected e he
    show (if e.session.alpnSelected = [] then none else some e.session.alpnSelected) = _
    by_cases hnone : client.builder.alpnProtocols = [] ∨ server.builder.alpnProtocols = []
    · rw [if_pos hnone] at hsel
      rw [if_pos (Option.some.inj hsel).symm]
      rcases hnone with hnone | hnone
      · rw [agreed_eq]
        exact (List.find?_eq_none.mpr (by simp [hnone])).symm
      · rw [agreed, hnone]
        rfl
    · rw [if_neg hnone] at hsel
      -- an entry that can be encoded is not empty
      have hmem := List.mem_of_find?_eq_some hsel
      have hlen := ((encodeAlpnWire_eq_ok_iff _ _).mp (encoded_acceptor server)).1 _ hmem
      have hne : e.session.alpnSelected ≠ [] := List.ne_nil_of_length_pos hlen.1
      rw [if_neg hne, hsel]
  · intro hclient hserver hagreed e he
    have hsel := hselected e he
    rw [if_neg (by simp [hclient, hserver]), hagreed] at hsel
    cases hsel

/-- hyper is told of HTTP/2 iff the session has settled on it. -/
theorem connected_iff (e : Established Cert Key W) :
    connected e = true ↔ e.negotiated.alpn = some h2 := by
  unfold connected
  rcases e.negotiated.alpn with _ | a
  · simp
  · simp

/-- The connections `c` of a connector and `s` of an acceptor, with each other. -/
structure AlpnAgreement (client : TlsConnector aws) (server : TlsAcceptor aws') (c s : Conn Cert Key W) :
    Prop where
  client_end : NoAlpn aws.clientCtx aws'.serverCtx →
    Relays client.cfg.ctx server.cfg.ctx c.socket.trace → Reports client server c
  server_end : NoAlpn aws.clientCtx aws'.serverCtx →
    Relays client.cfg.ctx server.cfg.ctx s.socket.trace → Reports client server s
  /-- The client's hyper is told of HTTP/2 iff the server's end reports it. -/
  http2 : NoAlpn aws.clientCtx aws'.serverCtx →
    Relays client.cfg.ctx server.cfg.ctx c.socket.trace →
    Relays client.cfg.ctx server.cfg.ctx s.socket.trace →
    ∀ e e', c.result = some (.ok e) → s.result = some (.ok e') →
    (connected e = true ↔ e'.negotiated.alpn = some h2)

variable [DecidableEq W]

/-- **Both ends see the protocol that their builders have in common**, in every run of `connect` and every
run of `accept`. -/
theorem alpn_agreement (hkdfExpand : Hash → Bytes → Bytes → (len : ℕ) → ℤ × Vector UInt8 len)
    (client : TlsConnector aws) (server : TlsAcceptor aws') (isIp : String → Bool) (name : String)
    (fd fd' : ℤ) (lib lib' : AwsState Cert Key) (ready ready' : Dir → Bool)
    (ops ops' : List (ConnOp Cert W)) :
    AlpnAgreement client server
      ((Conn.start lib ready).run hkdfExpand (connect aws isIp client.cfg name fd) ops)
      ((Conn.start lib' ready').run hkdfExpand (accept aws' server.cfg fd') ops') := by
  have hc := (attempt_run hkdfExpand (connect aws isIp client.cfg name fd) lib ready ops).attempted
  have hs := (attempt_run hkdfExpand (accept aws' server.cfg fd') lib' ready' ops').attempted
  generalize (Conn.start lib ready).run hkdfExpand (connect aws isIp client.cfg name fd) ops = c at hc
  generalize (Conn.start lib' ready').run hkdfExpand (accept aws' server.cfg fd') ops' = s at hs
  have hclient : NoAlpn aws.clientCtx aws'.serverCtx →
      Relays client.cfg.ctx server.cfg.ctx c.socket.trace → Reports client server c := by
    intro hnew hrelays
    exact reports_of_relays client server hnew hrelays fun e he => (hc.established e he).2.1
  have hserver : NoAlpn aws.clientCtx aws'.serverCtx →
      Relays client.cfg.ctx server.cfg.ctx s.socket.trace → Reports client server s := by
    intro hnew hrelays
    exact reports_of_relays client server hnew hrelays fun e he => (hs.established e he).2.1
  refine ⟨hclient, hserver, ?_⟩
  intro hnew hcr hsr e e' he he'
  rw [connected_iff, (hclient hnew hcr).agreed e he, (hserver hnew hsr).agreed e' he']

/-- libssl has kept to two contexts that both have `h2`, in a history whose only call has reported it. -/
theorem relays_sample {t : List (Handshake.Act (Handle String Unit) (Negotiated String) W)}
    {ssl : Handle String Unit}
    (h : calls t = [.doHandshake ssl (.done Handshake.Sample.negotiated)]) :
    Relays Config.Sample.connector.cfg.ctx Config.Sample.acceptor.cfg.ctx t := by
  intro ssl' n hmem
  rw [h] at hmem
  obtain ⟨-, hn⟩ := Handshake.Call.doHandshake.inj (List.mem_singleton.mp hmem)
  obtain rfl := SslAnswer.done.inj hn
  refine ⟨⟨.caller 0, 0⟩, ?_⟩
  rw [negotiateAlpn_eq _ _ ⟨rfl, rfl⟩]
  decide

/-- A client and a server that have both been given `h2` report it, and hyper is told of HTTP/2. -/
theorem alpn_agreement_sample : ∃ e e', Handshake.Sample.connected.result = some (.ok e) ∧
    Handshake.Sample.accepted.result = some (.ok e') ∧ e.negotiated.alpn = some h2 ∧
    e'.negotiated.alpn = some h2 ∧ connected e = true := by
  have h := alpn_agreement (W := Unit) Handshake.Sample.hkdfExpand Config.Sample.connector
    Config.Sample.acceptor Handshake.Sample.isIp "example.org" 3 4 Config.Sample.start Config.Sample.start
    (fun _ => false) (fun _ => false) [.poll () Handshake.Sample.turn] [.poll () Handshake.Sample.turn]
  have hc := relays_sample Handshake.Sample.calls_connected
  have hs := relays_sample Handshake.Sample.calls_accepted
  have hagreed : agreed Config.Sample.client Config.Sample.server = some h2 := by decide
  have hserver := ((h.server_end ⟨rfl, rfl⟩ hs).agreed _ rfl).trans hagreed
  exact ⟨_, _, rfl, rfl, ((h.client_end ⟨rfl, rfl⟩ hc).agreed _ rfl).trans hagreed, hserver,
    (h.http2 ⟨rfl, rfl⟩ hc hs _ _ rfl rfl).mpr hserver⟩

end TokioAwsLc.System
