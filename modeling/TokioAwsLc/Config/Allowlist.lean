import TokioAwsLc.Config.Builder
import TokioAwsLc.Lib.Overwrite

/-!
# The allowlist through the builders

`TokioAwsLc.Config.CipherSuite` has what a slice of suites does to a context. Here it goes through the
builders: what a finished server and a built client can negotiate, and that of several calls of
`cipher_suites` the last one counts.

* `negotiable_configure_server` and `negotiable_configure_client` go over the other steps of the builders.
  None of them has a say in what can be negotiated; the AEAD list is replaced, or its version is switched
  off.
* `serverSuites` and `clientSuites` are the field of the builders as something that is overwritten.
* `cipher_allowlist` is the result. A version that an option has switched off before stays so; the last
  definitions show that this is not the same as the bounds.
-/

namespace TokioAwsLc.Config

open Lib.Attempt
open Lib.Overwrite (Field)

variable {Cert Key : Type}

/-! ## Finished configurations -/

section configure

variable {rules : CipherRules} {v : ProtocolVersion} {id : UInt16}

/-- What can be negotiated depends on five fields of the context. -/
theorem negotiable_congr {ctx ctx' : SslCtx Cert Key} (hmin : ctx.minProto = ctx'.minProto)
    (hmax : ctx.maxProto = ctx'.maxProto) (hoptions : ctx.options = ctx'.options)
    (hlist : ctx.cipherList = ctx'.cipherList) (hsuites : ctx.ciphersuites = ctx'.ciphersuites) :
    ctx.Negotiable rules v id ↔ ctx'.Negotiable rules v id := by
  have hv : ctx.list v = ctx'.list v := by
    cases v
    · exact hlist
    · exact hsuites
  rw [SslCtx.Negotiable, SslCtx.Negotiable, SslCtx.InBounds, SslCtx.InBounds, SslCtx.Enabled,
    SslCtx.Enabled, hmin, hmax, hoptions, hv]

/-- The option against tickets is not one of a version. -/
theorem enabled_withoutTickets {aeadOnly : Bool} {ctx : SslCtx Cert Key} :
    (withoutTickets aeadOnly ctx).Enabled v ↔ ctx.Enabled v := by
  have hticket : sslOpNoTicket &&& versionBit v = 0 := by
    cases v <;> decide
  refine (or_and_eq_zero_iff ctx.options sslOpNoTicket (versionBit v)).trans ?_
  rw [hticket]
  exact and_iff_left rfl

/-- The bounds of a builder. -/
def Within (min max : Option ProtocolVersion) (v : ProtocolVersion) : Prop :=
  (min.getD .tls12).raw ≤ v.raw ∧ v.raw ≤ (max.getD .tls13).raw

/-- A server with an allowlist negotiates what is listed, within its bounds. -/
theorem negotiable_configure_server {b : ServerConfigBuilder} {suites : NonEmptyList Suite}
    (hsuites : b.cipherSuites = some suites) (roots : List Cert) (ctx : SslCtx Cert Key) :
    (b.configure roots ctx).Negotiable rules v id ↔
      Within b.minVersion b.maxVersion v ∧ ctx.Enabled v ∧
        ∃ s ∈ suites.val, s.version = v ∧ s.id = id := by
  -- the steps after the suites touch none of the five fields
  have hcongr : (b.configure roots ctx).Negotiable rules v id ↔
      (applySuites suites.val (withoutTickets b.ktlsAeadOnly
        (withBounds b.minVersion b.maxVersion ctx))).Negotiable rules v id := by
    unfold ServerConfigBuilder.configure withServerAlpn withClientAuth withGroups
    rw [hsuites]
    apply negotiable_congr <;> (rcases b.namedGroups with _ | groups <;> split_ifs <;> rfl)
  rw [hcongr, negotiable_applySuites, enabled_withoutTickets]
  rfl

/-- Neither the trust roots nor a client's certificate touch the options. -/
theorem options_withClientCert_withRoots (roots : Roots) (anchors : List Cert)
    (auth : Option (List Cert × Key)) (ctx : SslCtx Cert Key) :
    (withClientCert auth (withRoots roots anchors ctx)).options = ctx.options := by
  have hroots : (withRoots roots anchors ctx).options = ctx.options := by
    cases roots <;> rfl
  rcases auth with _ | ⟨_ | ⟨leaf, chain⟩, key⟩
  · exact hroots
  · exact hroots
  · exact hroots

/-- A client with an allowlist negotiates what is listed, within its bounds. -/
theorem negotiable_configure_client {b : ClientConfigBuilder} {suites : NonEmptyList Suite}
    (hsuites : b.cipherSuites = some suites) (anchors : List Cert) (auth : Option (List Cert × Key))
    (ctx : SslCtx Cert Key) :
    (b.configure anchors auth ctx).Negotiable rules v id ↔
      Within b.minVersion b.maxVersion v ∧ ctx.Enabled v ∧
        ∃ s ∈ suites.val, s.version = v ∧ s.id = id := by
  have hcongr : (b.configure anchors auth ctx).Negotiable rules v id ↔
      (applySuites suites.val (withBounds b.minVersion b.maxVersion
        (withClientCert auth (withRoots b.roots anchors ctx)))).Negotiable rules v id := by
    unfold ClientConfigBuilder.configure withClientAlpn withGroups
    rw [hsuites]
    apply negotiable_congr <;> (rcases b.namedGroups with _ | groups <;> split_ifs <;> rfl)
  have henabled : (withBounds b.minVersion b.maxVersion
      (withClientCert auth (withRoots b.roots anchors ctx))).Enabled v ↔ ctx.Enabled v := by
    unfold SslCtx.Enabled
    rw [← options_withClientCert_withRoots b.roots anchors auth ctx]
    rfl
  rw [hcongr, negotiable_applySuites, henabled]
  rfl

end configure

/-! ## Sequences of setters -/

/-- The suites of a call of `cipher_suites`. -/
def ServerSetter.listed : ServerSetter → Option (List Suite)
  | .cipherSuites suites => some suites
  | _ => none

/-- The suites of a call of `cipher_suites`. -/
def ClientSetter.listed : ClientSetter → Option (List Suite)
  | .cipherSuites suites => some suites
  | _ => none

/-- The suites of the server's builder are overwritten by `cipher_suites`. -/
def serverSuites : Field ServerConfigBuilder ServerSetter (List Suite) where
  step := ServerConfigBuilder.set
  value := ServerSetter.listed
  write suites b := b.set (.cipherSuites suites)
  step_of_value {call suites} b h := by
    cases call <;> cases h
    rfl
  write_write _ _ _ := rfl
  step_write {call} suites b h := by
    cases call <;> first | rfl | cases h

/-- The suites of the client's builder are overwritten by `cipher_suites`. -/
def clientSuites : Field ClientConfigBuilder ClientSetter (List Suite) where
  step := ClientConfigBuilder.set
  value := ClientSetter.listed
  write suites b := b.set (.cipherSuites suites)
  step_of_value {call suites} b h := by
    cases call <;> cases h
    rfl
  write_write _ _ _ := rfl
  step_write {call} suites b h := by
    cases call <;> first | rfl | cases h

/-! ## The result -/

/-- The allowlist of a slice of suites, with the library `aws` and its reading `rules` of the lists. -/
structure CipherAllowlist (aws : AwsLc Cert Key) (rules : CipherRules) : Prop where
  /-- The setters are the only way to fail, and the `expect`s do not panic. -/
  succeeds : (∀ n, (aws.answer n).ok = true) → ∀ suites s, ∃ t, Succeeds (applyToCtx aws suites) s ⟨⟩ t
  fails : ∀ suites, OnlyFails CleanInit (applyToCtx aws suites)
  /-- The bounds and the options are kept, but for the option against a version that is not listed. -/
  preserves : ∀ suites s t, suites ≠ [] → Succeeds (applyToCtx aws suites) s ⟨⟩ t →
    t.ctx.minProto = s.ctx.minProto ∧ t.ctx.maxProto = s.ctx.maxProto ∧
    t.ctx.options = s.ctx.options |||
      ((if ∀ suite ∈ suites, suite.version ≠ .tls12 then sslOpNoTlsv12 else 0) |||
        if ∀ suite ∈ suites, suite.version ≠ .tls13 then sslOpNoTlsv13 else 0)
  /-- A list is emitted iff a suite of its version is listed. -/
  emits : ∀ v suites, (∃ list, emitted v suites = some list) ↔ ∃ suite ∈ suites, suite.version = v
  /-- It is the list of the context afterwards, and between its colons are the names, in their order. -/
  lists : ∀ v suites s t list, suites ≠ [] → Succeeds (applyToCtx aws suites) s ⟨⟩ t →
    emitted v suites = some list → t.ctx.list v = list ∧ splitAtColon list = names v suites
  /-- Listed suites can be negotiated, and no others, as far as the bounds and the options allowed their
  version before. -/
  negotiable : ∀ suites s t, suites ≠ [] → Succeeds (applyToCtx aws suites) s ⟨⟩ t →
    ∀ v id, t.ctx.Negotiable rules v id ↔ s.ctx.InBounds v ∧ s.ctx.Enabled v ∧
      ∃ suite ∈ suites, suite.version = v ∧ suite.id = id
  /-- So it is for a server, whether it is restricted to AEAD suites or not. -/
  server : ∀ (b : ServerConfigBuilder) suites s t cfg, b.cipherSuites = some suites →
    Succeeds (b.finish aws) s cfg t → ∀ v id, cfg.ctx.Negotiable rules v id ↔
      Within b.minVersion b.maxVersion v ∧ s.ctx.Enabled v ∧
        ∃ suite ∈ suites.val, suite.version = v ∧ suite.id = id
  aead_only : ∀ (b : ServerConfigBuilder) suites s t cfg s' t' cfg', b.cipherSuites = some suites →
    s.ctx = s'.ctx → Succeeds ((b.set (.ktlsAeadOnly true)).finish aws) s cfg t →
    Succeeds ((b.set (.ktlsAeadOnly false)).finish aws) s' cfg' t' →
    ∀ v id, cfg.ctx.Negotiable rules v id ↔ cfg'.ctx.Negotiable rules v id
  /-- So it is for a client. -/
  client : ∀ (b : ClientConfigBuilder) suites s t cfg, b.cipherSuites = some suites →
    Succeeds (b.build aws) s cfg t → ∀ v id, cfg.ctx.Negotiable rules v id ↔
      Within b.minVersion b.maxVersion v ∧ aws.clientCtx.Enabled v ∧
        ∃ suite ∈ suites.val, suite.version = v ∧ suite.id = id
  /-- Among all the calls on a builder, of the calls of `cipher_suites` only the last one counts. -/
  server_last : ∀ (b : ServerConfigBuilder) (calls : List ServerSetter) suites,
    (calls.filterMap ServerSetter.listed).getLast? = some suites →
    calls.foldl ServerConfigBuilder.set b =
      ((calls.filter fun call => call.listed.isNone).foldl ServerConfigBuilder.set b).set
        (.cipherSuites suites)
  client_last : ∀ (b : ClientConfigBuilder) (calls : List ClientSetter) suites,
    (calls.filterMap ClientSetter.listed).getLast? = some suites →
    calls.foldl ClientConfigBuilder.set b =
      ((calls.filter fun call => call.listed.isNone).foldl ClientConfigBuilder.set b).set
        (.cipherSuites suites)
  /-- If that one is empty, there might as well have been none. -/
  server_empty : ∀ calls : List ServerSetter,
    (calls.filterMap ServerSetter.listed).getLast? = some [] →
    calls.foldl ServerConfigBuilder.set .default =
      (calls.filter fun call => call.listed.isNone).foldl ServerConfigBuilder.set .default
  client_empty : ∀ calls : List ClientSetter,
    (calls.filterMap ClientSetter.listed).getLast? = some [] →
    calls.foldl ClientConfigBuilder.set .default =
      (calls.filter fun call => call.listed.isNone).foldl ClientConfigBuilder.set .default

/-- **The allowlist is enforced.** -/
theorem cipher_allowlist (aws : AwsLc Cert Key) (rules : CipherRules) : CipherAllowlist aws rules where
  succeeds := exists_succeeds_applyToCtx
  fails := onlyFails_applyToCtx
  preserves suites s t hne h := by
    have hbit : ∀ v, disabledBit v suites
        = if ∀ suite ∈ suites, suite.version ≠ v then versionBit v else 0 :=
      fun v => if_congr emitted_eq_none_iff rfl rfl
    rw [ctx_of_applyToCtx hne h]
    refine ⟨rfl, rfl, ?_⟩
    rw [applySuites, hbit, hbit]
    rfl
  emits v suites := by
    rw [← Option.ne_none_iff_exists', Ne, emitted_eq_none_iff]
    simp
  lists v suites s t list hne h hlist := by
    refine ⟨?_, (splitAtColon_emitted hlist).2⟩
    rw [ctx_of_applyToCtx hne h]
    cases v <;> simp [applySuites, SslCtx.list, hlist]
  negotiable suites s t hne h v id := by
    rw [ctx_of_applyToCtx hne h]
    exact negotiable_applySuites rules s.ctx v id
  server b suites s t cfg hsuites h v id := by
    obtain ⟨roots, -, -, rfl⟩ := ctx_of_finish h
    exact negotiable_configure_server hsuites roots s.ctx
  aead_only b suites s t cfg s' t' cfg' hsuites hctx h h' v id := by
    obtain ⟨roots, -, -, rfl⟩ := ctx_of_finish h
    obtain ⟨roots', -, -, rfl⟩ := ctx_of_finish h'
    rw [negotiable_configure_server (b := b.set (.ktlsAeadOnly true)) hsuites,
      negotiable_configure_server (b := b.set (.ktlsAeadOnly false)) hsuites, hctx]
    rfl
  client b suites s t cfg hsuites h v id := by
    obtain ⟨anchors, auth, -, -, rfl⟩ := ctx_of_build h
    exact negotiable_configure_client hsuites anchors auth aws.clientCtx
  server_last b calls suites h := serverSuites.run_eq h b
  client_last b calls suites h := clientSuites.run_eq h b
  server_empty calls h := serverSuites.run_eq_of_last h rfl
  client_empty calls h := clientSuites.run_eq_of_last h rfl

/-! ## A version that was switched off before -/

/-- The reading in which an element of a list stands for the suites of its name. -/
def nameRules : CipherRules where
  selects v name id := ∃ s : Suite, s.version = v ∧ s.opensslName = name ∧ s.id = id
  selects_name s id := by
    constructor
    · rintro ⟨s', hversion, hname, rfl⟩
      exact id_eq_of_opensslName_eq s' s hversion hname
    · rintro rfl
      exact ⟨s, rfl, rfl, rfl⟩

/-- A context for both versions, with these options. -/
def plainCtx (options : BitVec 32) : SslCtx Unit Unit where
  minProto := .tls12
  maxProto := .tls13
  options := options
  numTickets := 2
  cipherList := "ALL"
  ciphersuites := "TLS_AES_128_GCM_SHA256"
  groups := none
  leaf := none
  chain := []
  privateKey := none
  store := []
  defaultVerifyPaths := false
  verify := .none
  alpnWire := none
  alpnSelect := false
  alpnProtos := []

/-- A library whose setters succeed. -/
def agreeable : AwsLc Unit Unit where
  answer _ := ⟨true, []⟩
  errorString _ := ""
  serverCtx := plainCtx 0
  clientCtx := plainCtx 0
  pemCerts _ := ⟨[], []⟩
  pemKey _ := .error []
  d2iX509 _ := .error []
  d2iX509_le _ _ _ h := by cases h
  d2iAutoPrivateKey _ := .error []
  d2iAutoPrivateKey_le _ _ _ h := by cases h
  certificateChainFile _ := ((), [])
  privateKeyFile _ := ()
  cLongMax := 0

/-- The constant as a `&'static CipherSuite`. -/
def ecdsaAes128 : Suite :=
  ⟨tlsEcdheEcdsaWithAes128GcmSha256, by decide⟩

/-- The options are kept, also an option against TLS 1.2: the listed suite is within the bounds, and cannot
be negotiated. -/
theorem listed_suite_switched_off : ∃ t,
    Succeeds (applyToCtx agreeable [ecdsaAes128]) ⟨plainCtx sslOpNoTlsv12, [], 0, false⟩ ⟨⟩ t ∧
      t.ctx.InBounds ecdsaAes128.version ∧
      ¬ t.ctx.Negotiable nameRules ecdsaAes128.version ecdsaAes128.id := by
  obtain ⟨t, h⟩ := @exists_succeeds_applyToCtx _ _ agreeable (fun _ => rfl) [ecdsaAes128]
    ⟨plainCtx sslOpNoTlsv12, [], 0, false⟩
  refine ⟨t, h, ?_⟩
  rw [ctx_of_applyToCtx (List.cons_ne_nil _ _) h, negotiable_applySuites]
  refine ⟨by decide, ?_⟩
  rintro ⟨-, henabled, -⟩
  exact absurd henabled (by decide)

end TokioAwsLc.Config
