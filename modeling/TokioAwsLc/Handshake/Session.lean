import TokioAwsLc.Config.Allowlist
import TokioAwsLc.Handshake.Decision

/-!
# What a stream says about its session

`negotiated()` and `ktls_eligibility()` are snapshots of a finished session. The second one answers before
anybody has asked the kernel; the installation of kTLS asks the same question once more, and the builders
have had their say in the answer before the handshake began.

* `KtlsEligibility.fromSsl` and `NegotiatedSession.fromSsl` are the snapshots.
* `Endpoint` is one end of a connection with the builder behind it. `Endpoint.Hardened` says that the
  builder was told which suites may be negotiated, `Negotiating` that libssl keeps to the contexts.
* `ktls_eligibility` is the result.
-/

set_option linter.unusedSectionVars false

namespace TokioAwsLc.Handshake

open Config
open Ktls (Fault Offload SockAnswers SockOpt TlsContext KtlsCipher KtlsError Hash Ssl tlsRx tlsTx)
open Lib.Attempt

/-! ## Snapshots -/

/-- `cstr_to_string(SSL_get_version(..))` with its default. -/
def versionText (ssl : Ssl) : String :=
  ssl.versionName.getD "(unknown)"

/-- The name of `SSL_get_current_cipher`, which can be null. -/
def cipherText (ssl : Ssl) : String :=
  if ssl.cipherId.isNone then "" else ssl.cipherName.getD ""

/-- Source: `src/session.rs` `KtlsEligibility` -/
structure KtlsEligibility where
  tlsVersion : String
  cipher : String
  compatible : Bool
  deriving DecidableEq, Repr

/-- Source: `src/session.rs` `KtlsEligibility::from_ssl` -/
def KtlsEligibility.fromSsl (ssl : Ssl) : KtlsEligibility :=
  ⟨versionText ssl, cipherText ssl, (KtlsCipher.detect ssl).isSome⟩

/-- Source: `src/session.rs` `NegotiatedSession` -/
structure NegotiatedSession where
  version : String
  cipher : String
  alpn : Option Bytes
  sni : Option String
  deriving DecidableEq, Repr

/-- Source: `src/session.rs` `NegotiatedSession::from_ssl` -/
def NegotiatedSession.fromSsl {Cert : Type} (n : Negotiated Cert) : NegotiatedSession where
  version := versionText n.ssl
  cipher := cipherText n.ssl
  alpn := if n.alpnSelected = [] then none else some n.alpnSelected
  sni := n.servername

section stream

variable {Cert Key W : Type}

/-- Source: `src/stream.rs` `TlsStream::ktls_eligibility` -/
def Established.ktlsEligibility (e : Established Cert Key W) : KtlsEligibility :=
  .fromSsl e.session.ssl

/-- Source: `src/stream.rs` `TlsStream::negotiated` -/
def Established.negotiated (e : Established Cert Key W) : NegotiatedSession :=
  .fromSsl e.session

end stream

/-- A session is not compatible iff its cipher is not one of the kernel's. -/
theorem compatible_eq_false_iff {ssl : Ssl} :
    (KtlsEligibility.fromSsl ssl).compatible = false ↔ KtlsCipher.detect ssl = none :=
  Option.isSome_eq_false_iff.trans Option.isNone_iff_eq_none

/-! ## What can be negotiated -/

section negotiate

variable {Cert Key W : Type} {aws : AwsLc Cert Key}

/-- The suites of AWS-LC with a pre-shared key. They are negotiated only with a callback for the key, and
the crate sets none. -/
def pskSuites : List UInt16 :=
  [0x008C, 0x008D, 0xC035, 0xC036, 0xCCAC]

/-- How AWS-LC reads the list of `ktls_aead_only`, and which suites it has for TLS 1.3. -/
structure AeadRules extends CipherRules where
  aesGcm : ∀ id, selects .tls12 "ECDHE+AESGCM" id → id ∈ [0xC02B, 0xC02C, 0xC02F, 0xC030]
  chacha20 : ∀ id, selects .tls12 "ECDHE+CHACHA20" id → id ∈ [0xCCA8, 0xCCA9, 0xCCAC]
  tls13 : ∀ e id, selects .tls13 e id → id ∈ [0x1301, 0x1302, 0x1303]

/-- The two elements of that list are no names of suites. -/
theorem opensslName_ne_aead (s : Suite) :
    s.opensslName ≠ "ECDHE+AESGCM" ∧ s.opensslName ≠ "ECDHE+CHACHA20" := by
  have h : ∀ s ∈ allCipherSuites, s.opensslName ≠ "ECDHE+AESGCM" ∧ s.opensslName ≠ "ECDHE+CHACHA20" := by
    decide
  exact h s.val s.property

/-- A reading of the lists: an element is the name of a suite, or one of those two. -/
def aeadRules : AeadRules where
  selects v e id := nameRules.selects v e id ∨ v = .tls12 ∧
    (e = "ECDHE+AESGCM" ∧ id ∈ [0xC02B, 0xC02C, 0xC02F, 0xC030] ∨
      e = "ECDHE+CHACHA20" ∧ id ∈ [0xCCA8, 0xCCA9, 0xCCAC])
  selects_name s id := by
    obtain ⟨haes, hchacha⟩ := opensslName_ne_aead s
    simp only [haes, hchacha, false_and, or_false, and_false]
    exact nameRules.selects_name s id
  aesGcm id h := by
    rcases h with ⟨s, -, hname, -⟩ | ⟨-, ⟨-, hid⟩ | ⟨he, -⟩⟩
    · exact absurd hname (opensslName_ne_aead s).1
    · exact hid
    · exact absurd he (by decide)
  chacha20 id h := by
    rcases h with ⟨s, -, hname, -⟩ | ⟨-, ⟨he, -⟩ | ⟨-, hid⟩⟩
    · exact absurd hname (opensslName_ne_aead s).2
    · exact absurd he (by decide)
    · exact hid
  tls13 e id h := by
    rcases h with ⟨s, hversion, -, rfl⟩ | ⟨hversion, -⟩
    · have hids : ∀ s ∈ allCipherSuites, s.version = .tls13 → s.ianaId ∈ [0x1301, 0x1302, 0x1303] := by
        decide
      exact hids s.val s.property hversion
    · cases hversion

/-- libssl has kept to the contexts in the calls of a history. -/
def Negotiating (rules : CipherRules) (t : List (Act (Handle Cert Key) (Negotiated Cert) W)) : Prop :=
  ∀ ssl n, .doHandshake ssl (.done n) ∈ calls t → ∃ v id, ssl.ctx.Negotiable rules v id ∧
    id ∉ pskSuites ∧ n.ssl.version = v.raw.toNat ∧ n.ssl.cipherId = some id

/-- The kernel has the cipher of this suite. -/
def Offloadable (v : ProtocolVersion) (id : UInt16) : Prop :=
  (KtlsCipher.fromIds v.raw.toNat id).isSome = true

instance (v : ProtocolVersion) (id : UInt16) : Decidable (Offloadable v id) :=
  inferInstanceAs (Decidable (_ = _))

/-- All the constants of the crate are such suites. -/
theorem offloadable_suite (s : Suite) : Offloadable s.version s.id := by
  have h : ∀ s ∈ allCipherSuites, Offloadable s.version s.ianaId := by
    decide
  exact h s.val s.property

/-- The two selectors of the list. -/
theorem fields_aeadOnlyList : fields aeadOnlyList = ["ECDHE+AESGCM", "ECDHE+CHACHA20"] := by
  decide

variable {v : ProtocolVersion} {id : UInt16}

/-- The suites that the first selector stands for can be offloaded. -/
theorem offloadable_aesGcm : [0xC02B, 0xC02C, 0xC02F, 0xC030].all (Offloadable .tls12 ·) = true := by
  decide

/-- So can those of the second. -/
theorem offloadable_chacha20 : [0xCCA8, 0xCCA9].all (Offloadable .tls12 ·) = true := by
  decide

/-- So can those of TLS 1.3. -/
theorem offloadable_tls13 : [0x1301, 0x1302, 0x1303].all (Offloadable .tls13 ·) = true := by
  decide

/-- A suite of a list that can be offloaded as a whole. -/
theorem offloadable_of_mem {ids : List UInt16} (h : ids.all (Offloadable v ·) = true) (hid : id ∈ ids) :
    Offloadable v id :=
  of_decide_eq_true (List.all_eq_true.mp h id hid)

/-- So is what the list of `ktls_aead_only` leaves over. -/
theorem offloadable_aead (rules : AeadRules) {e : String} (he : v = .tls12 → e ∈ fields aeadOnlyList)
    (hselects : rules.selects v e id) (hpsk : id ∉ pskSuites) : Offloadable v id := by
  cases v with
  | tls12 =>
      have hmem := he rfl
      rw [fields_aeadOnlyList] at hmem
      rcases List.mem_cons.mp hmem with rfl | hmem
      · exact offloadable_of_mem offloadable_aesGcm (rules.aesGcm id hselects)
      · obtain rfl := List.mem_singleton.mp hmem
        have hid := rules.chacha20 id hselects
        -- the last suite of the list needs a pre-shared key
        have hne : id ≠ 0xCCAC := by
          rintro rfl
          exact hpsk (by decide)
        refine offloadable_of_mem offloadable_chacha20 ?_
        simpa [hne] using hid
  | tls13 => exact offloadable_of_mem offloadable_tls13 (rules.tls13 e id hselects)

/-- A server that is restricted to AEAD suites, and has no allowlist. -/
theorem offloadable_of_aeadOnly (rules : AeadRules) {b : ServerConfigBuilder}
    (hsuites : b.cipherSuites = none) (haead : b.ktlsAeadOnly = true) {roots : List Cert}
    {ctx : SslCtx Cert Key} (h : (b.configure roots ctx).Negotiable rules.toCipherRules v id)
    (hpsk : id ∉ pskSuites) :
    Offloadable v id := by
  obtain ⟨-, -, e, he, hselects⟩ := h
  refine offloadable_aead rules ?_ hselects hpsk
  rintro rfl
  have hlist : (b.configure roots ctx).list .tls12 = aeadOnlyList := by
    unfold ServerConfigBuilder.configure withServerAlpn withClientAuth withGroups
    rw [hsuites, haead]
    rcases b.namedGroups with _ | groups <;> split_ifs <;> rfl
  rwa [hlist] at he

end negotiate

/-! ## Endpoints -/

section endpoint

variable {Cert Key W : Type} {aws : AwsLc Cert Key}

/-- One end of a connection on the socket `fd`: a connector with the name it was given, or an acceptor. -/
inductive Endpoint (aws : AwsLc Cert Key)
  | connector (tls : TlsConnector aws) (isIp : String → Bool) (name : String) (fd : ℤ)
  | acceptor (tls : TlsAcceptor aws) (fd : ℤ)

/-- `connect` or `accept`. -/
def Endpoint.future : Endpoint aws → Future Cert Key
  | .connector tls isIp name fd => connect aws isIp tls.cfg name fd
  | .acceptor tls fd => accept aws tls.cfg fd

/-- The context of the configuration. -/
def Endpoint.ctx : Endpoint aws → SslCtx Cert Key
  | .connector tls _ _ _ => tls.cfg.ctx
  | .acceptor tls _ => tls.cfg.ctx

/-- The builder was told which suites may be negotiated. -/
def Endpoint.Hardened : Endpoint aws → Prop
  | .connector tls _ _ _ => tls.builder.cipherSuites ≠ none
  | .acceptor tls _ => tls.builder.cipherSuites ≠ none ∨ tls.builder.ktlsAeadOnly = true

/-- The handle of an endpoint has the context of its configuration. -/
theorem Endpoint.ctx_of_prepared (p : Endpoint aws) {s t : AwsState Cert Key} {ssl : Handle Cert Key}
    (h : Succeeds p.future.prepare s ssl t) : ssl.ctx = p.ctx := by
  cases p with
  | connector tls isIp name fd =>
      rw [(of_succeeds_prepareClient h).2.2]
      exact ctx_pinned isIp tls.cfg.ctx name fd
  | acceptor tls fd =>
      rw [of_succeeds_prepareServer h]
      rfl

/-- **A hardened endpoint negotiates nothing that the kernel does not have.** -/
theorem Endpoint.offloadable (p : Endpoint aws) (hp : p.Hardened) (rules : AeadRules) {v : ProtocolVersion}
    {id : UInt16} (h : p.ctx.Negotiable rules.toCipherRules v id) (hpsk : id ∉ pskSuites) :
    Offloadable v id := by
  cases p with
  | connector tls isIp name fd =>
      obtain ⟨suites, hsuites⟩ := Option.ne_none_iff_exists'.mp hp
      obtain ⟨anchors, auth, -, -, hcfg⟩ := tls.cfg_eq
      rw [Endpoint.ctx, hcfg, negotiable_configure_client hsuites] at h
      obtain ⟨-, -, suite, -, rfl, rfl⟩ := h
      exact offloadable_suite suite
  | acceptor tls fd =>
      obtain ⟨certs, key, roots, -, hctx⟩ := tls.ctx_eq
      rw [Endpoint.ctx, hctx] at h
      rcases hsuites : tls.builder.cipherSuites with _ | suites
      · exact offloadable_of_aeadOnly rules hsuites (hp.resolve_left (not_not_intro hsuites)) h hpsk
      · rw [negotiable_configure_server hsuites] at h
        obtain ⟨-, -, suite, -, rfl, rfl⟩ := h
        exact offloadable_suite suite

end endpoint

/-! ## The result -/

section result

variable {Cert Key W : Type} [DecidableEq W] {aws : AwsLc Cert Key}

/-- What `ktls_eligibility()` says about the connections of an endpoint, and what becomes of them. -/
structure EligibilityTells (hkdfExpand : Hash → Bytes → Bytes → (len : ℕ) → ℤ × Vector UInt8 len)
    (p : Endpoint aws) (c : Conn Cert Key W) : Prop where
  /-- If it says no, the kernel was not asked, and the stream is on libssl. -/
  ineligible : ∀ e, c.result = some (.ok e) → e.ktlsEligibility.compatible = false →
    c.offload = .fresh ∧ e.world.stream.ktlsActive = false
  /-- So it is without the question, if kTLS is disabled or libssl holds data. -/
  skipped : ∀ e, c.result = some (.ok e) → p.future.ktlsDisabled = true ∨ e.session.ssl.hasPending ≠ 0 →
    c.offload = .fresh ∧ e.world.stream.ktlsActive = false
  /-- Otherwise the kernel was asked, and a stream on libssl means that it has refused. -/
  eligible : ∀ e, c.result = some (.ok e) → e.ktlsEligibility.compatible = true →
    p.future.ktlsDisabled = false → e.session.ssl.hasPending = 0 →
    Asked c.offload e.world.stream.ktlsActive
  /-- What the kernel returns decides, in the poll in which libssl finishes the handshake: there is a stream
  on libssl when kTLS is not to be had, one on kTLS when everything was taken, and none when the kernel fails
  in another way. -/
  decides : c.result = none → ∀ cx turn ssl n,
    (calls (c.poll hkdfExpand p.future cx turn).1.socket.trace).getLast? =
      some (.doHandshake ssl (.done n)) →
    Decision hkdfExpand p.future.ktlsDisabled n.ssl turn.sockopts
      (c.poll hkdfExpand p.future cx turn).1.offload (c.poll hkdfExpand p.future cx turn).1.outcome
  /-- An error of kTLS that the caller gets is one of `setsockopt`: of a ULP that is refused with a code that
  does not mean that there is none, or of the keys to send with. -/
  fatal : ∀ e, c.result = some (.error (.ktls e)) →
    ∃ errno, e = .setSockOpt (.os errno) ∧ Breaks errno c.offload
  /-- It says yes about every session of a builder that was told which suites may be negotiated, or to
  leave over those that the kernel has. -/
  hardened : p.Hardened → ∀ rules : AeadRules, Negotiating rules.toCipherRules c.socket.trace →
    ∀ e, c.result = some (.ok e) → e.ktlsEligibility.compatible = true

variable {hkdfExpand : Hash → Bytes → Bytes → (len : ℕ) → ℤ × Vector UInt8 len}

/-- The errors of `drive_handshake` are not those of kTLS. -/
theorem Steady.ne_ktls {ssl : Handle Cert Key} {bits : ℕ}
    {s : Socket (Handle Cert Key) (Negotiated Cert) W} {e : Error} (e' : KtlsError)
    (h : Steady ssl bits ⟨.finished, s, some (.error e)⟩) : e ≠ .ktls e' := by
  obtain ⟨-, call, -, hreport⟩ := h.reported.done _ rfl
  rcases call with ⟨_, _ | _⟩ | _
  · cases hreport
  · obtain rfl := Except.error.inj hreport
    unfold callError
    simp only
    split_ifs <;> simp
  · obtain rfl := Except.error.inj hreport
    simp [waitError]

/-- An error of kTLS comes from the decision. -/
theorem Attempt.fatal {f : Future Cert Key} {lib : AwsState Cert Key} {bits : ℕ} {c : Conn Cert Key W}
    (h : Attempt hkdfExpand f lib bits c) {e : KtlsError} (he : c.result = some (.error (.ktls e))) :
    ∃ errno, e = .setSockOpt (.os errno) ∧ Breaks errno c.offload := by
  cases h with
  | start hcalls h => cases he
  | refused hrun hcalls => cases he
  | driving hprep h => cases he
  | failed hprep h => exact absurd (Except.error.inj (Option.some.inj he)) (h.ne_ktls e)
  | @rejected _ _ _ _ _ _ _ e' hprep h hest =>
      have heq := Except.error.inj (Option.some.inj he)
      cases e' with
      | init message => cases heq
      | ktls e' =>
          obtain rfl := Error.ktls.inj heq
          exact establish_breaks hest
  | established hprep h hest => cases he

/-- **The snapshot tells whether kTLS can be had**, in every run of `connect` and `accept`, for every
builder, every session and every outcome of the system calls. -/
theorem ktls_eligibility (hkdfExpand : Hash → Bytes → Bytes → (len : ℕ) → ℤ × Vector UInt8 len)
    (p : Endpoint aws) (lib : AwsState Cert Key) (ready : Dir → Bool) (ops : List (ConnOp Cert W)) :
    EligibilityTells hkdfExpand p ((Conn.start lib ready).run hkdfExpand p.future ops) := by
  have hrun := attempt_run hkdfExpand p.future lib ready ops
  generalize (Conn.start lib ready).run hkdfExpand p.future ops = c at hrun
  have h := hrun.attempted
  refine ⟨?_, ?_, ?_, ?_, ?_, ?_⟩
  · intro e he hcompat
    obtain ⟨-, -, answers, net, hest⟩ := h.established e he
    rw [establish_ineligible (compatible_eq_false_iff.mp hcompat)] at hest
    obtain ⟨hk, hw⟩ := Prod.mk.inj hest
    rw [← hk, ← Except.ok.inj hw]
    exact ⟨rfl, rfl⟩
  · intro e he hskip
    obtain ⟨-, -, answers, net, hest⟩ := h.established e he
    rw [establish_skipped hskip] at hest
    obtain ⟨hk, hw⟩ := Prod.mk.inj hest
    rw [← hk, ← Except.ok.inj hw]
    exact ⟨rfl, rfl⟩
  · intro e he hcompat hdis hpend
    obtain ⟨-, -, answers, net, hest⟩ := h.established e he
    refine establish_asks hcompat ?_ hest
    simp [hdis, hpend]
  · intro hnone cx turn ssl n hlast
    exact hrun.decision hnone cx turn hlast
  · intro e he
    exact hrun.fatal he
  · intro hp rules hneg e he
    obtain ⟨⟨t, hprep⟩, hlast, -⟩ := h.established e he
    obtain ⟨v, id, hnegotiable, hpsk, hversion, hid⟩ := hneg _ _ (List.mem_of_getLast? hlast)
    rw [p.ctx_of_prepared hprep] at hnegotiable
    have hoff : Offloadable v id := p.offloadable hp rules hnegotiable hpsk
    show (KtlsCipher.detect e.session.ssl).isSome = true
    simp only [KtlsCipher.detect, hid, hversion]
    exact hoff

end result

namespace Sample

/-- The end of the server. -/
def endpoint : Endpoint Config.Sample.lib :=
  .acceptor Config.Sample.acceptor 4

/-- The same poll with a kernel that has no `tls` module. -/
def turnWithoutUlp : Turn String :=
  { turn with sockopts := ⟨.error 2, fun _ => .ok ()⟩ }

/-- The connection after its first poll. -/
def polled (turn : Turn String) : Conn String Unit Unit :=
  ((Conn.start Config.Sample.start fun _ => false).poll hkdfExpand endpoint.future () turn).1

/-- The suite of the sample is one that its context allows. -/
theorem negotiating_accepted : Negotiating aeadRules.toCipherRules accepted.socket.trace := by
  intro ssl n hmem
  rw [calls_accepted] at hmem
  obtain ⟨rfl, hn⟩ := Call.doHandshake.inj (List.mem_singleton.mp hmem)
  obtain rfl := SslAnswer.done.inj hn
  refine ⟨.tls12, 0xC02F, ⟨by decide, by decide, "ECDHE+AESGCM", ?_, ?_⟩, by decide, rfl, rfl⟩
  · show "ECDHE+AESGCM" ∈ fields aeadOnlyList
    rw [fields_aeadOnlyList]
    exact List.mem_cons_self
  · exact .inr ⟨rfl, .inl ⟨rfl, by decide⟩⟩

/-- Its session has everything that an installation asks for. -/
theorem offers_ssl : Offers hkdfExpand false ssl .tls12Aes128Gcm :=
  ⟨rfl, rfl, rfl, rfl⟩

end Sample

/-- The session of a server that was told `ktls_aead_only` is eligible. A kernel that takes everything has
both directions then; one without the `tls` module leaves the stream with libssl. -/
theorem ktls_eligibility_sample :
    (∃ e, Sample.accepted.result = some (.ok e) ∧ e.ktlsEligibility.compatible = true) ∧
    ((Sample.polled Sample.turn).outcome = some (.ok true) ∧
      (Sample.polled Sample.turn).offload.rx =
        some (rxContext Sample.hkdfExpand .tls12Aes128Gcm Sample.ssl) ∧
      (Sample.polled Sample.turn).offload.tx =
        some (txContext Sample.hkdfExpand .tls12Aes128Gcm Sample.ssl)) ∧
    (Sample.polled Sample.turnWithoutUlp).outcome = some (.ok false) ∧
      (Sample.polled Sample.turnWithoutUlp).offload.attempts = [.ulp] := by
  have hrun := ktls_eligibility (W := Unit) Sample.hkdfExpand Sample.endpoint Config.Sample.start
    (fun _ => false) [.poll () Sample.turn]
  have hstart := ktls_eligibility (W := Unit) Sample.hkdfExpand Sample.endpoint Config.Sample.start
    (fun _ => false) []
  refine ⟨⟨_, rfl, hrun.hardened (.inr rfl) aeadRules Sample.negotiating_accepted _ rfl⟩, ?_, ?_⟩
  · obtain ⟨hoffload, houtcome⟩ := (hstart.decides rfl () Sample.turn _ _ rfl).accepted _
      Sample.offers_ssl rfl rfl rfl
    exact ⟨houtcome, congrArg Offload.rx hoffload, congrArg Offload.tx hoffload⟩
  · obtain ⟨hoffload, houtcome⟩ := (hstart.decides rfl () Sample.turnWithoutUlp _ _ rfl).unavailable _ 2
      Sample.offers_ssl rfl (by decide)
    exact ⟨houtcome, congrArg Offload.attempts hoffload⟩

end TokioAwsLc.Handshake
