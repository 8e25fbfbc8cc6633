import TokioAwsLc.Handshake.Connect

/-!
# The decision on kTLS

After the handshake `try_auto_install_ktls` asks the kernel to take over, if there is something to take
over. Three system calls decide what becomes of the connection then, and a refusal means one of two things:
kTLS is not to be had and the stream stays with libssl, or the connection fails.

* `NoKtls`: the keys are derived, or the derivation fails with `Error::Init`. The errors of kTLS itself come
  from the kernel.
* `establish_skipped`, `establish_ineligible` and `establish_of_offers` are the decision by what decides it;
  `Offers` says that there is something to offload.
* `noUlpCodes` are the codes that mean that kTLS is not to be had. `Decision` is the table of all outcomes,
  in terms of the codes that the kernel returns, and `establish_decision` says that the crate keeps to it.
* `Attempt.decision` puts it on top of a run of `connect` or `accept`: the poll in which libssl finishes the
  handshake is the one that decides.
-/

set_option linter.unusedSectionVars false

namespace TokioAwsLc.Handshake

open Config
open Ktls (Fault Offload SockAnswers SockOpt TlsContext KtlsCipher KtlsError CryptoInfo Hash Ssl tlsRx tlsTx)
open Lib.Attempt

/-! ## The errors of a derivation -/

section derive

variable {α β : Type} {x : Except Fault α}

/-- The function does not return one of the errors that the decision on kTLS looks at. -/
def NoKtls (x : Except Fault α) : Prop :=
  ∀ e, x ≠ .error (.error (.ktls e))

/-- A value is no kTLS error. -/
theorem noKtls_ok (a : α) : NoKtls (.ok a) := by
  intro e
  simp

/-- Neither is a panic. -/
theorem noKtls_panic : NoKtls (.error .panic : Except Fault α) := by
  intro e
  simp

/-- Neither is `Error::Init`. -/
theorem noKtls_init (message : String) : NoKtls (.error (.error (.init message)) : Except Fault α) := by
  intro e
  simp

/-- **Sequence rule.** -/
theorem NoKtls.bind {f : α → Except Fault β} (hx : NoKtls x) (hf : ∀ a, NoKtls (f a)) :
    NoKtls (x >>= f) := by
  rcases x with fault | a
  · intro e h
    obtain rfl := Except.error.inj h
    exact hx e rfl
  · exact hf a

/-- Reading a traffic secret fails with `Error::Init`. -/
theorem noKtls_tls13TrafficSecret (ssl : Ssl) (dir : Ktls.Direction) (len : ℕ) :
    NoKtls (Ktls.tls13TrafficSecret ssl dir len) := by
  unfold Ktls.tls13TrafficSecret
  simp only
  split_ifs
  · exact noKtls_init _
  · exact noKtls_ok _

/-- So does reading the key block. -/
theorem noKtls_tls12KeyBlock (ssl : Ssl) (len : ℕ) : NoKtls (Ktls.tls12KeyBlock ssl len) := by
  unfold Ktls.tls12KeyBlock
  simp only
  split_ifs
  · exact noKtls_init _
  · exact noKtls_ok _

/-- A copy of the wrong length panics. -/
theorem noKtls_copyFromSlice (n : ℕ) (src : Bytes) : NoKtls (Ktls.copyFromSlice n src) := by
  unfold Ktls.copyFromSlice
  split_ifs
  · exact noKtls_ok _
  · exact noKtls_panic

/-- So does a split behind the end. -/
theorem noKtls_splitAt (src : Bytes) (mid : ℕ) : NoKtls (Ktls.splitAt src mid) := by
  unfold Ktls.splitAt
  split_ifs
  · exact noKtls_ok _
  · exact noKtls_panic

/-- Taking the key block apart gives no kTLS error. -/
theorem noKtls_splitTls12KeyBlock (block : Bytes) (keyLen ivLen : ℕ) (isServer : Bool) :
    NoKtls (Ktls.splitTls12KeyBlock block keyLen ivLen isServer) := by
  unfold Ktls.splitTls12KeyBlock
  dsimp only
  by_cases hlen : block.length ≠ 2 * (keyLen + ivLen)
  · rw [if_pos hlen]
    exact noKtls_panic
  · rw [if_neg hlen]
    apply (noKtls_splitAt _ _).bind
    intro _
    apply (noKtls_splitAt _ _).bind
    intro _
    apply (noKtls_splitAt _ _).bind
    intro _
    split_ifs
    · exact noKtls_ok _
    · exact noKtls_ok _

/-- Neither does filling in the kernel's structure for AES-128-GCM. -/
theorem noKtls_buildAesGcm128 (version : UInt16) (key salt iv : Bytes) (recSeq : UInt64) :
    NoKtls (Ktls.buildAesGcm128 version key salt iv recSeq) :=
  (noKtls_copyFromSlice _ _).bind fun _ => (noKtls_copyFromSlice _ _).bind fun _ =>
    (noKtls_copyFromSlice _ _).bind fun _ => noKtls_ok _

/-- Neither does the one for AES-256-GCM. -/
theorem noKtls_buildAesGcm256 (version : UInt16) (key salt iv : Bytes) (recSeq : UInt64) :
    NoKtls (Ktls.buildAesGcm256 version key salt iv recSeq) :=
  (noKtls_copyFromSlice _ _).bind fun _ => (noKtls_copyFromSlice _ _).bind fun _ =>
    (noKtls_copyFromSlice _ _).bind fun _ => noKtls_ok _

/-- Neither does the one for ChaCha20-Poly1305. -/
theorem noKtls_buildChacha20Poly1305 (version : UInt16) (key iv : Bytes) (recSeq : UInt64) :
    NoKtls (Ktls.buildChacha20Poly1305 version key iv recSeq) :=
  (noKtls_copyFromSlice _ _).bind fun _ => (noKtls_copyFromSlice _ _).bind fun _ => noKtls_ok _

variable (hkdfExpand : Hash → Bytes → Bytes → (len : ℕ) → ℤ × Vector UInt8 len)

/-- Neither does HKDF-Expand-Label. -/
theorem noKtls_hkdfExpandLabel (ssl : Ssl) (hash : Hash) (secret label : Bytes) (len : ℕ) :
    NoKtls (Ktls.hkdfExpandLabel hkdfExpand ssl hash secret label len) := by
  unfold Ktls.hkdfExpandLabel
  simp only
  split_ifs
  · exact noKtls_panic
  · exact noKtls_panic
  · exact noKtls_ok _
  · exact noKtls_init _

/-- So the keys of TLS 1.3 are derived, or the error is not one about kTLS. -/
theorem noKtls_tls13Keys (ssl : Ssl) (hash : Hash) (secretLen keyLen : ℕ) :
    NoKtls (Ktls.tls13Keys hkdfExpand ssl hash secretLen keyLen) := by
  apply (noKtls_tls13TrafficSecret _ _ _).bind
  intro writeSecret
  apply (noKtls_tls13TrafficSecret _ _ _).bind
  intro readSecret
  have hexpand := noKtls_hkdfExpandLabel hkdfExpand ssl hash
  exact (hexpand _ _ _).bind fun _ => (hexpand _ _ _).bind fun _ => (hexpand _ _ _).bind fun _ =>
    (hexpand _ _ _).bind fun _ => noKtls_ok _

/-- The derivation fails with `Error::Init`, which is no reason to fall back. -/
theorem noKtls_deriveCryptoInfo (ssl : Ssl) (cipher : KtlsCipher) :
    NoKtls (Ktls.deriveCryptoInfo hkdfExpand ssl cipher) := by
  cases cipher with
  | tls13Aes128Gcm =>
      exact (noKtls_tls13Keys _ _ _ _ _).bind fun _ => (noKtls_buildAesGcm128 _ _ _ _ _).bind fun _ =>
        (noKtls_buildAesGcm128 _ _ _ _ _).bind fun _ => noKtls_ok _
  | tls13Aes256Gcm =>
      exact (noKtls_tls13Keys _ _ _ _ _).bind fun _ => (noKtls_buildAesGcm256 _ _ _ _ _).bind fun _ =>
        (noKtls_buildAesGcm256 _ _ _ _ _).bind fun _ => noKtls_ok _
  | tls13Chacha20Poly1305 =>
      exact (noKtls_tls13Keys _ _ _ _ _).bind fun _ =>
        (noKtls_buildChacha20Poly1305 _ _ _ _).bind fun _ =>
          (noKtls_buildChacha20Poly1305 _ _ _ _).bind fun _ => noKtls_ok _
  | tls12Aes128Gcm =>
      exact (noKtls_tls12KeyBlock _ _).bind fun _ => (noKtls_splitTls12KeyBlock _ _ _ _).bind fun _ =>
        (noKtls_buildAesGcm128 _ _ _ _ _).bind fun _ =>
          (noKtls_buildAesGcm128 _ _ _ _ _).bind fun _ => noKtls_ok _
  | tls12Aes256Gcm =>
      exact (noKtls_tls12KeyBlock _ _).bind fun _ => (noKtls_splitTls12KeyBlock _ _ _ _).bind fun _ =>
        (noKtls_buildAesGcm256 _ _ _ _ _).bind fun _ =>
          (noKtls_buildAesGcm256 _ _ _ _ _).bind fun _ => noKtls_ok _
  | tls12Chacha20Poly1305 =>
      exact (noKtls_tls12KeyBlock _ _).bind fun _ => (noKtls_splitTls12KeyBlock _ _ _ _).bind fun _ =>
        (noKtls_buildChacha20Poly1305 _ _ _ _).bind fun _ =>
          (noKtls_buildChacha20Poly1305 _ _ _ _).bind fun _ => noKtls_ok _

end derive

/-! ## The decision -/

section decision

variable {W : Type} (hkdfExpand : Hash → Bytes → Bytes → (len : ℕ) → ℤ × Vector UInt8 len)

/-- There is something to offload: kTLS is not disabled, libssl holds no data, the kernel has this cipher,
and libssl tells the keys. -/
structure Offers (disabled : Bool) (ssl : Ssl) (cipher : KtlsCipher) : Prop where
  enabled : disabled = false
  drained : ssl.hasPending = 0
  detected : KtlsCipher.detect ssl = some cipher
  answers : Ktls.Answers hkdfExpand cipher ssl

/-- What the kernel is told about the direction in which the session receives. -/
def rxContext (cipher : KtlsCipher) (ssl : Ssl) : TlsContext :=
  Ktls.context cipher (Ktls.trafficKeys hkdfExpand cipher ssl .read) ssl.readSequence.toNat

/-- What the kernel is told about the direction in which the session sends. -/
def txContext (cipher : KtlsCipher) (ssl : Ssl) : TlsContext :=
  Ktls.context cipher (Ktls.trafficKeys hkdfExpand cipher ssl .write) ssl.writeSequence.toNat

/-- The codes with which Linux says that it has no `tls` ULP (`ENOENT`, `ENOPROTOOPT`), or that this socket
cannot take one (`EBUSY`, `EISCONN`, `ENOTCONN`). -/
def noUlpCodes : List ℤ :=
  [2, 92, 16, 106, 107]

/-- What the caller gets of a decision: an error, or a stream that is on kTLS or not. A panic gives
nothing. -/
def settled : Except Fault (Stream.World W) → Option (Except Error Bool)
  | .ok w => some (.ok w.stream.ktlsActive)
  | .error (.error e) => some (.error (.ofKtls e))
  | .error .panic => none

/-- What becomes of a finished handshake, by what the kernel returns: the state `k` of the socket, and what
the caller gets. -/
structure Decision (disabled : Bool) (ssl : Ssl) (answers : SockAnswers) (k : Offload)
    (r : Option (Except Error Bool)) : Prop where
  /-- With nothing to offload the kernel is not asked, and there is a stream on libssl. -/
  unasked : disabled = true ∨ ssl.hasPending ≠ 0 ∨ KtlsCipher.detect ssl = none →
    k = .fresh ∧ r = some (.ok false)
  /-- If the keys cannot be derived, the kernel is not asked, and the connection fails. -/
  underived : disabled = false → ssl.hasPending = 0 → ∀ cipher fault,
    KtlsCipher.detect ssl = some cipher → Ktls.deriveCryptoInfo hkdfExpand ssl cipher = .error fault →
    k = .fresh ∧ ∃ message, r = some (.error (.init message))
  /-- The kernel has no kTLS, or none for this socket: there is a stream on libssl. -/
  unavailable : ∀ cipher errno, Offers hkdfExpand disabled ssl cipher → answers.ulp = .error errno →
    errno ∈ noUlpCodes → k = ⟨false, none, none, [.ulp]⟩ ∧ r = some (.ok false)
  /-- If the ULP is refused with any other code, the connection fails, with nothing installed. -/
  unattached : ∀ cipher errno, Offers hkdfExpand disabled ssl cipher → answers.ulp = .error errno →
    errno ∉ noUlpCodes →
    k = ⟨false, none, none, [.ulp]⟩ ∧ r = some (.error (.ktls (.setSockOpt (.os errno))))
  /-- The kernel does not take the keys to receive with, whatever the code: there is a stream on libssl, and
  nothing was installed. -/
  unreceived : ∀ cipher errno, Offers hkdfExpand disabled ssl cipher → answers.ulp = .ok () →
    answers.crypto tlsRx = .error errno →
    k = ⟨true, none, none, [.ulp, .crypto tlsRx]⟩ ∧ r = some (.ok false)
  /-- If it has taken these and not those to send with, the connection fails. -/
  unsent : ∀ cipher errno, Offers hkdfExpand disabled ssl cipher → answers.ulp = .ok () →
    answers.crypto tlsRx = .ok () → answers.crypto tlsTx = .error errno →
    k = ⟨true, some (rxContext hkdfExpand cipher ssl), none, [.ulp, .crypto tlsRx, .crypto tlsTx]⟩ ∧
      r = some (.error (.ktls (.setSockOpt (.os errno))))
  /-- If it has taken everything, both directions are installed with the keys of the session, and there is a
  stream on kTLS. -/
  accepted : ∀ cipher, Offers hkdfExpand disabled ssl cipher → answers.ulp = .ok () →
    answers.crypto tlsRx = .ok () → answers.crypto tlsTx = .ok () →
    k = ⟨true, some (rxContext hkdfExpand cipher ssl), some (txContext hkdfExpand cipher ssl),
      [.ulp, .crypto tlsRx, .crypto tlsTx]⟩ ∧ r = some (.ok true)

variable {hkdfExpand} {ssl : Ssl} {answers : SockAnswers} {disabled : Bool} {net : Net W}

/-- With kTLS disabled or data in libssl there is no system call. -/
theorem establish_skipped (h : disabled = true ∨ ssl.hasPending ≠ 0) :
    Stream.establish hkdfExpand ssl answers disabled net =
      (.fresh, .ok (.established false disabled net)) := by
  unfold Stream.establish Stream.tryAutoInstallKtls
  by_cases hdis : disabled = true
  · rw [if_pos (.inr hdis)]
    rfl
  · rw [if_neg (by simp [Stream.TlsStream.fromParts, hdis]), Ktls.checkNoBufferedPlaintext,
      if_pos (h.resolve_left hdis)]
    rfl

/-- Nor is there one without a cipher that the kernel has. -/
theorem establish_ineligible (h : KtlsCipher.detect ssl = none) :
    Stream.establish hkdfExpand ssl answers disabled net =
      (.fresh, .ok (.established false disabled net)) := by
  by_cases hskip : disabled = true ∨ ssl.hasPending ≠ 0
  · exact establish_skipped hskip
  · obtain ⟨hdis, hpend⟩ := not_or.mp hskip
    unfold Stream.establish Stream.tryAutoInstallKtls
    rw [if_neg (by simp [Stream.TlsStream.fromParts, hdis]), Ktls.checkNoBufferedPlaintext, if_neg hpend]
    simp only [Ktls.installKtls, h]
    rfl

/-- The stream that follows an installation, or the error. -/
def concluded (disabled : Bool) (net : Net W) :
    Offload × Except KtlsError Unit → Offload × Except Fault (Stream.World W)
  | (k, .ok ()) => (k, .ok (.established true disabled net))
  | (k, .error e) =>
      (k, if Stream.isFallback e then .ok (.established false disabled net)
        else .error (.error (.ktls e)))

/-- With the keys at hand the installation decides. -/
theorem establish_of_derived {cipher : KtlsCipher} {info : CryptoInfo} (hdis : disabled = false)
    (hpend : ssl.hasPending = 0) (hcipher : KtlsCipher.detect ssl = some cipher)
    (hderive : Ktls.deriveCryptoInfo hkdfExpand ssl cipher = .ok info) :
    Stream.establish hkdfExpand ssl answers disabled net =
      concluded disabled net (Ktls.install answers info .fresh) := by
  unfold Stream.establish Stream.tryAutoInstallKtls
  rw [if_neg (by simp [Stream.TlsStream.fromParts, hdis]), Ktls.checkNoBufferedPlaintext,
    if_neg (not_not_intro hpend)]
  simp only [Ktls.installKtls, hcipher, hderive]
  rcases Ktls.install answers info .fresh with ⟨k, e | ⟨⟨⟩⟩⟩
  · simp only [concluded]
    split_ifs <;> rfl
  · rfl

/-- Without them the connection fails. -/
theorem establish_of_underived (answers : SockAnswers) (net : Net W) {cipher : KtlsCipher} {fault : Fault}
    (hdis : disabled = false) (hpend : ssl.hasPending = 0) (hcipher : KtlsCipher.detect ssl = some cipher)
    (hderive : Ktls.deriveCryptoInfo hkdfExpand ssl cipher = .error fault) :
    ∃ message, Stream.establish hkdfExpand ssl answers disabled net =
      (.fresh, .error (.error (.init message))) := by
  have hno := noKtls_deriveCryptoInfo hkdfExpand ssl cipher
  have hpanic := (Ktls.deriveCryptoInfo_returns hkdfExpand cipher ssl).ne_panic
  rw [hderive] at hpanic
  unfold Stream.establish Stream.tryAutoInstallKtls
  rw [if_neg (by simp [Stream.TlsStream.fromParts, hdis]), Ktls.checkNoBufferedPlaintext,
    if_neg (not_not_intro hpend)]
  simp only [Ktls.installKtls, hcipher, hderive]
  rcases fault with _ | (message | e)
  · exact absurd rfl hpanic
  · exact ⟨message, rfl⟩
  · exact absurd hderive (hno e)

/-- If there is something to offload, the installation decides, and its blocks continue the session. -/
theorem establish_of_offers (answers : SockAnswers) (net : Net W) {cipher : KtlsCipher}
    (h : Offers hkdfExpand disabled ssl cipher) :
    ∃ info, Ktls.Continues hkdfExpand cipher ssl info ∧
      Stream.establish hkdfExpand ssl answers disabled net =
        concluded disabled net (Ktls.install answers info .fresh) := by
  obtain ⟨info, hderive, hcont⟩ :=
    (Ktls.deriveCryptoInfo_returns hkdfExpand cipher ssl).exists_ok (not_not_intro h.answers)
  exact ⟨info, hcont, establish_of_derived h.enabled h.drained h.detected hderive⟩

/-- The crate falls back after these codes. -/
theorem isFallback_classifyUlpError {errno : ℤ} (h : errno ∈ noUlpCodes) :
    Stream.isFallback (Ktls.classifyUlpError (.os errno)) = true := by
  have hcodes : ∀ errno ∈ noUlpCodes,
      Stream.isFallback (Ktls.classifyUlpError (.os errno)) = true := by
    decide
  exact hcodes errno h

/-- Any other code is an error. -/
theorem classifyUlpError_of_not_mem {errno : ℤ} (h : errno ∉ noUlpCodes) :
    Ktls.classifyUlpError (.os errno) = .setSockOpt (.os errno) := by
  simp only [noUlpCodes, List.mem_cons, List.not_mem_nil, or_false, not_or] at h
  obtain ⟨hnoent, hnoprotoopt, hbusy, hisconn, hnotconn⟩ := h
  simp [Ktls.classifyUlpError, IoError.rawOsError, Ktls.enoent, Ktls.enoprotoopt, Ktls.ebusy, Ktls.eisconn,
    Ktls.enotconn, hnoent, hnoprotoopt, hbusy, hisconn, hnotconn]

/-- **The crate keeps to the table**, for every session and every outcome of the system calls. -/
theorem establish_decision (ssl : Ssl) (answers : SockAnswers) (disabled : Bool) (net : Net W) :
    Decision hkdfExpand disabled ssl answers (Stream.establish hkdfExpand ssl answers disabled net).1
      (settled (Stream.establish hkdfExpand ssl answers disabled net).2) where
  unasked h := by
    rcases h with hdis | hpend | hnone
    · rw [establish_skipped (.inl hdis)]
      exact ⟨rfl, rfl⟩
    · rw [establish_skipped (.inr hpend)]
      exact ⟨rfl, rfl⟩
    · rw [establish_ineligible hnone]
      exact ⟨rfl, rfl⟩
  underived hdis hpend cipher fault hcipher hderive := by
    obtain ⟨message, hest⟩ := establish_of_underived answers net hdis hpend hcipher hderive
    rw [hest]
    exact ⟨rfl, message, rfl⟩
  unavailable cipher errno h hulp hcode := by
    obtain ⟨info, -, hest⟩ := establish_of_offers answers net h
    have hinst : Ktls.install answers info .fresh =
        (⟨false, none, none, [.ulp]⟩, .error (Ktls.classifyUlpError (.os errno))) := by
      simp [Ktls.install, Ktls.setUlpTls, hulp, Offload.fresh]
    rw [hest, hinst, concluded, if_pos (isFallback_classifyUlpError hcode)]
    exact ⟨rfl, rfl⟩
  unattached cipher errno h hulp hcode := by
    obtain ⟨info, -, hest⟩ := establish_of_offers answers net h
    have hinst : Ktls.install answers info .fresh =
        (⟨false, none, none, [.ulp]⟩, .error (.setSockOpt (.os errno))) := by
      simp [Ktls.install, Ktls.setUlpTls, hulp, Offload.fresh, classifyUlpError_of_not_mem hcode]
    rw [hest, hinst]
    exact ⟨rfl, rfl⟩
  unreceived cipher errno h hulp hrx := by
    obtain ⟨info, -, hest⟩ := establish_of_offers answers net h
    have hinst : Ktls.install answers info .fresh =
        (⟨true, none, none, [.ulp, .crypto tlsRx]⟩, .error (.cryptoUnavailable (.os errno))) := by
      simp [Ktls.install, Ktls.setUlpTls, hulp, Ktls.installRxThenTx, Ktls.setCryptoInfo, hrx,
        Offload.fresh]
    rw [hest, hinst]
    exact ⟨rfl, rfl⟩
  unsent cipher errno h hulp hrx htx := by
    obtain ⟨info, ⟨-, hread⟩, hest⟩ := establish_of_offers answers net h
    have hinst : Ktls.install answers info .fresh =
        (⟨true, some (rxContext hkdfExpand cipher ssl), none, [.ulp, .crypto tlsRx, .crypto tlsTx]⟩,
          .error (.setSockOpt (.os errno))) := by
      simp [Ktls.install, Ktls.setUlpTls, hulp, Ktls.installRxThenTx, Ktls.setCryptoInfo, hrx, htx, hread,
        Offload.fresh, rxContext]
    rw [hest, hinst]
    exact ⟨rfl, rfl⟩
  accepted cipher h hulp hrx htx := by
    obtain ⟨info, ⟨hwrite, hread⟩, hest⟩ := establish_of_offers answers net h
    have hne : tlsTx ≠ tlsRx := by decide
    have hinst : Ktls.install answers info .fresh =
        (⟨true, some (rxContext hkdfExpand cipher ssl), some (txContext hkdfExpand cipher ssl),
          [.ulp, .crypto tlsRx, .crypto tlsTx]⟩, .ok ()) := by
      simp [Ktls.install, Ktls.setUlpTls, hulp, Ktls.installRxThenTx, Ktls.setCryptoInfo, hrx, htx, hread,
        hwrite, hne, Offload.fresh, rxContext, txContext]
    rw [hest, hinst]
    exact ⟨rfl, rfl⟩

/-! ## From what was decided back to the kernel -/

/-- How far an eligible session comes with the kernel, and whether its stream is on kTLS then: the kernel
has refused the ULP, or to receive, or it has accepted everything. -/
inductive Asked : Offload → Bool → Prop
  | noUlp : Asked ⟨false, none, none, [.ulp]⟩ false
  | noReceive : Asked ⟨true, none, none, [.ulp, .crypto tlsRx]⟩ false
  | accepted (rx tx : TlsContext) :
      Asked ⟨true, some rx, some tx, [.ulp, .crypto tlsRx, .crypto tlsTx]⟩ true

/-- The two ways in which kTLS makes a connection fail: the ULP is refused with a code that does not mean
that it is not to be had, or the keys to send with are refused. -/
inductive Breaks (errno : ℤ) : Offload → Prop
  | unattached (hcode : errno ∉ noUlpCodes) : Breaks errno ⟨false, none, none, [.ulp]⟩
  | unsent (rx : TlsContext) : Breaks errno ⟨true, some rx, none, [.ulp, .crypto tlsRx, .crypto tlsTx]⟩

/-- An eligible session whose keys cannot be derived does not reach the kernel; otherwise the installation
decides. -/
theorem establish_eligible (answers : SockAnswers) (net : Net W) (h : (KtlsCipher.detect ssl).isSome = true)
    (hskip : ¬ (disabled = true ∨ ssl.hasPending ≠ 0)) :
    (∃ message, Stream.establish hkdfExpand ssl answers disabled net =
      (.fresh, .error (.error (.init message)))) ∨
    ∃ info, Stream.establish hkdfExpand ssl answers disabled net =
      concluded disabled net (Ktls.install answers info .fresh) := by
  obtain ⟨hdis, hpend⟩ := not_or.mp hskip
  obtain ⟨cipher, hcipher⟩ := Option.isSome_iff_exists.mp h
  rcases hderive : Ktls.deriveCryptoInfo hkdfExpand ssl cipher with fault | info
  · exact .inl (establish_of_underived answers net (Bool.eq_false_iff.mpr hdis) (not_not.mp hpend) hcipher
      hderive)
  · exact .inr ⟨info, establish_of_derived (Bool.eq_false_iff.mpr hdis) (not_not.mp hpend) hcipher hderive⟩

/-- With a cipher that the kernel has, a stream is handed out only after the kernel was asked. -/
theorem establish_asks {k : Offload} {w : Stream.World W} (h : (KtlsCipher.detect ssl).isSome = true)
    (hskip : ¬ (disabled = true ∨ ssl.hasPending ≠ 0))
    (hest : Stream.establish hkdfExpand ssl answers disabled net = (k, .ok w)) :
    Asked k w.stream.ktlsActive := by
  rcases establish_eligible answers net h hskip with ⟨message, hfail⟩ | ⟨info, hdone⟩
  · rw [hfail] at hest
    cases hest
  · rw [hdone] at hest
    have hinst := Ktls.install_cases answers info
    generalize Ktls.install answers info .fresh = r at hinst hest
    cases hinst with
    | unattached errno =>
        obtain ⟨rfl, hw⟩ := Prod.mk.inj hest
        split_ifs at hw
        obtain rfl := Except.ok.inj hw
        exact .noUlp
    | inert errno =>
        cases hest
        exact .noReceive
    | half errno => cases hest
    | full =>
        cases hest
        exact .accepted _ _

/-- The only error of kTLS that is handed to the caller is one of `setsockopt`. -/
theorem establish_breaks {k : Offload} {e : KtlsError}
    (hest : Stream.establish hkdfExpand ssl answers disabled net = (k, .error (.error (.ktls e)))) :
    ∃ errno, e = .setSockOpt (.os errno) ∧ Breaks errno k := by
  by_cases hskip : disabled = true ∨ ssl.hasPending ≠ 0
  · rw [establish_skipped hskip] at hest
    cases hest
  by_cases helig : (KtlsCipher.detect ssl).isSome = true
  swap
  · rw [establish_ineligible (by simpa using helig)] at hest
    cases hest
  rcases establish_eligible answers net helig hskip with ⟨message, hfail⟩ | ⟨info, hdone⟩
  · rw [hfail] at hest
    cases hest
  · rw [hdone] at hest
    have hinst := Ktls.install_cases answers info
    generalize Ktls.install answers info .fresh = r at hinst hest
    cases hinst with
    | unattached errno =>
        by_cases hcode : errno ∈ noUlpCodes
        · rw [concluded, if_pos (isFallback_classifyUlpError hcode)] at hest
          cases hest
        · rw [classifyUlpError_of_not_mem hcode] at hest
          cases hest
          exact ⟨errno, rfl, .unattached hcode⟩
    | inert errno => cases hest
    | half errno =>
        cases hest
        exact ⟨errno, rfl, .unsent _⟩
    | full => cases hest

end decision

/-! ## In a run -/

section run

variable {Cert Key W : Type} [DecidableEq W]
variable {hkdfExpand : Hash → Bytes → Bytes → (len : ℕ) → ℤ × Vector UInt8 len}
variable {f : Future Cert Key} {lib lib' : AwsState Cert Key} {bits : ℕ} {c : Conn Cert Key W}
  {s : Socket (Handle Cert Key) (Negotiated Cert) W} {ssl : Handle Cert Key} {n : Negotiated Cert}

/-- What the caller has got: an error, or a stream that is on kTLS or not. -/
def Conn.outcome (c : Conn Cert Key W) : Option (Except Error Bool) :=
  c.result.map fun r => r.map fun e => e.world.stream.ktlsActive

/-- The socket after the decision, and what the caller gets. -/
theorem outcome_install (hkdfExpand : Hash → Bytes → Bytes → (len : ℕ) → ℤ × Vector UInt8 len)
    (disabled : Bool) (answers : SockAnswers) (ssl : Handle Cert Key)
    (hnone : c.result = none) :
    ∃ net, (c.install hkdfExpand disabled answers ssl n).1.offload =
        (Stream.establish (W := W) hkdfExpand n.ssl answers disabled net).1 ∧
      (c.install hkdfExpand disabled answers ssl n).1.outcome =
        settled (Stream.establish hkdfExpand n.ssl answers disabled net).2 := by
  refine ⟨.fresh c.socket.ready fun _ => none, ?_⟩
  unfold Conn.install
  rcases Stream.establish hkdfExpand n.ssl answers disabled (.fresh c.socket.ready fun _ => none) with
    ⟨k, (_ | e) | w⟩
  · refine ⟨rfl, ?_⟩
    simp [Conn.fail, Conn.outcome, settled, hnone]
  · exact ⟨rfl, rfl⟩
  · exact ⟨rfl, rfl⟩

/-- While the driver is not done, libssl has not finished the handshake. -/
theorem Steady.not_done {q : Drive} {r : Option (Except Error (Negotiated Cert))} (hq : q ≠ .finished)
    (h : Steady ssl bits ⟨q, s, r⟩) (ssl' : Handle Cert Key) (n : Negotiated Cert) :
    (calls s.trace).getLast? ≠ some (.doHandshake ssl' (.done n)) := by
  intro hlast
  have hwants : ∀ c ∈ calls s.trace, c.Wants ssl := by
    cases q with
    | calling => exact h.sane.shape
    | waiting d => exact h.sane.shape.1
    | finished => exact absurd rfl hq
  obtain ⟨d, m, diag, heq⟩ := hwants _ (List.mem_of_getLast? hlast)
  cases heq

/-- If libssl finishes the handshake in a poll, the rest of the poll is the decision. -/
theorem decision_of_resume {q : Drive} (h : Steady ssl bits ⟨q, s, none⟩) (cx : W) (turn : Turn Cert)
    (phase : Phase Cert Key) (disabled : Bool) {ssl' : Handle Cert Key}
    (hlast : (calls ((Conn.mk phase lib' (s.begin cx) .fresh none).resume hkdfExpand disabled cx turn ssl
      q).1.socket.trace).getLast? = some (.doHandshake ssl' (.done n))) :
    Decision hkdfExpand disabled n.ssl turn.sockopts
      ((Conn.mk phase lib' (s.begin cx) .fresh none).resume hkdfExpand disabled cx turn ssl q).1.offload
      ((Conn.mk phase lib' (s.begin cx) .fresh none).resume hkdfExpand disabled cx turn ssl q).1.outcome := by
  have hq : q ≠ .finished := h.reported.live rfl
  have hruns := drive_spec ssl cx turn.script hq (s.begin cx)
  have hnote := Runs.steady h hq hruns
  have hends := hruns.2
  unfold Conn.resume at hlast ⊢
  simp only at hlast ⊢
  generalize drive ssl cx turn.script q (s.begin cx) = o at hnote hends hlast
  cases hends with
  | @ok s' a _ =>
      simp only at hlast ⊢
      have hsame : (Conn.install hkdfExpand (Conn.mk phase lib' s' .fresh none) disabled turn.sockopts ssl
          a).1.socket = s' := by
        unfold Conn.install
        rcases Stream.establish hkdfExpand a.ssl turn.sockopts disabled _ with ⟨k, (_ | e) | w⟩ <;> rfl
      rw [hsame, Steady.last_of_ok hnote] at hlast
      obtain ⟨-, hn⟩ := Call.doHandshake.inj (Option.some.inj hlast)
      obtain rfl := SslAnswer.done.inj hn
      obtain ⟨net, hk, hr⟩ := outcome_install (n := a)
        (c := Conn.mk phase lib' s' .fresh none) hkdfExpand disabled turn.sockopts ssl rfl
      rw [hk, hr]
      exact establish_decision a.ssl turn.sockopts disabled net
  | failed hcode hcall =>
      obtain ⟨t, ht⟩ := hcall
      simp [Conn.finish, ht, calls] at hlast
  | gone hcall =>
      obtain ⟨t, ht⟩ := hcall
      simp [Conn.finish, ht, calls] at hlast
  | pending => exact absurd hlast (Steady.not_done (by simp) hnote ssl' n)
  | running => exact absurd hlast (Steady.not_done (by simp) hnote ssl' n)

/-- **The poll in which libssl finishes the handshake decides**, from every state of a run. -/
theorem Attempt.decision (h : Attempt hkdfExpand f lib bits c) (hnone : c.result = none) (cx : W)
    (turn : Turn Cert) {ssl : Handle Cert Key} {n : Negotiated Cert}
    (hlast : (calls (c.poll hkdfExpand f cx turn).1.socket.trace).getLast? =
      some (.doHandshake ssl (.done n))) :
    Decision hkdfExpand f.ktlsDisabled n.ssl turn.sockopts (c.poll hkdfExpand f cx turn).1.offload
      (c.poll hkdfExpand f cx turn).1.outcome := by
  cases h with
  | @start s hcalls h =>
      simp only [Conn.poll] at hlast ⊢
      rcases hrun : f.prepare.run lib with ⟨ssl', lib'⟩ | ⟨fault, lib'⟩
      · rw [hrun] at hlast
        exact decision_of_resume (h ssl') cx turn .start f.ktlsDisabled hlast
      · obtain ⟨message, rfl⟩ := f.fails lib fault lib' hrun
        rw [hrun] at hlast
        have hno : calls (s.begin cx).trace = [] := (calls_begin s cx).trans hcalls
        simp [Conn.fail, initFault, Conn.finish, hno] at hlast
  | refused => cases hnone
  | driving hprep h => exact decision_of_resume h cx turn _ f.ktlsDisabled hlast
  | failed => cases hnone
  | rejected => cases hnone
  | established => cases hnone

end run

end TokioAwsLc.Handshake
