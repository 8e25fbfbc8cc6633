import TokioAwsLc.Ktls.Derive

/-!
# Installing kTLS on a socket

The kernel side of `install_ktls` on Linux: attach the `tls` ULP, then install the receive block, then
the transmit block.

* `TlsContext` is what the kernel keeps of an installed block. `Offload` is the state of the socket: a
  direction is active iff its `setsockopt` succeeded.
* `SockAnswers` are the outcomes of the three `setsockopt` calls, any error code included.
* `install` is `linux::install`, and `install_cases` its one inversion lemma: four ways to end, each
  with the state it leaves the socket in.
-/

namespace TokioAwsLc.Ktls

/-! ## The socket -/

/-- What the kernel keeps of the block installed for one direction. -/
structure TlsContext where
  version : UInt16
  cipherType : UInt16
  key : Bytes
  salt : Bytes
  iv : Bytes
  recSeq : Bytes
  deriving DecidableEq, Repr

/-- What the kernel copies out of a block. -/
def Tls12CryptoInfoAesGcm128.context (b : Tls12CryptoInfoAesGcm128) : TlsContext :=
  ⟨b.info.version, b.info.cipherType, b.key.toList, b.salt.toList, b.iv.toList, b.recSeq.toList⟩

@[inherit_doc Tls12CryptoInfoAesGcm128.context]
def Tls12CryptoInfoAesGcm256.context (b : Tls12CryptoInfoAesGcm256) : TlsContext :=
  ⟨b.info.version, b.info.cipherType, b.key.toList, b.salt.toList, b.iv.toList, b.recSeq.toList⟩

@[inherit_doc Tls12CryptoInfoAesGcm128.context]
def Tls12CryptoInfoChacha20Poly1305.context (b : Tls12CryptoInfoChacha20Poly1305) : TlsContext :=
  ⟨b.info.version, b.info.cipherType, b.key.toList, b.salt.toList, b.iv.toList, b.recSeq.toList⟩

/-- Source: `src/ktls/crypto_info.rs` `TLS_TX` -/
def tlsTx : ℤ := 1
/-- Source: `src/ktls/crypto_info.rs` `TLS_RX` -/
def tlsRx : ℤ := 2

/-- The context of the block that is passed for a direction.
Source: `src/ktls/mod.rs` `linux::install` -/
def CryptoInfo.context (info : CryptoInfo) (direction : ℤ) : TlsContext :=
  match info with
  | .aesGcm128 tx rx => if direction = tlsRx then rx.context else tx.context
  | .aesGcm256 tx rx => if direction = tlsRx then rx.context else tx.context
  | .chacha20Poly1305 tx rx => if direction = tlsRx then rx.context else tx.context

/-- One `setsockopt` call. -/
inductive SockOpt
  | ulp
  | crypto (direction : ℤ)
  deriving DecidableEq, Repr

/-- The TLS state of a socket. -/
structure Offload where
  /-- The `tls` ULP is attached. -/
  attached : Bool
  /-- The active receive context. -/
  rx : Option TlsContext
  /-- The active transmit context. -/
  tx : Option TlsContext
  /-- The calls made so far. -/
  attempts : List SockOpt
  deriving DecidableEq, Repr

/-- A plain TCP socket. -/
def Offload.fresh : Offload :=
  ⟨false, none, none, []⟩

/-- The outcomes of the `setsockopt` calls: success, or an error code. -/
structure SockAnswers where
  ulp : Except ℤ Unit
  crypto : ℤ → Except ℤ Unit

/-- Source: `src/ktls/mod.rs` `linux::set_ulp_tls` -/
def setUlpTls (answers : SockAnswers) (k : Offload) : Offload × IoResult Unit :=
  let k := { k with attempts := k.attempts ++ [.ulp] }
  match answers.ulp with
  | .ok () => ({ k with attached := true }, .ok ())
  | .error errno => (k, .error (.os errno))

/-- Source: `src/ktls/mod.rs` `linux::set_crypto_info` -/
def setCryptoInfo (answers : SockAnswers) (direction : ℤ) (context : TlsContext) (k : Offload) :
    Offload × IoResult Unit :=
  let k := { k with attempts := k.attempts ++ [.crypto direction] }
  match answers.crypto direction with
  | .ok () =>
      (if direction = tlsRx then { k with rx := some context } else { k with tx := some context },
        .ok ())
  | .error errno => (k, .error (.os errno))

/-! ## The installation -/

/-- Linux `ENOENT`, `EBUSY`, `ENOPROTOOPT`, `EISCONN` and `ENOTCONN`. -/
def enoent : ℤ := 2
@[inherit_doc enoent]
def ebusy : ℤ := 16
@[inherit_doc enoent]
def enoprotoopt : ℤ := 92
@[inherit_doc enoent]
def eisconn : ℤ := 106
@[inherit_doc enoent]
def enotconn : ℤ := 107

/-- Source: `src/ktls/mod.rs` `linux::classify_ulp_error` -/
def classifyUlpError (e : IoError) : KtlsError :=
  match e.rawOsError with
  | some errno =>
      if errno = enoent ∨ errno = enoprotoopt then .tlsUlpUnavailable e
      else if errno = enotconn ∨ errno = eisconn ∨ errno = ebusy then .socketUnattachable e
      else .setSockOpt e
  | none => .setSockOpt e

/-- Source: `src/ktls/mod.rs` `linux::install_rx_then_tx` -/
def installRxThenTx (setDirection : ℤ → Offload → Offload × IoResult Unit) (k : Offload) :
    Offload × Except KtlsError Unit :=
  match setDirection tlsRx k with
  | (k, .error e) => (k, .error (.cryptoUnavailable e))
  | (k, .ok ()) =>
      match setDirection tlsTx k with
      | (k, .error e) => (k, .error (.setSockOpt e))
      | (k, .ok ()) => (k, .ok ())

/-- Source: `src/ktls/mod.rs` `linux::install` -/
def install (answers : SockAnswers) (info : CryptoInfo) (k : Offload) :
    Offload × Except KtlsError Unit :=
  match setUlpTls answers k with
  | (k, .error e) => (k, .error (classifyUlpError e))
  | (k, .ok ()) =>
      installRxThenTx (fun direction => setCryptoInfo answers direction (info.context direction)) k

/-- How an installation on a fresh socket ends. -/
inductive Installed (info : CryptoInfo) : Offload × Except KtlsError Unit → Prop
  | unattached (errno : ℤ) :
      Installed info (⟨false, none, none, [.ulp]⟩, .error (classifyUlpError (.os errno)))
  | inert (errno : ℤ) :
      Installed info (⟨true, none, none, [.ulp, .crypto tlsRx]⟩,
        .error (.cryptoUnavailable (.os errno)))
  | half (errno : ℤ) :
      Installed info (⟨true, some (info.context tlsRx), none,
        [.ulp, .crypto tlsRx, .crypto tlsTx]⟩, .error (.setSockOpt (.os errno)))
  | full :
      Installed info (⟨true, some (info.context tlsRx), some (info.context tlsTx),
        [.ulp, .crypto tlsRx, .crypto tlsTx]⟩, .ok ())

/-- **Inversion of `install`.** -/
theorem install_cases (answers : SockAnswers) (info : CryptoInfo) :
    Installed info (install answers info .fresh) := by
  have htx : tlsTx ≠ tlsRx := by decide
  unfold install setUlpTls
  rcases answers.ulp with errno | ⟨⟩
  · exact .unattached errno
  · simp only [installRxThenTx, setCryptoInfo, if_true, if_neg htx]
    rcases answers.crypto tlsRx with errno | ⟨⟩
    · exact .inert errno
    · simp only
      rcases answers.crypto tlsTx with errno | ⟨⟩
      · exact .half errno
      · exact .full

/-- Nothing refused: both directions are active. -/
theorem install_full (info : CryptoInfo) :
    install ⟨.ok (), fun _ => .ok ()⟩ info .fresh =
      (⟨true, some (info.context tlsRx), some (info.context tlsTx),
        [.ulp, .crypto tlsRx, .crypto tlsTx]⟩, .ok ()) :=
  rfl

/-! ## The whole of `install_ktls` -/

section

variable (hkdfExpand : Hash → Bytes → Bytes → (len : ℕ) → ℤ × Vector UInt8 len)

/-- The negotiated version and cipher name, for the error text.
Source: `src/session.rs` `KtlsEligibility::from_ssl` -/
def ineligible (ssl : Ssl) : KtlsError :=
  .ineligibleCipher (ssl.versionName.getD "(unknown)")
    (if ssl.cipherId.isNone then "" else ssl.cipherName.getD "")

/-- Source: `src/ktls/mod.rs` `install_ktls`, on Linux -/
def installKtls (ssl : Ssl) (answers : SockAnswers) (k : Offload) : Offload × Except Fault Unit :=
  match KtlsCipher.detect ssl with
  | none => (k, .error (.error (.ktls (ineligible ssl))))
  | some cipher =>
      match deriveCryptoInfo hkdfExpand ssl cipher with
      | .error fault => (k, .error fault)
      | .ok info =>
          match install answers info k with
          | (k, .error e) => (k, .error (.error (.ktls e)))
          | (k, .ok ()) => (k, .ok ())

/-- Source: `src/ktls/mod.rs` `check_no_buffered_plaintext` -/
def checkNoBufferedPlaintext (ssl : Ssl) : Except Error Unit :=
  if ssl.hasPending ≠ 0 then .error (.ktls (.bufferedPlaintext (max ssl.pending 0).toNat))
  else .ok ()

end

end TokioAwsLc.Ktls
