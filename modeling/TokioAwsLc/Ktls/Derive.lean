import TokioAwsLc.Io.Error
import TokioAwsLc.Lib.BigEndian

/-!
# Deriving the kernel's key blocks

What `install_ktls` does before it touches the socket: identify the cipher, read the traffic secrets
or the key block of the session out of libssl, and lay keys, IVs and counters out as the kernel's
`tls12_crypto_info_*` structures.

* `Error`, `KtlsError`: the crate's errors, as far as the kTLS path returns them. `Fault` adds the
  panics of `copy_from_slice`, `split_at`, `assert!` and `expect`.
* `Ssl` is what libssl answers about a finished session. `HKDF_expand` is a function of its arguments
  and a parameter of the whole development.
* `deriveCryptoInfo` is the derivation, arm by arm as in the source.
* `Returns F x P`: `x` does not panic, returns an error only if `F`, and a value only with `P`. Its rules
  follow the `do` blocks, and each function has one lemma of this form.
-/

namespace TokioAwsLc.Ktls

open Lib (beBytes)

/-! ## Errors -/

/-- Source: `src/error.rs` `KtlsError` -/
inductive KtlsError
  | unsupported
  | ineligibleCipher (tlsVersion cipher : String)
  | bufferedPlaintext (n : ℕ)
  | tlsUlpUnavailable (e : IoError)
  | socketUnattachable (e : IoError)
  | cryptoUnavailable (e : IoError)
  | setSockOpt (e : IoError)
  deriving DecidableEq, Repr

/-- Source: `src/error.rs` `Error` -/
inductive Error
  | init (message : String)
  | ktls (e : KtlsError)
  deriving DecidableEq, Repr

/-- Why a function of this module does not return a value. -/
inductive Fault
  | panic
  | error (e : Error)
  deriving DecidableEq, Repr

/-- `x` does not panic; it returns an error only where `mayFail`, and otherwise a value with `P`. -/
def Returns {α : Type} (mayFail : Prop) (x : Except Fault α) (P : α → Prop) : Prop :=
  match x with
  | .ok a => P a
  | .error (.error _) => mayFail
  | .error .panic => False

section returns

variable {α β : Type} {F G : Prop} {x : Except Fault α} {P Q : α → Prop}

/-- A value that is as required. -/
theorem returns_pure {a : α} (h : P a) : Returns F (pure a) P := h

/-- **Sequence rule.** -/
theorem Returns.bind {f : α → Except Fault β} {R : β → Prop} (hx : Returns F x P)
    (hf : ∀ a, P a → Returns F (f a) R) : Returns F (x >>= f) R := by
  rcases x with (_ | e) | a
  · exact hx.elim
  · exact hx
  · exact hf a hx

/-- More may fail, and less is said of the value. -/
theorem Returns.mono (hx : Returns F x P) (hF : F → G) (hP : ∀ a, P a → Q a) : Returns G x Q := by
  rcases x with (_ | e) | a
  · exact hx.elim
  · exact hF hx
  · exact hP a hx

/-- A function that returns does not panic. -/
theorem Returns.ne_panic (hx : Returns F x P) : x ≠ .error .panic := by
  rintro rfl
  exact hx

/-- Where nothing may fail, there is a value. -/
theorem Returns.exists_ok (hx : Returns F x P) (hF : ¬ F) : ∃ a, x = .ok a ∧ P a := by
  rcases x with (_ | e) | a
  · exact hx.elim
  · exact absurd hx hF
  · exact ⟨a, rfl, hx⟩

end returns

/-! ## Ciphers -/

/-- Source: `src/ktls/cipher.rs` `KtlsCipher` -/
inductive KtlsCipher
  | tls13Aes128Gcm
  | tls13Aes256Gcm
  | tls13Chacha20Poly1305
  | tls12Aes128Gcm
  | tls12Aes256Gcm
  | tls12Chacha20Poly1305
  deriving DecidableEq, Repr

/-- Source: `src/ktls/crypto_info.rs` `TLS_1_2_VERSION` -/
def tls12Version : UInt16 := 0x0303
/-- Source: `src/ktls/crypto_info.rs` `TLS_1_3_VERSION` -/
def tls13Version : UInt16 := 0x0304
/-- Source: `src/ktls/crypto_info.rs` `TLS_CIPHER_AES_GCM_128` -/
def tlsCipherAesGcm128 : UInt16 := 51
/-- Source: `src/ktls/crypto_info.rs` `TLS_CIPHER_AES_GCM_256` -/
def tlsCipherAesGcm256 : UInt16 := 52
/-- Source: `src/ktls/crypto_info.rs` `TLS_CIPHER_CHACHA20_POLY1305` -/
def tlsCipherChacha20Poly1305 : UInt16 := 54

/-- Source: `src/ktls/cipher.rs` `KtlsCipher::from_ids` -/
def KtlsCipher.fromIds (tlsVersion : ℤ) (cipherId : UInt16) : Option KtlsCipher :=
  if tlsVersion = 0x0304 then
    if cipherId = 0x1301 then some .tls13Aes128Gcm
    else if cipherId = 0x1302 then some .tls13Aes256Gcm
    else if cipherId = 0x1303 then some .tls13Chacha20Poly1305
    else none
  else if tlsVersion = 0x0303 then
    if cipherId = 0xC02B ∨ cipherId = 0xC02F then some .tls12Aes128Gcm
    else if cipherId = 0xC02C ∨ cipherId = 0xC030 then some .tls12Aes256Gcm
    else if cipherId = 0xCCA9 ∨ cipherId = 0xCCA8 then some .tls12Chacha20Poly1305
    else none
  else none

/-! ## The session -/

/-- Source: `src/ktls/derive.rs` `Hash` -/
inductive Hash
  | sha256
  | sha384
  deriving DecidableEq, Repr

/-- Source: `src/ktls/derive.rs` `Direction` -/
inductive Direction
  | write
  | read
  deriving DecidableEq, Repr

/-- `{dir:?}`. -/
def Direction.debug : Direction → String
  | .write => "Write"
  | .read => "Read"

/-- The answer of `SSL_get_write_traffic_secret` or `SSL_get_read_traffic_secret`: the return code,
the 48-byte buffer, and the length it was set to. -/
structure SecretAnswer where
  rc : ℤ
  buf : Vector UInt8 48
  got : ℕ
  deriving DecidableEq, Repr

/-- What libssl answers about a finished session.
Source: `src/ffi.rs` `Ssl` -/
structure Ssl where
  /-- `SSL_version`. -/
  version : ℤ
  /-- `SSL_get_current_cipher` and `SSL_CIPHER_get_protocol_id`. -/
  cipherId : Option UInt16
  /-- `SSL_get_version`. -/
  versionName : Option String
  /-- `SSL_CIPHER_get_name`. -/
  cipherName : Option String
  /-- `SSL_is_server`. -/
  isServer : Bool
  /-- `SSL_get_write_sequence`. -/
  writeSequence : UInt64
  /-- `SSL_get_read_sequence`. -/
  readSequence : UInt64
  writeTrafficSecret : SecretAnswer
  readTrafficSecret : SecretAnswer
  /-- `SSL_generate_key_block`: the return code and the filled buffer. -/
  generateKeyBlock : (len : ℕ) → ℤ × Vector UInt8 len
  /-- `SSL_has_pending`. -/
  hasPending : ℤ
  /-- `SSL_pending`. -/
  pending : ℤ
  /-- The text of `last_error()` after a failed call. -/
  lastError : String

/-- Source: `src/ktls/cipher.rs` `KtlsCipher::detect` -/
def KtlsCipher.detect (ssl : Ssl) : Option KtlsCipher :=
  match ssl.cipherId with
  | none => none
  | some id => fromIds ssl.version id

/-- Source: `src/ktls/derive.rs` `sequences` -/
def sequences (ssl : Ssl) : UInt64 × UInt64 :=
  (ssl.writeSequence, ssl.readSequence)

/-- The answer for a direction. -/
def Ssl.trafficSecret (ssl : Ssl) : Direction → SecretAnswer
  | .write => ssl.writeTrafficSecret
  | .read => ssl.readTrafficSecret

/-- Source: `src/ktls/derive.rs` `tls13_traffic_secret` -/
def tls13TrafficSecret (ssl : Ssl) (dir : Direction) (expectedLen : ℕ) : Except Fault Bytes :=
  let rc := (ssl.trafficSecret dir).rc
  let got := (ssl.trafficSecret dir).got
  if rc ≠ 1 ∨ got ≠ expectedLen then
    let name := dir.debug
    .error (.error (.init
      s!"SSL_get_{name}_traffic_secret: rc={rc} len={got} want={expectedLen}"))
  else .ok ((ssl.trafficSecret dir).buf.toList.take got)

/-- The secret libssl holds for a direction. -/
def Ssl.secret (ssl : Ssl) (dir : Direction) : Bytes :=
  (ssl.trafficSecret dir).buf.toList.take (ssl.trafficSecret dir).got

/-- The traffic secret of a direction is returned unless libssl refuses it or has one of another length. -/
theorem tls13TrafficSecret_returns (ssl : Ssl) (dir : Direction) (expectedLen : ℕ) :
    Returns (¬ ((ssl.trafficSecret dir).rc = 1 ∧ (ssl.trafficSecret dir).got = expectedLen))
      (tls13TrafficSecret ssl dir expectedLen) (fun secret => secret = ssl.secret dir) := by
  unfold tls13TrafficSecret
  simp only
  split_ifs with h
  · show ¬ _
    rwa [not_and_or]
  · exact rfl

/-- Source: `src/ktls/derive.rs` `tls12_key_block` -/
def tls12KeyBlock (ssl : Ssl) (len : ℕ) : Except Fault Bytes :=
  let rc := (ssl.generateKeyBlock len).1
  if rc ≠ 1 then
    let text := ssl.lastError
    .error (.error (.init s!"SSL_generate_key_block: rc={rc} {text}"))
  else .ok (ssl.generateKeyBlock len).2.toList

/-- The key block is returned unless libssl refuses it. -/
theorem tls12KeyBlock_returns (ssl : Ssl) (len : ℕ) :
    Returns (¬ (ssl.generateKeyBlock len).1 = 1) (tls12KeyBlock ssl len)
      (fun block => block = (ssl.generateKeyBlock len).2.toList) := by
  unfold tls12KeyBlock
  simp only
  split_ifs with h
  · exact h
  · exact rfl

/-- The bytes of an ASCII literal. -/
def ascii (s : String) : Bytes :=
  s.toList.map fun c => UInt8.ofNat c.toNat

section

variable (hkdfExpand : Hash → Bytes → Bytes → (len : ℕ) → ℤ × Vector UInt8 len)

/-- Source: `src/ktls/derive.rs` `hkdf_expand_label` -/
def hkdfExpandLabel (ssl : Ssl) (hash : Hash) (secret label : Bytes) (len : ℕ) :
    Except Fault Bytes :=
  let fullLabelLen := (ascii "tls13 ").length + label.length
  if 255 < fullLabelLen then .error .panic
  else if 2 ^ 16 ≤ len then .error .panic
  else
    let info := beBytes 2 len ++ [UInt8.ofNat fullLabelLen] ++ ascii "tls13 " ++ label ++ [0]
    let rc := (hkdfExpand hash secret info len).1
    if rc = 1 then .ok (hkdfExpand hash secret info len).2.toList
    else
      let text := ssl.lastError
      .error (.error (.init s!"HKDF_expand: rc={rc} {text}"))

/-- The `HkdfLabel` structure of the TLS 1.3 key schedule, with its two length-prefixed vectors. -/
def hkdfLabel (label context : Bytes) (len : ℕ) : Bytes :=
  let name := ascii "tls13 " ++ label
  beBytes 2 len ++ (UInt8.ofNat name.length :: name) ++ (UInt8.ofNat context.length :: context)

/-- The expansion with an empty context. -/
def expandLabel (hash : Hash) (secret label : Bytes) (len : ℕ) : ℤ × Vector UInt8 len :=
  hkdfExpand hash secret (hkdfLabel label [] len) len

/-- HKDF-Expand-Label is computed as RFC 8446 has it, unless the primitive fails; label and length fit their
fields. -/
theorem hkdfExpandLabel_returns (ssl : Ssl) (hash : Hash) (secret label : Bytes) (len : ℕ)
    (hlabel : label.length ≤ 249) (hlen : len < 2 ^ 16) :
    Returns (¬ (expandLabel hkdfExpand hash secret label len).1 = 1)
      (hkdfExpandLabel hkdfExpand ssl hash secret label len)
      (fun out => out = (expandLabel hkdfExpand hash secret label len).2.toList) := by
  have hsix : (ascii "tls13 ").length = 6 := rfl
  have hinfo : beBytes 2 len ++ [UInt8.ofNat ((ascii "tls13 ").length + label.length)] ++
      ascii "tls13 " ++ label ++ [0] = hkdfLabel label [] len := by
    simp [hkdfLabel]
  unfold hkdfExpandLabel
  simp only [hinfo]
  rw [if_neg (by omega), if_neg (by omega)]
  split_ifs with h
  · exact rfl
  · exact h

/-! ## Slices -/

/-- `dst.copy_from_slice(src)` into an array of `n` bytes. -/
def copyFromSlice (n : ℕ) (src : Bytes) : Except Fault (Vector UInt8 n) :=
  if h : src.length = n then .ok ⟨src.toArray, by simpa using h⟩ else .error .panic

/-- A copy of the right length does not panic. -/
theorem copyFromSlice_returns {n : ℕ} {src : Bytes} (h : src.length = n) :
    Returns False (copyFromSlice n src) (fun v => v.toList = src) := by
  unfold copyFromSlice
  rw [dif_pos h]
  exact rfl

/-- `src.split_at(mid)`. -/
def splitAt (src : Bytes) (mid : ℕ) : Except Fault (Bytes × Bytes) :=
  if mid ≤ src.length then .ok (src.take mid, src.drop mid) else .error .panic

/-- A split within the slice does not panic. -/
theorem splitAt_returns {src : Bytes} {mid : ℕ} (h : mid ≤ src.length) :
    Returns False (splitAt src mid) (fun p => p = (src.take mid, src.drop mid)) := by
  unfold splitAt
  rw [if_pos h]
  exact rfl

/-- The result is `(write_key, write_iv, read_key, read_iv)`.
Source: `src/ktls/derive.rs` `split_tls12_key_block` -/
def splitTls12KeyBlock (block : Bytes) (keyLen ivLen : ℕ) (isServer : Bool) :
    Except Fault (Bytes × Bytes × Bytes × Bytes) := do
  if block.length ≠ 2 * (keyLen + ivLen) then .error .panic
  let (clientKey, rest) ← splitAt block keyLen
  let (serverKey, rest) ← splitAt rest keyLen
  let (clientIv, serverIv) ← splitAt rest ivLen
  if isServer then return (serverKey, serverIv, clientKey, clientIv)
  else return (clientKey, clientIv, serverKey, serverIv)

/-! ## The kernel's structures -/

/-- Source: `src/ktls/crypto_info.rs` `tls_crypto_info` -/
structure TlsCryptoInfo where
  version : UInt16
  cipherType : UInt16
  deriving DecidableEq, Repr

/-- Source: `src/ktls/crypto_info.rs` `tls12_crypto_info_aes_gcm_128` -/
structure Tls12CryptoInfoAesGcm128 where
  info : TlsCryptoInfo
  iv : Vector UInt8 8
  key : Vector UInt8 16
  salt : Vector UInt8 4
  recSeq : Vector UInt8 8
  deriving DecidableEq, Repr

/-- Source: `src/ktls/crypto_info.rs` `tls12_crypto_info_aes_gcm_256` -/
structure Tls12CryptoInfoAesGcm256 where
  info : TlsCryptoInfo
  iv : Vector UInt8 8
  key : Vector UInt8 32
  salt : Vector UInt8 4
  recSeq : Vector UInt8 8
  deriving DecidableEq, Repr

/-- Source: `src/ktls/crypto_info.rs` `tls12_crypto_info_chacha20_poly1305` -/
structure Tls12CryptoInfoChacha20Poly1305 where
  info : TlsCryptoInfo
  iv : Vector UInt8 12
  key : Vector UInt8 32
  salt : Vector UInt8 0
  recSeq : Vector UInt8 8
  deriving DecidableEq, Repr

/-- `u64::to_be_bytes`. -/
def toBeBytes (n : UInt64) : Vector UInt8 8 :=
  ⟨(beBytes 8 n.toNat).toArray, by simp⟩

/-- Source: `src/ktls/mod.rs` `build_aes_gcm_128` -/
def buildAesGcm128 (version : UInt16) (key salt iv : Bytes) (recSeq : UInt64) :
    Except Fault Tls12CryptoInfoAesGcm128 := do
  let key ← copyFromSlice 16 key
  let salt ← copyFromSlice 4 salt
  let iv ← copyFromSlice 8 iv
  return ⟨⟨version, tlsCipherAesGcm128⟩, iv, key, salt, toBeBytes recSeq⟩

/-- Source: `src/ktls/mod.rs` `build_aes_gcm_256` -/
def buildAesGcm256 (version : UInt16) (key salt iv : Bytes) (recSeq : UInt64) :
    Except Fault Tls12CryptoInfoAesGcm256 := do
  let key ← copyFromSlice 32 key
  let salt ← copyFromSlice 4 salt
  let iv ← copyFromSlice 8 iv
  return ⟨⟨version, tlsCipherAesGcm256⟩, iv, key, salt, toBeBytes recSeq⟩

/-- Source: `src/ktls/mod.rs` `build_chacha20_poly1305` -/
def buildChacha20Poly1305 (version : UInt16) (key iv : Bytes) (recSeq : UInt64) :
    Except Fault Tls12CryptoInfoChacha20Poly1305 := do
  let key ← copyFromSlice 32 key
  let iv ← copyFromSlice 12 iv
  return ⟨⟨version, tlsCipherChacha20Poly1305⟩, iv, key, #v[], toBeBytes recSeq⟩

/-- Source: `src/ktls/mod.rs` `CryptoInfo` -/
inductive CryptoInfo
  | aesGcm128 (tx rx : Tls12CryptoInfoAesGcm128)
  | aesGcm256 (tx rx : Tls12CryptoInfoAesGcm256)
  | chacha20Poly1305 (tx rx : Tls12CryptoInfoChacha20Poly1305)
  deriving DecidableEq, Repr

/-! ## The derivation -/

/-- The four expansions of the TLS 1.3 arms: write key, write IV, read key, read IV. -/
def tls13Keys (ssl : Ssl) (hash : Hash) (secretLen keyLen : ℕ) :
    Except Fault (Bytes × Bytes × Bytes × Bytes) := do
  let writeSecret ← tls13TrafficSecret ssl .write secretLen
  let readSecret ← tls13TrafficSecret ssl .read secretLen
  let wk ← hkdfExpandLabel hkdfExpand ssl hash writeSecret (ascii "key") keyLen
  let wi ← hkdfExpandLabel hkdfExpand ssl hash writeSecret (ascii "iv") 12
  let rk ← hkdfExpandLabel hkdfExpand ssl hash readSecret (ascii "key") keyLen
  let ri ← hkdfExpandLabel hkdfExpand ssl hash readSecret (ascii "iv") 12
  return (wk, wi, rk, ri)

/-- Source: `src/ktls/mod.rs` `derive_crypto_info` -/
def deriveCryptoInfo (ssl : Ssl) (cipher : KtlsCipher) : Except Fault CryptoInfo := do
  let (writeSeq, readSeq) := sequences ssl
  match cipher with
  | .tls13Aes128Gcm =>
      let (wk, wi, rk, ri) ← tls13Keys hkdfExpand ssl .sha256 32 16
      let tx ← buildAesGcm128 tls13Version wk (wi.take 4) (wi.drop 4) writeSeq
      let rx ← buildAesGcm128 tls13Version rk (ri.take 4) (ri.drop 4) readSeq
      return .aesGcm128 tx rx
  | .tls13Aes256Gcm =>
      let (wk, wi, rk, ri) ← tls13Keys hkdfExpand ssl .sha384 48 32
      let tx ← buildAesGcm256 tls13Version wk (wi.take 4) (wi.drop 4) writeSeq
      let rx ← buildAesGcm256 tls13Version rk (ri.take 4) (ri.drop 4) readSeq
      return .aesGcm256 tx rx
  | .tls13Chacha20Poly1305 =>
      let (wk, wi, rk, ri) ← tls13Keys hkdfExpand ssl .sha256 32 32
      let tx ← buildChacha20Poly1305 tls13Version wk wi writeSeq
      let rx ← buildChacha20Poly1305 tls13Version rk ri readSeq
      return .chacha20Poly1305 tx rx
  | .tls12Aes128Gcm =>
      let block ← tls12KeyBlock ssl 40
      let (wk, ws, rk, rs) ← splitTls12KeyBlock block 16 4 ssl.isServer
      let tx ← buildAesGcm128 tls12Version wk ws (toBeBytes writeSeq).toList writeSeq
      let rx ← buildAesGcm128 tls12Version rk rs (toBeBytes readSeq).toList readSeq
      return .aesGcm128 tx rx
  | .tls12Aes256Gcm =>
      let block ← tls12KeyBlock ssl 72
      let (wk, ws, rk, rs) ← splitTls12KeyBlock block 32 4 ssl.isServer
      let tx ← buildAesGcm256 tls12Version wk ws (toBeBytes writeSeq).toList writeSeq
      let rx ← buildAesGcm256 tls12Version rk rs (toBeBytes readSeq).toList readSeq
      return .aesGcm256 tx rx
  | .tls12Chacha20Poly1305 =>
      let block ← tls12KeyBlock ssl 88
      let (wk, wi, rk, ri) ← splitTls12KeyBlock block 32 12 ssl.isServer
      let tx ← buildChacha20Poly1305 tls12Version wk wi writeSeq
      let rx ← buildChacha20Poly1305 tls12Version rk ri readSeq
      return .chacha20Poly1305 tx rx

end

end TokioAwsLc.Ktls
