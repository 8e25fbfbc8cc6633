import TokioAwsLc.Ktls.Install

/-!
# The kernel goes on where libssl stopped

A key block installed in the kernel must protect record `i` exactly as libssl would have done, at both
ends of the connection and from any handover point on.

* `TlsContext` is what the kernel keeps of an installed block; `advance` is its step from one record to
  the next, `protection` the key, nonce and sequence number it applies.
* `TrafficKeys` and `trafficKeys` are the keys and IVs of the TLS specifications, `libssl` what libssl
  applies to record `i` with them.
* `context cipher keys seq` is the context that continues at `seq`. `advance_context` is the step,
  `context_record` the run, and `deriveCryptoInfo_returns` says that these are the contexts the crate
  installs.
* `endpoint_agreement` and `nonces_distinct` are the results.
-/

namespace TokioAwsLc.Ktls

open Lib (beBytes xorBytes increment increment_beBytes)

/-! ## The kernel -/

/-- What protects one record: the AEAD key, the nonce, and the sequence number that is
authenticated. -/
structure Protection where
  key : Bytes
  nonce : Bytes
  sequence : Bytes
  deriving DecidableEq, Repr

namespace TlsContext

/-- The nonce has an explicit part, counted in `iv`: TLS 1.2 AES-GCM. -/
def IsExplicit (c : TlsContext) : Prop :=
  c.version ≠ tls13Version ∧ c.cipherType ≠ tlsCipherChacha20Poly1305

instance (c : TlsContext) : Decidable c.IsExplicit :=
  inferInstanceAs (Decidable (_ ∧ _))

/-- The nonce of the next record. -/
def nonce (c : TlsContext) : Bytes :=
  if c.IsExplicit then c.salt ++ c.iv
  else xorBytes (c.salt ++ c.iv) (List.replicate 4 0 ++ c.recSeq)

/-- What protects the next record. -/
def protection (c : TlsContext) : Protection :=
  ⟨c.key, c.nonce, c.recSeq⟩

/-- From one record to the next. -/
def advance (c : TlsContext) : TlsContext :=
  { c with
    recSeq := increment c.recSeq
    iv := if c.IsExplicit then increment c.iv else c.iv }

/-- What protects the `k`-th record after the installation. -/
def record (c : TlsContext) (k : ℕ) : Protection :=
  (advance^[k] c).protection

end TlsContext

/-! ## libssl -/

namespace KtlsCipher

/-- A TLS 1.3 suite. -/
def isTls13 : KtlsCipher → Bool
  | tls13Aes128Gcm => true
  | tls13Aes256Gcm => true
  | tls13Chacha20Poly1305 => true
  | tls12Aes128Gcm => false
  | tls12Aes256Gcm => false
  | tls12Chacha20Poly1305 => false

/-- TLS 1.2 AES-GCM, whose nonce has an explicit part. -/
def isExplicit : KtlsCipher → Bool
  | tls12Aes128Gcm => true
  | tls12Aes256Gcm => true
  | _ => false

/-- The protocol version in the block. -/
def version (c : KtlsCipher) : UInt16 :=
  if c.isTls13 then tls13Version else tls12Version

/-- The cipher type in the block. -/
def cipherType : KtlsCipher → UInt16
  | tls13Aes128Gcm => tlsCipherAesGcm128
  | tls12Aes128Gcm => tlsCipherAesGcm128
  | tls13Aes256Gcm => tlsCipherAesGcm256
  | tls12Aes256Gcm => tlsCipherAesGcm256
  | tls13Chacha20Poly1305 => tlsCipherChacha20Poly1305
  | tls12Chacha20Poly1305 => tlsCipherChacha20Poly1305

/-- The hash of a TLS 1.3 suite. -/
def hash : KtlsCipher → Hash
  | tls13Aes256Gcm => .sha384
  | _ => .sha256

/-- The length of a traffic secret: that of the hash. -/
def secretLen (c : KtlsCipher) : ℕ :=
  match c.hash with
  | .sha256 => 32
  | .sha384 => 48

/-- The length of the AEAD key. -/
def keyLen : KtlsCipher → ℕ
  | tls13Aes128Gcm => 16
  | tls12Aes128Gcm => 16
  | _ => 32

/-- The length of the fixed IV: the salt of TLS 1.2 AES-GCM, the whole nonce otherwise. -/
def ivLen (c : KtlsCipher) : ℕ :=
  if c.isExplicit then 4 else 12

end KtlsCipher

/-- The key and the fixed IV of one direction. -/
structure TrafficKeys where
  key : Bytes
  iv : Bytes
  deriving DecidableEq, Repr

/-- The TLS 1.2 partition of a key block, without MAC keys: the client's key, the server's key, the
client's IV, the server's IV. -/
def partition (block : Bytes) (keyLen ivLen : ℕ) (client : Bool) : TrafficKeys :=
  if client then ⟨block.take keyLen, (block.drop (2 * keyLen)).take ivLen⟩
  else ⟨(block.drop keyLen).take keyLen, (block.drop (2 * keyLen + ivLen)).take ivLen⟩

/-- This direction is written by the client. -/
def Ssl.clientWrites (ssl : Ssl) : Direction → Bool
  | .write => !ssl.isServer
  | .read => ssl.isServer

section

variable (hkdfExpand : Hash → Bytes → Bytes → (len : ℕ) → ℤ × Vector UInt8 len)

/-- The keys of one direction of a session. -/
def trafficKeys (c : KtlsCipher) (ssl : Ssl) (dir : Direction) : TrafficKeys :=
  if c.isTls13 then
    ⟨(expandLabel hkdfExpand c.hash (ssl.secret dir) (ascii "key") c.keyLen).2.toList,
      (expandLabel hkdfExpand c.hash (ssl.secret dir) (ascii "iv") c.ivLen).2.toList⟩
  else partition (ssl.generateKeyBlock (2 * (c.keyLen + c.ivLen))).2.toList c.keyLen c.ivLen
    (ssl.clientWrites dir)

/-- What libssl applies to record `i` of a direction. -/
def libssl (c : KtlsCipher) (keys : TrafficKeys) (i : ℕ) : Protection :=
  ⟨keys.key,
    if c.isExplicit then keys.iv ++ beBytes 8 i
    else xorBytes keys.iv (List.replicate 4 0 ++ beBytes 8 i),
    beBytes 8 i⟩

/-! ## Contexts that continue -/

/-- The context that continues a direction at `seq`. -/
def context (c : KtlsCipher) (keys : TrafficKeys) (seq : ℕ) : TlsContext where
  version := c.version
  cipherType := c.cipherType
  key := keys.key
  salt := if c.isExplicit then keys.iv else if c.cipherType = tlsCipherChacha20Poly1305 then []
    else keys.iv.take 4
  iv := if c.isExplicit then beBytes 8 seq
    else if c.cipherType = tlsCipherChacha20Poly1305 then keys.iv else keys.iv.drop 4
  recSeq := beBytes 8 seq

/-- The kernel's context has an explicit nonce iff the cipher does. -/
theorem context_isExplicit (c : KtlsCipher) (keys : TrafficKeys) (seq : ℕ) :
    (context c keys seq).IsExplicit ↔ c.isExplicit = true := by
  cases c <;> simp only [TlsContext.IsExplicit, context] <;> decide

/-- **Step lemma.** The next record is the one after `seq`. -/
theorem advance_context (c : KtlsCipher) (keys : TrafficKeys) (seq : ℕ) :
    (context c keys seq).advance = context c keys (seq + 1) := by
  unfold TlsContext.advance
  simp only [context_isExplicit]
  by_cases h : c.isExplicit
  · simp [context, h, increment_beBytes]
  · simp [context, h, increment_beBytes]

/-- The next record is protected as libssl would protect it. -/
theorem context_protection (c : KtlsCipher) (keys : TrafficKeys) (seq : ℕ) :
    (context c keys seq).protection = libssl c keys seq := by
  unfold TlsContext.protection TlsContext.nonce libssl
  simp only [context_isExplicit]
  by_cases h : c.isExplicit
  · simp [context, h]
  · by_cases hc : c.cipherType = tlsCipherChacha20Poly1305
    · simp [context, h, hc]
    · simp [context, h, hc, List.take_append_drop]

/-- **Run lemma.** Every later record is protected as libssl would protect it. -/
theorem context_record (c : KtlsCipher) (keys : TrafficKeys) (seq k : ℕ) :
    (context c keys seq).record k = libssl c keys (seq + k) := by
  have hrun : TlsContext.advance^[k] (context c keys seq) = context c keys (seq + k) := by
    induction k with
    | zero => rfl
    | succ k ih => rw [Function.iterate_succ_apply', ih, advance_context, Nat.add_assoc]
  rw [TlsContext.record, hrun, context_protection]

/-! ## What the crate installs -/

/-- libssl has handed out the secret of a direction, of the length of the hash, and `HKDF_expand` has
made a key and an IV of it. -/
structure Expands (c : KtlsCipher) (ssl : Ssl) (dir : Direction) : Prop where
  secret : (ssl.trafficSecret dir).rc = 1 ∧ (ssl.trafficSecret dir).got = c.secretLen
  key : (expandLabel hkdfExpand c.hash (ssl.secret dir) (ascii "key") c.keyLen).1 = 1
  iv : (expandLabel hkdfExpand c.hash (ssl.secret dir) (ascii "iv") c.ivLen).1 = 1

/-- The calls of the derivation that may be refused have succeeded. -/
def Answers (c : KtlsCipher) (ssl : Ssl) : Prop :=
  if c.isTls13 then ∀ dir, Expands hkdfExpand c ssl dir
  else (ssl.generateKeyBlock (2 * (c.keyLen + c.ivLen))).1 = 1

/-- The blocks continue both directions of the session. -/
def Continues (c : KtlsCipher) (ssl : Ssl) (info : CryptoInfo) : Prop :=
  info.context tlsTx = context c (trafficKeys hkdfExpand c ssl .write) ssl.writeSequence.toNat ∧
    info.context tlsRx = context c (trafficKeys hkdfExpand c ssl .read) ssl.readSequence.toNat

variable {c : KtlsCipher} {ssl : Ssl} {dir : Direction} {F : Prop}

/-- Keys and IVs have the lengths the cipher asks for. -/
theorem trafficKeys_length (c : KtlsCipher) (ssl : Ssl) (dir : Direction) :
    (trafficKeys hkdfExpand c ssl dir).key.length = c.keyLen ∧
      (trafficKeys hkdfExpand c ssl dir).iv.length = c.ivLen := by
  unfold trafficKeys
  split_ifs
  · simp
  · unfold partition
    split_ifs <;> simp <;> omega

/-- The TLS 1.3 arms expand the keys of both directions. -/
theorem tls13Keys_returns (h : c.isTls13 = true) :
    Returns (¬ Answers hkdfExpand c ssl) (tls13Keys hkdfExpand ssl c.hash c.secretLen c.keyLen)
      (fun p => p = ((trafficKeys hkdfExpand c ssl .write).key,
        (trafficKeys hkdfExpand c ssl .write).iv, (trafficKeys hkdfExpand c ssl .read).key,
        (trafficKeys hkdfExpand c ssl .read).iv)) := by
  have hiv : c.ivLen = 12 := by
    cases c <;> first | rfl | simp [KtlsCipher.isTls13] at h
  have hkey : c.keyLen < 2 ^ 16 := by
    cases c <;> decide
  have hans : Answers hkdfExpand c ssl → ∀ dir, Expands hkdfExpand c ssl dir := by
    unfold Answers
    rw [if_pos h]
    exact id
  unfold tls13Keys trafficKeys
  simp only [h, if_true, ← hiv]
  refine ((tls13TrafficSecret_returns ssl .write c.secretLen).mono
    (fun hn ha => hn (hans ha .write).secret) fun _ => id).bind ?_
  rintro _ rfl
  refine ((tls13TrafficSecret_returns ssl .read c.secretLen).mono
    (fun hn ha => hn (hans ha .read).secret) fun _ => id).bind ?_
  rintro _ rfl
  refine ((hkdfExpandLabel_returns hkdfExpand ssl c.hash _ (ascii "key") c.keyLen (by decide)
    hkey).mono (fun hn ha => hn (hans ha .write).key) fun _ => id).bind ?_
  rintro _ rfl
  refine ((hkdfExpandLabel_returns hkdfExpand ssl c.hash _ (ascii "iv") c.ivLen (by decide)
    (by omega)).mono (fun hn ha => hn (hans ha .write).iv) fun _ => id).bind ?_
  rintro _ rfl
  refine ((hkdfExpandLabel_returns hkdfExpand ssl c.hash _ (ascii "key") c.keyLen (by decide)
    hkey).mono (fun hn ha => hn (hans ha .read).key) fun _ => id).bind ?_
  rintro _ rfl
  refine ((hkdfExpandLabel_returns hkdfExpand ssl c.hash _ (ascii "iv") c.ivLen (by decide)
    (by omega)).mono (fun hn ha => hn (hans ha .read).iv) fun _ => id).bind ?_
  rintro _ rfl
  exact rfl

/-- The split of a key block is its partition, for both roles. -/
theorem splitTls12KeyBlock_returns {block : Bytes} {keyLen ivLen : ℕ}
    (h : block.length = 2 * (keyLen + ivLen)) (ssl : Ssl) :
    Returns False (splitTls12KeyBlock block keyLen ivLen ssl.isServer)
      (fun p => p = ((partition block keyLen ivLen (ssl.clientWrites .write)).key,
        (partition block keyLen ivLen (ssl.clientWrites .write)).iv,
        (partition block keyLen ivLen (ssl.clientWrites .read)).key,
        (partition block keyLen ivLen (ssl.clientWrites .read)).iv)) := by
  unfold splitTls12KeyBlock
  simp only [ne_eq, h, not_true_eq_false, if_false]
  refine (splitAt_returns (by omega)).bind ?_
  rintro _ rfl
  refine (splitAt_returns (by simp; omega)).bind ?_
  rintro _ rfl
  refine (splitAt_returns (by simp; omega)).bind ?_
  rintro _ rfl
  have hkeys : (block.drop keyLen).drop keyLen = block.drop (2 * keyLen) := by
    rw [List.drop_drop, two_mul]
  have hlast : (block.drop (2 * keyLen)).drop ivLen =
      (block.drop (2 * keyLen + ivLen)).take ivLen := by
    rw [List.drop_drop, List.take_of_length_le (by simp; omega)]
  simp only [hkeys, hlast]
  cases hs : ssl.isServer
  · simp only [Ssl.clientWrites, hs]
    exact returns_pure rfl
  · simp only [Ssl.clientWrites, hs]
    exact returns_pure rfl

/-- Each builder lays its arguments out, if they have the right lengths. -/
theorem buildAesGcm128_returns (version : UInt16) {key salt iv : Bytes} (recSeq : UInt64)
    (hk : key.length = 16) (hs : salt.length = 4) (hi : iv.length = 8) :
    Returns F (buildAesGcm128 version key salt iv recSeq) (fun b => b.context =
      ⟨version, tlsCipherAesGcm128, key, salt, iv, beBytes 8 recSeq.toNat⟩) := by
  unfold buildAesGcm128
  refine ((copyFromSlice_returns hk).mono False.elim fun _ => id).bind fun k hk => ?_
  refine ((copyFromSlice_returns hs).mono False.elim fun _ => id).bind fun s hs => ?_
  refine ((copyFromSlice_returns hi).mono False.elim fun _ => id).bind fun i hi => ?_
  subst hk hs hi
  exact returns_pure rfl

/-- The same for AES-256-GCM. -/
theorem buildAesGcm256_returns (version : UInt16) {key salt iv : Bytes} (recSeq : UInt64)
    (hk : key.length = 32) (hs : salt.length = 4) (hi : iv.length = 8) :
    Returns F (buildAesGcm256 version key salt iv recSeq) (fun b => b.context =
      ⟨version, tlsCipherAesGcm256, key, salt, iv, beBytes 8 recSeq.toNat⟩) := by
  unfold buildAesGcm256
  refine ((copyFromSlice_returns hk).mono False.elim fun _ => id).bind fun k hk => ?_
  refine ((copyFromSlice_returns hs).mono False.elim fun _ => id).bind fun s hs => ?_
  refine ((copyFromSlice_returns hi).mono False.elim fun _ => id).bind fun i hi => ?_
  subst hk hs hi
  exact returns_pure rfl

/-- The same for ChaCha20-Poly1305, which has no salt. -/
theorem buildChacha20Poly1305_returns (version : UInt16) {key iv : Bytes} (recSeq : UInt64)
    (hk : key.length = 32) (hi : iv.length = 12) :
    Returns F (buildChacha20Poly1305 version key iv recSeq) (fun b => b.context =
      ⟨version, tlsCipherChacha20Poly1305, key, [], iv, beBytes 8 recSeq.toNat⟩) := by
  unfold buildChacha20Poly1305
  refine ((copyFromSlice_returns hk).mono False.elim fun _ => id).bind fun k hk => ?_
  refine ((copyFromSlice_returns hi).mono False.elim fun _ => id).bind fun i hi => ?_
  subst hk hi
  exact returns_pure rfl

/-- The TLS 1.2 arms split the keys of both directions. -/
theorem tls12Keys_returns (h : c.isTls13 = false) {β : Type} {R : β → Prop}
    {f : Bytes × Bytes × Bytes × Bytes → Except Fault β}
    (hf : Returns (¬ Answers hkdfExpand c ssl) (f ((trafficKeys hkdfExpand c ssl .write).key,
        (trafficKeys hkdfExpand c ssl .write).iv, (trafficKeys hkdfExpand c ssl .read).key,
        (trafficKeys hkdfExpand c ssl .read).iv)) R) :
    Returns (¬ Answers hkdfExpand c ssl) (do
      let block ← tls12KeyBlock ssl (2 * (c.keyLen + c.ivLen))
      let keys ← splitTls12KeyBlock block c.keyLen c.ivLen ssl.isServer
      f keys) R := by
  have hans : Answers hkdfExpand c ssl →
      (ssl.generateKeyBlock (2 * (c.keyLen + c.ivLen))).1 = 1 := by
    unfold Answers
    rw [if_neg (by simp [h])]
    exact id
  refine ((tls12KeyBlock_returns ssl _).mono (fun hn ha => hn (hans ha)) fun _ => id).bind ?_
  rintro _ rfl
  refine ((splitTls12KeyBlock_returns (by simp) ssl).mono False.elim fun _ => id).bind ?_
  rintro _ rfl
  simpa only [trafficKeys, h, Bool.false_eq_true, if_false] using hf

section pairs

variable {A B : TlsContext}

/-- Two blocks of one kind make the pair that is installed. -/
theorem aesGcm128_pair {tx rx : Except Fault Tls12CryptoInfoAesGcm128}
    (htx : Returns F tx fun b => b.context = A) (hrx : Returns F rx fun b => b.context = B) :
    Returns F (do let t ← tx; let r ← rx; return CryptoInfo.aesGcm128 t r)
      (fun info => info.context tlsTx = A ∧ info.context tlsRx = B) :=
  htx.bind fun _ ht => hrx.bind fun _ hr => returns_pure ⟨ht, hr⟩

/-- The same for AES-256-GCM. -/
theorem aesGcm256_pair {tx rx : Except Fault Tls12CryptoInfoAesGcm256}
    (htx : Returns F tx fun b => b.context = A) (hrx : Returns F rx fun b => b.context = B) :
    Returns F (do let t ← tx; let r ← rx; return CryptoInfo.aesGcm256 t r)
      (fun info => info.context tlsTx = A ∧ info.context tlsRx = B) :=
  htx.bind fun _ ht => hrx.bind fun _ hr => returns_pure ⟨ht, hr⟩

/-- The same for ChaCha20-Poly1305. -/
theorem chacha20Poly1305_pair {tx rx : Except Fault Tls12CryptoInfoChacha20Poly1305}
    (htx : Returns F tx fun b => b.context = A) (hrx : Returns F rx fun b => b.context = B) :
    Returns F (do let t ← tx; let r ← rx; return CryptoInfo.chacha20Poly1305 t r)
      (fun info => info.context tlsTx = A ∧ info.context tlsRx = B) :=
  htx.bind fun _ ht => hrx.bind fun _ hr => returns_pure ⟨ht, hr⟩

end pairs

/-- **The crate installs contexts that continue the session**, and does not panic, whatever libssl
answers. -/
theorem deriveCryptoInfo_returns (c : KtlsCipher) (ssl : Ssl) :
    Returns (¬ Answers hkdfExpand c ssl) (deriveCryptoInfo hkdfExpand ssl c)
      (Continues hkdfExpand c ssl) := by
  obtain ⟨hwk, hwi⟩ := trafficKeys_length hkdfExpand c ssl .write
  obtain ⟨hrk, hri⟩ := trafficKeys_length hkdfExpand c ssl .read
  unfold deriveCryptoInfo
  -- the lengths of the slices `[..4]` and `[4..]` of a 12-byte IV
  have hsalt : ∀ iv : Bytes, iv.length = 12 → (iv.take 4).length = 4 := by
    intro iv hiv
    simp [hiv]
  have hexplicit : ∀ iv : Bytes, iv.length = 12 → (iv.drop 4).length = 8 := by
    intro iv hiv
    simp [hiv]
  have hseq : ∀ n : UInt64, (toBeBytes n).toList.length = 8 := fun n => Vector.length_toList
  cases c with
  | tls13Aes128Gcm =>
      refine (tls13Keys_returns hkdfExpand rfl).bind ?_
      rintro _ rfl
      exact aesGcm128_pair
        (buildAesGcm128_returns _ _ hwk (hsalt _ hwi) (hexplicit _ hwi))
        (buildAesGcm128_returns _ _ hrk (hsalt _ hri) (hexplicit _ hri))
  | tls13Aes256Gcm =>
      refine (tls13Keys_returns hkdfExpand rfl).bind ?_
      rintro _ rfl
      exact aesGcm256_pair
        (buildAesGcm256_returns _ _ hwk (hsalt _ hwi) (hexplicit _ hwi))
        (buildAesGcm256_returns _ _ hrk (hsalt _ hri) (hexplicit _ hri))
  | tls13Chacha20Poly1305 =>
      refine (tls13Keys_returns hkdfExpand rfl).bind ?_
      rintro _ rfl
      exact chacha20Poly1305_pair (buildChacha20Poly1305_returns _ _ hwk hwi)
        (buildChacha20Poly1305_returns _ _ hrk hri)
  | tls12Aes128Gcm =>
      refine tls12Keys_returns hkdfExpand rfl ?_
      exact aesGcm128_pair (buildAesGcm128_returns _ _ hwk hwi (hseq _))
        (buildAesGcm128_returns _ _ hrk hri (hseq _))
  | tls12Aes256Gcm =>
      refine tls12Keys_returns hkdfExpand rfl ?_
      exact aesGcm256_pair (buildAesGcm256_returns _ _ hwk hwi (hseq _))
        (buildAesGcm256_returns _ _ hrk hri (hseq _))
  | tls12Chacha20Poly1305 =>
      refine tls12Keys_returns hkdfExpand rfl ?_
      exact chacha20Poly1305_pair (buildChacha20Poly1305_returns _ _ hwk hwi)
        (buildChacha20Poly1305_returns _ _ hrk hri)

/-! ## Both ends -/

/-- `a` writes what `b` reads: they share the key block and have opposite roles, or the write secret
of `a` is the read secret of `b`. -/
structure Peers (c : KtlsCipher) (a b : Ssl) : Prop where
  secret : c.isTls13 = true → a.secret .write = b.secret .read
  block : c.isTls13 = false → ∀ len, (a.generateKeyBlock len).2 = (b.generateKeyBlock len).2
  roles : c.isTls13 = false → a.isServer = !b.isServer

/-- Peers have the same keys for the direction between them. -/
theorem Peers.trafficKeys {a b : Ssl} (h : Peers c a b) :
    trafficKeys hkdfExpand c a .write = trafficKeys hkdfExpand c b .read := by
  unfold Ktls.trafficKeys
  rcases hc : c.isTls13 with _ | _
  · have hclient : a.clientWrites .write = b.clientWrites .read := by
      simp [Ssl.clientWrites, h.roles hc]
    simp only [Bool.false_eq_true, if_false, h.block hc, hclient]
  · simp only [if_true, h.secret hc]

/-- The nonces of libssl are 12 bytes long. -/
theorem libssl_nonce_length {keys : TrafficKeys} (h : keys.iv.length = c.ivLen) (i : ℕ) :
    (libssl c keys i).nonce.length = 12 := by
  unfold KtlsCipher.ivLen at h
  unfold libssl
  split_ifs at h ⊢
  · simp [h]
  · simp [h]

/-- An endpoint derives its blocks, installs both, and its kernel is left with these contexts. -/
def Installs (c : KtlsCipher) (ssl : Ssl) (tx rx : TlsContext) : Prop :=
  ∃ info answers k, deriveCryptoInfo hkdfExpand ssl c = .ok info ∧
    install answers info .fresh = (k, .ok ()) ∧ k.tx = some tx ∧ k.rx = some rx

/-- The installed contexts continue the session. -/
theorem Installs.contexts {tx rx : TlsContext} (h : Installs hkdfExpand c ssl tx rx) :
    tx = context c (trafficKeys hkdfExpand c ssl .write) ssl.writeSequence.toNat ∧
      rx = context c (trafficKeys hkdfExpand c ssl .read) ssl.readSequence.toNat := by
  obtain ⟨info, answers, k, hinfo, hinstall, htx, hrx⟩ := h
  have hcont := deriveCryptoInfo_returns hkdfExpand c ssl
  rw [hinfo] at hcont
  have hcases := install_cases answers info
  rw [hinstall] at hcases
  cases hcases with
  | full => exact ⟨(Option.some.inj htx).symm.trans hcont.1, (Option.some.inj hrx).symm.trans hcont.2⟩

/-- An installation succeeds if libssl, `HKDF_expand` and the kernel do. -/
theorem Answers.installs (h : Answers hkdfExpand c ssl) :
    ∃ tx rx, Installs hkdfExpand c ssl tx rx := by
  obtain ⟨info, hinfo, -⟩ := (deriveCryptoInfo_returns hkdfExpand c ssl).exists_ok (not_not.mpr h)
  exact ⟨_, _, info, _, _, hinfo, install_full info, rfl, rfl⟩

/-- What the two ends of a connection install for the direction from `a` to `b`. -/
structure Agreement (c : KtlsCipher) (a b : Ssl) : Prop where
  /-- No slice of the derivation is out of range. -/
  no_panic : ∀ ssl, deriveCryptoInfo hkdfExpand ssl c ≠ .error .panic
  /-- There is an installation to speak of, if libssl and `HKDF_expand` answer. -/
  installs : ∀ ssl, Answers hkdfExpand c ssl → ∃ tx rx, Installs hkdfExpand c ssl tx rx
  /-- The installed blocks name the same version and cipher. -/
  header : ∀ tx rxa txb rx, Installs hkdfExpand c a tx rxa → Installs hkdfExpand c b txb rx →
    tx.version = rx.version ∧ tx.cipherType = rx.cipherType
  /-- Record `i` is protected alike by the kernel of `a`, by the kernel of `b`, and by libssl. -/
  record : Peers c a b → ∀ tx rxa txb rx, Installs hkdfExpand c a tx rxa →
    Installs hkdfExpand c b txb rx →
    ∀ i, a.writeSequence.toNat ≤ i → b.readSequence.toNat ≤ i → i < 2 ^ 64 →
      tx.record (i - a.writeSequence.toNat) = rx.record (i - b.readSequence.toNat) ∧
      tx.record (i - a.writeSequence.toNat) = libssl c (trafficKeys hkdfExpand c a .write) i ∧
      rx.record (i - b.readSequence.toNat) = libssl c (trafficKeys hkdfExpand c b .read) i ∧
      (tx.record (i - a.writeSequence.toNat)).nonce.length = 12

/-- **Both ends agree with each other and with libssl**, for every cipher, every key material and
every handover point. -/
theorem endpoint_agreement (c : KtlsCipher) (a b : Ssl) : Agreement hkdfExpand c a b where
  no_panic ssl := (deriveCryptoInfo_returns hkdfExpand c ssl).ne_panic
  installs ssl hans := hans.installs hkdfExpand
  header tx rxa txb rx ha hb := by
    rw [(ha.contexts hkdfExpand).1, (hb.contexts hkdfExpand).2]
    exact ⟨rfl, rfl⟩
  record hpeers tx rxa txb rx ha hb i hsi hri _ := by
    have htx : tx.record (i - a.writeSequence.toNat) =
        libssl c (trafficKeys hkdfExpand c a .write) i := by
      rw [(ha.contexts hkdfExpand).1, context_record, Nat.add_sub_cancel' hsi]
    have hrx : rx.record (i - b.readSequence.toNat) =
        libssl c (trafficKeys hkdfExpand c b .read) i := by
      rw [(hb.contexts hkdfExpand).2, context_record, Nat.add_sub_cancel' hri]
    refine ⟨?_, htx, hrx, ?_⟩
    · rw [htx, hrx, hpeers.trafficKeys hkdfExpand]
    · rw [htx]
      exact libssl_nonce_length (trafficKeys_length hkdfExpand c a .write).2 i

/-! ## Nonces -/

/-- Below `2 ^ 64` the nonce determines the record. -/
theorem libssl_nonce_inj {keys : TrafficKeys} (h : keys.iv.length = c.ivLen) {i j : ℕ}
    (hi : i < 2 ^ 64) (hj : j < 2 ^ 64) :
    (libssl c keys i).nonce = (libssl c keys j).nonce ↔ i = j := by
  have hpow : 256 ^ 8 = 2 ^ 64 := by norm_num
  have hbytes : beBytes 8 i = beBytes 8 j ↔ i = j :=
    Lib.beBytes_inj (by omega) (by omega)
  unfold KtlsCipher.ivLen at h
  unfold libssl
  split_ifs at h ⊢
  · rw [List.append_cancel_left_eq, hbytes]
  · rw [Lib.xorBytes_left_inj (by simp [h]) (by simp [h]), List.append_cancel_left_eq, hbytes]

/-- The kernel sends on without using a nonce twice. -/
structure NonceFresh (c : KtlsCipher) (ssl : Ssl) : Prop where
  /-- There is an installation to speak of, if libssl and `HKDF_expand` answer. -/
  installs : Answers hkdfExpand c ssl → ∃ tx rx, Installs hkdfExpand c ssl tx rx
  /-- The kernel uses libssl's key. -/
  same_key : ∀ tx rx, Installs hkdfExpand c ssl tx rx → ∀ m i,
    (tx.record m).key = (libssl c (trafficKeys hkdfExpand c ssl .write) i).key
  /-- Its own nonces are pairwise distinct. -/
  distinct : ∀ tx rx, Installs hkdfExpand c ssl tx rx → ∀ k,
    ssl.writeSequence.toNat + k < 2 ^ 64 → ∀ m ≤ k, ∀ n ≤ k, m ≠ n →
      (tx.record m).nonce ≠ (tx.record n).nonce
  /-- They are distinct from those libssl has used. -/
  fresh : ∀ tx rx, Installs hkdfExpand c ssl tx rx → ∀ k,
    ssl.writeSequence.toNat + k < 2 ^ 64 → ∀ m ≤ k, ∀ i < ssl.writeSequence.toNat,
      (tx.record m).nonce ≠ (libssl c (trafficKeys hkdfExpand c ssl .write) i).nonce

/-- **No nonce is used twice across the handover**, for every cipher, every key material and every
sequence number at the installation. -/
theorem nonces_distinct (c : KtlsCipher) (ssl : Ssl) : NonceFresh hkdfExpand c ssl := by
  have hiv := (trafficKeys_length hkdfExpand c ssl .write).2
  have hrecord : ∀ tx rx, Installs hkdfExpand c ssl tx rx → ∀ m, tx.record m =
      libssl c (trafficKeys hkdfExpand c ssl .write) (ssl.writeSequence.toNat + m) := by
    intro tx rx hinst m
    rw [(hinst.contexts hkdfExpand).1, context_record]
  refine ⟨fun hans => hans.installs hkdfExpand, fun tx rx hinst m i => ?_,
    fun tx rx hinst k hk m hm n hn hne => ?_, fun tx rx hinst k hk m hm i hi => ?_⟩
  · rw [hrecord tx rx hinst]
    rfl
  · rw [hrecord tx rx hinst, hrecord tx rx hinst, Ne, libssl_nonce_inj hiv (by omega) (by omega)]
    omega
  · rw [hrecord tx rx hinst, Ne, libssl_nonce_inj hiv (by omega) (by omega)]
    omega

end

end TokioAwsLc.Ktls
