import TokioAwsLc.Config.Context

/-!
# The cipher-suite allowlist

A caller names the suites that may be negotiated, of both TLS versions in one slice. AWS-LC has a list for
each version and a bit in its options to switch a version off, so `apply_to_ctx` writes two lists, each
suite name after a colon but the first, and switches off the version that has none.

* `CipherSuite`, the nine constants, and `Suite` for one of them.
* `splitForAwsLc` and `applyToCtx` are the functions of `src/config/cipher_suite.rs`.
* `fields` reads a list back. `fields_pushName` is one step of the loop, `fields_splitLoop` the loop.
* `SslCtx.Negotiable` is what the library makes of a context, where `CipherRules` says which suites an
  element of a list selects.
* `applySuites` is what `applyToCtx` does to a context, and `negotiable_applySuites` what that means.
-/

namespace TokioAwsLc.Config

open Ktls (Fault)
open Lib.Attempt

/-! ## The suites -/

/-- Source: `src/config/cipher_suite.rs` `CipherSuite` -/
structure CipherSuite where
  ianaName : String
  opensslName : String
  ianaId : UInt16
  version : ProtocolVersion
  deriving DecidableEq, Repr

/-- Source: `src/config/cipher_suite.rs` `TLS13_AES_128_GCM_SHA256` -/
def tls13Aes128GcmSha256 : CipherSuite :=
  ⟨"TLS_AES_128_GCM_SHA256", "TLS_AES_128_GCM_SHA256", 0x1301, .tls13⟩

/-- Source: `src/config/cipher_suite.rs` `TLS13_AES_256_GCM_SHA384` -/
def tls13Aes256GcmSha384 : CipherSuite :=
  ⟨"TLS_AES_256_GCM_SHA384", "TLS_AES_256_GCM_SHA384", 0x1302, .tls13⟩

/-- Source: `src/config/cipher_suite.rs` `TLS13_CHACHA20_POLY1305_SHA256` -/
def tls13Chacha20Poly1305Sha256 : CipherSuite :=
  ⟨"TLS_CHACHA20_POLY1305_SHA256", "TLS_CHACHA20_POLY1305_SHA256", 0x1303, .tls13⟩

/-- Source: `src/config/cipher_suite.rs` `TLS_ECDHE_ECDSA_WITH_AES_128_GCM_SHA256` -/
def tlsEcdheEcdsaWithAes128GcmSha256 : CipherSuite :=
  ⟨"TLS_ECDHE_ECDSA_WITH_AES_128_GCM_SHA256", "ECDHE-ECDSA-AES128-GCM-SHA256", 0xC02B, .tls12⟩

/-- Source: `src/config/cipher_suite.rs` `TLS_ECDHE_ECDSA_WITH_AES_256_GCM_SHA384` -/
def tlsEcdheEcdsaWithAes256GcmSha384 : CipherSuite :=
  ⟨"TLS_ECDHE_ECDSA_WITH_AES_256_GCM_SHA384", "ECDHE-ECDSA-AES256-GCM-SHA384", 0xC02C, .tls12⟩

/-- Source: `src/config/cipher_suite.rs` `TLS_ECDHE_ECDSA_WITH_CHACHA20_POLY1305_SHA256` -/
def tlsEcdheEcdsaWithChacha20Poly1305Sha256 : CipherSuite :=
  ⟨"TLS_ECDHE_ECDSA_WITH_CHACHA20_POLY1305_SHA256", "ECDHE-ECDSA-CHACHA20-POLY1305", 0xCCA9, .tls12⟩

/-- Source: `src/config/cipher_suite.rs` `TLS_ECDHE_RSA_WITH_AES_128_GCM_SHA256` -/
def tlsEcdheRsaWithAes128GcmSha256 : CipherSuite :=
  ⟨"TLS_ECDHE_RSA_WITH_AES_128_GCM_SHA256", "ECDHE-RSA-AES128-GCM-SHA256", 0xC02F, .tls12⟩

/-- Source: `src/config/cipher_suite.rs` `TLS_ECDHE_RSA_WITH_AES_256_GCM_SHA384` -/
def tlsEcdheRsaWithAes256GcmSha384 : CipherSuite :=
  ⟨"TLS_ECDHE_RSA_WITH_AES_256_GCM_SHA384", "ECDHE-RSA-AES256-GCM-SHA384", 0xC030, .tls12⟩

/-- Source: `src/config/cipher_suite.rs` `TLS_ECDHE_RSA_WITH_CHACHA20_POLY1305_SHA256` -/
def tlsEcdheRsaWithChacha20Poly1305Sha256 : CipherSuite :=
  ⟨"TLS_ECDHE_RSA_WITH_CHACHA20_POLY1305_SHA256", "ECDHE-RSA-CHACHA20-POLY1305", 0xCCA8, .tls12⟩

/-- Source: `src/config/cipher_suite.rs` `ALL_CIPHER_SUITES` -/
def allCipherSuites : List CipherSuite :=
  [tls13Aes128GcmSha256, tls13Aes256GcmSha384, tls13Chacha20Poly1305Sha256,
    tlsEcdheEcdsaWithAes128GcmSha256, tlsEcdheEcdsaWithAes256GcmSha384,
    tlsEcdheEcdsaWithChacha20Poly1305Sha256, tlsEcdheRsaWithAes128GcmSha256,
    tlsEcdheRsaWithAes256GcmSha384, tlsEcdheRsaWithChacha20Poly1305Sha256]

/-- A `&'static CipherSuite`. The fields are private, so that it is one of the constants. -/
abbrev Suite :=
  { s : CipherSuite // s ∈ allCipherSuites }

/-- Source: `src/config/cipher_suite.rs` `CipherSuite::version` -/
def Suite.version (s : Suite) : ProtocolVersion := s.val.version

/-- Source: `src/config/cipher_suite.rs` `CipherSuite::id` -/
def Suite.id (s : Suite) : UInt16 := s.val.ianaId

/-- Source: `src/config/cipher_suite.rs` `CipherSuite::openssl_name` -/
def Suite.opensslName (s : Suite) : String := s.val.opensslName

/-- The character that ends a `CString`. -/
def nul : Char := Char.ofNat 0

/-- The names of the constants are fit for a list. -/
theorem opensslName_wf (s : Suite) :
    s.opensslName ≠ "" ∧ ':' ∉ s.opensslName.toList ∧ nul ∉ s.opensslName.toList := by
  have h : ∀ s ∈ allCipherSuites,
      s.opensslName ≠ "" ∧ ':' ∉ s.opensslName.toList ∧ nul ∉ s.opensslName.toList := by
    decide
  exact h s.val s.property

/-- A name and its version belong to one suite. -/
theorem id_eq_of_opensslName_eq (s s' : Suite) (hversion : s.version = s'.version)
    (hname : s.opensslName = s'.opensslName) : s.id = s'.id := by
  have h : ∀ s ∈ allCipherSuites, ∀ s' ∈ allCipherSuites, s.version = s'.version →
      s.opensslName = s'.opensslName → s.ianaId = s'.ianaId := by
    decide
  exact h s.val s.property s'.val s'.property hversion hname

/-! ## Two lists -/

/-- One turn of the loop on its target: `target.push(':')` unless it is empty, and `push_str`. -/
def pushName (target name : String) : String :=
  (if target = "" then target else target.push ':') ++ name

/-- One turn of the loop of `split_for_aws_lc`, on the lists for TLS 1.2 and for TLS 1.3.
Source: `src/config/cipher_suite.rs` `split_for_aws_lc` -/
def splitStep (lists : String × String) (s : Suite) : String × String :=
  match s.version with
  | .tls12 => (pushName lists.1 s.opensslName, lists.2)
  | .tls13 => (lists.1, pushName lists.2 s.opensslName)

/-- `if list.is_empty() { None } else { Some(list) }`. -/
def someUnlessEmpty (list : String) : Option String :=
  if list = "" then none else some list

/-- Source: `src/config/cipher_suite.rs` `split_for_aws_lc` -/
def splitForAwsLc (suites : List Suite) : Option String × Option String :=
  let lists := suites.foldl splitStep ("", "")
  (someUnlessEmpty lists.1, someUnlessEmpty lists.2)

/-! ## The context -/

/-- AWS-LC `SSL_OP_NO_TLSv1_2`. -/
def sslOpNoTlsv12 : BitVec 32 := 0x08000000
/-- AWS-LC `SSL_OP_NO_TLSv1_3`. -/
def sslOpNoTlsv13 : BitVec 32 := 0x20000000

section apply

variable {Cert Key : Type}

/-- AWS-LC `SSL_CTX_set_options` adds to the options that are set. -/
def setOptions (options : BitVec 32) (ctx : SslCtx Cert Key) : SslCtx Cert Key :=
  { ctx with options := ctx.options ||| options }

/-- AWS-LC `SSL_CTX_set_cipher_list` replaces the TLS 1.2 list. -/
def setCipherList (list : String) (ctx : SslCtx Cert Key) : SslCtx Cert Key :=
  { ctx with cipherList := list }

/-- AWS-LC `SSL_CTX_set_ciphersuites` replaces the TLS 1.3 list. -/
def setCiphersuites (list : String) (ctx : SslCtx Cert Key) : SslCtx Cert Key :=
  { ctx with ciphersuites := list }

variable (aws : AwsLc Cert Key)

/-- `if let Some(list) = ..` with the setter of a list, after `CString::new(list).expect(..)`. -/
def setList (label : String) (set : String → SslCtx Cert Key → SslCtx Cert Key) :
    Option String → Configure Cert Key PUnit
  | none => pure ⟨⟩
  | some list => if nul ∈ list.toList then throw .panic else setter aws label (set list)

/-- Source: `src/config/cipher_suite.rs` `apply_to_ctx` -/
def applyToCtx (suites : List Suite) : Configure Cert Key PUnit :=
  if suites = [] then
    pure ⟨⟩
  else do
    let (tls12, tls13) := splitForAwsLc suites
    let disabledVersions :=
      (if tls12 = none then sslOpNoTlsv12 else 0) ||| (if tls13 = none then sslOpNoTlsv13 else 0)
    -- `u32::try_from(disabled_versions).expect(..)`, of a `c_int`
    if disabledVersions.msb then
      throw .panic
    else do
      update (setOptions disabledVersions)
      setList aws "SSL_CTX_set_cipher_list" setCipherList tls12
      setList aws "SSL_CTX_set_ciphersuites" setCiphersuites tls13

end apply

/-! ## Reading the lists back -/

/-- The pieces of a list between its colons. -/
def splitAtColon (list : String) : List String :=
  (list.toList.splitOn ':').map String.ofList

/-- The elements of a list, of which an empty one has none. -/
def fields (list : String) : List String :=
  if list = "" then [] else splitAtColon list

/-- The names of the suites of one version, in their order. -/
def names (v : ProtocolVersion) (suites : List Suite) : List String :=
  (suites.filter fun s => s.version = v).map Suite.opensslName

/-- A list has at least one part, which may be empty. -/
theorem splitAtColon_ne_nil (list : String) : splitAtColon list ≠ [] := by
  simp [splitAtColon, List.splitOn, List.splitOnP_ne_nil]

/-- A name without a colon is a list of one. -/
theorem splitAtColon_of_notMem {name : String} (h : ':' ∉ name.toList) : splitAtColon name = [name] := by
  have hsingle : name.toList.splitOn ':' = [name.toList] := by
    refine List.splitOnP_eq_singleton fun c hc => ?_
    have hne : c ≠ ':' := by
      rintro rfl
      exact h hc
    simpa using hne
  simp [splitAtColon, hsingle]

/-- A name that is appended behind a colon is one more part. -/
theorem splitAtColon_push (target name : String) :
    splitAtColon (target.push ':' ++ name) = splitAtColon target ++ splitAtColon name := by
  have hlist : (target.push ':' ++ name).toList = target.toList ++ ':' :: name.toList := by
    simp
  have hsplit : (target.toList ++ ':' :: name.toList).splitOn ':' =
      target.toList.splitOn ':' ++ name.toList.splitOn ':' :=
    List.splitOnP_append_cons _ _ (beq_self_eq_true ':')
  rw [splitAtColon, hlist, hsplit, List.map_append]
  rfl

/-- One turn of the loop adds one element at the end. -/
theorem fields_pushName (target : String) {name : String} (hne : name ≠ "")
    (hcolon : ':' ∉ name.toList) : fields (pushName target name) = fields target ++ [name] := by
  by_cases htarget : target = ""
  · subst htarget
    rw [pushName, if_pos rfl, String.empty_append, fields, if_neg hne, splitAtColon_of_notMem hcolon]
    rfl
  · have hpush : target.push ':' ++ name ≠ "" := by
      intro h
      have := congrArg String.toList h
      simp at this
    rw [pushName, if_neg htarget, fields, if_neg hpush, splitAtColon_push,
      splitAtColon_of_notMem hcolon, fields, if_neg htarget]

/-- The list for one version. -/
def listFor (v : ProtocolVersion) (lists : String × String) : String :=
  match v with
  | .tls12 => lists.1
  | .tls13 => lists.2

/-- The loop adds the names of each version to its list, by induction on the slice. -/
theorem fields_splitLoop (v : ProtocolVersion) (suites : List Suite) (lists : String × String) :
    fields (listFor v (suites.foldl splitStep lists)) = fields (listFor v lists) ++ names v suites := by
  induction suites generalizing lists with
  | nil => simp [names]
  | cons s suites ih =>
      obtain ⟨hne, hcolon, -⟩ := opensslName_wf s
      -- the list of the other version stays as it is
      have hstep : fields (listFor v (splitStep lists s)) =
          fields (listFor v lists) ++ if s.version = v then [s.opensslName] else [] := by
        rcases hs : s.version <;> cases v <;>
          simp [splitStep, hs, listFor, fields_pushName _ hne hcolon]
      rw [List.foldl_cons, ih, hstep, List.append_assoc]
      congr 1
      by_cases hv : s.version = v
      · simp [names, hv]
      · simp [names, hv]

/-- The list that is emitted for one version. -/
def emitted (v : ProtocolVersion) (suites : List Suite) : Option String :=
  match v with
  | .tls12 => (splitForAwsLc suites).1
  | .tls13 => (splitForAwsLc suites).2

/-- The list for a version is the one that the loop over the suites has built, if anything is in it. -/
theorem emitted_eq (v : ProtocolVersion) (suites : List Suite) :
    emitted v suites = someUnlessEmpty (listFor v (suites.foldl splitStep ("", ""))) := by
  cases v <;> rfl

/-- What is emitted are the names of the version, separated by colons. -/
theorem splitAtColon_emitted {v : ProtocolVersion} {suites : List Suite} {list : String}
    (h : emitted v suites = some list) : list ≠ "" ∧ splitAtColon list = names v suites := by
  rw [emitted_eq, someUnlessEmpty] at h
  split_ifs at h with hempty
  obtain rfl := Option.some.inj h
  have hfields := fields_splitLoop v suites ("", "")
  rw [fields, if_neg hempty] at hfields
  refine ⟨hempty, hfields.trans ?_⟩
  cases v <;> rfl

/-- A list is emitted iff there is a suite of the version. -/
theorem emitted_eq_none_iff {v : ProtocolVersion} {suites : List Suite} :
    emitted v suites = none ↔ ∀ s ∈ suites, s.version ≠ v := by
  have hfields := fields_splitLoop v suites ("", "")
  have hnil : fields (listFor v ("", "")) = [] := by cases v <;> rfl
  rw [hnil, List.nil_append] at hfields
  have hnames : names v suites = [] ↔ ∀ s ∈ suites, s.version ≠ v := by
    simp [names]
  rw [← hnames, ← hfields, emitted_eq, someUnlessEmpty, fields]
  split_ifs with hempty
  · simp
  · simp [splitAtColon_ne_nil]

/-- No name brings a NUL into a list, by induction on the slice. -/
theorem nul_notMem_splitLoop (v : ProtocolVersion) (suites : List Suite) {lists : String × String}
    (h : nul ∉ (listFor v lists).toList) :
    nul ∉ (listFor v (suites.foldl splitStep lists)).toList := by
  induction suites generalizing lists with
  | nil => exact h
  | cons s suites ih =>
      obtain ⟨-, -, hnul⟩ := opensslName_wf s
      have hcolon : nul ≠ ':' := by decide
      refine ih ?_
      rcases hs : s.version <;> cases v <;> simp only [splitStep, hs, listFor, pushName] at h ⊢
      · split_ifs <;> simp [h, hnul, hcolon]
      · exact h
      · exact h
      · split_ifs <;> simp [h, hnul, hcolon]

/-- The names of suites hold no NUL, so that `CString::new` cannot fail. -/
theorem nul_notMem_emitted {v : ProtocolVersion} {suites : List Suite} {list : String}
    (h : emitted v suites = some list) : nul ∉ list.toList := by
  rw [emitted_eq, someUnlessEmpty] at h
  split_ifs at h with hempty
  obtain rfl := Option.some.inj h
  refine nul_notMem_splitLoop v suites ?_
  cases v <;> exact List.not_mem_nil

/-! ## What is applied -/

/-- The option that switches a version off. -/
def versionBit : ProtocolVersion → BitVec 32
  | .tls12 => sslOpNoTlsv12
  | .tls13 => sslOpNoTlsv13

/-- The option is set for a version that has no suite. -/
def disabledBit (v : ProtocolVersion) (suites : List Suite) : BitVec 32 :=
  if emitted v suites = none then versionBit v else 0

/-- What `applyToCtx` does to a context when it succeeds. -/
def applySuites {Cert Key : Type} (suites : List Suite) (ctx : SslCtx Cert Key) : SslCtx Cert Key :=
  { ctx with
    options := ctx.options ||| (disabledBit .tls12 suites ||| disabledBit .tls13 suites)
    cipherList := (emitted .tls12 suites).getD ctx.cipherList
    ciphersuites := (emitted .tls13 suites).getD ctx.ciphersuites }

/-- The two bits are below the sign bit, so that the conversion to `c_int` cannot fail. -/
theorem msb_disabledBits (suites : List Suite) :
    (disabledBit .tls12 suites ||| disabledBit .tls13 suites).msb = false := by
  unfold disabledBit
  split_ifs <;> rfl

section results

variable {Cert Key : Type} {aws : AwsLc Cert Key} {s t : AwsState Cert Key} {u : PUnit}

/-- `apply_to_ctx` on a slice that is not empty, without the two panics that cannot happen. -/
theorem applyToCtx_eq {suites : List Suite} (hne : suites ≠ []) :
    applyToCtx aws suites = (do
      update (setOptions (disabledBit .tls12 suites ||| disabledBit .tls13 suites))
      setList aws "SSL_CTX_set_cipher_list" setCipherList (emitted .tls12 suites)
      setList aws "SSL_CTX_set_ciphersuites" setCiphersuites (emitted .tls13 suites)) := by
  have hmsb := msb_disabledBits suites
  rw [applyToCtx, if_neg hne]
  change (if (disabledBit .tls12 suites ||| disabledBit .tls13 suites).msb then _ else _) = _
  rw [hmsb]
  rfl

/-- A list is set if there is one. -/
theorem ctx_of_setList {label : String} {set : String → SslCtx Cert Key → SslCtx Cert Key}
    {v : ProtocolVersion} {suites : List Suite}
    (h : Succeeds (setList aws label set (emitted v suites)) s u t) :
    t.ctx = (emitted v suites).elim s.ctx fun list => set list s.ctx := by
  rcases hlist : emitted v suites with _ | list
  · rw [hlist] at h
    obtain ⟨-, rfl⟩ := succeeds_pure.mp h
    rfl
  · rw [hlist, setList, if_neg (nul_notMem_emitted hlist), succeeds_setter] at h
    rw [h.2]
    rfl

/-- Setting a list succeeds if the library does. -/
theorem exists_succeeds_setList (hok : ∀ n, (aws.answer n).ok = true) {label : String}
    {set : String → SslCtx Cert Key → SslCtx Cert Key} {v : ProtocolVersion} {suites : List Suite} :
    ∃ t, Succeeds (setList aws label set (emitted v suites)) s ⟨⟩ t := by
  rcases hlist : emitted v suites with _ | list
  · exact ⟨s, succeeds_pure.mpr ⟨rfl, rfl⟩⟩
  · rw [setList, if_neg (nul_notMem_emitted hlist)]
    exact ⟨_, succeeds_setter.mpr ⟨hok _, rfl⟩⟩

/-- Setting a list fails with `Error::Init`, and leaves no error in the queue. -/
theorem onlyFails_setList {label : String} {set : String → SslCtx Cert Key → SslCtx Cert Key}
    {v : ProtocolVersion} {suites : List Suite} :
    OnlyFails CleanInit (setList aws label set (emitted v suites)) := by
  rcases h : emitted v suites with _ | list
  · exact onlyFails_pure _
  · rw [setList, if_neg (nul_notMem_emitted h)]
    exact onlyFails_setter

/-- **`apply_to_ctx` applies the slice**, if it succeeds. -/
theorem ctx_of_applyToCtx {suites : List Suite} (hne : suites ≠ [])
    (h : Succeeds (applyToCtx aws suites) s u t) : t.ctx = applySuites suites s.ctx := by
  rw [applyToCtx_eq hne] at h
  simp only [succeeds_bind, succeeds_update] at h
  obtain ⟨_, _, rfl, _, t', hlist, hsuites⟩ := h
  rw [applySuites, ctx_of_setList hsuites, ctx_of_setList hlist]
  rcases emitted .tls12 suites <;> rcases emitted .tls13 suites <;> rfl

/-- It succeeds if the setters do. -/
theorem exists_succeeds_applyToCtx (hok : ∀ n, (aws.answer n).ok = true) (suites : List Suite)
    (s : AwsState Cert Key) : ∃ t, Succeeds (applyToCtx aws suites) s ⟨⟩ t := by
  by_cases hne : suites = []
  · rw [applyToCtx, if_pos hne]
    exact ⟨s, succeeds_pure.mpr ⟨rfl, rfl⟩⟩
  rw [applyToCtx_eq hne]
  simp only [succeeds_bind, succeeds_update]
  obtain ⟨t, ht⟩ := exists_succeeds_setList (s := { s with ctx := setOptions _ s.ctx }) hok
  obtain ⟨t', ht'⟩ := exists_succeeds_setList (s := t) hok
  exact ⟨t', ⟨⟩, _, rfl, ⟨⟩, t, ht, ht'⟩

/-- It does not panic. -/
theorem onlyFails_applyToCtx (suites : List Suite) : OnlyFails CleanInit (applyToCtx aws suites) := by
  by_cases hne : suites = []
  · rw [applyToCtx, if_pos hne]
    exact onlyFails_pure _
  rw [applyToCtx_eq hne]
  exact (onlyFails_modify _).bind fun _ => onlyFails_setList.bind fun _ => onlyFails_setList

end results

/-! ## What can be negotiated -/

/-- Which suites the library takes an element of a list for. The name of a suite stands for this suite. -/
structure CipherRules where
  selects : ProtocolVersion → String → UInt16 → Prop
  selects_name : ∀ (s : Suite) (id : UInt16), selects s.version s.opensslName id ↔ id = s.id

section negotiable

variable {Cert Key : Type}

/-- The list of a context for one version. -/
def SslCtx.list (ctx : SslCtx Cert Key) : ProtocolVersion → String
  | .tls12 => ctx.cipherList
  | .tls13 => ctx.ciphersuites

/-- The version lies within the bounds. -/
def SslCtx.InBounds (ctx : SslCtx Cert Key) (v : ProtocolVersion) : Prop :=
  ctx.minProto.raw ≤ v.raw ∧ v.raw ≤ ctx.maxProto.raw

instance (ctx : SslCtx Cert Key) (v : ProtocolVersion) : Decidable (ctx.InBounds v) :=
  inferInstanceAs (Decidable (_ ∧ _))

/-- No option switches the version off. -/
def SslCtx.Enabled (ctx : SslCtx Cert Key) (v : ProtocolVersion) : Prop :=
  ctx.options &&& versionBit v = 0

instance (ctx : SslCtx Cert Key) (v : ProtocolVersion) : Decidable (ctx.Enabled v) :=
  inferInstanceAs (Decidable (_ = _))

/-- A handshake can end with this version and this suite, as far as the context goes: the version is within
the bounds and not switched off, and its list has the suite. -/
def SslCtx.Negotiable (rules : CipherRules) (ctx : SslCtx Cert Key) (v : ProtocolVersion)
    (id : UInt16) : Prop :=
  ctx.InBounds v ∧ ctx.Enabled v ∧ ∃ e ∈ fields (ctx.list v), rules.selects v e id

/-- No bit of a mask is set in either of two words iff none is set in both together. -/
theorem or_and_eq_zero_iff (x y z : BitVec 32) : (x ||| y) &&& z = 0 ↔ x &&& z = 0 ∧ y &&& z = 0 := by
  rw [BitVec.and_or_distrib_right]
  exact BitVec.or_eq_zero_iff

/-- Of the new bits, the one of a version is set iff the slice has none of its suites. -/
theorem disabledBits_and_eq_zero_iff (v : ProtocolVersion) (suites : List Suite) :
    (disabledBit .tls12 suites ||| disabledBit .tls13 suites) &&& versionBit v = 0 ↔
      emitted v suites ≠ none := by
  unfold disabledBit
  cases v
  · by_cases h : emitted .tls12 suites = none <;> split_ifs <;> simp [h, versionBit] <;> decide
  · by_cases h : emitted .tls13 suites = none <;> split_ifs <;> simp [h, versionBit] <;> decide

/-- A version stays enabled iff it was and has a suite. -/
theorem enabled_applySuites {suites : List Suite} {ctx : SslCtx Cert Key} {v : ProtocolVersion} :
    (applySuites suites ctx).Enabled v ↔ ctx.Enabled v ∧ ∃ s ∈ suites, s.version = v := by
  have hsome : emitted v suites ≠ none ↔ ∃ s ∈ suites, s.version = v := by
    simp [Ne, emitted_eq_none_iff]
  rw [← hsome, ← disabledBits_and_eq_zero_iff]
  exact or_and_eq_zero_iff _ _ _

/-- The list of a version that has a suite is the names of its suites. -/
theorem fields_applySuites {suites : List Suite} (ctx : SslCtx Cert Key) {v : ProtocolVersion}
    (h : ∃ s ∈ suites, s.version = v) : fields ((applySuites suites ctx).list v) = names v suites := by
  rcases hlist : emitted v suites with _ | list
  · obtain ⟨s, hs, hv⟩ := h
    exact absurd hv (emitted_eq_none_iff.mp hlist s hs)
  · obtain ⟨hne, hsplit⟩ := splitAtColon_emitted hlist
    have hctx : (applySuites suites ctx).list v = list := by
      cases v <;> simp [applySuites, SslCtx.list, hlist]
    rw [hctx, fields, if_neg hne, hsplit]

/-- **The allowlist is enforced**: what can be negotiated afterwards are the listed suites of the versions
that are within the bounds and were not switched off before. -/
theorem negotiable_applySuites (rules : CipherRules) {suites : List Suite} (ctx : SslCtx Cert Key)
    (v : ProtocolVersion) (id : UInt16) :
    (applySuites suites ctx).Negotiable rules v id ↔
      ctx.InBounds v ∧ ctx.Enabled v ∧ ∃ s ∈ suites, s.version = v ∧ s.id = id := by
  unfold SslCtx.Negotiable
  rw [enabled_applySuites]
  constructor
  · rintro ⟨hbounds, ⟨henabled, hsome⟩, e, he, hselects⟩
    rw [fields_applySuites ctx hsome] at he
    obtain ⟨s, hs, rfl⟩ := List.mem_map.mp he
    obtain ⟨hmem, hv⟩ := List.mem_filter.mp hs
    obtain rfl := of_decide_eq_true hv
    exact ⟨hbounds, henabled, s, hmem, rfl, ((rules.selects_name s id).mp hselects).symm⟩
  · rintro ⟨hbounds, henabled, s, hmem, rfl, rfl⟩
    refine ⟨hbounds, ⟨henabled, s, hmem, rfl⟩, s.opensslName, ?_, (rules.selects_name s _).mpr rfl⟩
    rw [fields_applySuites ctx ⟨s, hmem, rfl⟩]
    exact List.mem_map.mpr ⟨s, List.mem_filter.mpr ⟨hmem, decide_eq_true rfl⟩, rfl⟩

end negotiable

end TokioAwsLc.Config
