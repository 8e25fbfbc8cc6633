import TokioAwsLc.Ktls.Agreement
import TokioAwsLc.Stream.Turns

/-!
# The data path matches the kernel's offload state

`try_auto_install_ktls` decides once, after the handshake, whether the stream reads and writes through
libssl or through the kernel. The errors of the installation come from several stages and are sorted
into fatal ones and silent fallbacks; the sorting is right iff it never hands out a stream whose socket
is offloaded in one direction only.

* `tryAutoInstallKtls` and `establish`: the decision, and the end of `accept` and `connect` around it.
* `Decided`: the three ways it ends. `establish_decided` is the one case analysis over the stages.
* `OnPath active w`: the calls of a history are those of one data path. It is an invariant of the
  guarded machine.
* `data_path`: the result, for every session, every outcome and every later run.
-/

set_option linter.unusedSectionVars false

namespace TokioAwsLc.Stream

open Ktls

variable {W : Type} [DecidableEq W] {h : Half} {cx : W} {w w' : World W}

/-! ## The decision -/

/-- The errors after which the stream stays with libssl.
Source: `src/stream.rs` `TlsStream::try_auto_install_ktls` -/
def isFallback : KtlsError → Bool
  | .unsupported => true
  | .ineligibleCipher _ _ => true
  | .tlsUlpUnavailable _ => true
  | .socketUnattachable _ => true
  | .cryptoUnavailable _ => true
  | .bufferedPlaintext _ => false
  | .setSockOpt _ => false

section

variable (hkdfExpand : Hash → Bytes → Bytes → (len : ℕ) → ℤ × Vector UInt8 len)

/-- Source: `src/stream.rs` `TlsStream::try_auto_install_ktls` -/
def tryAutoInstallKtls (ssl : Ssl) (answers : SockAnswers) (stream : TlsStream) (k : Offload) :
    TlsStream × Offload × Except Fault Unit :=
  if stream.ktlsActive ∨ stream.ktlsDisabled then (stream, k, .ok ())
  else
    match checkNoBufferedPlaintext ssl with
    | .error (.ktls (.bufferedPlaintext _)) => (stream, k, .ok ())
    | .error other => (stream, k, .error (.error other))
    | .ok () =>
        match installKtls hkdfExpand ssl answers k with
        | (k, .ok ()) => ({ stream with ktlsActive := true }, k, .ok ())
        | (k, .error (.error (.ktls e))) =>
            if isFallback e then (stream, k, .ok ()) else (stream, k, .error (.error (.ktls e)))
        | (k, .error fault) => (stream, k, .error fault)

/-- What follows a finished handshake on a TCP socket.
Source: `src/acceptor.rs` `TlsAcceptor::accept`; `src/connector.rs` `TlsConnector::connect` -/
def establish (ssl : Ssl) (answers : SockAnswers) (ktlsDisabled : Bool) (net : Net W) :
    Offload × Except Fault (World W) :=
  match tryAutoInstallKtls hkdfExpand ssl answers (TlsStream.fromParts ktlsDisabled) .fresh with
  | (_, k, .error fault) => (k, .error fault)
  | (stream, k, .ok ()) => (k, .ok ⟨stream, net, []⟩)

/-- The ways the decision ends: a stream on libssl and a socket that is not offloaded, a stream on
kTLS and a socket that is offloaded in both directions, or no stream. -/
inductive Decided (ssl : Ssl) (disabled : Bool) (net : Net W) :
    Offload × Except Fault (World W) → Prop
  | userspace {k : Offload} (hrx : k.rx = none) (htx : k.tx = none)
      (hno : .crypto tlsTx ∉ k.attempts)
      (hskip : disabled = true ∨ ssl.hasPending ≠ 0 → k = .fresh) :
      Decided ssl disabled net (k, .ok (.established false disabled net))
  | offloaded {k : Offload} (hrx : k.rx.isSome) (htx : k.tx.isSome)
      (hskip : ¬ (disabled = true ∨ ssl.hasPending ≠ 0)) :
      Decided ssl disabled net (k, .ok (.established true disabled net))
  | refused {k : Offload} {e : Error} (htx : k.tx = none)
      (hno : .crypto tlsTx ∈ k.attempts → k.rx.isSome)
      (hskip : ¬ (disabled = true ∨ ssl.hasPending ≠ 0)) :
      Decided ssl disabled net (k, .error (.error e))

/-- What an installation leaves behind: both directions, or an error and no transmit direction. Transmit
is only tried once receive is active, and an error that is a fallback leaves nothing active. -/
def Sound : Offload × Except Fault Unit → Prop
  | (k, .ok ()) => k.rx.isSome ∧ k.tx.isSome
  | (k, .error (.error e)) => k.tx = none ∧ (.crypto tlsTx ∈ k.attempts → k.rx.isSome) ∧
      ∀ e', e = .ktls e' → isFallback e' = true → k.rx = none
  | (_, .error .panic) => False

/-- Every installation on a fresh socket is sound, whatever libssl and the kernel answer. -/
theorem installKtls_sound (ssl : Ssl) (answers : SockAnswers) :
    Sound (installKtls hkdfExpand ssl answers .fresh) := by
  have hne : tlsTx ≠ tlsRx := by decide
  unfold installKtls
  rcases KtlsCipher.detect ssl with _ | cipher
  · exact ⟨rfl, by simp [Offload.fresh], fun _ _ _ => rfl⟩
  have hpanic := (deriveCryptoInfo_returns hkdfExpand cipher ssl).ne_panic
  simp only
  generalize deriveCryptoInfo hkdfExpand ssl cipher = derived at hpanic ⊢
  rcases derived with (_ | e) | info
  · exact absurd rfl hpanic
  · exact ⟨rfl, by simp [Offload.fresh], fun _ _ _ => rfl⟩
  have hinst := install_cases answers info
  simp only
  generalize install answers info .fresh = res at hinst ⊢
  cases hinst with
  | unattached errno => exact ⟨rfl, by simp, fun _ _ _ => rfl⟩
  | inert errno => exact ⟨rfl, by simp [hne], fun _ _ _ => rfl⟩
  | half errno =>
      refine ⟨rfl, fun _ => rfl, ?_⟩
      rintro e' ⟨⟩ hfall
      cases hfall
  | full => exact ⟨rfl, rfl⟩

/-- **The decision**, for every session and every outcome of the system calls. -/
theorem establish_decided (ssl : Ssl) (answers : SockAnswers) (disabled : Bool) (net : Net W) :
    Decided ssl disabled net (establish hkdfExpand ssl answers disabled net) := by
  unfold establish tryAutoInstallKtls
  by_cases hdis : disabled = true
  · rw [if_pos (.inr hdis)]
    exact .userspace rfl rfl (by simp [Offload.fresh]) (fun _ => rfl)
  rw [if_neg (by simp [TlsStream.fromParts, hdis])]
  unfold checkNoBufferedPlaintext
  by_cases hpend : ssl.hasPending ≠ 0
  · rw [if_pos hpend]
    exact .userspace rfl rfl (by simp [Offload.fresh]) (fun _ => rfl)
  rw [if_neg hpend]
  have hskip : ¬ (disabled = true ∨ ssl.hasPending ≠ 0) := by simp [hdis, hpend]
  have hsound := installKtls_sound hkdfExpand ssl answers
  simp only
  generalize installKtls hkdfExpand ssl answers .fresh = res at hsound ⊢
  rcases res with ⟨k, (_ | (_ | e)) | ⟨⟩⟩
  · exact hsound.elim
  · obtain ⟨htx, hno, -⟩ := hsound
    exact .refused htx hno hskip
  · obtain ⟨htx, hno, hfall⟩ := hsound
    simp only
    split_ifs with he
    · have hrx : k.rx = none := hfall e rfl he
      refine .userspace hrx htx (fun hmem => ?_) (fun h => absurd h hskip)
      simpa [hrx] using hno hmem
    · exact .refused htx hno hskip
  · exact .offloaded hsound.1 hsound.2 hskip

/-! ## Later runs -/

/-- The calls of the libssl path. -/
def Call.isLibssl : Call → Bool
  | .sslRead _ _ => true
  | .sslWrite _ _ _ => true
  | .sslShutdown _ => true
  | _ => false

/-- The calls of the kTLS path. -/
def Call.isKtls : Call → Bool
  | .recvmsg _ => true
  | .write _ _ => true
  | .sendmsg _ => true
  | _ => false

/-- A call belongs to the data path that is in use. -/
def Call.Suits (c : Call) (ktls : Bool) : Prop :=
  (c.isLibssl = true → ktls = false) ∧ (c.isKtls = true → ktls = true)

/-- The guards of the machine keep to the data path. -/
theorem Permits.suits {c : Call} (hc : Permits w c) : c.Suits w.stream.ktlsActive := by
  rcases c with ⟨_ | _, _, _⟩ | _ | _ | _ | _ | _ | _ | _
  · exact ⟨fun _ => hc.1, nofun⟩
  · exact ⟨fun _ => hc.1, nofun⟩
  · exact ⟨fun _ => hc.1, nofun⟩
  · exact ⟨fun _ => hc.1, nofun⟩
  · exact ⟨nofun, fun _ => hc.1⟩
  · exact ⟨nofun, fun _ => hc.1⟩
  · exact ⟨nofun, fun _ => hc⟩
  · exact ⟨nofun, nofun⟩
  · exact ⟨nofun, nofun⟩

/-- A call in the history of a step was there before, or its guard held. -/
theorem Step.calls (hs : Step h cx w w') {c : Call} (hc : .call c ∈ w'.trace) :
    .call c ∈ w.trace ∨ Permits w c := by
  cases hs with
  | signal _ => exact .inl (by simpa using hc)
  | @call c' hperm _ =>
      have hmem : Act.call c ∈ w.trace ∨ c = c' := by
        rcases effect_trace c' (w.call c') with ht | ht <;> rw [ht] at hc <;> simpa using hc
      exact hmem.imp_right fun (h : c = c') => h ▸ hperm
  | @failed c' e hperm _ =>
      have hmem : Act.call c ∈ w.trace ∨ c = c' := by simpa using hc
      exact hmem.imp_right fun (h : c = c') => h ▸ hperm
  | sending _ _ _ => exact .inl (by simpa using hc)
  | reader _ => exact .inl hc

/-- The history of a stream keeps to one data path, and a kTLS stream has nothing pending. -/
structure OnPath (ktls : Bool) (w : World W) : Prop where
  active : w.stream.ktlsActive = ktls
  calls : ∀ c, .call c ∈ w.trace → c.Suits ktls
  pending : Coherent w

/-- **Step lemma.** -/
theorem Step.onPath {ktls : Bool} (hs : Step h cx w w') (hp : OnPath ktls w) : OnPath ktls w' where
  active := hs.ktlsActive.trans hp.active
  calls c hc := by
    rcases hs.calls hc with hold | hperm
    · exact hp.calls c hold
    · exact hp.active ▸ hperm.suits
  pending := hs.coherent hp.pending

/-- **Run lemma.** Every run of a new stream keeps to the data path that was chosen for it. -/
theorem run_onPath (abi : Abi) (ktls disabled : Bool) (net : Net W) (ops : List (Op W)) :
    OnPath ktls (Session.run abi (.start (World.established ktls disabled net)) ops).world := by
  have hstart : OnPath ktls (World.established ktls disabled net) :=
    ⟨rfl, by simp [World.established], coherent_established ktls disabled net⟩
  refine run_invariant abi (I := OnPath ktls) ?_ (coherent_established ktls disabled net) hstart ops
  intro w w' _ ht hp
  refine ht.preserves (I := OnPath ktls) ?_ (fun _ _ _ _ hst hp => hst.onPath hp) hp
  intro w s hp
  exact ⟨hp.active, fun c hc => hp.calls c (by simpa using hc), hp.pending⟩

/-! ## The result -/

/-- The data path of a new stream and the offload state of its socket, for the outcome `r` of
`accept` or `connect`. -/
structure DataPath (ssl : Ssl) (disabled : Bool) (r : Offload × Except Fault (World W)) : Prop where
  /-- A stream on kTLS is handed out iff both directions are active. -/
  both : (∃ w, r.2 = .ok w ∧ w.stream.ktlsActive = true) ↔ r.1.rx.isSome ∧ r.1.tx.isSome
  /-- A stream on libssl is handed out only if neither is. -/
  neither : ∀ w, r.2 = .ok w → w.stream.ktlsActive = false → r.1.rx = none ∧ r.1.tx = none
  /-- No stream is handed out on a socket that only receives through the kernel. -/
  half : r.1.rx.isSome → r.1.tx = none → ∃ e, r.2 = .error (.error e)
  /-- Transmit is tried only once receive is active. -/
  rx_first : .crypto tlsTx ∈ r.1.attempts → r.1.rx.isSome
  /-- Nothing is tried when kTLS is disabled or libssl holds data, and the stream is handed out. -/
  skipped : disabled = true ∨ ssl.hasPending ≠ 0 → r.1 = .fresh ∧ ∃ w, r.2 = .ok w
  /-- Nothing panics. -/
  no_panic : r.2 ≠ .error .panic
  /-- Every later run of the stream keeps to the path of its socket. -/
  run : ∀ w, r.2 = .ok w → ∀ abi ops,
    (∀ c, .call c ∈ (Session.run abi (.start w) ops).world.trace →
      (c.isLibssl = true → r.1.rx = none ∧ r.1.tx = none) ∧
      (c.isKtls = true → r.1.rx.isSome ∧ r.1.tx.isSome)) ∧
    (r.1.tx.isSome → (Session.run abi (.start w) ops).world.stream.pendingWrite = [])

/-- **The data path always matches the kernel's offload state**, for every session, every outcome of
the installation and every later run. -/
theorem data_path (ssl : Ssl) (answers : SockAnswers) (disabled : Bool) (net : Net W) :
    DataPath ssl disabled (establish hkdfExpand ssl answers disabled net) := by
  have hdec := establish_decided hkdfExpand ssl answers disabled net
  generalize establish hkdfExpand ssl answers disabled net = r at hdec ⊢
  cases hdec with
  | @userspace k hrx htx hno hskip =>
      refine ⟨?_, ?_, ?_, ?_, ?_, by simp, ?_⟩
      · simp [hrx, World.established]
      · exact fun _ _ _ => ⟨hrx, htx⟩
      · simp [hrx]
      · exact fun hmem => absurd hmem hno
      · exact fun h => ⟨hskip h, _, rfl⟩
      · intro w hw abi ops
        obtain rfl := Except.ok.inj hw
        have hpath := run_onPath abi false disabled net ops
        refine ⟨fun c hc => ⟨fun _ => ⟨hrx, htx⟩, fun hk => ?_⟩, by simp [htx]⟩
        exact absurd ((hpath.calls c hc).2 hk) (by simp)
  | @offloaded k hrx htx hskip =>
      refine ⟨?_, ?_, ?_, fun _ => hrx, fun h => absurd h hskip, by simp, ?_⟩
      · simp [hrx, htx, World.established]
      · intro w hw hfalse
        obtain rfl := Except.ok.inj hw
        cases hfalse
      · intro _ hnone
        rw [show k.tx = none from hnone] at htx
        cases htx
      · intro w hw abi ops
        obtain rfl := Except.ok.inj hw
        have hpath := run_onPath abi true disabled net ops
        refine ⟨fun c hc => ⟨fun hl => ?_, fun _ => ⟨hrx, htx⟩⟩, fun _ => hpath.pending hpath.active⟩
        exact absurd ((hpath.calls c hc).1 hl) (by simp)
  | @refused k e htx hno hskip =>
      have hnone : ∀ w : World W, (.error (.error e) : Except Fault (World W)) ≠ .ok w := by simp
      refine ⟨?_, fun w hw => absurd hw (hnone w), fun _ _ => ⟨e, rfl⟩, hno,
        fun h => absurd h hskip, by simp, fun w hw => absurd hw (hnone w)⟩
      simp [htx]

end

end TokioAwsLc.Stream
